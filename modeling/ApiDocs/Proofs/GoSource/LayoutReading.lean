import ApiDocs.Proofs.GoSource.BlockDepth
import ApiDocs.Proofs.GoSource.Layout

/-!
# Reading the canonical layout

A source in the canonical layout declares what it was written from (`ofSource_text`). The proof
goes from parts to the whole: a remark is read from its comment, a tag from its text, a field from
its line, which is one of those that declare a field (`PlainField.chars_fieldLine`), and no line of a
member closes the body it stands in (`foldl_line_membersLines`, by induction on the members to any
depth of nesting). Outside of structs the reader passes from one declaration to the next
(`foldl_line_declaration`), and the lines are found in the text because none of them holds a line
feed (`Source.isLine_of_mem_lines`).
-/

set_option autoImplicit false

namespace ApiDocs.GoSource.Layout

open Text

/-! ## Remarks -/

/-- The text of a remark is read from its comment behind the slashes. -/
theorem trim_remark (r : Remark) : trim (' ' :: r.chars) = r.chars := by
  calc trim (' ' :: r.chars) = trim r.chars :=
        trim_blanks_append (fun _ => isBlank_of_mem_space) r.chars
    _ = r.chars := r.trimmed

theorem comment?_comment (r : Remark) : comment? r.comment = some r.text := by
  have htrim : trim r.comment = '/' :: '/' :: dropEndWhile isBlank (' ' :: r.chars) := by
    rw [Remark.comment, trim_cons (by decide), dropEndWhile_cons (by decide)]
  have htext : trim (dropEndWhile isBlank (' ' :: r.chars)) = r.chars := by
    by_cases hnil : r.chars = []
    · rw [hnil]
      rfl
    · have hend : dropEndWhile isBlank r.chars = r.chars := r.trimmed.dropEndWhile_eq
      have hgap : dropEndWhile isBlank (' ' :: r.chars) = ' ' :: r.chars := by
        have := dropEndWhile_append (p := isBlank) (s := r.chars) (by rwa [hend]) [' ']
        rwa [hend] at this
      rw [hgap, trim_remark]
  simp [comment?, htrim, List.isPrefixOf?, htext, Remark.text]

/-! ## Tags -/

theorem after?_append {word : List Char} (hne : word ≠ []) (rest : List Char) :
    after? word (word ++ rest) = some rest := by
  cases word with
  | nil => exact absurd rfl hne
  | cons c word =>
    rw [List.cons_append, after?, ← List.cons_append, isPrefixOf?_append]

/-- The value of the `json` key is found in the tag. -/
theorem jsonValue?_chars (t : JsonTag) : jsonValue? t.chars = some t.value := by
  have hquote : '"' ∉ t.value :=
    not_mem_value (fun name h => (name.isPlain _ h).1 rfl) (by decide) t
  have hafter : after? "json:\"".toList t.chars = some (t.value ++ ['"']) :=
    after?_append (by decide) _
  exact jsonValue?_of_after? hquote hafter

/-- The value of the `json` key says what it was written from. -/
theorem ofValue_value (t : JsonTag) : FieldTag.ofValue t.value = t.meaning := by
  cases t with
  | named name omitEmpty =>
    have hcomma : ',' ∉ name.chars := fun h => (name.isPlain _ h).2.1 rfl
    cases omitEmpty with
    | false =>
      simp [FieldTag.ofValue, JsonTag.value, JsonTag.meaning, pieces_of_not_mem hcomma,
        name.ne_nil, name.ne_dash]
    | true =>
      have hpieces : pieces ',' (name.chars ++ ',' :: "omitempty".toList)
          = [name.chars, "omitempty".toList] := by
        rw [pieces_append_sep hcomma, pieces_of_not_mem (by decide)]
      simp only [FieldTag.ofValue, JsonTag.value, JsonTag.meaning, hpieces]
      simp [name.ne_nil, name.ne_dash]
  | unnamed => decide
  | skipped => decide

/-! ## Fields -/

namespace PlainField

/-- The line of a field as one of the lines that declare a field. The blanks in front of a tag or a
comment are there if the tag or the comment is. -/
def fieldLine (depth : Nat) (f : PlainField) : FieldLine where
  before := indent depth
  name := f.name
  between := gap f.beforeType
  type := f.type.chars
  beforeTag := if f.tag.isSome then gap f.beforeTag else []
  beforeComment := if f.comment.isSome then gap f.beforeComment else []
  comment := f.comment.map fun r => ' ' :: r.chars
  isBlank_before := isBlank_indent depth
  between_ne_nil := gap_ne_nil _
  isBlank_between := isBlank_gap _
  type_ne_nil := f.type.ne_nil
  isTypeExpression_type := f.type.isTypeExpression
  isBlank_beforeTag := by
    split
    · exact isBlank_gap _
    · simp
  isBlank_beforeComment := by
    split
    · exact isBlank_gap _
    · simp

theorem backQuote_not_mem_tag (f : PlainField) :
    ∀ t, f.tag.map JsonTag.chars = some t → backQuote ∉ t := by
  intro t ht
  obtain ⟨tag, -, rfl⟩ := Option.map_eq_some_iff.1 ht
  exact Layout.backQuote_not_mem_tag tag

theorem chars_fieldLine (depth : Nat) (f : PlainField) :
    (f.fieldLine depth).chars (f.tag.map JsonTag.chars) = indent depth ++ f.chars := by
  have hending : (f.fieldLine depth).ending (f.tag.map JsonTag.chars)
      = f.tagPart ++ f.commentPart := by
    unfold FieldLine.ending tagPart commentPart
    cases htag : f.tag <;> cases hcomment : f.comment <;>
      simp [fieldLine, htag, hcomment, tagText, commentText, Remark.comment]
  unfold FieldLine.chars
  rw [hending]
  simp [fieldLine, chars, code]

theorem declared_fieldLine (depth : Nat) (f : PlainField) :
    (f.fieldLine depth).declared (f.tag.map JsonTag.chars) = f.declared := by
  have hmeaning : (((f.tag.map JsonTag.chars).bind jsonValue?).map FieldTag.ofValue).getD {}
      = f.meaning := by
    unfold meaning
    cases f.tag with
    | none => rfl
    | some t => simp [jsonValue?_chars, ofValue_value]
  have hdescription : String.ofList (((f.comment.map fun r => ' ' :: r.chars).map trim).getD [])
      = (f.comment.map Remark.text).getD "" := by
    cases f.comment with
    | none => rfl
    | some r => simp [trim_remark, Remark.text]
  simp only [FieldLine.declared, fieldLine, hmeaning, hdescription]
  rfl

end PlainField

/-- A field is read from its line. -/
theorem field?_chars (depth : Nat) (f : PlainField) :
    field? (indent depth ++ f.chars) = some f.declared := by
  rw [← f.chars_fieldLine, FieldLine.field?_chars _ f.backQuote_not_mem_tag, f.declared_fieldLine]

/-! ## Braces of members -/

/-- The line of a field opens and closes no block. -/
theorem braceCounts_plainField (depth : Nat) (f : PlainField) :
    braceCounts (withoutComment false (indent depth ++ f.chars)) = (0, 0) := by
  rw [← f.chars_fieldLine]
  exact FieldLine.braceCounts_chars _ f.backQuote_not_mem_tag f.type.isPaired

/-- Code without tags, comments and braces in front of a brace leaves that brace. -/
theorem braceCounts_brace {code : List Char} (hquote : backQuote ∉ code) (hslash : '/' ∉ code)
    (hopen : '{' ∉ code) (hclose : '}' ∉ code) {brace : Char} (hbrace : brace = '{' ∨ brace = '}') :
    braceCounts (withoutComment false (code ++ [brace]))
      = if brace = '{' then (1, 0) else (0, 1) := by
  have hlast : withoutEmptyPairs (withoutTags false (withoutComment false (code ++ [brace])))
      = code ++ [brace] := by
    rw [withoutComment_append_of_not_mem hquote hslash, withoutTags_append hquote,
      withoutEmptyPairs_append fun h => absurd (List.mem_of_getLast? h) hopen,
      withoutEmptyPairs_of_not_mem hopen]
    rcases hbrace with rfl | rfl <;> rfl
  simp only [braceCounts, hlast, List.count_append, List.count_eq_zero.2 hopen,
    List.count_eq_zero.2 hclose]
  rcases hbrace with rfl | rfl <;> rfl

theorem braceCounts_nestedStart (depth : Nat) (name : Name) (beforeType : Nat) :
    braceCounts (withoutComment false (indent depth ++ nestedStart name beforeType)) = (1, 0) := by
  have not_mem : ∀ c, isBlank c = false → isWord c = false → c ∉ "struct ".toList →
      c ∉ indent depth ++ (name.chars ++ (gap beforeType ++ "struct ".toList)) := by
    intro c hblank hword hstruct
    have hindent : c ∉ indent depth := not_mem_of_isBlank (isBlank_indent depth) hblank
    have hgap : c ∉ gap beforeType := not_mem_of_isBlank (isBlank_gap _) hblank
    simp only [List.mem_append, not_or]
    exact ⟨hindent, name.not_mem hword, hgap, hstruct⟩
  have hline : indent depth ++ nestedStart name beforeType
      = indent depth ++ (name.chars ++ (gap beforeType ++ "struct ".toList)) ++ ['{'] := by
    simp [nestedStart]
  rw [hline, braceCounts_brace (not_mem _ (by decide) (by decide) (by decide))
    (not_mem _ (by decide) (by decide) (by decide)) (not_mem _ (by decide) (by decide) (by decide))
    (not_mem _ (by decide) (by decide) (by decide)) (Or.inl rfl)]
  rfl

theorem braceCounts_close (depth : Nat) :
    braceCounts (withoutComment false (indent depth ++ ['}'])) = (0, 1) := by
  have not_mem : ∀ c, isBlank c = false → c ∉ indent depth := fun c hblank =>
    not_mem_of_isBlank (isBlank_indent depth) hblank
  rw [braceCounts_brace (not_mem _ (by decide)) (not_mem _ (by decide)) (not_mem _ (by decide))
    (not_mem _ (by decide)) (Or.inr rfl)]
  rfl

/-! ## Members -/

/-- The line of a field adds the field to the struct, if it stands directly in it. -/
theorem line_plainField (name : String) (fields : List Field) (depth : Nat) (d : Declarations)
    (f : PlainField) :
    Reading.line ⟨.body name fields (depth + 1), d⟩ (indent (depth + 1) ++ f.chars)
      = ⟨.body name (fields ++ if depth = 0 then [f.declared] else []) (depth + 1), d⟩ := by
  have hcounts := braceCounts_plainField (depth + 1) f
  have hafter : depthAfter (depth + 1) (indent (depth + 1) ++ f.chars) = depth + 1 := by
    simp [depthAfter, hcounts]
  have hfield : (fieldAt? (depth + 1) (indent (depth + 1) ++ f.chars)).toList
      = if depth = 0 then [f.declared] else [] := by
    by_cases hdepth : depth = 0
    · subst hdepth
      rw [fieldAt?, if_pos ⟨rfl, hcounts⟩, field?_chars]
      rfl
    · simp [fieldAt?, hdepth]
  simp only [Reading.line, hafter, hfield]

/-- The line that opens a nested struct leads one block deeper. -/
theorem line_nestedStart (name : String) (fields : List Field) (depth : Nat) (d : Declarations)
    (nested : Name) (beforeType : Nat) :
    Reading.line ⟨.body name fields (depth + 1), d⟩
        (indent (depth + 1) ++ nestedStart nested beforeType)
      = ⟨.body name fields (depth + 2), d⟩ := by
  have hcounts := braceCounts_nestedStart (depth + 1) nested beforeType
  exact Reading.line_block (by simp [hcounts]) (by simp [depthAfter, hcounts]) name fields d

/-- The line that closes a nested struct leads back to the block around it. -/
theorem line_close (name : String) (fields : List Field) (depth : Nat) (d : Declarations) :
    Reading.line ⟨.body name fields (depth + 2), d⟩ (indent (depth + 1) ++ ['}'])
      = ⟨.body name fields (depth + 1), d⟩ := by
  have hcounts := braceCounts_close (depth + 1)
  exact Reading.line_block (by simp [hcounts]) (by simp [depthAfter, hcounts]) name fields d

mutual

/-- The lines of a member leave the body open as they find it, and add the field of the member if it
stands directly in the struct. -/
theorem foldl_line_memberLines (name : String) (fields : List Field) (depth : Nat)
    (d : Declarations) (m : Member) :
    (memberLines (depth + 1) m).foldl Reading.line ⟨.body name fields (depth + 1), d⟩
      = ⟨.body name (fields ++ if depth = 0 then m.declared?.toList else []) (depth + 1), d⟩ := by
  cases m with
  | plain f =>
    rw [memberLines, List.foldl_cons, List.foldl_nil, line_plainField]
    rfl
  | nested nested beforeType first others =>
    -- One block deeper no field is added, so the fields come back as they were.
    rw [memberLines, List.foldl_cons, line_nestedStart, List.foldl_append,
      foldl_line_memberLines name fields (depth + 1) d first, List.foldl_append,
      foldl_line_membersLines name _ (depth + 1) d others, List.foldl_cons, List.foldl_nil,
      line_close]
    simp [Member.declared?]

/-- The lines of members leave the body open as they find it, and add the fields of those that
stand directly in the struct. -/
theorem foldl_line_membersLines (name : String) (fields : List Field) (depth : Nat)
    (d : Declarations) (ms : List Member) :
    (membersLines (depth + 1) ms).foldl Reading.line ⟨.body name fields (depth + 1), d⟩
      = ⟨.body name (fields ++ if depth = 0 then ms.filterMap Member.declared? else [])
          (depth + 1), d⟩ := by
  cases ms with
  | nil => simp [membersLines]
  | cons m ms =>
    rw [membersLines, List.foldl_append, foldl_line_memberLines name fields depth d m,
      foldl_line_membersLines name _ depth d ms]
    by_cases hdepth : depth = 0
    · cases hm : m.declared? with
      | none => simp [hdepth, hm]
      | some f => simp [hdepth, hm]
    · simp [hdepth]

end

/-! ## Functions -/

theorem isBlank_of_isTypeName {c : Char} (h : isTypeName c = true) : isBlank c = false := by
  simp only [isTypeName, Bool.or_eq_true, beq_iff_eq] at h
  rcases h with h | rfl
  · exact isBlank_of_isWord h
  · decide

/-- The type of a receiver is read up to the parenthesis behind it. -/
theorem takeReceiverType?_append (r : MethodReceiver) (rest : List Char) :
    takeReceiverType? ((if r.isPointer then ['*'] else []) ++ (r.type ++ ')' :: rest))
      = some (r.declared, rest) := by
  have hstop : Stops isBlank (r.type ++ ')' :: rest) :=
    stops_append r.ne_nil (fun c hc => isBlank_of_isTypeName (r.isTypeName c hc)) _
  have htype : takeWhile1? isTypeName ((r.type ++ ')' :: rest).dropWhile isBlank)
      = some (r.type, ')' :: rest) := by
    rw [dropWhile_of_stops hstop]
    exact takeWhile1?_run_append r.ne_nil r.isTypeName (stops_cons.2 (by decide))
  have hparameters : (dropTypeParameters (')' :: rest)).dropWhile isBlank = ')' :: rest :=
    dropWhile_of_stops (stops_cons.2 (by decide))
  have hstar : '*' ∉ r.type := fun h => absurd (r.isTypeName '*' h) (by decide)
  have hdeclared : ∀ isPointer, r.isPointer = isPointer →
      (⟨String.ofList r.type, isPointer⟩ : Receiver) = r.declared := by
    rintro _ rfl
    rfl
  unfold takeReceiverType?
  cases hpointer : r.isPointer with
  | true =>
    simp only [if_true, List.cons_append, List.nil_append, Option.bind_eq_bind, htype,
      hparameters, Option.bind_some, hdeclared true hpointer]
    rfl
  | false =>
    simp only [Bool.false_eq_true, if_false, List.nil_append]
    split
    -- The reader would take a star for a pointer, but no type name starts with one.
    · next starred heq =>
      cases ht : r.type with
      | nil => exact absurd ht r.ne_nil
      | cons c cs =>
        rw [ht] at heq hstar
        cases heq
        exact absurd List.mem_cons_self hstar
    · simp only [Option.bind_eq_bind, htype, hparameters, Option.bind_some,
        hdeclared false hpointer]
      rfl

/-- A receiver is read behind its opening parenthesis. -/
theorem takeReceiver?_append (r : MethodReceiver) (rest : List Char) :
    takeReceiver? (r.variableName.chars ++ ' ' :: ((if r.isPointer then ['*'] else [])
        ++ (r.type ++ ')' :: rest)))
      = some (r.declared, rest) := by
  have hstop : Stops isBlank ((if r.isPointer then ['*'] else []) ++ (r.type ++ ')' :: rest)) := by
    cases r.isPointer with
    | true => exact stops_cons.2 (by decide)
    | false =>
      exact stops_append r.ne_nil (fun c hc => isBlank_of_isTypeName (r.isTypeName c hc)) _
  have hblank : dropBlanks1? (' ' :: ((if r.isPointer then ['*'] else [])
      ++ (r.type ++ ')' :: rest)))
        = some ((if r.isPointer then ['*'] else []) ++ (r.type ++ ')' :: rest)) :=
    dropBlanks1?_cons hstop
  have hvariable : takeWhile1? isWord (r.variableName.chars ++ ' ' ::
      ((if r.isPointer then ['*'] else []) ++ (r.type ++ ')' :: rest)))
        = some (r.variableName.chars, ' ' :: ((if r.isPointer then ['*'] else [])
            ++ (r.type ++ ')' :: rest))) :=
    r.variableName.takeWhile1?_append (stops_cons.2 (by decide))
  simp only [takeReceiver?, Option.bind_eq_bind, hvariable, hblank, Option.bind_some,
    takeReceiverType?_append, Option.some_or]

/-- The line of a function gives its name and its receiver. -/
theorem functionHead?_functionLine (receiver : Option MethodReceiver) (name : Name) :
    functionHead? (functionLine receiver name)
      = some (name.text, receiver.map MethodReceiver.declared) := by
  have hname : takeWhile1? isWord (name.chars ++ "() \x7b\x7d".toList)
      = some (name.chars, "() \x7b\x7d".toList) :=
    name.takeWhile1?_append (stops_cons.2 (by decide))
  have hstop : Stops isBlank (name.chars ++ "() \x7b\x7d".toList) :=
    name.stops (fun _ h => isBlank_of_isWord h) _
  have hblank : ∀ rest, Stops isBlank rest → (' ' :: rest).dropWhile isBlank = rest := by
    intro rest hrest
    exact dropWhile_run_append (fun _ => isBlank_of_mem_space) hrest
  cases receiver with
  | none =>
    have hline : functionLine none name
        = "func".toList ++ ' ' :: (name.chars ++ "() \x7b\x7d".toList) := rfl
    rw [hline]
    simp only [functionHead?, isPrefixOf?_append, Option.bind_eq_bind, Option.bind_some,
      hblank _ hstop]
    split
    -- The reader would take a parenthesis for a receiver, but no name starts with one.
    · next rest heq =>
      have hmem : '(' ∈ name.chars := by
        cases hc : name.chars with
        | nil => exact absurd hc name.ne_nil
        | cons c cs =>
          rw [hc] at heq
          cases heq
          exact List.mem_cons_self
      exact absurd hmem (name.not_mem (by decide))
    · rw [hname]
      rfl
  | some r =>
    have hline : functionLine (some r) name = "func".toList ++ ' ' :: '('
        :: (r.variableName.chars ++ ' ' :: ((if r.isPointer then ['*'] else [])
          ++ (r.type ++ ')' :: ' ' :: (name.chars ++ "() \x7b\x7d".toList)))) := by
      simp [functionLine, MethodReceiver.chars]
    have hvariable := r.variableName.stops (fun _ h => isBlank_of_isWord h)
      (' ' :: ((if r.isPointer then ['*'] else [])
          ++ (r.type ++ ')' :: ' ' :: (name.chars ++ "() \x7b\x7d".toList))))
    rw [hline]
    simp only [functionHead?, isPrefixOf?_append, Option.bind_eq_bind, Option.bind_some,
      hblank _ (stops_cons.2 (show isBlank '(' = false by decide)), dropWhile_of_stops hvariable,
      takeReceiver?_append, hblank _ hstop, hname]
    rfl

theorem line_functionLine (doc : List String) (d : Declarations)
    (receiver : Option MethodReceiver) (name : Name) :
    Reading.line ⟨.top doc, d⟩ (functionLine receiver name)
      = ⟨.top [], d.addFunction ⟨name.text, receiver.map MethodReceiver.declared, doc⟩⟩ := by
  obtain ⟨l, hl⟩ : ∃ l, functionLine receiver name = 'f' :: l := ⟨_, rfl⟩
  have hcomment : comment? (functionLine receiver name) = none := by
    rw [hl]
    exact comment?_cons (by decide) (by decide) l
  have hpackage : package? (trim (functionLine receiver name)) = none := by
    rw [hl]
    exact package?_trim_cons (by decide) (by decide) l
  simp only [Reading.line, hcomment, Reading.topLine, hpackage, functionHead?_functionLine]

/-- Comment lines gather above the reader. -/
theorem foldl_line_comments (doc : List Remark) (above : List String) (d : Declarations) :
    (doc.map Remark.comment).foldl Reading.line ⟨.top above, d⟩
      = ⟨.top (above ++ doc.map Remark.text), d⟩ := by
  induction doc generalizing above with
  | nil => simp
  | cons r doc ih =>
    have hline : Reading.line ⟨.top above, d⟩ r.comment = ⟨.top (above ++ [r.text]), d⟩ := by
      simp only [Reading.line, comment?_comment]
    rw [List.map_cons, List.foldl_cons, hline, ih]
    simp

/-! ## Declarations and sources -/

theorem line_closeStruct (name : String) (fields : List Field) (d : Declarations) :
    Reading.line ⟨.body name fields 1, d⟩ ['}'] = ⟨.top [], d.addStruct ⟨name, fields⟩⟩ := by
  have hafter : depthAfter 1 ['}'] = 0 := by decide
  have hfield : fieldAt? 1 ['}'] = none := by decide
  simp [Reading.line, hafter, hfield]

/-- The lines of a declaration lead the reader from the outermost level back to it. -/
theorem foldl_line_declaration (e : Declaration) (d : Declarations) :
    e.lines.foldl Reading.line ⟨.top [], d⟩
      = ⟨.top [], d ++ { functions := e.function?.toList, structs := e.struct?.toList }⟩ := by
  cases e with
  | function doc receiver name =>
    rw [Declaration.lines, List.foldl_append, foldl_line_comments, List.foldl_cons,
      List.foldl_nil, line_functionLine]
    exact congrArg (Reading.mk _)
      (Declarations.ext rfl rfl (by simp [Declaration.struct?, Declarations.addFunction]))
  | struct name members =>
    cases members with
    | nil =>
      rw [Declaration.lines, List.foldl_cons, List.foldl_nil,
        line_structStart [] d name (by simp)]
      exact congrArg (Reading.mk _)
        (Declarations.ext rfl (by simp [Declaration.function?, Declarations.addStruct]) rfl)
    | cons m ms =>
      have hopen : Reading.line ⟨.top [], d⟩ (structStart name [' '])
          = ⟨.body name.text [] 1, d⟩ := by
        have hline := line_structStart [] d name (fun _ => isBlank_of_mem_space) []
        simpa using hline
      rw [Declaration.lines, List.foldl_cons, hopen, List.foldl_append,
        foldl_line_membersLines name.text [] 0 d (m :: ms), List.foldl_cons, List.foldl_nil,
        line_closeStruct]
      exact congrArg (Reading.mk _)
        (Declarations.ext rfl (by simp [Declaration.function?, Declarations.addStruct]) rfl)

/-- The lines of declarations, with a blank line before each, add all of them. -/
theorem foldl_line_declarations (es : List Declaration) (d : Declarations) :
    (es.flatMap fun e => [] :: e.lines).foldl Reading.line ⟨.top [], d⟩
      = ⟨.top [], d ++ { functions := es.filterMap Declaration.function?,
                         structs := es.filterMap Declaration.struct? }⟩ := by
  induction es generalizing d with
  | nil => exact congrArg (Reading.mk _) (Declarations.append_empty d).symm
  | cons e es ih =>
    have hblank : Reading.line ⟨.top [], d⟩ [] = ⟨.top [], d⟩ := rfl
    rw [List.flatMap_cons, List.foldl_append, List.foldl_cons, hblank, foldl_line_declaration, ih]
    refine congrArg (Reading.mk _) (Declarations.ext (by simp) ?_ ?_)
    · cases hf : e.function? <;> simp [hf]
    · cases hs : e.struct? <;> simp [hs]

theorem line_packageClause (d : Declarations) (package : Name) :
    Reading.line ⟨.top [], d⟩ ("package ".toList ++ package.chars)
      = ⟨.top [], { d with package := package.text }⟩ := by
  have hline : "package ".toList ++ package.chars = "package".toList ++ ' ' :: package.chars := rfl
  have hcomment : comment? ("package".toList ++ ' ' :: package.chars) = none :=
    comment?_cons (by decide) (by decide) _
  have hend : dropEndWhile isBlank package.chars = package.chars :=
    dropEndWhile_of_forall fun c hc => isBlank_of_isWord (package.isWord c hc)
  have htrim : trim ("package".toList ++ ' ' :: package.chars)
      = "package".toList ++ ' ' :: package.chars := by
    have hfirst : trim ("package".toList ++ ' ' :: package.chars)
        = 'p' :: dropEndWhile isBlank ("ackage ".toList ++ package.chars) :=
      trim_cons (by decide) _
    rw [hfirst, dropEndWhile_append (by rw [hend]; exact package.ne_nil), hend]
    rfl
  have hpackage : package? ("package".toList ++ ' ' :: package.chars) = some package.chars := by
    have hname := package.takeWhile1?_append (stops_nil isWord)
    have hblank := package.dropBlanks1?_append []
    rw [List.append_nil] at hname hblank
    unfold package?
    rw [isPrefixOf?_append]
    simp only [Option.bind_eq_bind, Option.bind_some, hblank, hname]
    rfl
  rw [hline]
  simp only [Reading.line, hcomment, Reading.topLine, htrim, hpackage, Name.ofList_chars]

/-- A source in the canonical layout declares exactly what it was written from: its package, its
functions with their receivers and comments, and its structs with the fields that stand directly in
them. -/
theorem ofSource_text (s : Source) : Declarations.ofSource s.text = s.declared := by
  have hlines : Text.lines s.text.toList = s.lines := by
    rw [Source.text, String.toList_ofList]
    exact lines_unlines s.isLine_of_mem_lines
  unfold Declarations.ofSource Declarations.ofLines
  rw [hlines, Source.lines, List.foldl_cons]
  have hstart : ({} : Reading) = ⟨.top [], {}⟩ := rfl
  rw [hstart, line_packageClause, foldl_line_declarations]
  exact Declarations.ext rfl rfl rfl

example :
    Source.text
      { package := ⟨"models".toList, by decide, List.all_eq_true.1 (by decide)⟩
        declarations := [
          .function [⟨"Finds a pet.".toList, by decide, by decide⟩] none
            ⟨"Find".toList, by decide, List.all_eq_true.1 (by decide)⟩,
          .struct ⟨"Pet".toList, by decide, List.all_eq_true.1 (by decide)⟩ [
            .plain {
              name := ⟨"Name".toList, by decide, List.all_eq_true.1 (by decide)⟩
              type := ⟨"string".toList, by decide, List.all_eq_true.1 (by decide), by decide⟩
              tag := some .unnamed
              comment := some ⟨"given name".toList, by decide, by decide⟩ }]] }
      = "package models\n\n// Finds a pet.\nfunc Find() \x7b\x7d\n\ntype Pet struct \x7b\n"
        ++ "\tName string \x60json:\",omitempty\"\x60 // given name\n\x7d\n" := by
  decide

end ApiDocs.GoSource.Layout
