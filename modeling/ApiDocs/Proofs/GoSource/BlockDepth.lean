import ApiDocs.Proofs.GoSource.FieldLines
import ApiDocs.Proofs.GoSource.Reading

/-!
# How deep a line leads

The depth at which a struct body is read changes from line to line by the braces that are counted in
a line. What is counted is the code of the line (`countedCode`): a tag behind the code and a comment
leave nothing but the blanks between them (`CodeLine.countedCode_chars`), whatever braces, slashes
and back-quotes they hold. So they change neither the counts nor the depth (`only_code_counted`), and
a body ends at the same line with them and without them (`bodyLines_map_chars`).
-/

set_option autoImplicit false

namespace ApiDocs.GoSource

open Text

/-- The part of a line in which braces are counted: what stands in front of its comment, without its
tags. -/
def countedCode (line : List Char) : List Char :=
  withoutTags false (withoutComment false line)

/-- The depth changes by the braces of the counted code. Those of empty pairs cancel out. -/
theorem depthAfter_eq (depth : Nat) (line : List Char) :
    depthAfter depth line
      = depth + (countedCode line).count '{' - (countedCode line).count '}' := by
  have hpairs := count_withoutEmptyPairs (countedCode line)
  simp only [depthAfter, braceCounts]
  rw [← countedCode]
  omega

/-- Blanks at the end of code are not counted. -/
theorem braceCounts_append_blanks {code blanks : List Char} (hquote : backQuote ∉ code)
    (hblanks : ∀ c ∈ blanks, isBlank c = true) :
    braceCounts (code ++ blanks) = braceCounts code := by
  have not_mem : ∀ c, isBlank c = false → c ∉ blanks := fun c hc => not_mem_of_isBlank hblanks hc
  have hopen : '{' ∉ blanks := not_mem _ (by decide)
  have hclose : '}' ∉ blanks := not_mem _ (by decide)
  have hpairs : withoutEmptyPairs (code ++ blanks) = withoutEmptyPairs code ++ blanks := by
    rw [withoutEmptyPairs_append fun _ h => hclose (List.mem_of_head? h),
      withoutEmptyPairs_of_not_mem hopen]
  simp only [braceCounts]
  rw [withoutTags_append hquote, withoutTags_of_not_mem (not_mem _ (by decide)),
    withoutTags_of_not_mem hquote, hpairs, List.count_append, List.count_append,
    List.count_eq_zero.2 hopen, List.count_eq_zero.2 hclose]
  rfl

/-! ## Lines of code -/

/-- A line of code, with a tag directly behind the code or without one, and with a comment behind
blanks or without one. -/
structure CodeLine where
  code : List Char
  tag : Option (List Char)
  beforeComment : List Char
  /-- What stands behind the slashes that start the comment. -/
  comment : Option (List Char)
  backQuote_not_mem_code : backQuote ∉ code
  slashes_not_infix_code : ¬ ['/', '/'] <:+: code
  backQuote_not_mem_tag : ∀ t, tag = some t → backQuote ∉ t
  isBlank_beforeComment : ∀ c ∈ beforeComment, isBlank c = true
  beforeComment_ne_nil : code.getLast? = some '/' → beforeComment ≠ []

namespace CodeLine

variable (l : CodeLine)

/-- What stands behind the code. -/
def ending : List Char :=
  tagText l.tag ++ (l.beforeComment ++ commentText l.comment)

/-- The line as it is written. -/
def chars : List Char :=
  l.code ++ l.ending

theorem not_mem_beforeComment {c : Char} (hc : isBlank c = false) : c ∉ l.beforeComment :=
  not_mem_of_isBlank l.isBlank_beforeComment hc

/-- The code and what stands behind it start no comment where they meet. -/
theorem head?_ending (hslash : l.code.getLast? = some '/') : l.ending.head? ≠ some '/' := by
  unfold ending
  cases l.tag with
  | some t => simp [tagText, backQuote]
  | none =>
    -- Only blanks could keep the slash from those of the comment.
    obtain ⟨c, blanks, hblanks⟩ := List.exists_cons_of_ne_nil (l.beforeComment_ne_nil hslash)
    have hc : isBlank c = true := l.isBlank_beforeComment c (by simp [hblanks])
    rw [hblanks]
    rintro ⟨⟩
    exact absurd hc (by decide)

/-- Of tag and comment the blanks between them are left. -/
theorem countedCode_ending : countedCode l.ending = l.beforeComment := by
  have hcomment : withoutComment false (commentText l.comment) = [] := by
    cases l.comment with
    | none => rfl
    | some comment => exact withoutComment_comment comment
  have hblanks : countedCode (l.beforeComment ++ commentText l.comment) = l.beforeComment := by
    rw [countedCode, withoutComment_append_of_not_mem (l.not_mem_beforeComment (by decide))
      (l.not_mem_beforeComment (by decide)), hcomment, List.append_nil,
      withoutTags_of_not_mem (l.not_mem_beforeComment (by decide))]
  cases htag : l.tag with
  | none => rw [ending, htag, tagText, List.nil_append, hblanks]
  | some t =>
    have hquote : backQuote ∉ t := l.backQuote_not_mem_tag t htag
    have hending : l.ending
        = backQuote :: t ++ backQuote :: (l.beforeComment ++ commentText l.comment) := by
      simp [ending, htag, tagText]
    rw [hending, countedCode, withoutComment_tag hquote, withoutTags_tag hquote, ← countedCode,
      hblanks]

theorem countedCode_code : countedCode l.code = l.code := by
  have hend : l.code.getLast? = some '/' → ([] : List Char).head? ≠ some '/' := by simp
  have hcode : withoutComment false l.code = l.code := by
    simpa using withoutComment_append l.backQuote_not_mem_code
      l.slashes_not_infix_code hend
  rw [countedCode, hcode, withoutTags_of_not_mem l.backQuote_not_mem_code]

/-- Of a line its code is counted, and the blanks in front of the comment. -/
theorem countedCode_chars : countedCode l.chars = l.code ++ l.beforeComment := by
  calc countedCode l.chars
      = withoutTags false (l.code ++ withoutComment false l.ending) := by
        rw [countedCode, chars, withoutComment_append l.backQuote_not_mem_code
          l.slashes_not_infix_code l.head?_ending]
    _ = l.code ++ countedCode l.ending := withoutTags_append l.backQuote_not_mem_code _
    _ = l.code ++ l.beforeComment := by rw [l.countedCode_ending]

/-- A line opens and closes the blocks that its code opens and closes. -/
theorem braceCounts_chars : braceCounts (withoutComment false l.chars) = braceCounts l.code := by
  have hcounted : withoutTags false (withoutComment false l.chars)
      = withoutTags false (l.code ++ l.beforeComment) := by
    rw [← countedCode, l.countedCode_chars, withoutTags_append l.backQuote_not_mem_code,
      withoutTags_of_not_mem (l.not_mem_beforeComment (by decide))]
  calc braceCounts (withoutComment false l.chars)
      = braceCounts (l.code ++ l.beforeComment) := by simp only [braceCounts, hcounted]
    _ = braceCounts l.code :=
        braceCounts_append_blanks l.backQuote_not_mem_code l.isBlank_beforeComment

/-- A line leads as deep as the braces of its code say. -/
theorem depthAfter_chars (depth : Nat) :
    depthAfter depth l.chars = depth + l.code.count '{' - l.code.count '}' := by
  have hopen : l.beforeComment.count '{' = 0 :=
    List.count_eq_zero.2 (l.not_mem_beforeComment (by decide))
  have hclose : l.beforeComment.count '}' = 0 :=
    List.count_eq_zero.2 (l.not_mem_beforeComment (by decide))
  rw [depthAfter_eq, l.countedCode_chars, List.count_append, List.count_append, hopen, hclose,
    Nat.add_zero, Nat.add_zero]

/-- Tag and comment make no difference to the depth. -/
theorem depthAfter_chars_eq (depth : Nat) : depthAfter depth l.chars = depthAfter depth l.code := by
  rw [l.depthAfter_chars, depthAfter_eq, l.countedCode_code]

end CodeLine

/-! ## Tags and comments -/

/-- Tags and comments are not counted. With a comment behind a blank, and with a tag in front of the
blank or without one, code opens and closes the same blocks as it does alone, and the line leads as
deep as the braces of the code say. -/
theorem only_code_counted {code : List Char} (hquote : backQuote ∉ code)
    (hslash : ¬ ['/', '/'] <:+: code) {tag : Option (List Char)}
    (htag : ∀ t, tag = some t → backQuote ∉ t) (comment : List Char) :
    let line := code ++ (tagText tag ++ " //".toList ++ comment)
    braceCounts (withoutComment false line) = braceCounts code ∧
      ∀ depth, depthAfter depth line = depth + code.count '{' - code.count '}' := by
  intro line
  let l : CodeLine :=
    { code, tag
      beforeComment := [' ']
      comment := some comment
      backQuote_not_mem_code := hquote
      slashes_not_infix_code := hslash
      backQuote_not_mem_tag := htag
      isBlank_beforeComment := fun _ => isBlank_of_mem_space
      beforeComment_ne_nil := fun _ => List.cons_ne_nil _ _ }
  have hline : line = l.chars := by
    simp [line, l, CodeLine.chars, CodeLine.ending, commentText]
  rw [hline]
  exact ⟨l.braceCounts_chars, l.depthAfter_chars⟩

/-- A line that opens a block, with the marks of blocks, comments and tags in its tag and its
comment. -/
theorem only_code_counted_owner :
    let code := "Owner struct \x7b".toList
    let tag := "x:\"\x7d//\"".toList
    let line := code ++ (tagText (some tag) ++ " //".toList ++ " \x60 \x7d".toList)
    backQuote ∉ code ∧ ¬ ['/', '/'] <:+: code ∧ backQuote ∉ tag ∧
      braceCounts (withoutComment false line) = (1, 0) ∧ depthAfter 1 line = 2 := by
  intro code tag line
  have hquote : backQuote ∉ code := by decide
  have hslash : ¬ ['/', '/'] <:+: code := fun h => absurd (h.subset List.mem_cons_self) (by decide)
  have htag : backQuote ∉ tag := by decide
  have htags : ∀ t, some tag = some t → backQuote ∉ t := fun t ht => Option.some.inj ht ▸ htag
  obtain ⟨hcounts, hdepth⟩ := only_code_counted hquote hslash htags " \x60 \x7d".toList
  exact ⟨hquote, hslash, htag, hcounts.trans (by decide), (hdepth 1).trans (by decide)⟩

/-- A struct body ends at the same line with tags and comments and without them. -/
theorem bodyLines_map_chars (depth : Nat) (ls : List CodeLine) :
    ∃ inside behind, ls = inside ++ behind ∧
      bodyLines depth (ls.map CodeLine.chars) = inside.map CodeLine.chars ∧
      bodyLines depth (ls.map CodeLine.code) = inside.map CodeLine.code := by
  -- Induction on the lines; the depth is the same on both sides, but changes from line to line.
  induction ls generalizing depth with
  | nil => exact ⟨[], [], rfl, rfl, rfl⟩
  | cons l ls ih =>
    simp only [List.map_cons, bodyLines, l.depthAfter_chars_eq]
    cases depthAfter depth l.code with
    | zero => exact ⟨[l], ls, rfl, rfl, rfl⟩
    | succ depth =>
      obtain ⟨inside, behind, rfl, hchars, hcode⟩ := ih (depth + 1)
      exact ⟨l :: inside, behind, rfl, congrArg (l.chars :: ·) hchars,
        congrArg (l.code :: ·) hcode⟩

/-! ## Lines of fields -/

theorem isPaired_of_isBlank {s : List Char} (h : ∀ c ∈ s, isBlank c = true) :
    isPaired s = true := by
  apply isPaired_of_not_mem
  · exact not_mem_of_isBlank h (by decide)
  · exact not_mem_of_isBlank h (by decide)

namespace FieldLine

variable (l : FieldLine) {tag : Option (List Char)}

/-- The code of a line that declares a field, with the blanks in front of a tag. -/
def code : List Char :=
  l.before ++ (l.name.chars ++ (l.between ++ (l.type ++ l.beforeTag)))

/-- A character that is no blank and cannot occur in a type expression is not in the code. -/
theorem not_mem_code {c : Char} (hblank : isBlank c = false) (htype : isTypeExpression c = false) :
    c ∉ l.code := by
  have hword : isWord c = false := by
    simp only [isTypeExpression, Bool.or_eq_false_iff] at htype
    exact htype.1.1.1.1.1.1
  have hbefore : c ∉ l.before := not_mem_of_isBlank l.isBlank_before hblank
  have hname : c ∉ l.name.chars := l.name.not_mem hword
  have hbetween : c ∉ l.between := not_mem_of_isBlank l.isBlank_between hblank
  have hchars : c ∉ l.type := fun h => by simp [l.isTypeExpression_type c h] at htype
  have hbeforeTag : c ∉ l.beforeTag := not_mem_of_isBlank l.isBlank_beforeTag hblank
  simp [code, hbefore, hname, hbetween, hchars, hbeforeTag]

/-- The line as a line of code. -/
def codeLine (htag : ∀ t, tag = some t → backQuote ∉ t) : CodeLine where
  code := l.code
  tag := tag
  beforeComment := l.beforeComment
  comment := l.comment
  backQuote_not_mem_code := l.not_mem_code (by decide) (by decide)
  slashes_not_infix_code h :=
    absurd (h.subset List.mem_cons_self) (l.not_mem_code (by decide) (by decide))
  backQuote_not_mem_tag := htag
  isBlank_beforeComment := l.isBlank_beforeComment
  beforeComment_ne_nil h :=
    absurd (List.mem_of_getLast? h) (l.not_mem_code (by decide) (by decide))

theorem chars_codeLine (htag : ∀ t, tag = some t → backQuote ∉ t) :
    (l.codeLine htag).chars = l.chars tag := by
  simp [CodeLine.chars, CodeLine.ending, codeLine, code, chars, ending]

/-- The line of a field opens and closes no block if the braces of its type expression only occur as
empty pairs. -/
theorem braceCounts_chars (htag : ∀ t, tag = some t → backQuote ∉ t)
    (htype : isPaired l.type = true) :
    braceCounts (withoutComment false (l.chars tag)) = (0, 0) := by
  have hname : isPaired l.name.chars = true :=
    isPaired_of_not_mem (l.name.not_mem (by decide)) (l.name.not_mem (by decide))
  have hcode : isPaired l.code = true :=
    isPaired_append (isPaired_of_isBlank l.isBlank_before) (isPaired_append hname
      (isPaired_append (isPaired_of_isBlank l.isBlank_between)
        (isPaired_append htype (isPaired_of_isBlank l.isBlank_beforeTag))))
  rw [← l.chars_codeLine htag, CodeLine.braceCounts_chars]
  apply braceCounts_of_isPaired
  rwa [withoutTags_of_not_mem (l.codeLine htag).backQuote_not_mem_code]

end FieldLine

end ApiDocs.GoSource
