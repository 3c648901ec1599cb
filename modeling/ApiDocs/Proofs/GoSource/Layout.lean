import ApiDocs.Proofs.GoSource.Braces
import ApiDocs.Proofs.GoSource.FieldLines
import ApiDocs.Proofs.Text.Lines

/-!
# The canonical layout of Go declarations

Declarations as a formatter writes them: a package clause; a blank line before each declaration;
comment lines directly above a function; the members of a struct on lines of their own, indented
with tabs and with the columns of their parts aligned with blanks; nested structs to any depth,
closed on a line of their own. `Source.text` writes a source, and `Source.declared` says what it
declares. The types hold texts that can be written only, so there is no source without a layout.
-/

set_option autoImplicit false

namespace ApiDocs.GoSource.Layout

open Text

/-! ## Parts of lines -/

/-- A comment: a text on one line without a blank at either end. -/
structure Remark where
  chars : List Char
  trimmed : Trimmed chars
  oneLine : '\n' ∉ chars

def Remark.text (r : Remark) : String :=
  String.ofList r.chars

/-- A remark behind the slashes that start a comment. -/
def Remark.comment (r : Remark) : List Char :=
  '/' :: '/' :: ' ' :: r.chars

/-- A type expression. Braces occur in it as pairs that enclose nothing, as in `interface{}`. -/
structure TypeExpression where
  chars : List Char
  ne_nil : chars ≠ []
  isTypeExpression : ∀ c ∈ chars, isTypeExpression c = true
  isPaired : isPaired chars = true

/-- A name that a tag gives a field. A dash is no name: it leaves the field out. -/
structure TagName where
  chars : List Char
  ne_nil : chars ≠ []
  ne_dash : chars ≠ ['-']
  isPlain : ∀ c ∈ chars, c ≠ '"' ∧ c ≠ ',' ∧ c ≠ backQuote ∧ c ≠ '\n'

/-- The value of the `json` key of a tag. -/
inductive JsonTag
  /-- A name, and whether the field is left out when empty. -/
  | named (name : TagName) (omitEmpty : Bool)
  /-- No name: the field is left out when empty. -/
  | unnamed
  /-- The field is left out. -/
  | skipped

namespace JsonTag

/-- The value as it is written. -/
def value : JsonTag → List Char
  | named name false => name.chars
  | named name true => name.chars ++ ',' :: "omitempty".toList
  | unnamed => ',' :: "omitempty".toList
  | skipped => ['-']

/-- What the value says on the field. -/
def meaning : JsonTag → FieldTag
  | named name omitEmpty => { jsonName := some (String.ofList name.chars), omitEmpty }
  | unnamed => { omitEmpty := true }
  | skipped => { skip := true }

/-- The tag between the back-quotes. -/
def chars (t : JsonTag) : List Char :=
  "json:\"".toList ++ (t.value ++ ['"'])

end JsonTag

/-- So many blanks and one more. -/
def gap (extra : Nat) : List Char :=
  List.replicate (extra + 1) ' '

/-- The tabs in front of a member inside so many braces. -/
def indent (depth : Nat) : List Char :=
  List.replicate depth '\t'

/-! ## Members of structs -/

/-- A member that is a field. The columns of the type, the tag and the comment are aligned by blanks
beyond the one that has to be there. -/
structure PlainField where
  name : Name
  type : TypeExpression
  tag : Option JsonTag
  comment : Option Remark
  beforeType : Nat := 0
  beforeTag : Nat := 0
  beforeComment : Nat := 0

namespace PlainField

/-- The name and the type of the field. -/
def code (f : PlainField) : List Char :=
  f.name.chars ++ (gap f.beforeType ++ f.type.chars)

/-- The tag with the blanks in front of it; nothing if there is none. -/
def tagPart (f : PlainField) : List Char :=
  match f.tag with
  | none => []
  | some t => gap f.beforeTag ++ (backQuote :: t.chars ++ [backQuote])

/-- The comment with the blanks in front of it; nothing if there is none. -/
def commentPart (f : PlainField) : List Char :=
  match f.comment with
  | none => []
  | some r => gap f.beforeComment ++ r.comment

/-- The field as it is written. -/
def chars (f : PlainField) : List Char :=
  f.code ++ (f.tagPart ++ f.commentPart)

/-- What the tag says on the field. -/
def meaning (f : PlainField) : FieldTag :=
  (f.tag.map JsonTag.meaning).getD {}

/-- The field that is declared. -/
def declared (f : PlainField) : Field where
  name := f.name.text
  type := String.ofList f.type.chars
  jsonName := f.meaning.jsonName
  omitEmpty := f.meaning.omitEmpty
  skip := f.meaning.skip
  description := (f.comment.map Remark.text).getD ""

end PlainField

/-- A member of a struct: a field, or a field whose type is a struct with members of its own. -/
inductive Member
  | plain (f : PlainField)
  | nested (name : Name) (beforeType : Nat) (first : Member) (others : List Member)

/-- The line that opens a nested struct. -/
def nestedStart (name : Name) (beforeType : Nat) : List Char :=
  name.chars ++ (gap beforeType ++ "struct \x7b".toList)

mutual

/-- The lines of a member inside so many braces. -/
def memberLines (depth : Nat) : Member → List (List Char)
  | .plain f => [indent depth ++ f.chars]
  | .nested name beforeType first others =>
    (indent depth ++ nestedStart name beforeType)
      :: (memberLines (depth + 1) first ++ (membersLines (depth + 1) others
        ++ [indent depth ++ ['}']]))

/-- The lines of members inside so many braces. -/
def membersLines (depth : Nat) : List Member → List (List Char)
  | [] => []
  | m :: ms => memberLines depth m ++ membersLines depth ms

end

/-- The field that a member of a struct declares for the struct. The members of a nested struct
are no fields of the outer one. -/
def Member.declared? : Member → Option Field
  | plain f => some f.declared
  | nested _ _ _ _ => none

/-! ## Declarations -/

/-- The receiver of a method: a variable and its type, whose name may have a package before it. -/
structure MethodReceiver where
  variableName : Name
  type : List Char
  ne_nil : type ≠ []
  isTypeName : ∀ c ∈ type, isTypeName c = true
  isPointer : Bool

namespace MethodReceiver

/-- The receiver as it is written, with the blank behind it. -/
def chars (r : MethodReceiver) : List Char :=
  '(' :: (r.variableName.chars ++ ' ' :: ((if r.isPointer then ['*'] else [])
    ++ (r.type ++ ") ".toList)))

/-- The receiver that is declared. -/
def declared (r : MethodReceiver) : Receiver :=
  ⟨String.ofList r.type, r.isPointer⟩

end MethodReceiver

/-- A declaration on the outermost level. -/
inductive Declaration
  /-- A function, or a method if there is a receiver, with the comment lines above it. -/
  | function (doc : List Remark) (receiver : Option MethodReceiver) (name : Name)
  /-- A struct type. -/
  | struct (name : Name) (members : List Member)

/-- The line of a function. -/
def functionLine (receiver : Option MethodReceiver) (name : Name) : List Char :=
  "func ".toList ++ ((receiver.map MethodReceiver.chars).getD []
    ++ (name.chars ++ "() \x7b\x7d".toList))

namespace Declaration

/-- The lines of a declaration. A struct without members closes on the line that opens it. -/
def lines : Declaration → List (List Char)
  | function doc receiver name => doc.map Remark.comment ++ [functionLine receiver name]
  | struct name [] => [structStart name [] ++ ['}']]
  | struct name (m :: ms) => structStart name [' '] :: (membersLines 1 (m :: ms) ++ [['}']])

/-- The function that is declared, if the declaration is one. -/
def function? : Declaration → Option Function
  | function doc receiver name =>
    some ⟨name.text, receiver.map MethodReceiver.declared, doc.map Remark.text⟩
  | struct _ _ => none

/-- The struct that is declared, if the declaration is one. -/
def struct? : Declaration → Option Struct
  | function _ _ _ => none
  | struct name members => some ⟨name.text, members.filterMap Member.declared?⟩

end Declaration

/-- A source: its package and its declarations. -/
structure Source where
  package : Name
  declarations : List Declaration

namespace Source

/-- The lines of a source. There is a blank line before each declaration. -/
def lines (s : Source) : List (List Char) :=
  ("package ".toList ++ s.package.chars) :: s.declarations.flatMap fun d => [] :: d.lines

/-- The text of a source. -/
def text (s : Source) : String :=
  String.ofList (unlines s.lines)

/-- What a source declares. -/
def declared (s : Source) : Declarations where
  package := s.package.text
  functions := s.declarations.filterMap Declaration.function?
  structs := s.declarations.filterMap Declaration.struct?

end Source

/-! ## Characters of the parts -/

theorem isBlank_gap (extra : Nat) : ∀ c ∈ gap extra, isBlank c = true := by
  intro c hc
  rw [List.eq_of_mem_replicate hc]
  decide

theorem isBlank_indent (depth : Nat) : ∀ c ∈ indent depth, isBlank c = true := by
  intro c hc
  rw [List.eq_of_mem_replicate hc]
  decide

theorem gap_ne_nil (extra : Nat) : gap extra ≠ [] := by
  simp [gap]

/-- A character that is neither in names nor in the fixed parts of a value is in no value. -/
theorem not_mem_value {x : Char} (hname : ∀ name : TagName, x ∉ name.chars)
    (hx : x ∉ '-' :: ',' :: "omitempty".toList) (t : JsonTag) : x ∉ t.value := by
  have hoption : x ∉ ',' :: "omitempty".toList := fun h => hx (List.mem_cons_of_mem '-' h)
  cases t with
  | named name omitEmpty =>
    cases omitEmpty with
    | false => exact hname name
    | true =>
      intro h
      rcases List.mem_append.1 h with h | h
      · exact hname name h
      · exact hoption h
  | unnamed => exact hoption
  | skipped =>
    intro h
    exact hx (List.mem_cons.2 (Or.inl (List.mem_singleton.1 h)))

/-- A character that is neither in names nor in the fixed parts of a tag is in no tag. -/
theorem not_mem_tag {x : Char} (hname : ∀ name : TagName, x ∉ name.chars)
    (hx : x ∉ '-' :: ',' :: "omitempty".toList) (hkey : x ∉ "json:\"".toList) (t : JsonTag) :
    x ∉ t.chars := by
  intro h
  rcases List.mem_append.1 h with h | h
  · exact hkey h
  · rcases List.mem_append.1 h with h | h
    · exact not_mem_value hname hx t h
    · obtain rfl := List.mem_singleton.1 h
      exact hkey (by decide)

theorem backQuote_not_mem_tag (t : JsonTag) : backQuote ∉ t.chars :=
  not_mem_tag (fun name h => (name.isPlain _ h).2.2.1 rfl) (by decide) (by decide) t

/-! ## Lines -/

theorem isLine_comment (r : Remark) : IsLine r.comment := by
  have hcomment : r.comment = ['/', '/', ' '] ++ r.chars := rfl
  by_cases hnil : r.chars = []
  · rw [hcomment, hnil]
    decide
  · rw [hcomment]
    exact IsLine.append (by decide) (r.trimmed.isLine r.oneLine) hnil

theorem newline_not_mem_gap (extra : Nat) : '\n' ∉ gap extra := fun h =>
  absurd (List.eq_of_mem_replicate h) (by decide)

theorem newline_not_mem_indent (depth : Nat) : '\n' ∉ indent depth := fun h =>
  absurd (List.eq_of_mem_replicate h) (by decide)

theorem newline_not_mem_name (name : Name) : '\n' ∉ name.chars :=
  name.not_mem (by decide)

theorem newline_not_mem_tag (t : JsonTag) : '\n' ∉ t.chars :=
  not_mem_tag (fun name h => (name.isPlain _ h).2.2.2 rfl) (by decide) (by decide) t

theorem isLine_typeExpression (t : TypeExpression) : IsLine t.chars :=
  isLine_of_forall fun c hc => isBlank_of_isTypeExpression (t.isTypeExpression c hc)

theorem isLine_plainField (depth : Nat) (f : PlainField) : IsLine (indent depth ++ f.chars) := by
  have hcode : '\n' ∉ indent depth ++ f.code := by
    simp [PlainField.code, newline_not_mem_indent, newline_not_mem_gap, newline_not_mem_name,
      (isLine_typeExpression f.type).1]
  cases hcomment : f.comment with
  | some r =>
    have htag : '\n' ∉ f.tagPart := by
      unfold PlainField.tagPart
      cases f.tag with
      | none => simp
      | some t => simp [newline_not_mem_gap, newline_not_mem_tag, backQuote]
    have hline : indent depth ++ f.chars
        = (indent depth ++ f.code ++ (f.tagPart ++ gap f.beforeComment)) ++ r.comment := by
      simp [PlainField.chars, PlainField.commentPart, hcomment]
    rw [hline]
    apply IsLine.append _ (isLine_comment r) (by simp [Remark.comment])
    rw [List.mem_append, not_or]
    exact ⟨hcode, by simp [htag, newline_not_mem_gap]⟩
  | none =>
    cases htag : f.tag with
    | some t =>
      have hline : indent depth ++ f.chars
          = (indent depth ++ f.code ++ (gap f.beforeTag ++ (backQuote :: t.chars)))
            ++ [backQuote] := by
        simp [PlainField.chars, PlainField.tagPart, PlainField.commentPart, hcomment, htag]
      rw [hline]
      apply IsLine.append _ (by decide) (by simp)
      rw [List.mem_append, not_or]
      exact ⟨hcode, by simp [newline_not_mem_gap, newline_not_mem_tag, backQuote]⟩
    | none =>
      have hline : indent depth ++ f.chars
          = (indent depth ++ (f.name.chars ++ gap f.beforeType)) ++ f.type.chars := by
        simp [PlainField.chars, PlainField.code, PlainField.tagPart, PlainField.commentPart,
          hcomment, htag]
      rw [hline]
      apply IsLine.append _ (isLine_typeExpression f.type) f.type.ne_nil
      simp [newline_not_mem_indent, newline_not_mem_gap, newline_not_mem_name]

mutual

theorem isLine_of_mem_memberLines (depth : Nat) (m : Member) :
    ∀ l ∈ memberLines depth m, IsLine l := by
  intro l hl
  cases m with
  | plain f =>
    rw [memberLines, List.mem_singleton] at hl
    rw [hl]
    exact isLine_plainField depth f
  | nested name beforeType first others =>
    simp only [memberLines, List.mem_cons, List.mem_append, List.not_mem_nil, or_false] at hl
    rcases hl with rfl | hl | hl | rfl
    · have hline : indent depth ++ nestedStart name beforeType
          = (indent depth ++ (name.chars ++ (gap beforeType ++ "struct ".toList))) ++ ['{'] := by
        simp [nestedStart]
      rw [hline]
      apply IsLine.append _ (by decide) (by simp)
      simp [newline_not_mem_indent, newline_not_mem_gap, newline_not_mem_name]
    · exact isLine_of_mem_memberLines (depth + 1) first l hl
    · exact isLine_of_mem_membersLines (depth + 1) others l hl
    · exact IsLine.append (newline_not_mem_indent depth) (by decide) (by simp)

theorem isLine_of_mem_membersLines (depth : Nat) (ms : List Member) :
    ∀ l ∈ membersLines depth ms, IsLine l := by
  intro l hl
  cases ms with
  | nil => simp [membersLines] at hl
  | cons m ms =>
    rw [membersLines, List.mem_append] at hl
    rcases hl with hl | hl
    · exact isLine_of_mem_memberLines depth m l hl
    · exact isLine_of_mem_membersLines depth ms l hl

end

theorem isLine_functionLine (receiver : Option MethodReceiver) (name : Name) :
    IsLine (functionLine receiver name) := by
  have hline : functionLine receiver name = ("func ".toList
      ++ ((receiver.map MethodReceiver.chars).getD [] ++ name.chars)) ++ "() \x7b\x7d".toList := by
    simp [functionLine]
  have hreceiver : '\n' ∉ (receiver.map MethodReceiver.chars).getD [] := by
    cases receiver with
    | none => simp
    | some r =>
      have htype : '\n' ∉ r.type := fun h => absurd (r.isTypeName _ h) (by decide)
      have hstar : '\n' ∉ (if r.isPointer then ['*'] else []) := by
        cases r.isPointer <;> decide
      simp only [Option.map_some, Option.getD_some, MethodReceiver.chars, List.mem_cons,
        List.mem_append, not_or]
      exact ⟨by decide, newline_not_mem_name _, by decide, hstar, htype, by decide⟩
  rw [hline]
  apply IsLine.append _ (by decide) (by decide)
  simp only [List.mem_append, not_or]
  exact ⟨by decide, hreceiver, newline_not_mem_name _⟩

theorem isLine_structStart (name : Name) {between : List Char} (h : '\n' ∉ between) :
    IsLine (structStart name between) := by
  have hline : structStart name between = ("type".toList
      ++ ' ' :: (name.chars ++ ' ' :: ("struct".toList ++ between))) ++ ['{'] := by
    simp [structStart]
  rw [hline]
  apply IsLine.append _ (by decide) (by simp)
  simp [newline_not_mem_name, h]

theorem isLine_of_mem_declarationLines (e : Declaration) : ∀ l ∈ e.lines, IsLine l := by
  intro l hl
  cases e with
  | function doc receiver name =>
    rw [Declaration.lines, List.mem_append, List.mem_map, List.mem_singleton] at hl
    rcases hl with ⟨r, -, rfl⟩ | rfl
    · exact isLine_comment r
    · exact isLine_functionLine receiver name
  | struct name members =>
    cases members with
    | nil =>
      rw [Declaration.lines, List.mem_singleton] at hl
      rw [hl]
      exact IsLine.append (isLine_structStart name (by simp)).1 (by decide) (by simp)
    | cons m ms =>
      rw [Declaration.lines, List.mem_cons, List.mem_append, List.mem_singleton] at hl
      rcases hl with rfl | hl | rfl
      · exact isLine_structStart name (by decide)
      · exact isLine_of_mem_membersLines 1 (m :: ms) l hl
      · decide

theorem Source.isLine_of_mem_lines (s : Source) : ∀ l ∈ s.lines, IsLine l := by
  intro l hl
  rw [Source.lines, List.mem_cons, List.mem_flatMap] at hl
  rcases hl with rfl | ⟨e, -, he⟩
  · have hname : IsLine s.package.chars :=
      isLine_of_forall fun c hc => isBlank_of_isWord (s.package.isWord c hc)
    exact IsLine.append (by decide) hname s.package.ne_nil
  · rcases List.mem_cons.1 he with rfl | he
    · decide
    · exact isLine_of_mem_declarationLines e l he

end ApiDocs.GoSource.Layout
