import ApiDocs.GoSource.Reading
import ApiDocs.Proofs.Text.Runs

/-!
# Lines that open a declaration

What the readers of heads give on a line that is written as a package clause, as the head of a
function or method, or as the head of a struct: the names that stand there, whatever follows on the
line. The first character of a line tells the kinds apart (`comment?_cons`, `package?_trim_cons`,
`functionHead?_cons`, `structHead?_cons`), so each kind is recognised as itself only.
-/

set_option autoImplicit false

namespace ApiDocs.GoSource

open Text

/-- A name in a source: a word. -/
structure Name where
  chars : List Char
  ne_nil : chars ≠ []
  isWord : ∀ c ∈ chars, Text.isWord c = true

def Name.text (name : Name) : String :=
  String.ofList name.chars

@[simp]
theorem Name.ofList_chars (name : Name) : String.ofList name.chars = name.text := rfl

theorem Name.not_mem (name : Name) {c : Char} (hc : Text.isWord c = false) : c ∉ name.chars := by
  intro h
  rw [name.isWord c h] at hc
  cases hc

/-- A name stops every class that has no word characters. -/
theorem Name.stops (name : Name) {p : Char → Bool} (hp : ∀ c, Text.isWord c = true → p c = false)
    (rest : List Char) : Stops p (name.chars ++ rest) :=
  stops_append name.ne_nil (fun c hc => hp c (name.isWord c hc)) rest

theorem Name.takeWhile1?_append (name : Name) {rest : List Char} (hrest : Stops Text.isWord rest) :
    takeWhile1? Text.isWord (name.chars ++ rest) = some (name.chars, rest) :=
  takeWhile1?_run_append name.ne_nil name.isWord hrest

theorem Name.dropBlanks1?_append (name : Name) (rest : List Char) :
    dropBlanks1? (' ' :: (name.chars ++ rest)) = some (name.chars ++ rest) :=
  dropBlanks1?_cons (name.stops (fun _ h => isBlank_of_isWord h) rest)

/-! ## First characters -/

/-- A line that starts with neither a blank nor a slash is no comment. -/
theorem comment?_cons {c : Char} (hblank : isBlank c = false) (hslash : c ≠ '/') (l : List Char) :
    comment? (c :: l) = none := by
  simp [comment?, trim_cons hblank, List.isPrefixOf?, Ne.symm hslash]

/-- A comment line, and the text behind its slashes without the blanks at either end. -/
def IsComment (l : List Char) (text : String) : Prop :=
  ∃ rest, trim l = '/' :: '/' :: rest ∧ text = String.ofList (trim rest)

theorem comment?_eq_some_iff {l : List Char} {text : String} :
    comment? l = some text ↔ IsComment l text := by
  unfold comment? IsComment
  rw [Option.map_eq_some_iff]
  constructor
  · rintro ⟨rest, hrest, rfl⟩
    exact ⟨rest, (List.append_eq_of_isPrefixOf?_eq_some hrest).symm, rfl⟩
  · rintro ⟨rest, hrest, rfl⟩
    exact ⟨rest, by rw [hrest]; rfl, rfl⟩

theorem package?_trim_cons {c : Char} (hblank : isBlank c = false) (hp : c ≠ 'p')
    (l : List Char) : package? (trim (c :: l)) = none := by
  simp [package?, trim_cons hblank, List.isPrefixOf?, Ne.symm hp]

theorem functionHead?_cons {c : Char} (hf : c ≠ 'f') (l : List Char) :
    functionHead? (c :: l) = none := by
  simp [functionHead?, List.isPrefixOf?, Ne.symm hf]

theorem structHead?_cons {c : Char} (ht : c ≠ 't') (l : List Char) :
    structHead? (c :: l) = none := by
  simp [structHead?, List.isPrefixOf?, Ne.symm ht]

/-! ## Structs -/

/-- The start of a line that opens a struct, up to the opening brace. -/
def structStart (name : Name) (gap : List Char) : List Char :=
  "type".toList ++ ' ' :: (name.chars ++ ' ' :: ("struct".toList ++ (gap ++ ['{'])))

/-- The head of a struct gives its name, and tells whether a closing brace comes first behind the
opening one. -/
theorem structHead?_structStart (name : Name) {gap : List Char}
    (hgap : ∀ c ∈ gap, isBlank c = true) (rest : List Char) :
    structHead? (structStart name gap ++ rest)
      = some (name.text, (rest.dropWhile isBlank).head? == some '}') := by
  have hname : takeWhile1? Text.isWord
      (name.chars ++ ' ' :: ("struct".toList ++ (gap ++ '{' :: rest)))
      = some (name.chars, ' ' :: ("struct".toList ++ (gap ++ '{' :: rest))) :=
    name.takeWhile1?_append (stops_cons.2 (by decide))
  have hblank : dropBlanks1? (' ' :: ("struct".toList ++ (gap ++ '{' :: rest)))
      = some ("struct".toList ++ (gap ++ '{' :: rest)) :=
    dropBlanks1?_cons (stops_cons.2 (by decide))
  have hbrace : (gap ++ '{' :: rest).dropWhile isBlank = '{' :: rest :=
    dropWhile_run_append hgap (stops_cons.2 (by decide))
  simp only [structHead?, structStart, List.append_assoc, List.cons_append, List.nil_append,
    isPrefixOf?_append, Option.bind_eq_bind, Option.bind_some, name.dropBlanks1?_append, hname,
    hblank, hbrace]
  simp [List.isPrefixOf?]

/-- The head of a struct opens its body, unless a closing brace comes first behind the opening
one. -/
theorem line_structStart (doc : List String) (d : Declarations) (name : Name) {gap : List Char}
    (hgap : ∀ c ∈ gap, isBlank c = true) (rest : List Char) :
    Reading.line ⟨.top doc, d⟩ (structStart name gap ++ rest)
      = if (rest.dropWhile isBlank).head? = some '}' then ⟨.top [], d.addStruct ⟨name.text, []⟩⟩
        else ⟨.body name.text [] 1, d⟩ := by
  obtain ⟨l, hl⟩ : ∃ l, structStart name gap ++ rest = 't' :: l := ⟨_, rfl⟩
  have hcomment : comment? (structStart name gap ++ rest) = none := by
    rw [hl]
    exact comment?_cons (by decide) (by decide) l
  have hpackage : package? (trim (structStart name gap ++ rest)) = none := by
    rw [hl]
    exact package?_trim_cons (by decide) (by decide) l
  have hfunction : functionHead? (structStart name gap ++ rest) = none := by
    rw [hl]
    exact functionHead?_cons (by decide) l
  simp only [Reading.line, hcomment, Reading.topLine, hpackage, hfunction,
    structHead?_structStart name hgap]
  by_cases hclose : (rest.dropWhile isBlank).head? = some '}'
  · simp [hclose]
  · simp [hclose, beq_eq_false_iff_ne.2 hclose]

end ApiDocs.GoSource
