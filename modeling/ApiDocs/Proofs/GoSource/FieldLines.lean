import ApiDocs.GoSource.Fields
import ApiDocs.Proofs.GoSource.Heads

/-!
# Lines that declare a field

The lines of a struct that are read as a field: a name, blanks and a type expression, then a tag
between back-quotes or none, then a comment or none, with blanks around these parts as one likes
(`FieldLine`). Each of these lines is read as the field that it declares (`field?_chars`), and no
other line declares a field (`isSome_field?_iff`).
-/

set_option autoImplicit false

namespace ApiDocs.GoSource

open Text

/-- A line that declares a field, apart from the tag. -/
structure FieldLine where
  before : List Char
  name : Name
  between : List Char
  type : List Char
  beforeTag : List Char
  beforeComment : List Char
  /-- What stands behind the slashes that start the comment. -/
  comment : Option (List Char)
  isBlank_before : ∀ c ∈ before, isBlank c = true
  between_ne_nil : between ≠ []
  isBlank_between : ∀ c ∈ between, isBlank c = true
  type_ne_nil : type ≠ []
  isTypeExpression_type : ∀ c ∈ type, isTypeExpression c = true
  isBlank_beforeTag : ∀ c ∈ beforeTag, isBlank c = true
  isBlank_beforeComment : ∀ c ∈ beforeComment, isBlank c = true

/-- A tag as it is written. -/
def tagText : Option (List Char) → List Char
  | none => []
  | some tag => backQuote :: (tag ++ [backQuote])

/-- A comment as it is written. -/
def commentText : Option (List Char) → List Char
  | none => []
  | some comment => '/' :: '/' :: comment

namespace FieldLine

/-- What stands behind the type expression. -/
def ending (l : FieldLine) (tag : Option (List Char)) : List Char :=
  l.beforeTag ++ (tagText tag ++ (l.beforeComment ++ commentText l.comment))

/-- The line with a tag, or without one. -/
def chars (l : FieldLine) (tag : Option (List Char)) : List Char :=
  l.before ++ (l.name.chars ++ (l.between ++ (l.type ++ l.ending tag)))

/-- The field that the line declares. -/
def declared (l : FieldLine) (tag : Option (List Char)) : Field :=
  let meaning := ((tag.bind jsonValue?).map FieldTag.ofValue).getD {}
  { name := l.name.text
    type := String.ofList l.type
    jsonName := meaning.jsonName
    omitEmpty := meaning.omitEmpty
    skip := meaning.skip
    description := String.ofList ((l.comment.map trim).getD []) }

end FieldLine

/-! ## Parts of lines -/

theorem isBlank_of_isTypeExpression {c : Char} (h : isTypeExpression c = true) :
    isBlank c = false := by
  simp only [isTypeExpression, Bool.or_eq_true, beq_iff_eq] at h
  rcases h with (((((h | rfl) | rfl) | rfl) | rfl) | rfl) | rfl
  · exact isBlank_of_isWord h
  all_goals decide

theorem isWord_of_isBlank {c : Char} (h : isBlank c = true) : isWord c = false := by
  cases hword : isWord c with
  | false => rfl
  | true => simp [isBlank_of_isWord hword] at h

theorem isTypeExpression_of_isBlank {c : Char} (h : isBlank c = true) :
    isTypeExpression c = false := by
  cases htype : isTypeExpression c with
  | false => rfl
  | true => simp [isBlank_of_isTypeExpression htype] at h

theorem takeTag?_tag {tag : List Char} (htag : backQuote ∉ tag) (rest : List Char) :
    takeTag? (backQuote :: (tag ++ backQuote :: rest)) = some (some tag, rest) := by
  have hmem : backQuote ∈ tag ++ backQuote :: rest := by simp
  simp only [takeTag?, if_true, if_pos hmem, takeWhile_ne_append htag, dropWhile_ne_append htag,
    List.tail_cons]

/-- A tag ends at the first back-quote behind the one that starts it, and there is one if the text
starts with a back-quote. -/
theorem takeTag?_eq_some_iff {s rest : List Char} {tag : Option (List Char)} :
    takeTag? s = some (tag, rest)
      ↔ s = tagText tag ++ rest ∧ (tag = none → rest.head? ≠ some backQuote)
        ∧ ∀ t, tag = some t → backQuote ∉ t := by
  constructor
  · intro h
    cases s with
    | nil =>
      cases h
      simp [tagText]
    | cons c s =>
      by_cases hc : c = backQuote
      · subst hc
        by_cases hmem : backQuote ∈ s
        · obtain ⟨t, behind, rfl, ht⟩ := List.eq_append_cons_of_mem hmem
          rw [takeTag?_tag ht] at h
          cases h
          simpa [tagText] using ht
        · simp [takeTag?, hmem] at h
      · simp only [takeTag?, if_neg hc] at h
        cases h
        simpa [tagText] using hc
  · rintro ⟨rfl, hhead, htag⟩
    cases tag with
    | some t =>
      rw [← takeTag?_tag (htag t rfl) rest]
      simp [tagText]
    | none =>
      cases rest with
      | nil => rfl
      | cons c rest =>
        have hc : c ≠ backQuote := by simpa using hhead rfl
        simp [tagText, takeTag?, hc]

/-- What stands in front of the next quote is taken for the value. -/
theorem jsonValue?_of_after? {tag s rest : List Char} (hs : '"' ∉ s)
    (h : after? "json:\"".toList tag = some (s ++ '"' :: rest)) : jsonValue? tag = some s := by
  rw [jsonValue?, h, Option.bind_eq_bind, Option.bind_some, if_pos (by simp),
    takeWhile_ne_append hs]

theorem lineComment?_eq_some_iff {s description : List Char} :
    lineComment? s = some description
      ↔ ∃ comment, s = commentText comment ∧ (comment.map trim).getD [] = description := by
  constructor
  · intro h
    unfold lineComment? at h
    split at h
    · exact ⟨none, rfl, Option.some.inj h⟩
    · next comment => exact ⟨some comment, rfl, Option.some.inj h⟩
    · cases h
  · rintro ⟨comment, rfl, rfl⟩
    cases comment <;> rfl

theorem stops_commentText {p : Char → Bool} (hp : p '/' = false) (comment : Option (List Char)) :
    Stops p (commentText comment) := by
  cases comment with
  | none => exact stops_nil p
  | some comment => exact stops_cons.2 hp

/-! ## Reading -/

namespace FieldLine

variable (l : FieldLine) {tag : Option (List Char)}

/-- The type expression goes no further than its own characters. -/
theorem stops_ending (tag : Option (List Char)) : Stops isTypeExpression (l.ending tag) := by
  have blanks {blanks rest : List Char} (hblanks : ∀ c ∈ blanks, isBlank c = true)
      (hrest : Stops isTypeExpression rest) : Stops isTypeExpression (blanks ++ rest) := by
    cases blanks with
    | nil => exact hrest
    | cons c blanks =>
      exact stops_cons.2 (isTypeExpression_of_isBlank (hblanks c List.mem_cons_self))
  apply blanks l.isBlank_beforeTag
  cases tag with
  | none =>
    rw [tagText, List.nil_append]
    exact blanks l.isBlank_beforeComment (stops_commentText (by decide) _)
  | some tag => exact stops_cons.2 (by decide)

/-- The tag is read behind the blanks, and what follows it is the comment. -/
theorem takeTag?_ending (htag : ∀ t, tag = some t → backQuote ∉ t) :
    ∃ rest, takeTag? ((l.ending tag).dropWhile isBlank) = some (tag, rest)
      ∧ rest.dropWhile isBlank = commentText l.comment := by
  have hcomment : (l.beforeComment ++ commentText l.comment).dropWhile isBlank
      = commentText l.comment :=
    dropWhile_run_append l.isBlank_beforeComment (stops_commentText (by decide) _)
  have hquote : (commentText l.comment).head? ≠ some backQuote := by
    cases l.comment <;> simp [commentText, backQuote]
  unfold ending
  cases tag with
  | none =>
    refine ⟨commentText l.comment, takeTag?_eq_some_iff.2 ⟨?_, fun _ => hquote, htag⟩, ?_⟩
    · rw [tagText, List.nil_append, List.nil_append,
        List.dropWhile_append_of_pos l.isBlank_beforeTag, hcomment]
    · exact dropWhile_of_stops (stops_commentText (by decide) _)
  | some t =>
    refine ⟨l.beforeComment ++ commentText l.comment, ?_, hcomment⟩
    refine takeTag?_eq_some_iff.2 ⟨?_, fun h => (nomatch h), htag⟩
    exact dropWhile_run_append l.isBlank_beforeTag (stops_cons.2 (by decide))

/-- A field is read from its line. -/
theorem field?_chars (htag : ∀ t, tag = some t → backQuote ∉ t) :
    field? (l.chars tag) = some (l.declared tag) := by
  have hbefore : (l.chars tag).dropWhile isBlank
      = l.name.chars ++ (l.between ++ (l.type ++ l.ending tag)) :=
    dropWhile_run_append l.isBlank_before (l.name.stops (fun _ h => isBlank_of_isWord h) _)
  have hname : takeWhile1? isWord (l.name.chars ++ (l.between ++ (l.type ++ l.ending tag)))
      = some (l.name.chars, l.between ++ (l.type ++ l.ending tag)) := by
    apply l.name.takeWhile1?_append
    refine stops_append l.between_ne_nil (fun c hc => ?_) _
    exact isWord_of_isBlank (l.isBlank_between c hc)
  have hbetween : dropBlanks1? (l.between ++ (l.type ++ l.ending tag))
      = some (l.type ++ l.ending tag) :=
    dropBlanks1?_run_append l.between_ne_nil l.isBlank_between
      (stops_append l.type_ne_nil
        (fun c hc => isBlank_of_isTypeExpression (l.isTypeExpression_type c hc)) _)
  have htype : takeWhile1? isTypeExpression (l.type ++ l.ending tag)
      = some (l.type, l.ending tag) :=
    takeWhile1?_run_append l.type_ne_nil l.isTypeExpression_type (l.stops_ending tag)
  obtain ⟨rest, htake, hrest⟩ := l.takeTag?_ending htag
  have hcomment := lineComment?_eq_some_iff.2 ⟨l.comment, rfl, rfl⟩
  unfold field?
  simp only [Option.bind_eq_bind, hbefore, hname, hbetween, htype, htake, hrest, hcomment,
    Option.bind_some, Option.pure_def]
  rfl

end FieldLine

/-- What is read as a field is a line of this form. -/
theorem exists_fieldLine_of_field? {line : List Char} {f : Field} (h : field? line = some f) :
    ∃ (l : FieldLine) (tag : Option (List Char)),
      (∀ t, tag = some t → backQuote ∉ t) ∧ line = l.chars tag := by
  unfold field? at h
  simp only [Option.bind_eq_bind, Option.bind_eq_some_iff] at h
  obtain ⟨⟨name, behindName⟩, hname, afterName, hbetween, ⟨type, behindType⟩, htype,
    ⟨tag, behindTag⟩, htag, description, hcomment, -⟩ := h
  obtain ⟨hname, hnameNil, hnameWord, -⟩ := takeWhile1?_eq_some_iff.1 hname
  obtain ⟨between, rfl, hbetweenNil, hbetweenBlank, -⟩ := dropBlanks1?_eq_some_iff.1 hbetween
  obtain ⟨rfl, htypeNil, htypeChars, -⟩ := takeWhile1?_eq_some_iff.1 htype
  obtain ⟨comment, hcomment, -⟩ := lineComment?_eq_some_iff.1 hcomment
  have blanks (s : List Char) : ∀ c ∈ s.takeWhile isBlank, isBlank c = true :=
    fun c hc => List.mem_takeWhile_imp hc
  let l : FieldLine :=
    { before := line.takeWhile isBlank
      name := ⟨name, hnameNil, hnameWord⟩
      between, type
      beforeTag := behindType.takeWhile isBlank
      beforeComment := behindTag.takeWhile isBlank
      comment
      isBlank_before := blanks line
      between_ne_nil := hbetweenNil
      isBlank_between := hbetweenBlank
      type_ne_nil := htypeNil
      isTypeExpression_type := htypeChars
      isBlank_beforeTag := blanks behindType
      isBlank_beforeComment := blanks behindTag }
  obtain ⟨htagText, -, hquote⟩ := takeTag?_eq_some_iff.1 htag
  refine ⟨l, tag, hquote, ?_⟩
  calc line = line.takeWhile isBlank ++ line.dropWhile isBlank :=
        List.takeWhile_append_dropWhile.symm
    _ = l.before ++ (name ++ (between ++ (type ++
          (behindType.takeWhile isBlank ++ behindType.dropWhile isBlank)))) := by
        rw [hname, List.takeWhile_append_dropWhile]
    _ = l.chars tag := by
        rw [htagText, ← List.takeWhile_append_dropWhile (p := isBlank) (l := behindTag), hcomment]
        rfl

/-- Whether a line declares a field. -/
theorem isSome_field?_iff {line : List Char} :
    (field? line).isSome = true
      ↔ ∃ (l : FieldLine) (tag : Option (List Char)),
        (∀ t, tag = some t → backQuote ∉ t) ∧ line = l.chars tag := by
  constructor
  · intro h
    obtain ⟨f, hf⟩ := Option.isSome_iff_exists.1 h
    exact exists_fieldLine_of_field? hf
  · rintro ⟨l, tag, htag, rfl⟩
    rw [l.field?_chars htag, Option.isSome_some]

end ApiDocs.GoSource
