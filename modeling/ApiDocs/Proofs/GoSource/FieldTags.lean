import ApiDocs.Proofs.GoSource.FieldLines
import ApiDocs.Proofs.Text.Lines

/-!
# Tags of fields

A tag in the conventional form is a list of keys with values in quotes (`ConventionalTag`). Go takes
the value of the first key that is `json`, and reads a name and options from it, except that a value
which is only a dash leaves the field out.

The value is looked for as the text behind the first `json:"`, wherever that stands. Quotes stand at
the start and at the end of values only, so what is found is the value of a key that ends in `json`,
or, behind a value that ends in `json:`, whatever stands between this value and the next one
(`ConventionalTag.jsonValue?_text`). If no other pair comes first in this way, that is the value Go
takes, and the field is as Go reads it unless the value goes on behind a dash and a comma, which
leaves the field out as well (`conventional_tags`).
-/

set_option autoImplicit false

namespace ApiDocs.GoSource

open Text

/-! ## Tags in the conventional form -/

/-- A key with its value. -/
structure TagPair where
  /-- The number of spaces in front of the key. -/
  spaces : Nat
  key : List Char
  value : List Char
  key_ne_nil : key ≠ []
  isPlain_key : ∀ c ∈ key, c ≠ ' ' ∧ c ≠ '"' ∧ c ≠ ':' ∧ c ≠ backQuote
  isPlain_value : ∀ c ∈ value, c ≠ '"' ∧ c ≠ '\\' ∧ c ≠ backQuote

namespace TagPair

/-- The key with the spaces in front of it and the colon behind it. -/
def start (p : TagPair) : List Char :=
  List.replicate p.spaces ' ' ++ (p.key ++ [':'])

/-- The pair as it is written. -/
def text (p : TagPair) : List Char :=
  p.start ++ '"' :: (p.value ++ ['"'])

end TagPair

/-- Keys with values, and spaces at the end. -/
structure ConventionalTag where
  pairs : List TagPair
  spaces : Nat

namespace ConventionalTag

/-- The tag as it is written. -/
def text (t : ConventionalTag) : List Char :=
  t.pairs.flatMap TagPair.text ++ List.replicate t.spaces ' '

/-- The value of the first pair whose key is `json`. -/
def jsonValue? (t : ConventionalTag) : Option (List Char) :=
  (t.pairs.find? fun p => p.key == "json".toList).map TagPair.value

/-- A field is as Go reads the tag. Without a `json` key the tag says nothing on the field. A value
that is a dash leaves the field out. Any other value gives the name before the first comma, if it is
not empty, and tells by an option behind a comma whether the field is left out when empty. -/
structure Describes (t : ConventionalTag) (f : Field) : Prop where
  skip : f.skip = true ↔ t.jsonValue? = some ['-']
  jsonName : ∀ value, t.jsonValue? = some value → value ≠ ['-'] →
    f.jsonName = if value.takeWhile (· ≠ ',') = [] then none
      else some (String.ofList (value.takeWhile (· ≠ ',')))
  omitEmpty : ∀ value, t.jsonValue? = some value → value ≠ ['-'] →
    (f.omitEmpty = true ↔ "omitempty".toList ∈ (pieces ',' value).tail)
  absent : t.jsonValue? = none → f.jsonName = none ∧ f.omitEmpty = false

/-- Some pair in front of the first `json` key ends the search too early: its key ends in `json`, or
its value ends in `json:`. -/
def Misleads (t : ConventionalTag) : Prop :=
  ∃ earlier p later, t.pairs = earlier ++ p :: later
    ∧ (∀ q ∈ earlier ++ [p], q.key ≠ "json".toList)
    ∧ ("json".toList <:+ p.key ∨ "json:".toList <:+ p.value)

end ConventionalTag

/-- What is found in pairs as the value of the `json` key. -/
def foundValue? : List TagPair → Option (List Char)
  | [] => none
  | p :: rest =>
    if "json".toList <:+ p.key then some p.value
    else if "json:".toList <:+ p.value then rest.head?.map TagPair.start
    else foundValue? rest

/-! ## Searching up to a quote -/

/-- A word that ends in its only quote starts a text if it is the text up to the first quote. -/
theorem isPrefixOf?_append_quote {stem s : List Char} (hstem : '"' ∉ stem) (hs : '"' ∉ s)
    (rest : List Char) :
    (stem ++ ['"']).isPrefixOf? (s ++ '"' :: rest) = if stem = s then some rest else none := by
  by_cases h : stem = s
  · subst h
    rw [if_pos rfl, List.isPrefixOf?_eq_some_iff_append_eq, List.append_assoc]
    rfl
  · rw [if_neg h, Option.eq_none_iff_forall_not_mem]
    intro found hfound
    rw [Option.mem_def, List.isPrefixOf?_eq_some_iff_append_eq, List.append_assoc] at hfound
    have hpart := congrArg (List.takeWhile (· ≠ '"')) hfound
    rw [List.singleton_append, takeWhile_ne_append hstem,
      takeWhile_ne_append hs] at hpart
    exact h hpart

/-- A word that ends in its only quote can be found at quotes only: at the first one if the part in
front of it ends like the word, and otherwise behind it. -/
theorem after?_append_quote {stem s : List Char} (hstem : '"' ∉ stem) (hs : '"' ∉ s)
    (rest : List Char) :
    after? (stem ++ ['"']) (s ++ '"' :: rest)
      = if stem <:+ s then some rest else after? (stem ++ ['"']) rest := by
  induction s with
  | nil =>
    have hstart := isPrefixOf?_append_quote hstem hs rest
    rw [List.nil_append] at hstart ⊢
    rw [after?, hstart]
    by_cases h : stem = [] <;> simp [h]
  | cons c s ih =>
    have hs' : '"' ∉ s := fun h => hs (List.mem_cons_of_mem c h)
    have hstart := isPrefixOf?_append_quote hstem hs rest
    rw [List.cons_append] at hstart ⊢
    rw [after?, hstart, ih hs']
    by_cases h : stem = c :: s
    · simp [h]
    · simp [h, List.suffix_cons_iff]

theorem after?_of_not_mem (stem : List Char) {s : List Char} (hs : '"' ∉ s) :
    after? (stem ++ ['"']) s = none := by
  have hnone : ∀ u : List Char, '"' ∉ u → (stem ++ ['"']).isPrefixOf? u = none := by
    intro u hu
    rw [Option.eq_none_iff_forall_not_mem]
    intro found hfound
    rw [Option.mem_def, List.isPrefixOf?_eq_some_iff_append_eq] at hfound
    exact hu (hfound ▸ by simp)
  induction s with
  | nil => rw [after?, hnone [] hs]
  | cons c s ih => rw [after?, hnone (c :: s) hs, ih fun h => hs (List.mem_cons_of_mem c h)]

/-- What stands in front of a text does not matter for how it ends, as far as the ending has nothing
of it. -/
theorem suffix_append_iff_of_forall_not_mem {word s t : List Char} (h : ∀ c ∈ s, c ∉ word) :
    word <:+ s ++ t ↔ word <:+ t := by
  constructor
  · intro hword
    rcases List.suffix_or_suffix_of_suffix hword (List.suffix_append s t) with ht | ⟨u, rfl⟩
    · exact ht
    · -- What the word has in front of the text is the end of `s`, so there is nothing of it.
      have hu : u <:+ s := ((List.suffix_append_inj_of_length_eq rfl).1 hword).1
      have hnil : u = [] := List.eq_nil_iff_forall_not_mem.2 fun c hc =>
        h c (hu.subset hc) (List.mem_append_left t hc)
      simp [hnil]
  · exact fun ht => ht.trans (List.suffix_append s t)

/-! ## Searching a tag -/

namespace TagPair

variable (p : TagPair)

theorem quote_not_mem_start : '"' ∉ p.start := by
  have hkey : '"' ∉ p.key := fun h => (p.isPlain_key _ h).2.1 rfl
  simp [start, hkey]

theorem quote_not_mem_value : '"' ∉ p.value := fun h => (p.isPlain_value _ h).1 rfl

theorem backQuote_not_mem_text : backQuote ∉ p.text := by
  have hspaces : backQuote ∉ List.replicate p.spaces ' ' := fun h =>
    absurd (List.eq_of_mem_replicate h) (by decide)
  have hkey : backQuote ∉ p.key := fun h => (p.isPlain_key _ h).2.2.2 rfl
  have hvalue : backQuote ∉ p.value := fun h => (p.isPlain_value _ h).2.2 rfl
  simp only [text, start, List.mem_append, List.mem_cons, not_or]
  exact ⟨⟨hspaces, hkey, by decide, by simp⟩, by decide, hvalue, by decide, by simp⟩

/-- The opening quote of a value stands behind the word that is looked for if the key ends in
`json`. -/
theorem suffix_start_iff : "json:".toList <:+ p.start ↔ "json".toList <:+ p.key := by
  have hspaces : ∀ c ∈ List.replicate p.spaces ' ', c ∉ "json:".toList := by
    intro c hc
    rw [List.eq_of_mem_replicate hc]
    decide
  have hcolon : "json:".toList = "json".toList ++ [':'] := rfl
  rw [start, suffix_append_iff_of_forall_not_mem hspaces, hcolon,
    List.suffix_append_inj_of_length_eq rfl, and_iff_left rfl]

end TagPair

/-- The search meets the opening and the closing quote of a pair before anything behind it. -/
theorem after?_text_append (p : TagPair) (rest : List Char) :
    after? "json:\"".toList (p.text ++ rest)
      = if "json".toList <:+ p.key then some (p.value ++ '"' :: rest)
        else if "json:".toList <:+ p.value then some rest
        else after? "json:\"".toList rest := by
  have hword : "json:\"".toList = "json:".toList ++ ['"'] := rfl
  have htext : p.text ++ rest = p.start ++ '"' :: (p.value ++ '"' :: rest) := by
    simp [TagPair.text]
  have hstem : '"' ∉ "json:".toList := by decide
  simp only [hword, htext, after?_append_quote hstem p.quote_not_mem_start,
    after?_append_quote hstem p.quote_not_mem_value, p.suffix_start_iff]

namespace ConventionalTag

variable (t : ConventionalTag)

theorem backQuote_not_mem_text : backQuote ∉ t.text := by
  intro h
  rcases List.mem_append.1 h with h | h
  · obtain ⟨p, -, hp⟩ := List.mem_flatMap.1 h
    exact p.backQuote_not_mem_text hp
  · exact absurd (List.eq_of_mem_replicate h) (by decide)

/-- The value that is found in a tag. -/
theorem jsonValue?_text : GoSource.jsonValue? t.text = foundValue? t.pairs := by
  obtain ⟨pairs, spaces⟩ := t
  have hspaces : '"' ∉ List.replicate spaces ' ' := fun h =>
    absurd (List.eq_of_mem_replicate h) (by decide)
  unfold text
  induction pairs with
  | nil =>
    have hnone : after? "json:\"".toList (List.replicate spaces ' ') = none :=
      after?_of_not_mem "json:".toList hspaces
    rw [List.flatMap_nil, List.nil_append, GoSource.jsonValue?, hnone]
    rfl
  | cons p rest ih =>
    have hfound := after?_text_append p (rest.flatMap TagPair.text ++ List.replicate spaces ' ')
    rw [List.flatMap_cons, List.append_assoc, foundValue?]
    by_cases hkey : "json".toList <:+ p.key
    · rw [if_pos hkey] at hfound ⊢
      exact jsonValue?_of_after? p.quote_not_mem_value hfound
    · rw [if_neg hkey] at hfound ⊢
      by_cases hvalue : "json:".toList <:+ p.value
      · rw [if_pos hvalue] at hfound ⊢
        cases rest with
        | nil =>
          rw [List.flatMap_nil, List.nil_append] at hfound ⊢
          rw [GoSource.jsonValue?, hfound, Option.bind_eq_bind, Option.bind_some, if_neg hspaces]
          rfl
        | cons q rest =>
          have hnext : (q :: rest).flatMap TagPair.text ++ List.replicate spaces ' '
              = q.start ++ '"' :: (q.value ++ '"' :: (rest.flatMap TagPair.text
                ++ List.replicate spaces ' ')) := by
            simp [TagPair.text]
          exact jsonValue?_of_after? q.quote_not_mem_start (hfound.trans (congrArg some hnext))
      · rw [if_neg hvalue] at hfound ⊢
        rw [← ih, GoSource.jsonValue?, hfound]
        rfl

/-- Unless a pair misleads, the value that is found is the one that Go takes. -/
theorem foundValue?_eq (h : ¬ t.Misleads) : foundValue? t.pairs = t.jsonValue? := by
  obtain ⟨pairs, spaces⟩ := t
  unfold Misleads at h
  unfold jsonValue?
  induction pairs with
  | nil => rfl
  | cons p rest ih =>
    rw [foundValue?, List.find?_cons]
    by_cases hjson : p.key = "json".toList
    · rw [if_pos (hjson ▸ List.suffix_refl _), hjson, beq_self_eq_true]
      rfl
    · have hend : ¬ ("json".toList <:+ p.key ∨ "json:".toList <:+ p.value) := fun hend =>
        h ⟨[], p, rest, rfl, by simpa using hjson, hend⟩
      rw [not_or] at hend
      rw [if_neg hend.1, if_neg hend.2, beq_eq_false_iff_ne.2 hjson]
      refine ih ?_
      rintro ⟨earlier, q, later, hpairs, hkeys, hend⟩
      refine h ⟨p :: earlier, q, later, congrArg (p :: ·) hpairs, fun r hr => ?_, hend⟩
      rcases List.mem_cons.1 hr with rfl | hr
      · exact hjson
      · exact hkeys r hr

end ConventionalTag

/-! ## Values -/

theorem headD_pieces (sep : Char) (s : List Char) :
    (pieces sep s).headD [] = s.takeWhile (· ≠ sep) := by
  induction s with
  | nil => rfl
  | cons c s ih =>
    obtain ⟨first, others, hs⟩ := List.exists_cons_of_ne_nil (pieces_ne_nil sep s)
    rw [hs] at ih
    rw [pieces_cons]
    by_cases hc : c = sep
    · simp [hc]
    · simpa [hc, hs] using ih

/-- The part of a value before the first comma is a dash if the value is one, or goes on with a
comma behind one. -/
theorem takeWhile_eq_dash_iff {value : List Char} :
    value.takeWhile (· ≠ ',') = ['-'] ↔ value = ['-'] ∨ ['-', ','] <+: value := by
  constructor
  · intro h
    have hvalue := List.takeWhile_append_dropWhile (p := fun c => decide (c ≠ ',')) (l := value)
    rw [h] at hvalue
    cases hrest : value.dropWhile (· ≠ ',') with
    | nil => exact Or.inl (by rw [← hvalue, hrest]; rfl)
    | cons c rest =>
      have hc := List.head?_dropWhile_not (fun c => decide (c ≠ ',')) value
      rw [hrest] at hc
      have hcomma : c = ',' := by simpa using hc
      exact Or.inr ⟨rest, by rw [← hvalue, hrest, hcomma]; rfl⟩
  · rintro (rfl | ⟨rest, rfl⟩) <;> rfl

/-- What is read from a value, part by part. -/
theorem ofValue_eq (value : List Char) :
    FieldTag.ofValue value
      = { jsonName :=
            if value.takeWhile (· ≠ ',') = [] ∨ value.takeWhile (· ≠ ',') = ['-'] then none
            else some (String.ofList (value.takeWhile (· ≠ ',')))
          omitEmpty := decide ("omitempty".toList ∈ (pieces ',' value).tail)
          skip := decide (value.takeWhile (· ≠ ',') = ['-']) } := by
  have hany : (pieces ',' value).tail.any (· == "omitempty".toList)
      = decide ("omitempty".toList ∈ (pieces ',' value).tail) := by
    rw [List.any_beq', List.contains_eq_mem]
  simp only [FieldTag.ofValue, headD_pieces, hany]
  rw [beq_eq_decide]

namespace ConventionalTag

variable {t : ConventionalTag} {f : Field}

/-- A value is read as Go reads it exactly when it does not go on behind a dash and a comma. -/
theorem describes_iff_of_ofValue {value : List Char} (hvalue : t.jsonValue? = some value)
    (hf : FieldTag.mk f.jsonName f.omitEmpty f.skip = FieldTag.ofValue value) :
    t.Describes f ↔ ¬ ['-', ','] <+: value := by
  rw [ofValue_eq, FieldTag.mk.injEq] at hf
  obtain ⟨hname, hempty, hskip⟩ := hf
  have hskip_iff : f.skip = true ↔ value = ['-'] ∨ ['-', ','] <+: value := by
    rw [hskip, decide_eq_true_eq, takeWhile_eq_dash_iff]
  constructor
  · intro h hcomma
    have hdash := h.skip.1 (hskip_iff.2 (Or.inr hcomma))
    obtain rfl : value = ['-'] := Option.some.inj (hvalue.symm.trans hdash)
    exact absurd hcomma (by decide)
  · intro hcomma
    refine ⟨?_, fun v hv hdash => ?_, fun v hv _ => ?_, fun hnone => ?_⟩
    · rw [hskip_iff, hvalue, Option.some.injEq, or_iff_left hcomma]
    · obtain rfl : value = v := Option.some.inj (hvalue.symm.trans hv)
      have hfirst : value.takeWhile (· ≠ ',') ≠ ['-'] := fun h =>
        (takeWhile_eq_dash_iff.1 h).elim hdash hcomma
      rw [hname]
      simp only [hfirst, or_false]
    · obtain rfl : value = v := Option.some.inj (hvalue.symm.trans hv)
      rw [hempty, decide_eq_true_eq]
    · rw [hvalue] at hnone
      cases hnone

/-- Nothing is read without a value. -/
theorem describes_of_none (hvalue : t.jsonValue? = none)
    (hf : FieldTag.mk f.jsonName f.omitEmpty f.skip = {}) : t.Describes f := by
  obtain ⟨hname, hempty, hskip⟩ := (FieldTag.mk.injEq ..).mp hf
  refine ⟨?_, fun v hv => ?_, fun v hv => ?_, fun _ => ⟨hname, hempty⟩⟩
  · simp [hskip, hvalue]
  all_goals
    rw [hvalue] at hv
    cases hv

end ConventionalTag

/-- **Tags as Go reads them.** The lines that are read as a field are a name, a type expression, a
tag and a comment with blanks between them, where tag and comment may be missing. With a tag in the
conventional form such a line declares a field of its name and type, and what the tag says is read
from the value found behind the first `json:"`. Unless a pair in front of the first `json` key
misleads, this is the value of that key; and where it is, the field is as Go reads the tag exactly
when the value does not go on behind a dash and a comma. -/
theorem conventional_tags (line : List Char) (l : FieldLine) (t : ConventionalTag) :
    ((field? line).isSome = true
        ↔ ∃ (read : FieldLine) (tag : Option (List Char)),
          (∀ text, tag = some text → backQuote ∉ text) ∧ line = read.chars tag)
      ∧ ∃ f, field? (l.chars (some t.text)) = some f
        ∧ f.name = l.name.text ∧ f.type = String.ofList l.type
        ∧ FieldTag.mk f.jsonName f.omitEmpty f.skip
          = ((foundValue? t.pairs).map FieldTag.ofValue).getD {}
        ∧ (¬ t.Misleads → foundValue? t.pairs = t.jsonValue?)
        ∧ (foundValue? t.pairs = t.jsonValue? →
          (t.Describes f ↔ ∀ value, t.jsonValue? = some value → ¬ ['-', ','] <+: value)) := by
  refine ⟨isSome_field?_iff, ?_⟩
  have hquote : ∀ u, some t.text = some u → backQuote ∉ u := fun u hu =>
    Option.some.inj hu ▸ t.backQuote_not_mem_text
  have htag : FieldTag.mk (l.declared (some t.text)).jsonName (l.declared (some t.text)).omitEmpty
      (l.declared (some t.text)).skip = ((foundValue? t.pairs).map FieldTag.ofValue).getD {} := by
    rw [← t.jsonValue?_text]
    rfl
  refine ⟨_, l.field?_chars hquote, rfl, rfl, htag, t.foundValue?_eq, fun hfound => ?_⟩
  rw [hfound] at htag
  cases hvalue : t.jsonValue? with
  | none =>
    rw [hvalue] at htag
    simp [ConventionalTag.describes_of_none hvalue htag]
  | some value =>
    rw [hvalue] at htag
    rw [ConventionalTag.describes_iff_of_ofValue hvalue htag]
    simp

/-- A name in JSON that is a dash leaves the field out, the value of a key that ends in `json` is
taken for the name, and so is what stands behind a value that ends in `json:`. -/
theorem misread_tags :
    let dashComma : ConventionalTag :=
      ⟨[⟨0, "json".toList, "-,".toList, by decide, by simp [backQuote], by simp [backQuote]⟩], 0⟩
    let otherKey : ConventionalTag :=
      ⟨[⟨0, "xjson".toList, "owner".toList, by decide, by simp [backQuote], by simp [backQuote]⟩],
        0⟩
    let value : ConventionalTag :=
      ⟨[⟨0, "form".toList, "json:".toList, by decide, by simp [backQuote], by simp [backQuote]⟩,
        ⟨1, "json".toList, "age".toList, by decide, by simp [backQuote], by simp [backQuote]⟩], 0⟩
    let line (t : ConventionalTag) : List Char := "A int ".toList ++ tagText (some t.text)
    let field (jsonName : Option String) (skip : Bool) : Field :=
      ⟨"A", "int", jsonName, false, skip, ""⟩
    (field? (line dashComma) = some (field none true) ∧ ¬ dashComma.Describes (field none true))
      ∧ (field? (line otherKey) = some (field (some "owner") false)
        ∧ ¬ otherKey.Describes (field (some "owner") false))
      ∧ field? (line value) = some (field (some " json:") false)
        ∧ ¬ value.Describes (field (some " json:") false) := by
  intro dashComma otherKey value line field
  refine ⟨⟨by decide +kernel, fun h => ?_⟩, ⟨by decide +kernel, fun h => ?_⟩, by decide +kernel,
    fun h => ?_⟩
  · exact absurd (h.skip.1 rfl) (by decide)
  · exact absurd (h.absent (by decide)).1 (by decide)
  · exact absurd (h.jsonName "age".toList (by decide) (by decide)) (by decide)

end ApiDocs.GoSource
