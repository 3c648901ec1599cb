import ApiDocs.Annotations.General
import ApiDocs.Proofs.Text.Trimming

/-!
# Descriptions with a path in brackets

Which values of an annotation are a description and a path in brackets, as a shape of the text
(`DescribedPath`). The reader tries one opening bracket after the other and takes the first that is
closed for the first time at the end of the value, so an opening bracket in the description is
closed before (`reference?_eq_some_iff`).
-/

set_option autoImplicit false

namespace ApiDocs.Annotations

open Text (Stops isBlank stops_cons)

/-- A text in which every opening bracket has a closing one behind it. -/
def IsClosed (s : List Char) : Prop :=
  ∀ before behind, s = before ++ '[' :: behind → ']' ∈ behind

/-- What can be written for a reference to a group: a description on one line, blanks, a path
between brackets, and blanks. Opening brackets may stand in the path; in front of it each of them
has a closing one behind it. -/
structure DescribedPath where
  description : List Char
  gap : List Char
  inner : List Char
  rest : List Char
  stops_description : Stops isBlank description.reverse
  not_mem_description : '\n' ∉ description
  isBlank_gap : ∀ c ∈ gap, isBlank c = true
  isClosed : IsClosed (description ++ gap)
  inner_ne_nil : inner ≠ []
  not_mem_inner : ']' ∉ inner
  isBlank_rest : ∀ c ∈ rest, isBlank c = true

namespace DescribedPath

/-- The whole value of the annotation. -/
def value (p : DescribedPath) : List Char :=
  p.description ++ p.gap ++ '[' :: (p.inner ++ ']' :: p.rest)

/-- The reference that is meant. -/
def reference (p : DescribedPath) : ResourceReference :=
  ⟨String.ofList (Text.trim p.inner), String.ofList p.description⟩

end DescribedPath

variable {s inner description path : List Char}

theorem bracketedEnd?_eq_some_iff :
    bracketedEnd? s = some inner
      ↔ ∃ rest, s = inner ++ ']' :: rest ∧ inner ≠ [] ∧ ']' ∉ inner ∧
          ∀ c ∈ rest, isBlank c = true := by
  unfold bracketedEnd?
  constructor
  · intro h
    simp only at h
    split at h
    · next rest hrest =>
      split at h
      · next hcond =>
        cases h
        refine ⟨rest, ?_, hcond.1, fun hmem => ?_, List.all_eq_true.1 hcond.2⟩
        · rw [← hrest]
          exact List.takeWhile_append_dropWhile.symm
        · simpa using List.mem_takeWhile_imp hmem
      · cases h
    · cases h
  · rintro ⟨rest, rfl, hne, hclosed, hblank⟩
    simp only [Text.takeWhile_ne_append hclosed, Text.dropWhile_ne_append hclosed]
    exact if_pos ⟨hne, List.all_eq_true.2 hblank⟩

/-- A bracket that is closed before the path opens does not open it. -/
theorem bracketedEnd?_eq_none {skipped rest : List Char} (h : ']' ∈ skipped) :
    bracketedEnd? (skipped ++ '[' :: rest) = none := by
  rw [Option.eq_none_iff_forall_ne_some]
  intro inner hsome
  obtain ⟨last, hs, -, hclosed, hblank⟩ := bracketedEnd?_eq_some_iff.1 hsome
  -- the first closing bracket is among what is skipped, so an opening one is behind it
  rcases List.append_eq_append_iff.1 hs with ⟨more, rfl, -⟩ | ⟨more, -, hlast⟩
  · exact hclosed (List.mem_append_left more h)
  · have hopen : '[' ∈ ']' :: last := by
      rw [hlast]
      simp
    rcases List.mem_cons.1 hopen with heq | hmem
    · exact absurd heq (by decide)
    · exact absurd (hblank _ hmem) (by decide)

/-! ## The search for the bracket that opens the path -/

theorem isClosed_nil : IsClosed [] := by
  intro before behind h
  simp at h

theorem isClosed_cons {c : Char} (hs : IsClosed s) (hc : c = '[' → ']' ∈ s) :
    IsClosed (c :: s) := by
  intro before behind h
  cases before with
  | nil =>
    obtain ⟨rfl, rfl⟩ := List.cons.inj h
    exact hc rfl
  | cons d before =>
    obtain ⟨rfl, hrest⟩ := List.cons.inj h
    exact hs before behind hrest

theorem IsClosed.of_cons {c : Char} (h : IsClosed (c :: s)) : IsClosed s ∧ (c = '[' → ']' ∈ s) := by
  constructor
  · rintro before behind rfl
    exact h (c :: before) behind rfl
  · rintro rfl
    exact h [] s rfl

/-- Closed brackets are passed over. -/
theorem splitReference?_append {skipped rest : List Char} (before : List Char)
    (hskipped : IsClosed skipped) (hne : inner ≠ []) (hclosed : ']' ∉ inner)
    (hblank : ∀ c ∈ rest, isBlank c = true) :
    splitReference? before (skipped ++ '[' :: (inner ++ ']' :: rest))
      = if '\n' ∈ Text.dropEndWhile isBlank (before ++ skipped) then none
        else some (Text.dropEndWhile isBlank (before ++ skipped), Text.trim inner) := by
  induction skipped generalizing before with
  | nil =>
    have hopens : bracketedEnd? (inner ++ ']' :: rest) = some inner :=
      bracketedEnd?_eq_some_iff.2 ⟨rest, rfl, hne, hclosed, hblank⟩
    rw [List.nil_append, splitReference?, if_pos rfl, hopens, List.append_nil]
  | cons c skipped ih =>
    obtain ⟨hskipped, hc⟩ := hskipped.of_cons
    have hopens : (if c = '[' then bracketedEnd? (skipped ++ '[' :: (inner ++ ']' :: rest))
        else none) = none := by
      split
      · next heq => exact bracketedEnd?_eq_none (hc heq)
      · rfl
    rw [List.cons_append, splitReference?, hopens]
    simp only
    rw [ih (before ++ [c]) hskipped, List.append_assoc, List.singleton_append]

/-- Whatever is found stands behind closed brackets, at the end of the text. -/
theorem exists_of_splitReference? {before : List Char} {found : List Char × List Char}
    (h : splitReference? before s = some found) :
    ∃ skipped inner rest, s = skipped ++ '[' :: (inner ++ ']' :: rest) ∧ IsClosed skipped ∧
      inner ≠ [] ∧ ']' ∉ inner ∧ ∀ c ∈ rest, isBlank c = true := by
  induction s generalizing before with
  | nil => cases h
  | cons c s ih =>
    unfold splitReference? at h
    cases hopens : if c = '[' then bracketedEnd? s else none with
    | some inner =>
      by_cases hc : c = '['
      · subst hc
        rw [if_pos rfl] at hopens
        obtain ⟨rest, rfl, hend⟩ := bracketedEnd?_eq_some_iff.1 hopens
        exact ⟨[], inner, rest, rfl, isClosed_nil, hend⟩
      · rw [if_neg hc] at hopens
        cases hopens
    | none =>
      rw [hopens] at h
      obtain ⟨skipped, inner, rest, rfl, hskipped, hne, hclosed, hblank⟩ := ih h
      refine ⟨c :: skipped, inner, rest, rfl, isClosed_cons hskipped fun hc => ?_, hne, hclosed,
        hblank⟩
      -- an opening bracket that nothing closes before would have opened the path
      by_contra hopen
      have hfound : bracketedEnd? (skipped ++ '[' :: (inner ++ ']' :: rest))
          = some (skipped ++ '[' :: inner) := by
        refine bracketedEnd?_eq_some_iff.2 ⟨rest, by simp, by simp, ?_, hblank⟩
        simp [hopen, hclosed]
      rw [if_pos hc, hfound] at hopens
      cases hopens

theorem reference?_value (p : DescribedPath) : reference? p.value = some p.reference := by
  have hdescription : Text.dropEndWhile isBlank (p.description ++ p.gap) = p.description :=
    Text.dropEndWhile_eq_iff.2 ⟨p.gap, rfl, p.isBlank_gap, p.stops_description⟩
  unfold reference? DescribedPath.value
  rw [splitReference?_append [] p.isClosed p.inner_ne_nil p.not_mem_inner p.isBlank_rest,
    List.nil_append, hdescription, if_neg p.not_mem_description]
  rfl

/-- A value is a reference exactly if it is a description with a path in brackets. -/
theorem reference?_eq_some_iff {value : List Char} {r : ResourceReference} :
    reference? value = some r ↔ ∃ p : DescribedPath, p.value = value ∧ p.reference = r := by
  constructor
  · intro h
    obtain ⟨found, hfound, rfl⟩ := Option.map_eq_some_iff.1 h
    obtain ⟨skipped, inner, rest, rfl, hskipped, hne, hclosed, hblank⟩ :=
      exists_of_splitReference? hfound
    rw [splitReference?_append [] hskipped hne hclosed hblank, List.nil_append] at hfound
    obtain ⟨gap, hgap, hblanks, hstops⟩ :=
      Text.dropEndWhile_eq_iff.1 (rfl : Text.dropEndWhile isBlank skipped = _)
    split at hfound
    · cases hfound
    · next hnewline =>
      cases hfound
      refine ⟨{
        description := Text.dropEndWhile isBlank skipped
        gap, inner, rest
        stops_description := hstops
        not_mem_description := hnewline
        isBlank_gap := hblanks
        isClosed := hgap ▸ hskipped
        inner_ne_nil := hne
        not_mem_inner := hclosed
        isBlank_rest := hblank }, ?_, rfl⟩
      exact congrArg (· ++ '[' :: (inner ++ ']' :: rest)) hgap.symm
  · rintro ⟨p, rfl, rfl⟩
    exact reference?_value p

end ApiDocs.Annotations
