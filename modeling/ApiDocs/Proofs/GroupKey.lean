import ApiDocs.GroupKey
import ApiDocs.Proofs.Text.Lines
import ApiDocs.Proofs.Text.Trimming
import Mathlib.Algebra.Order.BigOperators.Group.List
import Mathlib.Algebra.Order.Group.Nat

/-!
# Group keys and the texts that stand for them

A key is read by taking the blanks and then the slashes off the ends of a text. The slashes may
hide blanks, so a key never has a slash at an end but may have a blank there; it has none (`IsTight`)
exactly if taking off both kinds together leaves the same (`isTight_iff_trimWhile_isEdge`). Between
slashes every key is read back. Alone it is read back exactly if it is tight, and behind a slash, as
a listing refers to it, exactly if it has no blank at its end (`EndsTight`); where it is not, it
stands for a shorter key or for none.
-/

set_option autoImplicit false

namespace ApiDocs

open Text

/-- A separator at the end opens one more piece, an empty one. -/
theorem Text.pieces_concat_sep (sep : Char) (s : List Char) :
    pieces sep (s ++ [sep]) = pieces sep s ++ [[]] :=
  pieces_append_cons sep s []

namespace GroupKey

variable {key : GroupKey} {raw : String}

/-- A key without a blank at either end. -/
def IsTight (key : GroupKey) : Prop :=
  Bare isBlank key.text.toList

/-- A key without a blank at its end. -/
def EndsTight (key : GroupKey) : Prop :=
  Stops isBlank key.text.toList.reverse

instance (key : GroupKey) : Decidable key.IsTight :=
  decidable_of_iff _ trimWhile_eq_self_iff

instance (key : GroupKey) : Decidable key.EndsTight :=
  decidable_of_iff _ dropEndWhile_eq_self_iff

/-! ## The characters at the ends -/

theorem nil_not_mem_pieces (key : GroupKey) : [] ∉ pieces '/' key.text.toList := by
  intro h
  have hsafe := List.all_eq_true.1 key.safe [] h
  simp [isSafeSegment] at hsafe

theorem toList_text_ne_nil (key : GroupKey) : key.text.toList ≠ [] := by
  intro h
  apply key.nil_not_mem_pieces
  rw [h]
  exact List.mem_singleton_self _

/-- A key has no slash at either end. -/
theorem bare_slash (key : GroupKey) : Bare (· == '/') key.text.toList := by
  constructor
  · intro c hc
    rw [beq_eq_false_iff_ne]
    rintro rfl
    obtain ⟨rest, hrest⟩ := List.head?_eq_some_iff.1 hc
    apply key.nil_not_mem_pieces
    rw [hrest, Text.pieces_cons, if_pos rfl]
    exact List.mem_cons_self
  · intro c hc
    rw [beq_eq_false_iff_ne]
    rintro rfl
    rw [List.head?_reverse] at hc
    obtain ⟨start, hstart⟩ := List.getLast?_eq_some_iff.1 hc
    apply key.nil_not_mem_pieces
    rw [hstart, pieces_concat_sep]
    exact List.mem_append_right _ (List.mem_singleton_self _)

/-! ## Reading a key -/

theorem eq_of_text_eq {a b : GroupKey} (h : a.text = b.text) : a = b :=
  TextKey.text_injective a b h

theorem parse_eq_ok_iff : parse raw = .ok key ↔ canonical raw = key.text := by
  unfold parse
  constructor
  · intro h
    by_cases hempty : canonical raw = ""
    · rw [if_pos hempty] at h
      simp at h
    · rw [if_neg hempty] at h
      by_cases hsafe : (pieces '/' (canonical raw).toList).all isSafeSegment = true
      · rw [dif_pos hsafe, Except.ok.injEq] at h
        rw [← h]
      · rw [dif_neg hsafe] at h
        simp at h
  · intro h
    have hne : canonical raw ≠ "" := by
      rw [h]
      intro hempty
      exact key.toList_text_ne_nil (by rw [hempty]; rfl)
    have hsafe : (pieces '/' (canonical raw).toList).all isSafeSegment = true := by
      rw [h]
      exact key.safe
    rw [if_neg hne, dif_pos hsafe, Except.ok.injEq]
    exact eq_of_text_eq h

theorem parse?_eq_some_iff : parse? raw = some key ↔ parse raw = .ok key := by
  unfold parse?
  cases parse raw with
  | error e => simp [Except.toOption]
  | ok k => simp [Except.toOption]

/-- What stands for a key, as characters. -/
theorem parse_eq_ok_iff_toList :
    parse raw = .ok key ↔ trimWhile (· == '/') (trim raw.toList) = key.text.toList := by
  rw [parse_eq_ok_iff]
  unfold canonical
  rw [← String.toList_inj, String.toList_ofList]

/-- Slashes and blanks, which have no place at the ends of a key. -/
def isEdge (c : Char) : Bool :=
  c == '/' || isBlank c

/-- A key is tight exactly if it is what is left when slashes and blanks are taken off together. -/
theorem isTight_iff_trimWhile_isEdge (h : parse raw = .ok key) :
    key.IsTight ↔ trimWhile isEdge raw.toList = key.text.toList := by
  have hslash : ∀ c, (c == '/') = true → isEdge c = true := fun c hc => by
    rw [isEdge, hc, Bool.true_or]
  have hblank : ∀ c, isBlank c = true → isEdge c = true := fun c hc => by
    rw [isEdge, hc, Bool.or_true]
  have hsame : trimWhile isEdge key.text.toList = trimWhile isEdge raw.toList := by
    rw [← parse_eq_ok_iff_toList.1 h, trimWhile_trimWhile_of_imp hslash, trim,
      trimWhile_trimWhile_of_imp hblank]
  have hbare : Bare isEdge key.text.toList ↔ key.IsTight := by
    unfold isEdge IsTight
    rw [bare_or_iff]
    exact and_iff_right key.bare_slash
  rw [← hbare, ← trimWhile_eq_self_iff, hsame]

/-- Between slashes a key is read back, whatever its ends are. -/
theorem parse_between_slashes (key : GroupKey) : parse ("/" ++ key.text ++ "/") = .ok key := by
  obtain ⟨hstart, hend⟩ := key.bare_slash
  have hchars : ("/" ++ key.text ++ "/").toList = '/' :: (key.text.toList ++ ['/']) := by
    simp
  have htrim : trim ('/' :: (key.text.toList ++ ['/'])) = '/' :: (key.text.toList ++ ['/']) := by
    rw [trim_cons (by decide), dropEndWhile_eq_self_iff.2]
    rw [List.reverse_append]
    exact stops_cons.2 (by decide)
  rw [parse_eq_ok_iff_toList, hchars, htrim]
  have hdrop : ('/' :: (key.text.toList ++ ['/'])).dropWhile (· == '/')
      = key.text.toList ++ ['/'] := by
    rw [List.dropWhile_cons_of_pos (by decide), dropWhile_eq_self_iff]
    intro c hc
    rw [List.head?_append_of_ne_nil _ key.toList_text_ne_nil] at hc
    exact hstart c hc
  unfold trimWhile
  rw [hdrop]
  unfold dropEndWhile
  rw [List.reverse_append, List.reverse_singleton, List.singleton_append,
    List.dropWhile_cons_of_pos (by decide), dropWhile_of_stops hend, List.reverse_reverse]

/-- Alone a key stands for one that is no longer, and for itself exactly if it is tight. -/
theorem parse_text_eq_self_iff : parse key.text = .ok key ↔ key.IsTight := by
  rw [parse_eq_ok_iff_toList]
  constructor
  · intro h
    by_contra htight
    have hlt : (trim key.text.toList).length < key.text.toList.length := length_trimWhile_lt htight
    have hle := length_trimWhile_le (· == '/') (trim key.text.toList)
    rw [h] at hle
    omega
  · intro htight
    have htrim : trim key.text.toList = key.text.toList := trimWhile_eq_self_iff.2 htight
    rw [htrim, trimWhile_eq_self_iff]
    exact key.bare_slash

theorem length_lt_of_parse_text {other : GroupKey} (h : parse key.text = .ok other)
    (htight : ¬ key.IsTight) : other.text.toList.length < key.text.toList.length := by
  have hlt : (trim key.text.toList).length < key.text.toList.length := length_trimWhile_lt htight
  have hle := length_trimWhile_le (· == '/') (trim key.text.toList)
  rw [parse_eq_ok_iff_toList.1 h] at hle
  omega

/-- Behind a slash only the end of a key is at stake. -/
theorem trimWhile_trim_resourcePath (key : GroupKey) :
    trimWhile (· == '/') (trim key.resourcePath.toList)
      = trimWhile (· == '/') (dropEndWhile isBlank key.text.toList) := by
  have hchars : key.resourcePath.toList = '/' :: key.text.toList := by
    simp [resourcePath]
  rw [hchars, trim_cons (by decide)]
  unfold trimWhile
  rw [List.dropWhile_cons_of_pos (by decide)]

theorem parse_resourcePath_eq_self_iff : parse key.resourcePath = .ok key ↔ key.EndsTight := by
  rw [parse_eq_ok_iff_toList, trimWhile_trim_resourcePath]
  constructor
  · intro h
    by_contra htight
    have hlt : (dropEndWhile isBlank key.text.toList).length < key.text.toList.length :=
      length_dropEndWhile_lt htight
    have hle := length_trimWhile_le (· == '/') (dropEndWhile isBlank key.text.toList)
    rw [h] at hle
    omega
  · intro htight
    rw [dropEndWhile_eq_self_iff.2 htight, trimWhile_eq_self_iff]
    exact key.bare_slash

theorem length_lt_of_parse_resourcePath {other : GroupKey}
    (h : parse key.resourcePath = .ok other) (htight : ¬ key.EndsTight) :
    other.text.toList.length < key.text.toList.length := by
  have hlt : (dropEndWhile isBlank key.text.toList).length < key.text.toList.length :=
    length_dropEndWhile_lt htight
  have hle := length_trimWhile_le (· == '/') (dropEndWhile isBlank key.text.toList)
  rw [parse_eq_ok_iff_toList, trimWhile_trim_resourcePath] at h
  rw [h] at hle
  omega

/-- Behind a slash a key stands for a part of itself, from the start on. -/
theorem isPrefix_of_parse_resourcePath {other : GroupKey}
    (h : parse key.resourcePath = .ok other) : other.text.toList <+: key.text.toList := by
  have hcut : dropEndWhile isBlank key.text.toList <+: key.text.toList :=
    dropEndWhile_isPrefix isBlank _
  rw [parse_eq_ok_iff_toList, trimWhile_trim_resourcePath, trimWhile,
    dropWhile_of_stops (stops_of_isPrefix hcut key.bare_slash.1)] at h
  rw [← h]
  exact (dropEndWhile_isPrefix _ _).trans hcut

/-- Among the members of a list there is a longest one of a kind, if there is one at all. -/
theorem forall_not_of_longer {α : Type} {l : List α} {size : α → Nat} {P : α → Prop}
    (h : ∀ a ∈ l, P a → ∃ b ∈ l, P b ∧ size a < size b) : ∀ a ∈ l, ¬ P a := by
  have hbound : ∀ a ∈ l, size a ≤ (l.map size).sum := fun a ha =>
    List.le_sum_of_mem (List.mem_map_of_mem ha)
  suffices hgap : ∀ gap, ∀ a ∈ l, P a → (l.map size).sum - size a ≠ gap from
    fun a ha hP => hgap _ a ha hP rfl
  intro gap
  induction gap using Nat.strong_induction_on with
  | _ gap ih =>
    rintro a ha hP rfl
    obtain ⟨b, hb, hPb, hlt⟩ := h a ha hP
    have hle := hbound b hb
    exact ih _ (by omega) b hb hPb rfl

end GroupKey

end ApiDocs
