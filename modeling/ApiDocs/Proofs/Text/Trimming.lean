import ApiDocs.Proofs.Text.Runs
import Mathlib.Data.List.Induction

/-!
# Trimming at both ends

Taking the characters of a class off both ends leaves a text with none of them there (`Bare`), and
changes only texts that are not like this already. So trimming once is enough, and whatever it
changes gets shorter. Trimming by a wider class afterwards makes up for having trimmed by a narrower
one (`trimWhile_trimWhile_of_imp`).
-/

set_option autoImplicit false

namespace ApiDocs.Text

variable {p : Char → Bool} {s : List Char}

/-- A text without a character of the class at either end. -/
def Bare (p : Char → Bool) (s : List Char) : Prop :=
  Stops p s ∧ Stops p s.reverse

theorem stops_of_isPrefix {start : List Char} (hstart : start <+: s) (hs : Stops p s) :
    Stops p start := by
  intro c hc
  obtain ⟨rest, rfl⟩ := hstart
  apply hs
  rw [List.head?_append, hc, Option.some_or]

theorem dropWhile_eq_self_iff : s.dropWhile p = s ↔ Stops p s := by
  constructor
  · intro h
    rw [← h]
    exact stops_dropWhile p s
  · exact dropWhile_of_stops

theorem dropEndWhile_eq_self_iff : dropEndWhile p s = s ↔ Stops p s.reverse := by
  unfold dropEndWhile
  rw [List.reverse_eq_iff, dropWhile_eq_self_iff]

/-- What is dropped from the end is a run of the class, as long as it can be. -/
theorem dropEndWhile_eq_iff {t : List Char} :
    dropEndWhile p s = t ↔ ∃ run, s = t ++ run ∧ (∀ c ∈ run, p c = true) ∧ Stops p t.reverse := by
  unfold dropEndWhile
  constructor
  · rintro rfl
    refine ⟨(s.reverse.takeWhile p).reverse, ?_, fun c hc => ?_, ?_⟩
    · rw [← List.reverse_append, List.takeWhile_append_dropWhile, List.reverse_reverse]
    · exact List.mem_takeWhile_imp (List.mem_reverse.1 hc)
    · rw [List.reverse_reverse]
      exact stops_dropWhile p _
  · rintro ⟨run, rfl, hrun, hstops⟩
    have hreverse : ∀ c ∈ run.reverse, p c = true := fun c hc => hrun c (List.mem_reverse.1 hc)
    rw [List.reverse_append, dropWhile_run_append hreverse hstops, List.reverse_reverse]

theorem length_dropEndWhile_le (p : Char → Bool) (s : List Char) :
    (dropEndWhile p s).length ≤ s.length :=
  (dropEndWhile_isPrefix p s).length_le

theorem length_trimWhile_le (p : Char → Bool) (s : List Char) :
    (trimWhile p s).length ≤ s.length := by
  have hstart : (s.dropWhile p).length ≤ s.length := (List.dropWhile_sublist p).length_le
  have hend := length_dropEndWhile_le p (s.dropWhile p)
  unfold trimWhile
  omega

theorem bare_trimWhile (p : Char → Bool) (s : List Char) : Bare p (trimWhile p s) := by
  unfold trimWhile
  constructor
  · exact stops_of_isPrefix (dropEndWhile_isPrefix p _) (stops_dropWhile p s)
  · unfold dropEndWhile
    rw [List.reverse_reverse]
    exact stops_dropWhile p _

theorem trimWhile_eq_self_iff : trimWhile p s = s ↔ Bare p s := by
  constructor
  · intro h
    rw [← h]
    exact bare_trimWhile p s
  · rintro ⟨hstart, hend⟩
    unfold trimWhile
    rw [dropWhile_of_stops hstart, dropEndWhile_eq_self_iff.2 hend]

/-- What trimming changes gets shorter. -/
theorem length_trimWhile_lt (h : ¬ Bare p s) : (trimWhile p s).length < s.length := by
  refine Nat.lt_of_le_of_ne (length_trimWhile_le p s) fun hlen => h ?_
  have hsublist : (trimWhile p s).Sublist s :=
    (dropEndWhile_isPrefix p _).sublist.trans (List.dropWhile_sublist p)
  exact trimWhile_eq_self_iff.1 (hsublist.eq_of_length hlen)

theorem length_dropEndWhile_lt (h : ¬ Stops p s.reverse) :
    (dropEndWhile p s).length < s.length := by
  refine Nat.lt_of_le_of_ne (length_dropEndWhile_le p s) fun hlen => h ?_
  exact dropEndWhile_eq_self_iff.1 ((dropEndWhile_isPrefix p s).eq_of_length hlen)

/-! ## Texts made of bare texts -/

theorem Stops.append (hs : Stops p s) (hne : s ≠ []) (rest : List Char) : Stops p (s ++ rest) := by
  cases s with
  | nil => exact absurd rfl hne
  | cons c s => exact stops_cons.2 (stops_cons.1 hs)

theorem Bare.append {t : List Char} (hs : Bare p s) (ht : Bare p t) (hne : s ≠ []) (hne' : t ≠ [])
    (between : List Char) : Bare p (s ++ between ++ t) := by
  constructor
  · rw [List.append_assoc]
    exact hs.1.append hne _
  · rw [List.reverse_append]
    exact ht.2.append (fun hnil => hne' (List.reverse_eq_nil_iff.1 hnil)) _

theorem bare_intercalate {sep : List Char} {items : List (List Char)}
    (hitems : ∀ s ∈ items, s ≠ [] ∧ Bare p s) :
    Bare p (sep.intercalate items) ∧ (items ≠ [] → sep.intercalate items ≠ []) := by
  induction items with
  | nil => exact ⟨⟨stops_nil p, stops_nil p⟩, fun hne => absurd rfl hne⟩
  | cons first others ih =>
    obtain ⟨hne, hfirst⟩ := hitems first List.mem_cons_self
    cases others with
    | nil =>
      rw [List.intercalate_singleton]
      exact ⟨hfirst, fun _ => hne⟩
    | cons second others =>
      obtain ⟨hothers, hne'⟩ := ih fun s hs => hitems s (List.mem_cons_of_mem first hs)
      rw [List.intercalate_cons_cons]
      refine ⟨hfirst.append hothers hne (hne' (List.cons_ne_nil _ _)) sep, fun _ hnil => hne ?_⟩
      exact (List.append_eq_nil_iff.1 (List.append_eq_nil_iff.1 hnil).1).1

/-! ## Two classes -/

variable {q : Char → Bool}

theorem stops_or_iff : Stops (fun c => p c || q c) s ↔ Stops p s ∧ Stops q s := by
  constructor
  · intro h
    exact ⟨fun c hc => (Bool.or_eq_false_iff.1 (h c hc)).1,
      fun c hc => (Bool.or_eq_false_iff.1 (h c hc)).2⟩
  · rintro ⟨hp, hq⟩ c hc
    exact Bool.or_eq_false_iff.2 ⟨hp c hc, hq c hc⟩

theorem bare_or_iff : Bare (fun c => p c || q c) s ↔ Bare p s ∧ Bare q s := by
  unfold Bare
  rw [stops_or_iff, stops_or_iff, and_and_and_comm]

theorem dropEndWhile_concat_of_pos {c : Char} (hc : p c = true) (s : List Char) :
    dropEndWhile p (s ++ [c]) = dropEndWhile p s := by
  unfold dropEndWhile
  rw [List.reverse_concat, List.dropWhile_cons_of_pos hc]

theorem dropEndWhile_concat_of_neg {c : Char} (hc : p c = false) (s : List Char) :
    dropEndWhile p (s ++ [c]) = s ++ [c] := by
  rw [dropEndWhile_eq_self_iff, List.reverse_concat]
  exact stops_cons.2 hc

theorem trimWhile_concat_of_pos {c : Char} (hc : p c = true) (s : List Char) :
    trimWhile p (s ++ [c]) = trimWhile p s := by
  unfold trimWhile
  rw [List.dropWhile_append]
  split
  · next h =>
    rw [List.isEmpty_iff.1 h, List.dropWhile_cons_of_pos hc]
    rfl
  · exact dropEndWhile_concat_of_pos hc _

theorem dropWhile_dropWhile_of_imp (hpq : ∀ c, p c = true → q c = true) (s : List Char) :
    (s.dropWhile p).dropWhile q = s.dropWhile q := by
  induction s with
  | nil => rfl
  | cons c s ih =>
    cases hp : p c with
    | false => rw [List.dropWhile_cons_of_neg (by simp [hp])]
    | true => rw [List.dropWhile_cons_of_pos hp, ih, List.dropWhile_cons_of_pos (hpq c hp)]

theorem trimWhile_dropEndWhile_of_imp (hpq : ∀ c, p c = true → q c = true) (s : List Char) :
    trimWhile q (dropEndWhile p s) = trimWhile q s := by
  induction s using List.reverseRecOn with
  | nil => rfl
  | append_singleton s c ih =>
    cases hp : p c with
    | false => rw [dropEndWhile_concat_of_neg hp]
    | true => rw [dropEndWhile_concat_of_pos hp, ih, trimWhile_concat_of_pos (hpq c hp)]

/-- Characters that a wider class takes off may as well be taken off before. -/
theorem trimWhile_trimWhile_of_imp (hpq : ∀ c, p c = true → q c = true) (s : List Char) :
    trimWhile q (trimWhile p s) = trimWhile q s := by
  rw [trimWhile.eq_1 p, trimWhile_dropEndWhile_of_imp hpq]
  unfold trimWhile
  rw [dropWhile_dropWhile_of_imp hpq]

end ApiDocs.Text
