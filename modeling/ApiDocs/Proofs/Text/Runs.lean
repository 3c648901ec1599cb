import ApiDocs.Text.Runs
import ApiDocs.Text.Word
import Mathlib.Data.List.Basic
import Mathlib.Data.List.TakeWhile

/-!
# Runs at the start of a text and blanks at its ends

What the readers of runs give on a text that is a run followed by something else: exactly the run
and exactly the rest, provided that the rest does not go on with the run (`Stops`). Trimming is
described the same way, by what it does to the last and the first character.

Words and digits exclude blanks (`isBlank_of_isWord`, `isBlank_of_isDigit`): none of the twenty-five
blanks lies in a range of word characters or of digits.
-/

set_option autoImplicit false

namespace ApiDocs.Text

/-! ## Runs -/

/-- A text that does not start with a character of the class. -/
def Stops (p : Char → Bool) (s : List Char) : Prop :=
  ∀ c, s.head? = some c → p c = false

@[simp]
theorem stops_nil (p : Char → Bool) : Stops p [] := by
  intro c h
  simp at h

@[simp]
theorem stops_cons {p : Char → Bool} {c : Char} {s : List Char} :
    Stops p (c :: s) ↔ p c = false := by
  constructor
  · intro h
    exact h c rfl
  · intro h d hd
    cases hd
    exact h

/-- A text stops a class if it starts with a nonempty part outside of the class. -/
theorem stops_append {p : Char → Bool} {s : List Char} (hne : s ≠ [])
    (hs : ∀ c ∈ s, p c = false) (rest : List Char) : Stops p (s ++ rest) := by
  cases s with
  | nil => exact absurd rfl hne
  | cons c s => exact stops_cons.2 (hs c List.mem_cons_self)

theorem stops_of_not_mem {c : Char} {s : List Char} (h : c ∉ s) : Stops (· == c) s := by
  intro d hd
  exact beq_eq_false_iff_ne.2 (ne_of_mem_of_not_mem (List.mem_of_head? hd) h)

/-- A run is taken whole, and nothing of what stops it. -/
theorem takeWhile_run_append {p : Char → Bool} {run rest : List Char}
    (hrun : ∀ c ∈ run, p c = true) (hrest : Stops p rest) :
    (run ++ rest).takeWhile p = run := by
  rw [List.takeWhile_append_of_pos hrun]
  cases rest with
  | nil => simp
  | cons c rest => simp [stops_cons.1 hrest]

theorem dropWhile_run_append {p : Char → Bool} {run rest : List Char}
    (hrun : ∀ c ∈ run, p c = true) (hrest : Stops p rest) :
    (run ++ rest).dropWhile p = rest := by
  rw [List.dropWhile_append_of_pos hrun]
  cases rest with
  | nil => simp
  | cons c rest => simp [stops_cons.1 hrest]

/-- A text is taken up to the first mark. -/
theorem takeWhile_ne_append {mark : Char} {s : List Char} (hs : mark ∉ s) (rest : List Char) :
    (s ++ mark :: rest).takeWhile (· ≠ mark) = s :=
  takeWhile_run_append (fun _ hc => decide_eq_true (ne_of_mem_of_not_mem hc hs))
    (stops_cons.2 (by simp))

theorem dropWhile_ne_append {mark : Char} {s : List Char} (hs : mark ∉ s) (rest : List Char) :
    (s ++ mark :: rest).dropWhile (· ≠ mark) = mark :: rest :=
  dropWhile_run_append (fun _ hc => decide_eq_true (ne_of_mem_of_not_mem hc hs))
    (stops_cons.2 (by simp))

theorem dropWhile_of_stops {p : Char → Bool} {s : List Char} (h : Stops p s) :
    s.dropWhile p = s := by
  have hnone : ∀ c ∈ ([] : List Char), p c = true := by simp
  exact dropWhile_run_append hnone h

theorem stops_dropWhile (p : Char → Bool) (s : List Char) : Stops p (s.dropWhile p) := by
  intro c hc
  have hhead := List.head?_dropWhile_not p s
  rw [hc] at hhead
  exact hhead

/-- What comes first behind a run is in the part of the text that has something outside of the
class. -/
theorem head?_dropWhile_append {p : Char → Bool} {s : List Char} (h : ∃ c ∈ s, p c = false)
    (rest : List Char) : ∃ c ∈ s, ((s ++ rest).dropWhile p).head? = some c := by
  induction s with
  | nil => simp at h
  | cons d s ih =>
    cases hd : p d with
    | false => exact ⟨d, List.mem_cons_self, by simp [hd]⟩
    | true =>
      have hs : ∃ c ∈ s, p c = false := by simpa [hd] using h
      obtain ⟨c, hc, hhead⟩ := ih hs
      exact ⟨c, List.mem_cons_of_mem d hc, by simpa [hd] using hhead⟩

@[simp]
theorem isPrefixOf?_append (word rest : List Char) :
    word.isPrefixOf? (word ++ rest) = some rest :=
  List.isPrefixOf?_eq_some_iff_append_eq.2 rfl

theorem takeWhile1?_run_append {p : Char → Bool} {run rest : List Char} (hne : run ≠ [])
    (hrun : ∀ c ∈ run, p c = true) (hrest : Stops p rest) :
    takeWhile1? p (run ++ rest) = some (run, rest) := by
  simp [takeWhile1?, takeWhile_run_append hrun hrest, dropWhile_run_append hrun hrest, hne]

theorem ne_nil_of_takeWhile1? {p : Char → Bool} {s : List Char} {taken : List Char × List Char}
    (h : takeWhile1? p s = some taken) : taken.1 ≠ [] := by
  simp only [takeWhile1?] at h
  split at h
  · simp at h
  · next hne =>
    cases h
    exact hne

theorem dropBlanks1?_run_append {run rest : List Char} (hne : run ≠ [])
    (hrun : ∀ c ∈ run, isBlank c = true) (hrest : Stops isBlank rest) :
    dropBlanks1? (run ++ rest) = some rest := by
  simp [dropBlanks1?, takeWhile1?_run_append hne hrun hrest]

/-- A run is taken exactly if it is not empty and what follows does not go on with it. -/
theorem takeWhile1?_eq_some_iff {p : Char → Bool} {s run rest : List Char} :
    takeWhile1? p s = some (run, rest)
      ↔ s = run ++ rest ∧ run ≠ [] ∧ (∀ c ∈ run, p c = true) ∧ Stops p rest := by
  constructor
  · intro h
    have hne := ne_nil_of_takeWhile1? h
    unfold takeWhile1? at h
    simp only at h
    split at h
    · cases h
    · cases h
      exact ⟨List.takeWhile_append_dropWhile.symm, hne, fun _ => List.mem_takeWhile_imp,
        stops_dropWhile p s⟩
  · rintro ⟨rfl, hne, hrun, hrest⟩
    exact takeWhile1?_run_append hne hrun hrest

theorem dropBlanks1?_eq_some_iff {s rest : List Char} :
    dropBlanks1? s = some rest
      ↔ ∃ blanks, s = blanks ++ rest ∧ blanks ≠ [] ∧ (∀ c ∈ blanks, isBlank c = true)
          ∧ Stops isBlank rest := by
  unfold dropBlanks1?
  rw [Option.map_eq_some_iff]
  constructor
  · rintro ⟨⟨blanks, after⟩, htake, rfl⟩
    exact ⟨blanks, takeWhile1?_eq_some_iff.1 htake⟩
  · rintro ⟨blanks, h⟩
    exact ⟨(blanks, rest), takeWhile1?_eq_some_iff.2 h, rfl⟩

theorem isBlank_of_mem_space {c : Char} (hc : c ∈ [' ']) : isBlank c = true := by
  obtain rfl := List.mem_singleton.1 hc
  decide

theorem dropBlanks1?_cons {rest : List Char} (hrest : Stops isBlank rest) :
    dropBlanks1? (' ' :: rest) = some rest :=
  dropBlanks1?_run_append (List.cons_ne_nil _ _) (fun _ => isBlank_of_mem_space) hrest

/-! ## Blanks at the ends -/

theorem dropEndWhile_isPrefix (p : Char → Bool) (s : List Char) : dropEndWhile p s <+: s := by
  unfold dropEndWhile
  rw [← List.reverse_suffix, List.reverse_reverse]
  exact List.dropWhile_suffix p

/-- Nothing before a character outside of the class is dropped from the end. -/
theorem dropEndWhile_cons {p : Char → Bool} {c : Char} (hc : p c = false) (s : List Char) :
    dropEndWhile p (c :: s) = c :: dropEndWhile p s := by
  unfold dropEndWhile
  rw [List.reverse_cons, List.dropWhile_append]
  cases hs : s.reverse.dropWhile p with
  | nil => simp [hc]
  | cons d rest => simp

/-- What stands before a text whose end does not consist of the class only stays. -/
theorem dropEndWhile_append {p : Char → Bool} {s : List Char} (hs : dropEndWhile p s ≠ [])
    (start : List Char) : dropEndWhile p (start ++ s) = start ++ dropEndWhile p s := by
  unfold dropEndWhile at hs ⊢
  rw [List.reverse_append, List.dropWhile_append]
  cases hd : s.reverse.dropWhile p with
  | nil => simp [hd] at hs
  | cons d rest => simp

theorem dropEndWhile_of_forall {p : Char → Bool} {s : List Char} (hs : ∀ c ∈ s, p c = false) :
    dropEndWhile p s = s := by
  induction s with
  | nil => rfl
  | cons c s ih =>
    have hrest : ∀ d ∈ s, p d = false := fun d hd => hs d (List.mem_cons_of_mem c hd)
    rw [dropEndWhile_cons (hs c List.mem_cons_self), ih hrest]

theorem trim_cons {c : Char} (hc : isBlank c = false) (s : List Char) :
    trim (c :: s) = c :: dropEndWhile isBlank s := by
  unfold trim trimWhile
  rw [dropWhile_of_stops (stops_cons.2 hc), dropEndWhile_cons hc]

theorem trim_blanks_append {blanks : List Char} (h : ∀ c ∈ blanks, isBlank c = true)
    (s : List Char) : trim (blanks ++ s) = trim s := by
  unfold trim trimWhile
  rw [List.dropWhile_append_of_pos h]

/-! ## Words and blanks -/

theorem not_mem_of_isBlank {s : List Char} (hs : ∀ c ∈ s, isBlank c = true) {c : Char}
    (hc : isBlank c = false) : c ∉ s := by
  intro h
  rw [hs c h] at hc
  cases hc

/-- The code points of the blanks. -/
def blankPoints : List Nat :=
  [9, 10, 11, 12, 13, 0x20, 0x85, 0xA0, 0x1680, 0x2000, 0x2001, 0x2002, 0x2003, 0x2004, 0x2005,
   0x2006, 0x2007, 0x2008, 0x2009, 0x200A, 0x2028, 0x2029, 0x202F, 0x205F, 0x3000]

theorem toNat_mem_blankPoints {c : Char} (h : isBlank c = true) : c.toNat ∈ blankPoints := by
  simp only [isBlank, Bool.or_eq_true, Bool.and_eq_true, decide_eq_true_eq, beq_iff_eq] at h
  simp only [blankPoints, List.mem_cons, List.not_mem_nil, or_false]
  omega

/-- The blanks are few, so a class is told apart from them by looking each of them up. -/
theorem isBlank_eq_false_of {p : Char → Bool} (none : ∀ n ∈ blankPoints, p (Char.ofNat n) = false)
    {c : Char} (h : p c = true) : isBlank c = false := by
  cases hb : isBlank c with
  | false => rfl
  | true =>
    have hc : p c = false := by
      simpa using none c.toNat (toNat_mem_blankPoints hb)
    rw [hc] at h
    cases h

theorem isBlank_of_isWord {c : Char} (h : isWord c = true) : isBlank c = false :=
  isBlank_eq_false_of (by decide +kernel) h

theorem isBlank_of_isDigit {c : Char} (h : isDigit c = true) : isBlank c = false :=
  isBlank_eq_false_of (by decide +kernel) h

/-! ## Trimmed texts -/

/-- A text without a blank at either end. -/
def Trimmed (s : List Char) : Prop :=
  trim s = s

instance (s : List Char) : Decidable (Trimmed s) :=
  inferInstanceAs (Decidable (trim s = s))

/-- The end of a trimmed text stays when blanks are dropped from the end. -/
theorem Trimmed.dropEndWhile_eq {s : List Char} (h : Trimmed s) : dropEndWhile isBlank s = s := by
  have len : (trim s).length ≤ (s.dropWhile isBlank).length :=
    (dropEndWhile_isPrefix isBlank _).length_le
  rw [h] at len
  have start : s.dropWhile isBlank = s :=
    (List.dropWhile_sublist isBlank).eq_of_length_le len
  have whole : dropEndWhile isBlank (s.dropWhile isBlank) = s := h
  rwa [start] at whole

/-- The last character of a trimmed text is no blank. -/
theorem Trimmed.isBlank_getLast {s : List Char} (h : Trimmed s) {c : Char}
    (hc : s.getLast? = some c) : isBlank c = false := by
  have hend : (s.reverse.dropWhile isBlank).reverse = s := h.dropEndWhile_eq
  obtain ⟨start, rfl⟩ := List.getLast?_eq_some_iff.1 hc
  cases hblank : isBlank c with
  | false => rfl
  | true =>
    have hlen := congrArg List.length hend
    simp only [List.reverse_append, List.reverse_cons, List.reverse_nil, List.nil_append,
      List.cons_append, List.dropWhile_cons, hblank, if_true, List.length_reverse,
      List.length_append, List.length_cons, List.length_nil] at hlen
    have hle := (List.dropWhile_sublist isBlank (l := start.reverse)).length_le
    rw [List.length_reverse] at hle
    omega

end ApiDocs.Text
