import ApiDocs.Json.Printer
import ApiDocs.Json.Reader
import ApiDocs.Proofs.Text.Runs

/-!
# JSON text is read back

Both printers lay a value out in the same way and differ in the blanks between the tokens
(`Layout`). Reading undoes every layout: a quoted text gives its characters back one by one, a
numeral its number, and an array or object its parts, provided that no digit follows that would go
on with a numeral (`Delimited`). The bound on nested calls that the reader starts with is the length
of the text, and each part is shorter than the whole.
-/

set_option autoImplicit false

namespace ApiDocs.Json

open Text (Stops stops_cons stops_nil)

/-! ## Quoted texts -/

theorem hexUnit?_hexDigit :
    ∀ n < 32, hexUnit? '0' '0' (hexDigit (n / 16)) (hexDigit (n % 16)) = some n := by
  decide

theorem readQuoted_letter {c x : Char} (hc : c ≠ 'u') (hx : charOfLetter? c = some x)
    (rest : List Char) :
    readQuoted ('\\' :: c :: rest) = (readQuoted rest).map fun r => (x :: r.1, r.2) := by
  rw [readQuoted]
  · simp only [hx]
  · intro _ _ _ _ _ h
    exact absurd h hc

theorem readQuoted_plain {c : Char} (hquote : c ≠ '"') (hbackslash : c ≠ '\\')
    (hcontrol : ¬ c.toNat < 32) (rest : List Char) :
    readQuoted (c :: rest) = (readQuoted rest).map fun r => (c :: r.1, r.2) := by
  rw [readQuoted]
  · rw [if_neg hcontrol]
  · exact hquote
  · intro _ _ _ _ _ h
    exact absurd h hbackslash
  · intro _ _ h
    exact absurd h hbackslash

/-- A control character is read back from its code. -/
theorem readQuoted_control {c : Char} (hcontrol : c.toNat < 32) (rest : List Char) :
    readQuoted ('\\' :: 'u' :: '0' :: '0' :: hexDigit (c.toNat / 16) :: hexDigit (c.toNat % 16)
        :: rest)
      = (readQuoted rest).map fun r => (c :: r.1, r.2) := by
  have hunit := hexUnit?_hexDigit c.toNat hcontrol
  have hlow : isHighSurrogate c.toNat = false := by
    simp only [isHighSurrogate, Bool.and_eq_false_iff, decide_eq_false_iff_not]
    omega
  have hchar : charOfCode? c.toNat = some c := by
    have hvalid : c.toNat.isValidChar := Or.inl (by omega)
    rw [charOfCode?, if_pos hvalid, Char.ofNat_toNat]
  rw [readQuoted, hunit]
  simp [hlow, hchar]

/-- The letters that stand for a character behind a backslash. -/
def escapeLetters : List Char :=
  ['"', '\\', 'b', 'f', 'n', 'r', 't']

/-- What is written for a character: a letter behind a backslash, the code of a control character,
or the character itself. -/
theorem escapeChar_cases (c : Char) :
    (∃ letter ∈ escapeLetters, charOfLetter? letter = some c ∧ escapeChar c = ['\\', letter]) ∨
      (c.toNat < 32 ∧ escapeChar c
        = ['\\', 'u', '0', '0', hexDigit (c.toNat / 16), hexDigit (c.toNat % 16)]) ∨
      (c ≠ '"' ∧ c ≠ '\\' ∧ ¬ c.toNat < 32 ∧ escapeChar c = [c]) := by
  by_cases hquote : c = '"'
  · rw [hquote]
    exact Or.inl ⟨'"', by decide, by decide, by decide⟩
  by_cases hbackslash : c = '\\'
  · rw [hbackslash]
    exact Or.inl ⟨'\\', by decide, by decide, by decide⟩
  by_cases hback : c = '\x08'
  · rw [hback]
    exact Or.inl ⟨'b', by decide, by decide, by decide⟩
  by_cases hfeed : c = '\x0c'
  · rw [hfeed]
    exact Or.inl ⟨'f', by decide, by decide, by decide⟩
  by_cases hnewline : c = '\n'
  · rw [hnewline]
    exact Or.inl ⟨'n', by decide, by decide, by decide⟩
  by_cases hreturn : c = '\r'
  · rw [hreturn]
    exact Or.inl ⟨'r', by decide, by decide, by decide⟩
  by_cases htab : c = '\t'
  · rw [htab]
    exact Or.inl ⟨'t', by decide, by decide, by decide⟩
  right
  by_cases hcontrol : c.toNat < 32
  · refine Or.inl ⟨hcontrol, ?_⟩
    simp only [escapeChar, hquote, hbackslash, hback, hfeed, hnewline, hreturn, htab, hcontrol,
      if_false, if_true]
  · refine Or.inr ⟨hquote, hbackslash, hcontrol, ?_⟩
    simp only [escapeChar, hquote, hbackslash, hback, hfeed, hnewline, hreturn, htab, hcontrol,
      if_false]

/-- A character is read back from what is written for it. -/
theorem readQuoted_escapeChar (c : Char) (rest : List Char) :
    readQuoted (escapeChar c ++ rest) = (readQuoted rest).map fun r => (c :: r.1, r.2) := by
  rcases escapeChar_cases c with ⟨letter, hletter, hchar, hc⟩ | ⟨hcontrol, hc⟩
    | ⟨hquote, hbackslash, hcontrol, hc⟩
  · have hcode : ∀ l ∈ escapeLetters, l ≠ 'u' := by simp [escapeLetters]
    rw [hc]
    exact readQuoted_letter (hcode letter hletter) hchar rest
  · rw [hc]
    exact readQuoted_control hcontrol rest
  · rw [hc]
    exact readQuoted_plain hquote hbackslash hcontrol rest

theorem readQuoted_escaped (s rest : List Char) :
    readQuoted (s.flatMap escapeChar ++ '"' :: rest) = some (s, rest) := by
  induction s with
  | nil => rfl
  | cons c s ih =>
    rw [List.flatMap_cons, List.append_assoc, readQuoted_escapeChar, ih]
    rfl

/-! ## Numerals -/

/-- Whether a character goes on with a numeral. -/
def continuesNumeral (c : Char) : Bool :=
  isAsciiDigit c || c == '.' || c == 'e' || c == 'E'

/-- A text that does not go on with a numeral in front of it. -/
def Delimited (rest : List Char) : Prop :=
  Stops continuesNumeral rest

theorem isAsciiDigit_of_mem_toDigits {n : Nat} {c : Char} (hc : c ∈ Nat.toDigits 10 n) :
    isAsciiDigit c = true := by
  have hdigit := Nat.isDigit_of_mem_toDigits (by decide) (by decide) hc
  simpa [isAsciiDigit, Char.isDigit, Char.le_def] using hdigit

theorem naturalOfDigits_toDigits (n : Nat) : naturalOfDigits (Nat.toDigits 10 n) = n := by
  have hsame : ∀ digits init, digits.foldl (fun n c => n * 10 + (c.toNat - 48)) init
      = Nat.ofDigitChars 10 digits init := by
    intro digits
    induction digits with
    | nil => intro init; rfl
    | cons c digits ih =>
      intro init
      rw [List.foldl_cons, ih, Nat.ofDigitChars_cons, Nat.mul_comm]
      rfl
  unfold naturalOfDigits
  rw [hsame]
  exact Nat.ofDigitChars_toDigits (by decide) (by decide)

theorem head?_toDigits_ne_zero {n : Nat} (hn : 0 < n) :
    (Nat.toDigits 10 n).head? ≠ some '0' := by
  induction n using Nat.strong_induction_on with
  | _ n ih =>
    by_cases hlt : n < 10
    · rw [Nat.toDigits_of_lt_base hlt]
      have hdigit : ∀ d < 10, 0 < d → [Nat.digitChar d].head? ≠ some '0' := by decide
      exact hdigit n hlt hn
    · have hsplit : n = 10 * (n / 10) + n % 10 := by omega
      have hfirst : 0 < n / 10 := by omega
      have hne : Nat.toDigits 10 (n / 10) ≠ [] := Nat.toDigits_ne_nil
      rw [hsplit, ← Nat.toDigits_append_toDigits (by decide) hfirst (Nat.mod_lt n (by decide)),
        List.head?_append_of_ne_nil _ hne]
      exact ih (n / 10) (by omega) hfirst

theorem isWholePart_toDigits (n : Nat) : isWholePart (Nat.toDigits 10 n) = true := by
  rcases Nat.eq_zero_or_pos n with rfl | hn
  · decide
  · have hhead := head?_toDigits_ne_zero hn
    have hne : Nat.toDigits 10 n ≠ [] := Nat.toDigits_ne_nil
    cases hdigits : Nat.toDigits 10 n with
    | nil => exact absurd hdigits hne
    | cons c digits =>
      have hc : c ≠ '0' := by
        rintro rfl
        exact hhead (by rw [hdigits]; rfl)
      unfold isWholePart
      split
      · next h => cases h
      · rfl
      · next h =>
        cases h
        exact absurd rfl hc
      · rfl

theorem readFraction_of_delimited {rest : List Char} (h : Delimited rest) :
    readFraction rest = some ([], rest) := by
  cases rest with
  | nil => rfl
  | cons c rest =>
    have hc : c ≠ '.' := by
      rintro rfl
      exact absurd (stops_cons.1 h) (by decide)
    rw [readFraction]
    intro _ heq
    exact hc (List.cons.inj heq).1

theorem readExponent_of_delimited {rest : List Char} (h : Delimited rest) :
    readExponent rest = some ([], rest) := by
  cases rest with
  | nil => rfl
  | cons c rest =>
    have hc : ¬ (c = 'e' ∨ c = 'E') := by
      rintro (rfl | rfl)
      · exact absurd (stops_cons.1 h) (by decide)
      · exact absurd (stops_cons.1 h) (by decide)
    rw [readExponent, if_neg hc]

theorem readNumeral_toDigits (n : Nat) {rest : List Char} (h : Delimited rest) :
    readNumeral (Nat.toDigits 10 n ++ rest) = some (.natural n, rest) := by
  have hdigits : ∀ c ∈ Nat.toDigits 10 n, isAsciiDigit c = true := fun c hc =>
    isAsciiDigit_of_mem_toDigits hc
  have hstops : Stops isAsciiDigit rest := by
    intro c hc
    have hnot := h c hc
    unfold continuesNumeral at hnot
    simp only [Bool.or_eq_false_iff] at hnot
    exact hnot.1.1.1
  have hsign : (Nat.toDigits 10 n ++ rest).head? ≠ some '-' := by
    rw [List.head?_append_of_ne_nil _ Nat.toDigits_ne_nil]
    intro hhead
    exact absurd (hdigits _ (List.mem_of_head? hhead)) (by decide)
  unfold readNumeral
  simp only [if_neg hsign, List.length_nil, List.drop_zero,
    Text.takeWhile_run_append hdigits hstops, Text.dropWhile_run_append hdigits hstops,
    isWholePart_toDigits, if_true, readFraction_of_delimited h, readExponent_of_delimited h,
    and_self, naturalOfDigits_toDigits]

/-! ## Layouts -/

/-- The blanks between the tokens of a value. -/
structure Layout where
  /-- What stands in front of an item, and of a closing bracket, at a depth of nesting. -/
  gap : Nat → List Char
  /-- What stands behind a colon. -/
  colonGap : List Char
  isSpace_gap : ∀ depth, ∀ c ∈ gap depth, isSpace c = true
  isSpace_colonGap : ∀ c ∈ colonGap, isSpace c = true

namespace Layout

mutual

/-- The text of a value at a depth of nesting. -/
def text (l : Layout) (depth : Nat) : Value → List Char
  | .null => "null".toList
  | .bool b => if b then "true".toList else "false".toList
  | .natural n => (toString n).toList
  | .numeral text => text.toList
  | .string s => quoted s.toList
  | .array [] => ['[', ']']
  | .array (item :: items) =>
    '[' :: l.gap (depth + 1) ++ l.text (depth + 1) item ++ l.itemsText (depth + 1) items
      ++ l.gap depth ++ [']']
  | .object [] => ['{', '}']
  | .object ((name, value) :: members) =>
    '{' :: l.gap (depth + 1) ++ quoted name.toList ++ ':' :: l.colonGap
      ++ l.text (depth + 1) value ++ l.membersText (depth + 1) members ++ l.gap depth ++ ['}']

/-- The items of an array after the first one. -/
def itemsText (l : Layout) (depth : Nat) : List Value → List Char
  | [] => []
  | item :: items => ',' :: l.gap depth ++ l.text depth item ++ l.itemsText depth items

/-- The members of an object after the first one. -/
def membersText (l : Layout) (depth : Nat) : List (String × Value) → List Char
  | [] => []
  | (name, value) :: members =>
    ',' :: l.gap depth ++ quoted name.toList ++ ':' :: l.colonGap ++ l.text depth value
      ++ l.membersText depth members

end

/-- One item or member a line, indented by four spaces. -/
def wide : Layout where
  gap := lineBreak
  colonGap := [' ']
  isSpace_gap depth c hc := by
    rcases List.mem_cons.1 hc with rfl | hspace
    · rfl
    · rw [List.eq_of_mem_replicate hspace]
      rfl
  isSpace_colonGap c hc := by
    rw [List.mem_singleton.1 hc]
    rfl

/-- No blanks at all. -/
def tight : Layout where
  gap _ := []
  colonGap := []
  isSpace_gap _ _ hc := absurd hc List.not_mem_nil
  isSpace_colonGap _ hc := absurd hc List.not_mem_nil

mutual

theorem text_wide : ∀ (depth : Nat) (v : Value), wide.text depth v = indented depth v
  | _, .null => rfl
  | _, .bool _ => rfl
  | _, .natural _ => rfl
  | _, .numeral _ => rfl
  | _, .string _ => rfl
  | _, .array [] => rfl
  | depth, .array (item :: items) => by
    rw [text, indented, text_wide (depth + 1) item, itemsText_wide (depth + 1) items]
    rfl
  | _, .object [] => rfl
  | depth, .object ((name, value) :: members) => by
    rw [text, indented, text_wide (depth + 1) value, membersText_wide (depth + 1) members]
    rfl

theorem itemsText_wide :
    ∀ (depth : Nat) (items : List Value), wide.itemsText depth items = indentedItems depth items
  | _, [] => rfl
  | depth, item :: items => by
    rw [itemsText, indentedItems, text_wide depth item, itemsText_wide depth items]
    rfl

theorem membersText_wide : ∀ (depth : Nat) (members : List (String × Value)),
    wide.membersText depth members = indentedMembers depth members
  | _, [] => rfl
  | depth, (name, value) :: members => by
    rw [membersText, indentedMembers, text_wide depth value, membersText_wide depth members]
    rfl

end

mutual

theorem text_tight : ∀ (depth : Nat) (v : Value), tight.text depth v = compact v
  | _, .null => rfl
  | _, .bool _ => rfl
  | _, .natural _ => rfl
  | _, .numeral _ => rfl
  | _, .string _ => rfl
  | _, .array [] => rfl
  | depth, .array (item :: items) => by
    rw [text, compact, text_tight (depth + 1) item, itemsText_tight (depth + 1) items]
    simp [tight]
  | _, .object [] => rfl
  | depth, .object ((name, value) :: members) => by
    rw [text, compact, text_tight (depth + 1) value, membersText_tight (depth + 1) members]
    simp [tight]

theorem itemsText_tight :
    ∀ (depth : Nat) (items : List Value), tight.itemsText depth items = compactItems items
  | _, [] => rfl
  | depth, item :: items => by
    rw [itemsText, compactItems, text_tight depth item, itemsText_tight depth items]
    rfl

theorem membersText_tight : ∀ (depth : Nat) (members : List (String × Value)),
    tight.membersText depth members = compactMembers members
  | _, [] => rfl
  | depth, (name, value) :: members => by
    rw [membersText, compactMembers, text_tight depth value, membersText_tight depth members]
    simp [tight]

end

end Layout

end ApiDocs.Json
