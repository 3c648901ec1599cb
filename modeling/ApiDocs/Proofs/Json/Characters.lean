import ApiDocs.Proofs.Json.Reading

/-!
# Characters of JSON text

Which characters the text of a value is made of. Inside of quotes no control character is left
(`le_toNat_of_mem_escapeChar`), but a character outside of ASCII is never escaped: it is in the text
of a value exactly if it is in one of the texts that the value holds (`Layout.mem_text_iff`).
-/

set_option autoImplicit false

namespace ApiDocs.Json

/-! ## Texts of a value -/

mutual

/-- The texts in a value: its strings, the names of its members, and numerals that are kept as they
are written. -/
def Value.texts : Value → List String
  | .null => []
  | .bool _ => []
  | .natural _ => []
  | .numeral text => [text]
  | .string s => [s]
  | .array items => itemTexts items
  | .object members => memberTexts members

/-- The texts in the items of an array. -/
def itemTexts : List Value → List String
  | [] => []
  | item :: items => item.texts ++ itemTexts items

/-- The texts in the members of an object. -/
def memberTexts : List (String × Value) → List String
  | [] => []
  | (name, value) :: members => name :: (value.texts ++ memberTexts members)

end

/-! ## Quoted texts -/

variable {c d : Char}

/-- A character of ASCII. -/
def isAscii (c : Char) : Bool :=
  c.toNat < 128

/-- A visible character of ASCII or a space. -/
def isPlain (c : Char) : Bool :=
  32 ≤ c.toNat && isAscii c

theorem isAscii_iff : isAscii c = true ↔ c.toNat < 128 :=
  decide_eq_true_iff

theorem isPlain_iff : isPlain c = true ↔ 32 ≤ c.toNat ∧ c.toNat < 128 := by
  rw [isPlain, Bool.and_eq_true, isAscii_iff, decide_eq_true_iff]

theorem all_isPlain_hexDigit :
    ∀ n < 32, [hexDigit (n / 16), hexDigit (n % 16)].all isPlain = true := by
  decide

theorem all_isPlain_escapeLetters : escapeLetters.all (['\\', ·].all isPlain) = true := by
  decide

theorem all_isAscii_charOfLetter? :
    escapeLetters.all (fun l => (charOfLetter? l).all isAscii) = true := by
  decide

/-- What is written for a character in place of it is plain. -/
theorem escapeChar_plain_or (c : Char) :
    (c.toNat < 128 ∧ ∀ d ∈ escapeChar c, isPlain d = true) ∨
      (32 ≤ c.toNat ∧ escapeChar c = [c]) := by
  rcases escapeChar_cases c with ⟨letter, hletter, hchar, hc⟩ | ⟨hcontrol, hc⟩
    | ⟨-, -, hcontrol, hc⟩
  · have hascii := List.all_eq_true.1 all_isAscii_charOfLetter? letter hletter
    have hplain := List.all_eq_true.1 all_isPlain_escapeLetters letter hletter
    rw [hchar, Option.all_some, isAscii_iff] at hascii
    rw [hc]
    exact Or.inl ⟨hascii, List.all_eq_true.1 hplain⟩
  · have hstart : ['\\', 'u', '0', '0'].all isPlain = true := by decide
    have hdigits := all_isPlain_hexDigit c.toNat hcontrol
    have hall : (['\\', 'u', '0', '0'] ++ [hexDigit (c.toNat / 16), hexDigit (c.toNat % 16)]).all
        isPlain = true := by
      rw [List.all_append, hstart, hdigits]
      rfl
    rw [hc]
    exact Or.inl ⟨by omega, List.all_eq_true.1 hall⟩
  · exact Or.inr ⟨Nat.le_of_not_lt hcontrol, hc⟩

/-- No control character is written inside of quotes. -/
theorem le_toNat_of_mem_escapeChar (h : d ∈ escapeChar c) : 32 ≤ d.toNat := by
  rcases escapeChar_plain_or c with ⟨-, hplain⟩ | ⟨hc, hself⟩
  · exact (isPlain_iff.1 (hplain d h)).1
  · rw [hself] at h
    rwa [List.mem_singleton.1 h]

/-- A character outside of ASCII is written as it is, and for no other character. -/
theorem mem_escapeChar_iff (hd : 128 ≤ d.toNat) : d ∈ escapeChar c ↔ d = c := by
  rcases escapeChar_plain_or c with ⟨hc, hplain⟩ | ⟨-, hself⟩
  · constructor
    · intro h
      exact absurd (isPlain_iff.1 (hplain d h)).2 (Nat.not_lt_of_le hd)
    · rintro rfl
      exact absurd hc (Nat.not_lt_of_le hd)
  · rw [hself, List.mem_singleton]

theorem ne_of_ascii (hd : 128 ≤ d.toNat) (hc : c.toNat < 128) : d ≠ c := by
  rintro rfl
  exact Nat.not_lt_of_le hd hc

theorem not_mem_of_ascii (hd : 128 ≤ d.toNat) {s : List Char} (hs : s.all isAscii = true) :
    d ∉ s :=
  fun h => ne_of_ascii hd (isAscii_iff.1 (List.all_eq_true.1 hs d h)) rfl

/-- Text of ASCII characters for a value that holds no text. -/
theorem mem_ascii_iff (hd : 128 ≤ d.toNat) {s : List Char} (hs : s.all isAscii = true) :
    d ∈ s ↔ ∃ text ∈ ([] : List String), d ∈ text.toList := by
  simpa using not_mem_of_ascii hd hs

theorem mem_quoted_iff (hd : 128 ≤ d.toNat) {s : List Char} : d ∈ quoted s ↔ d ∈ s := by
  have hquote : d ≠ '"' := ne_of_ascii hd (by decide)
  rw [quoted, List.mem_append, List.mem_cons, List.mem_flatMap]
  simp [hquote, mem_escapeChar_iff hd]

/-! ## Whole values -/

theorem isAscii_of_isSpace (h : isSpace c = true) : isAscii c = true := by
  simp only [isSpace, Bool.or_eq_true, beq_iff_eq] at h
  rcases h with ((rfl | rfl) | rfl) | rfl
  all_goals decide

theorem all_isAscii_toString (n : Nat) : (toString n).toList.all isAscii = true := by
  rw [List.all_eq_true, toList_toString]
  intro c hc
  have hdigit := isAsciiDigit_of_mem_toDigits hc
  simp only [isAsciiDigit, Bool.and_eq_true, decide_eq_true_eq] at hdigit
  have hle : c.toNat ≤ 57 := UInt32.le_iff_toNat_le.1 (Char.le_def.1 hdigit.2)
  exact isAscii_iff.2 (Nat.lt_of_le_of_lt hle (by decide))

namespace Layout

theorem not_mem_gap (l : Layout) (hd : 128 ≤ d.toNat) (depth : Nat) : d ∉ l.gap depth :=
  not_mem_of_ascii hd <| List.all_eq_true.2 fun c hc => isAscii_of_isSpace (l.isSpace_gap depth c hc)

theorem not_mem_colonGap (l : Layout) (hd : 128 ≤ d.toNat) : d ∉ l.colonGap :=
  not_mem_of_ascii hd <| List.all_eq_true.2 fun c hc => isAscii_of_isSpace (l.isSpace_colonGap c hc)

mutual

theorem mem_text_iff (l : Layout) {d : Char} (hd : 128 ≤ d.toNat) :
    ∀ (depth : Nat) (v : Value), d ∈ l.text depth v ↔ ∃ text ∈ v.texts, d ∈ text.toList
  | _, .null => mem_ascii_iff hd (show "null".toList.all isAscii = true by decide)
  | _, .bool true => mem_ascii_iff hd (show "true".toList.all isAscii = true by decide)
  | _, .bool false => mem_ascii_iff hd (show "false".toList.all isAscii = true by decide)
  | _, .natural n => mem_ascii_iff hd (all_isAscii_toString n)
  | _, .numeral text => by simp [Layout.text, Value.texts]
  | _, .string s => by simp [Layout.text, Value.texts, mem_quoted_iff hd]
  | _, .array [] => mem_ascii_iff hd (show ['[', ']'].all isAscii = true by decide)
  | depth, .array (item :: items) => by
    have hopen : d ≠ '[' := ne_of_ascii hd (by decide)
    have hclose : d ≠ ']' := ne_of_ascii hd (by decide)
    simp [Layout.text, Value.texts, itemTexts, hopen, hclose, l.not_mem_gap hd,
      mem_text_iff l hd (depth + 1) item, mem_itemsText_iff l hd (depth + 1) items, or_and_right,
      exists_or]
  | _, .object [] => mem_ascii_iff hd (show ['\x7b', '\x7d'].all isAscii = true by decide)
  | depth, .object ((name, value) :: members) => by
    have hopen : d ≠ '\x7b' := ne_of_ascii hd (by decide)
    have hclose : d ≠ '\x7d' := ne_of_ascii hd (by decide)
    have hcolon : d ≠ ':' := ne_of_ascii hd (by decide)
    simp [Layout.text, Value.texts, memberTexts, hopen, hclose, hcolon, l.not_mem_gap hd,
      l.not_mem_colonGap hd, mem_quoted_iff hd, mem_text_iff l hd (depth + 1) value,
      mem_membersText_iff l hd (depth + 1) members, or_and_right, exists_or]

theorem mem_itemsText_iff (l : Layout) {d : Char} (hd : 128 ≤ d.toNat) :
    ∀ (depth : Nat) (items : List Value),
      d ∈ l.itemsText depth items ↔ ∃ text ∈ itemTexts items, d ∈ text.toList
  | _, [] => by simp [Layout.itemsText, itemTexts]
  | depth, item :: items => by
    have hcomma : d ≠ ',' := ne_of_ascii hd (by decide)
    simp [Layout.itemsText, itemTexts, hcomma, l.not_mem_gap hd, mem_text_iff l hd depth item,
      mem_itemsText_iff l hd depth items, or_and_right, exists_or]

theorem mem_membersText_iff (l : Layout) {d : Char} (hd : 128 ≤ d.toNat) :
    ∀ (depth : Nat) (members : List (String × Value)),
      d ∈ l.membersText depth members ↔ ∃ text ∈ memberTexts members, d ∈ text.toList
  | _, [] => by simp [Layout.membersText, memberTexts]
  | depth, (name, value) :: members => by
    have hcomma : d ≠ ',' := ne_of_ascii hd (by decide)
    have hcolon : d ≠ ':' := ne_of_ascii hd (by decide)
    simp [Layout.membersText, memberTexts, hcomma, hcolon, l.not_mem_gap hd,
      l.not_mem_colonGap hd, mem_quoted_iff hd, mem_text_iff l hd depth value,
      mem_membersText_iff l hd depth members, or_and_right, exists_or]

end

end Layout

/-- The indented text of a value has a character outside of ASCII exactly if the value holds a text
that has it. -/
theorem Value.mem_toIndented_iff (hd : 128 ≤ d.toNat) (v : Value) :
    d ∈ v.toIndented.toList ↔ ∃ text ∈ v.texts, d ∈ text.toList := by
  rw [Value.toIndented, String.toList_ofList, ← Layout.text_wide]
  exact Layout.mem_text_iff Layout.wide hd 0 v

end ApiDocs.Json
