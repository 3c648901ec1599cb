import Mathlib.Algebra.Group.Nat.Defs
import Mathlib.Data.List.Basic
import Mathlib.Tactic.SplitIfs

/-!
# The order of texts and of their bytes

Texts are put in order by the code points of their characters, and the bytes of their UTF-8 forms
have the same order (`bytes_lt_bytes`). Of two characters the one with the smaller code point has
the smaller bytes, whatever follows (`utf8EncodeChar_append_lt`): either it has fewer bytes, and
then a smaller first one, or the bytes of both hold the digits of their code points to the base 64,
from the highest digits on.
-/

set_option autoImplicit false

namespace ApiDocs.Text

/-- The bytes of a text in UTF-8. -/
def bytes (s : String) : List UInt8 :=
  s.toUTF8.data.toList

/-- How many bytes follow the first one of a code point. -/
def continuationCount (n : Nat) : Nat :=
  if n ≤ 127 then 0 else if n ≤ 2047 then 1 else if n ≤ 65535 then 2 else 3

/-- The mark of the first byte for the number of bytes that follow. -/
def leadMark : Nat → Nat
  | 0 => 0
  | 1 => 192
  | 2 => 224
  | _ => 240

/-- The first byte of a code point: the mark and the digits that are in none of the bytes that
follow. -/
def leadByte (n : Nat) : Nat :=
  leadMark (continuationCount n) + n / 64 ^ continuationCount n

/-- The bytes for the last digits of a code point to the base 64. -/
def continuation : Nat → Nat → List UInt8
  | 0, _ => []
  | k + 1, n => UInt8.ofNat (n / 64 ^ k % 64 + 128) :: continuation k n

variable {m n k : Nat}

/-! ## The bytes of a character -/

theorem toNat_lt (c : Char) : c.toNat < 1114112 := by
  rw [← Char.toNat_val]
  rcases c.valid with h | ⟨-, h⟩
  · exact Nat.lt_trans h (by decide)
  · exact h

theorem leadByte_lt (h : n < 1114112) : leadByte n < 256 := by
  unfold leadByte continuationCount
  split_ifs <;> simp only [leadMark] <;> omega

/-- More bytes start with a greater one. -/
theorem leadByte_lt_leadByte (h : m < n) (hcount : continuationCount m ≠ continuationCount n) :
    leadByte m < leadByte n := by
  unfold leadByte
  unfold continuationCount at hcount ⊢
  split_ifs at hcount ⊢ <;> simp only [leadMark] <;> omega

theorem utf8EncodeChar_eq (c : Char) :
    String.utf8EncodeChar c
      = UInt8.ofNat (leadByte c.toNat) :: continuation (continuationCount c.toNat) c.toNat := by
  have hmax := toNat_lt c
  have hpow : (64 : Nat) ^ 2 = 4096 ∧ (64 : Nat) ^ 3 = 262144 := by decide
  simp only [String.utf8EncodeChar, leadByte, continuationCount, Char.toNat_val]
  split
  · simp only [leadMark, continuation, Nat.pow_zero, Nat.div_one, Nat.zero_add]
  split
  · have hlead : c.toNat / 64 % 32 = c.toNat / 64 := Nat.mod_eq_of_lt (by omega)
    simp only [leadMark, continuation, Nat.pow_zero, Nat.pow_one, Nat.div_one, hlead,
      Nat.add_comm 192]
  split
  · have hlead : c.toNat / 4096 % 16 = c.toNat / 4096 := Nat.mod_eq_of_lt (by omega)
    simp only [leadMark, continuation, hpow, Nat.pow_zero, Nat.pow_one, Nat.div_one, hlead,
      Nat.add_comm 224]
  · have hlead : c.toNat / 262144 % 8 = c.toNat / 262144 := Nat.mod_eq_of_lt (by omega)
    simp only [leadMark, continuation, hpow, Nat.pow_zero, Nat.pow_one, Nat.div_one, hlead,
      Nat.add_comm 240]

/-! ## The order -/

theorem ofNat_lt_ofNat (hn : n < 256) (h : m < n) : UInt8.ofNat m < UInt8.ofNat n := by
  rw [UInt8.lt_iff_toNat_lt, UInt8.toNat_ofNat', UInt8.toNat_ofNat']
  omega

/-- Of numbers with the same higher digits, the smaller one has the smaller last digits. -/
theorem continuation_append_lt (h : m < n) (hhigh : m / 64 ^ k = n / 64 ^ k) (s t : List UInt8) :
    continuation k m ++ s < continuation k n ++ t := by
  induction k with
  | zero =>
    rw [Nat.pow_zero, Nat.div_one, Nat.div_one] at hhigh
    exact absurd hhigh (Nat.ne_of_lt h)
  | succ k ih =>
    rw [Nat.pow_succ, ← Nat.div_div_eq_div_mul, ← Nat.div_div_eq_div_mul] at hhigh
    rw [continuation, continuation, List.cons_append, List.cons_append, List.cons_lt_cons_iff]
    have hle : m / 64 ^ k ≤ n / 64 ^ k := Nat.div_le_div_right (Nat.le_of_lt h)
    rcases Nat.lt_or_eq_of_le hle with hdigit | hdigit
    · exact Or.inl (ofNat_lt_ofNat (by omega) (by omega))
    · exact Or.inr ⟨by rw [hdigit], ih hdigit⟩

/-- The bytes of a smaller character come before those of a greater one, whatever follows. -/
theorem utf8EncodeChar_append_lt {c d : Char} (h : c < d) (s t : List UInt8) :
    String.utf8EncodeChar c ++ s < String.utf8EncodeChar d ++ t := by
  have hlt : c.toNat < d.toNat := h
  have hbyte := leadByte_lt (toNat_lt d)
  rw [utf8EncodeChar_eq, utf8EncodeChar_eq, List.cons_append, List.cons_append,
    List.cons_lt_cons_iff]
  by_cases hcount : continuationCount c.toNat = continuationCount d.toNat
  · have hle :
        c.toNat / 64 ^ continuationCount d.toNat ≤ d.toNat / 64 ^ continuationCount d.toNat :=
      Nat.div_le_div_right (Nat.le_of_lt hlt)
    unfold leadByte at hbyte ⊢
    rw [hcount]
    rcases Nat.lt_or_eq_of_le hle with hlead | hlead
    · exact Or.inl (ofNat_lt_ofNat hbyte (Nat.add_lt_add_left hlead _))
    · exact Or.inr ⟨by rw [hlead], continuation_append_lt hlt hlead s t⟩
  · exact Or.inl (ofNat_lt_ofNat hbyte (leadByte_lt_leadByte hlt hcount))

theorem bytes_eq_flatMap (s : String) : bytes s = s.toList.flatMap String.utf8EncodeChar := by
  have hencode : s.toUTF8 = s.toList.utf8Encode := String.utf8Encode_toList.symm
  rw [bytes, hencode, List.utf8Encode, List.toList_data_toByteArray]

/-- Texts and their bytes have the same order. -/
theorem bytes_lt_bytes {a b : String} (h : a < b) : bytes a < bytes b := by
  rw [bytes_eq_flatMap, bytes_eq_flatMap]
  replace h := String.lt_iff.1 h
  generalize a.toList = s at h
  generalize b.toList = t at h
  induction s generalizing t with
  | nil =>
    cases t with
    | nil => exact absurd h (List.lt_irrefl _)
    | cons d t =>
      rw [List.flatMap_nil, List.flatMap_cons, utf8EncodeChar_eq]
      exact List.nil_lt_cons _ _
  | cons c s ih =>
    cases t with
    | nil => exact absurd h (List.not_lt_nil _)
    | cons d t =>
      rw [List.flatMap_cons, List.flatMap_cons]
      rcases List.cons_lt_cons_iff.1 h with hchar | ⟨rfl, hrest⟩
      · exact utf8EncodeChar_append_lt hchar _ _
      · exact List.append_left_lt (ih t hrest)

end ApiDocs.Text
