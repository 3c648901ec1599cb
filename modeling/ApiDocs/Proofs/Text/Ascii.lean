import ApiDocs.Proofs.Text.ByteOrder
import ApiDocs.Proofs.Text.Lines

/-!
# Characters of ASCII among the bytes of a text

In UTF-8 a character of ASCII is one byte, and this byte is part of no other character
(`eq_of_byteOf_mem`). So splitting the bytes of a text at it gives the bytes of the pieces of the
text (`splitOn_byteOf`), and a text starts with the character if its bytes start with the byte
(`encode_eq_byteOf_cons`).
-/

set_option autoImplicit false

namespace ApiDocs.Text

/-- The byte of a character of ASCII. -/
def byteOf (c : Char) : UInt8 :=
  UInt8.ofNat c.toNat

/-- The bytes of characters in UTF-8. -/
def encode (s : List Char) : List UInt8 :=
  s.flatMap String.utf8EncodeChar

variable {c d : Char} {s : List Char}

/-! ## One character -/

theorem toNat_byteOf (hc : c.toNat < 128) : (byteOf c).toNat = c.toNat := by
  rw [byteOf, UInt8.toNat_ofNat']
  omega

theorem utf8EncodeChar_of_ascii (hc : c.toNat < 128) : String.utf8EncodeChar c = [byteOf c] := by
  have hcount : continuationCount c.toNat = 0 := if_pos (by omega)
  rw [utf8EncodeChar_eq, leadByte, hcount, continuation, leadMark, Nat.pow_zero, Nat.div_one,
    Nat.zero_add, byteOf]

theorem le_toNat_of_mem_continuation {k n : Nat} {b : UInt8} (hb : b ∈ continuation k n) :
    128 ≤ b.toNat := by
  induction k with
  | zero => exact absurd hb List.not_mem_nil
  | succ k ih =>
    rcases List.mem_cons.1 hb with rfl | hb
    · rw [UInt8.toNat_ofNat']
      omega
    · exact ih hb

theorem le_leadByte {n : Nat} (hn : 128 ≤ n) : 128 ≤ leadByte n := by
  unfold leadByte continuationCount
  split_ifs <;> simp only [leadMark] <;> omega

theorem le_toNat_of_mem_utf8EncodeChar (hd : 128 ≤ d.toNat) {b : UInt8}
    (hb : b ∈ String.utf8EncodeChar d) : 128 ≤ b.toNat := by
  rw [utf8EncodeChar_eq] at hb
  rcases List.mem_cons.1 hb with rfl | hb
  · rw [UInt8.toNat_ofNat', Nat.mod_eq_of_lt (leadByte_lt (toNat_lt d))]
    exact le_leadByte hd
  · exact le_toNat_of_mem_continuation hb

/-- No other character has the byte of a character of ASCII among its bytes. -/
theorem eq_of_byteOf_mem (hc : c.toNat < 128) (h : byteOf c ∈ String.utf8EncodeChar d) : d = c := by
  have hbyte := toNat_byteOf hc
  rcases Nat.lt_or_ge d.toNat 128 with hd | hd
  · rw [utf8EncodeChar_of_ascii hd, List.mem_singleton] at h
    rw [← Char.toNat_inj, ← toNat_byteOf hd, ← h, hbyte]
  · have hle := le_toNat_of_mem_utf8EncodeChar hd h
    omega

/-! ## Texts -/

@[simp] theorem encode_nil : encode [] = [] := rfl

@[simp] theorem encode_append (s t : List Char) : encode (s ++ t) = encode s ++ encode t :=
  List.flatMap_append

theorem encode_cons_of_ascii (hc : c.toNat < 128) (s : List Char) :
    encode (c :: s) = byteOf c :: encode s := by
  rw [encode, List.flatMap_cons, utf8EncodeChar_of_ascii hc]
  rfl

theorem bytes_eq_encode (s : String) : bytes s = encode s.toList :=
  bytes_eq_flatMap s

theorem byteOf_mem_encode_iff (hc : c.toNat < 128) : byteOf c ∈ encode s ↔ c ∈ s := by
  rw [encode, List.mem_flatMap]
  constructor
  · rintro ⟨d, hd, hbyte⟩
    exact eq_of_byteOf_mem hc hbyte ▸ hd
  · intro h
    exact ⟨c, h, by rw [utf8EncodeChar_of_ascii hc]; exact List.mem_singleton_self _⟩

/-- The byte of a character of ASCII stands at the start of a text only for the character. -/
theorem encode_eq_byteOf_cons (hc : c.toNat < 128) {rest : List UInt8}
    (h : encode s = byteOf c :: rest) : ∃ t, s = c :: t ∧ rest = encode t := by
  cases s with
  | nil => cases h
  | cons d t =>
    have hd : d = c := by
      apply eq_of_byteOf_mem hc
      rw [encode, List.flatMap_cons, utf8EncodeChar_eq, List.cons_append] at h
      rw [utf8EncodeChar_eq, ← (List.cons.inj h).1]
      exact List.mem_cons_self
    rw [hd, encode_cons_of_ascii hc] at h
    exact ⟨t, by rw [hd], (List.cons.inj h).2.symm⟩

theorem encode_intercalate (hc : c.toNat < 128) (items : List (List Char)) :
    encode ([c].intercalate items) = [byteOf c].intercalate (items.map encode) := by
  induction items with
  | nil => rfl
  | cons first others ih =>
    cases others with
    | nil => simp
    | cons second others =>
      rw [List.intercalate_cons_cons, encode_append, encode_append, ih, encode_cons_of_ascii hc]
      simp only [encode_nil, List.map_cons, List.intercalate_cons_cons]

/-- Splitting at a character of ASCII is splitting the bytes at its byte. -/
theorem splitOn_byteOf (hc : c.toNat < 128) (s : List Char) :
    (encode s).splitOn (byteOf c) = (pieces c s).map encode := by
  conv_lhs => rw [← intercalate_pieces c s, encode_intercalate hc]
  apply List.splitOn_intercalate
  · intro piece hpiece
    obtain ⟨t, ht, rfl⟩ := List.mem_map.1 hpiece
    rw [byteOf_mem_encode_iff hc]
    exact not_mem_of_mem_pieces ht
  · exact fun hnil => pieces_ne_nil _ _ (List.map_eq_nil_iff.1 hnil)

end ApiDocs.Text
