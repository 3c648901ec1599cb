import ApiDocs.Output.GoModule
import ApiDocs.Proofs.Json.Text

/-!
# Text literals of Go

What a text literal in double quotes stands for in Go, as bytes, and where it ends. The escapes are
those of Go: letters, bytes in octal and hexadecimal digits, and code points of four and of eight
digits. A text is written with the escapes of JSON, which stand for the same characters here, so the
literal of a text stands for the bytes of the text and ends at its own closing quote
(`readLiteral_literal`).
-/

set_option autoImplicit false

namespace ApiDocs.GoModule

open Json (escapeChar hexDigit hexUnit? hexValue? charOfCode?)

/-! ## The rules of Go -/

/-- The character of an escape by letter. -/
def escapedChar? (c : Char) : Option Char :=
  if c = 'a' then some '\x07'
  else if c = 'b' then some '\x08'
  else if c = 'f' then some '\x0c'
  else if c = 'n' then some '\n'
  else if c = 'r' then some '\r'
  else if c = 't' then some '\t'
  else if c = 'v' then some '\x0b'
  else if c = '\\' ∨ c = '"' then some c
  else none

/-- The value of an octal digit. -/
def octalValue? (c : Char) : Option Nat :=
  if '0' ≤ c ∧ c ≤ '7' then some (c.toNat - 48) else none

/-- The byte of three octal digits. -/
def octalByte? (a b c : Char) : Option (List UInt8) := do
  let n := (← octalValue? a) * 64 + (← octalValue? b) * 8 + (← octalValue? c)
  if n < 256 then some [UInt8.ofNat n] else none

/-- The byte of two hexadecimal digits. -/
def hexByte? (a b : Char) : Option (List UInt8) := do
  let n := (← hexValue? a) * 16 + (← hexValue? b)
  some [UInt8.ofNat n]

/-- The bytes of the character at a code point. Surrogates are no characters. -/
def codeBytes? (n : Nat) : Option (List UInt8) :=
  (charOfCode? n).map String.utf8EncodeChar

/-- Bytes in front of what the rest of a literal stands for. -/
def prepend (bytes : Option (List UInt8)) (rest : Option (List UInt8 × List Char)) :
    Option (List UInt8 × List Char) :=
  bytes.bind fun b => rest.map fun r => (b ++ r.1, r.2)

/-- The bytes that a literal stands for after its opening quote, and what follows its closing
quote. -/
def readBody : List Char → Option (List UInt8 × List Char)
  | [] => none
  | '"' :: rest => some ([], rest)
  | '\n' :: _ => none
  | '\\' :: 'x' :: a :: b :: rest => prepend (hexByte? a b) (readBody rest)
  | '\\' :: 'u' :: a :: b :: c :: d :: rest =>
    prepend ((hexUnit? a b c d).bind codeBytes?) (readBody rest)
  | '\\' :: 'U' :: a :: b :: c :: d :: e :: f :: g :: h :: rest =>
    prepend ((hexUnit? a b c d).bind fun high =>
      (hexUnit? e f g h).bind fun low => codeBytes? (high * 65536 + low)) (readBody rest)
  | '\\' :: c :: rest =>
    match escapedChar? c with
    | some x => prepend (some (String.utf8EncodeChar x)) (readBody rest)
    | none =>
      match rest with
      | d :: e :: rest => prepend (octalByte? c d e) (readBody rest)
      | _ => none
  | c :: rest => prepend (some (String.utf8EncodeChar c)) (readBody rest)

/-- The bytes that the literal at the start of a text stands for, and what follows it. -/
def readLiteral : List Char → Option (ByteArray × List Char)
  | '"' :: rest => (readBody rest).map fun r => (r.1.toByteArray, r.2)
  | _ => none

/-! ## Texts are read back -/

theorem readBody_letter {c x : Char} (hx : escapedChar? c = some x) (rest : List Char) :
    readBody ('\\' :: c :: rest) = prepend (some (String.utf8EncodeChar x)) (readBody rest) := by
  -- The letters of the longer escapes stand for no character by themselves.
  have hbyte : c ≠ 'x' := by
    rintro rfl
    exact absurd hx (by simp [escapedChar?])
  have hshort : c ≠ 'u' := by
    rintro rfl
    exact absurd hx (by simp [escapedChar?])
  have hlong : c ≠ 'U' := by
    rintro rfl
    exact absurd hx (by simp [escapedChar?])
  -- The rules ask for two more characters before they try octal digits.
  rcases rest with _ | ⟨d, _ | ⟨e, rest⟩⟩
  · simp [readBody, hx]
  · rw [readBody.eq_8 c [d] (by simp) (by simp) (by simp) (by simp), hx]
  · rw [readBody.eq_7 c d e rest (by simp [hbyte]) (by simp [hshort]) (by simp [hlong]), hx]

theorem readBody_plain {c : Char} (hquote : c ≠ '"') (hbackslash : c ≠ '\\') (hbreak : c ≠ '\n')
    (rest : List Char) :
    readBody (c :: rest) = prepend (some (String.utf8EncodeChar c)) (readBody rest) := by
  rw [readBody]
  · exact hquote
  · exact hbreak
  · intro _ _ _ h
    exact absurd h hbackslash
  · intro _ _ _ _ _ h
    exact absurd h hbackslash
  · intro _ _ _ _ _ _ _ _ _ h
    exact absurd h hbackslash
  · intro _ _ h
    exact absurd h hbackslash

/-- Every character stands at its own code point. -/
theorem codeBytes?_toNat (c : Char) : codeBytes? c.toNat = some (String.utf8EncodeChar c) := by
  have hvalid : c.toNat.isValidChar := c.valid
  rw [codeBytes?, charOfCode?, if_pos hvalid, Char.ofNat_toNat, Option.map_some]

/-- The letters that JSON writes stand for the same characters in Go. -/
theorem escapedChar?_eq {letter : Char} (h : letter ∈ Json.escapeLetters) :
    escapedChar? letter = Json.charOfLetter? letter := by
  have hsame : ∀ l ∈ Json.escapeLetters, escapedChar? l = Json.charOfLetter? l := by
    simp [Json.escapeLetters, escapedChar?, Json.charOfLetter?]
  exact hsame letter h

/-- A control character is read back from its code. -/
theorem readBody_control {c : Char} (hcontrol : c.toNat < 32) (rest : List Char) :
    readBody ('\\' :: 'u' :: '0' :: '0' :: hexDigit (c.toNat / 16) :: hexDigit (c.toNat % 16)
        :: rest)
      = prepend (some (String.utf8EncodeChar c)) (readBody rest) := by
  rw [readBody, Json.hexUnit?_hexDigit c.toNat hcontrol, Option.bind_some, codeBytes?_toNat]

/-- A character is read back from what is written for it. -/
theorem readBody_escapeChar (c : Char) (rest : List Char) :
    readBody (escapeChar c ++ rest)
      = prepend (some (String.utf8EncodeChar c)) (readBody rest) := by
  rcases Json.escapeChar_cases c with ⟨letter, hletter, hchar, hc⟩ | ⟨hcontrol, hc⟩
    | ⟨hquote, hbackslash, hcontrol, hc⟩
  · rw [hc]
    exact readBody_letter ((escapedChar?_eq hletter).trans hchar) rest
  · rw [hc]
    exact readBody_control hcontrol rest
  · have hbreak : c ≠ '\n' := by
      rintro rfl
      exact hcontrol (by decide)
    rw [hc]
    exact readBody_plain hquote hbackslash hbreak rest

theorem readBody_escaped (s rest : List Char) :
    readBody (s.flatMap escapeChar ++ '"' :: rest)
      = some (s.flatMap String.utf8EncodeChar, rest) := by
  induction s with
  | nil => rfl
  | cons c s ih =>
    rw [List.flatMap_cons, List.append_assoc, readBody_escapeChar, ih]
    rfl

/-- The literal of a text stands for the bytes of the text and ends at its own closing quote,
whatever follows it. -/
theorem readLiteral_literal (text : String) (rest : List Char) :
    readLiteral ((literal text).toList ++ rest) = some (text.toUTF8, rest) := by
  have hquoted : (literal text).toList ++ rest
      = '"' :: (text.toList.flatMap escapeChar ++ '"' :: rest) := by
    rw [literal, Json.quote, String.toList_ofList, Json.quoted, List.append_assoc]
    rfl
  have hbytes : (text.toList.flatMap String.utf8EncodeChar).toByteArray = text.toUTF8 := by
    conv => rhs; rw [← String.ofList_toList (s := text)]
    rw [String.toUTF8_eq_toByteArray]
    rfl
  rw [hquoted, readLiteral, readBody_escaped, Option.map_some, hbytes]

-- Literals are read with all escapes of Go, also with those that are never written for a text.
example : readLiteral "\"\\x41\\102\\u00e9\\U0001F600\\v\" + x".toList
    = some (⟨#[65, 66, 195, 169, 240, 159, 152, 128, 11]⟩, " + x".toList) := by
  decide +kernel

example : readLiteral "\"\\'\"".toList = none ∧ readLiteral "\"\\ud800\"".toList = none := by
  decide +kernel

end ApiDocs.GoModule
