import ApiDocs.Json.Value

/-!
# Reading JSON text

The value of a text, as in RFC 8259. Escapes above the basic plane come as surrogate pairs; a
surrogate that stands alone is no character, so the text is refused.
-/

set_option autoImplicit false

namespace ApiDocs.Json

/-- The blanks that JSON allows between tokens. -/
def isSpace (c : Char) : Bool :=
  c == ' ' || c == '\n' || c == '\r' || c == '\t'

/-- A text without the blanks at its start. -/
def skipSpace (s : List Char) : List Char :=
  s.dropWhile isSpace

/-- The value of a hexadecimal digit. -/
def hexValue? (c : Char) : Option Nat :=
  if '0' ≤ c ∧ c ≤ '9' then some (c.toNat - 48)
  else if 'a' ≤ c ∧ c ≤ 'f' then some (c.toNat - 87)
  else if 'A' ≤ c ∧ c ≤ 'F' then some (c.toNat - 55)
  else none

/-- The value of four hexadecimal digits. -/
def hexUnit? (a b c d : Char) : Option Nat := do
  let high := (← hexValue? a) * 16 + (← hexValue? b)
  return high * 256 + (← hexValue? c) * 16 + (← hexValue? d)

/-- The character of a code that is no surrogate. -/
def charOfCode? (n : Nat) : Option Char :=
  if n.isValidChar then some (Char.ofNat n) else none

/-- Whether a code is the first half of a surrogate pair. -/
def isHighSurrogate (n : Nat) : Bool :=
  0xD800 ≤ n && n < 0xDC00

/-- The character of a surrogate pair, if the second code is a second half. -/
def charOfPair? (high low : Nat) : Option Char :=
  if 0xDC00 ≤ low ∧ low < 0xE000 then
    charOfCode? (0x10000 + (high - 0xD800) * 0x400 + (low - 0xDC00))
  else none

/-- The character of an escape by letter. -/
def charOfLetter? (c : Char) : Option Char :=
  if c = '"' ∨ c = '\\' ∨ c = '/' then some c
  else if c = 'b' then some '\x08'
  else if c = 'f' then some '\x0c'
  else if c = 'n' then some '\n'
  else if c = 'r' then some '\r'
  else if c = 't' then some '\t'
  else none

/-- The rest of a quoted text after its opening quote, and what follows the closing quote. -/
def readQuoted : List Char → Option (List Char × List Char)
  | [] => none
  | '"' :: rest => some ([], rest)
  | '\\' :: 'u' :: a :: b :: c :: d :: rest =>
    match hexUnit? a b c d with
    | none => none
    | some n =>
      if isHighSurrogate n then
        match rest with
        | '\\' :: 'u' :: e :: f :: g :: h :: rest =>
          match (hexUnit? e f g h).bind (charOfPair? n) with
          | none => none
          | some x => (readQuoted rest).map fun r => (x :: r.1, r.2)
        | _ => none
      else
        match charOfCode? n with
        | none => none
        | some x => (readQuoted rest).map fun r => (x :: r.1, r.2)
  | '\\' :: c :: rest =>
    match charOfLetter? c with
    | none => none
    | some x => (readQuoted rest).map fun r => (x :: r.1, r.2)
  | c :: rest => if c.toNat < 32 then none else (readQuoted rest).map fun r => (c :: r.1, r.2)

/-- Whether a character is an ASCII digit. -/
def isAsciiDigit (c : Char) : Bool :=
  '0' ≤ c && c ≤ '9'

/-- The number that decimal digits denote. -/
def naturalOfDigits (digits : List Char) : Nat :=
  digits.foldl (fun n c => n * 10 + (c.toNat - 48)) 0

/-- Whether digits are a whole part of a numeral: at least one, and no zero before others. -/
def isWholePart (digits : List Char) : Bool :=
  match digits with
  | [] => false
  | ['0'] => true
  | '0' :: _ => false
  | _ => true

/-- The fraction at the start of a text, empty if there is none, and what follows it. -/
def readFraction : List Char → Option (List Char × List Char)
  | '.' :: rest =>
    let digits := rest.takeWhile isAsciiDigit
    if digits = [] then none else some ('.' :: digits, rest.dropWhile isAsciiDigit)
  | rest => some ([], rest)

/-- The exponent at the start of a text, empty if there is none, and what follows it. -/
def readExponent : List Char → Option (List Char × List Char)
  | [] => some ([], [])
  | c :: rest =>
    if c = 'e' ∨ c = 'E' then
      let sign := if rest.head? = some '+' ∨ rest.head? = some '-' then rest.take 1 else []
      let rest := rest.drop sign.length
      let digits := rest.takeWhile isAsciiDigit
      if digits = [] then none else some (c :: sign ++ digits, rest.dropWhile isAsciiDigit)
    else some ([], c :: rest)

/-- The numeral at the start of a text, and what follows it. -/
def readNumeral (s : List Char) : Option (Value × List Char) :=
  let sign := if s.head? = some '-' then ['-'] else []
  let s := s.drop sign.length
  let whole := s.takeWhile isAsciiDigit
  if isWholePart whole then
    match readFraction (s.dropWhile isAsciiDigit) with
    | none => none
    | some (fraction, rest) =>
      match readExponent rest with
      | none => none
      | some (exponent, rest) =>
        if sign = [] ∧ fraction = [] ∧ exponent = [] then
          some (.natural (naturalOfDigits whole), rest)
        else some (.numeral (String.ofList (sign ++ whole ++ fraction ++ exponent)), rest)
  else none

/-- The value of a literal name at the start of a text, and what follows it. -/
def readLiteral (s : List Char) : Option (Value × List Char) :=
  match "null".toList.isPrefixOf? s with
  | some rest => some (.null, rest)
  | none =>
    match "true".toList.isPrefixOf? s with
    | some rest => some (.bool true, rest)
    | none => ("false".toList.isPrefixOf? s).map fun rest => (.bool false, rest)

mutual

/-- The value at the start of a text that begins with no blank, and what follows it. The first
argument bounds the number of nested calls; the length of the text is enough. -/
def readValue : Nat → List Char → Option (Value × List Char)
  | 0, _ => none
  | _ + 1, [] => none
  | _ + 1, '"' :: rest => (readQuoted rest).map fun r => (.string (String.ofList r.1), r.2)
  | n + 1, '[' :: rest =>
    match skipSpace rest with
    | ']' :: rest => some (.array [], rest)
    | rest => (readItems n rest).map fun r => (.array r.1, r.2)
  | n + 1, '{' :: rest =>
    match skipSpace rest with
    | '}' :: rest => some (.object [], rest)
    | rest => (readMembers n rest).map fun r => (.object r.1, r.2)
  | _ + 1, c :: rest =>
    if c = 'n' ∨ c = 't' ∨ c = 'f' then readLiteral (c :: rest) else readNumeral (c :: rest)

/-- The items of an array from one item on, and what follows the closing bracket. -/
def readItems : Nat → List Char → Option (List Value × List Char)
  | 0, _ => none
  | n + 1, s =>
    match readValue n s with
    | none => none
    | some (item, rest) =>
      match skipSpace rest with
      | ']' :: rest => some ([item], rest)
      | ',' :: rest => (readItems n (skipSpace rest)).map fun r => (item :: r.1, r.2)
      | _ => none

/-- The members of an object from one member on, and what follows the closing brace. -/
def readMembers : Nat → List Char → Option (List (String × Value) × List Char)
  | 0, _ => none
  | n + 1, '"' :: s =>
    match readQuoted s with
    | none => none
    | some (name, rest) =>
      match skipSpace rest with
      | ':' :: rest =>
        match readValue n (skipSpace rest) with
        | none => none
        | some (value, rest) =>
          match skipSpace rest with
          | '}' :: rest => some ([(String.ofList name, value)], rest)
          | ',' :: rest =>
            (readMembers n (skipSpace rest)).map fun r => ((String.ofList name, value) :: r.1, r.2)
          | _ => none
      | _ => none
  | _ + 1, _ => none

end

/-- The value that a whole text is written for. -/
def read? (text : String) : Option Value :=
  let s := skipSpace text.toList
  match readValue (s.length + 1) s with
  | some (value, rest) => if skipSpace rest = [] then some value else none
  | none => none

end ApiDocs.Json
