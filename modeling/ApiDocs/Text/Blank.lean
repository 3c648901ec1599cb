/-!
# Blank characters

Which characters count as white space, and the removal of blanks at the ends of a text. A text is
handled as its list of characters here; `trimmed` is the same operation on a `String`.
-/

set_option autoImplicit false

namespace ApiDocs.Text

/-- Whether a character is white space: the twenty-five characters with the Unicode property
`White_Space`. -/
def isBlank (c : Char) : Bool :=
  let n := c.toNat
  (9 ≤ n && n ≤ 13) || n == 0x20 || n == 0x85 || n == 0xA0 || n == 0x1680 ||
    (0x2000 ≤ n && n ≤ 0x200A) || n == 0x2028 || n == 0x2029 || n == 0x202F || n == 0x205F ||
    n == 0x3000

/-- The text without the characters of a class at its end. -/
def dropEndWhile (p : Char → Bool) (s : List Char) : List Char :=
  (s.reverse.dropWhile p).reverse

/-- The text without the characters of a class at either end. -/
def trimWhile (p : Char → Bool) (s : List Char) : List Char :=
  dropEndWhile p (s.dropWhile p)

/-- The text without the blanks at either end. -/
def trim (s : List Char) : List Char :=
  trimWhile isBlank s

/-- The string without the blanks at either end. -/
def trimmed (s : String) : String :=
  String.ofList (trim s.toList)

end ApiDocs.Text
