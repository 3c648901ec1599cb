import ApiDocs.Text.Pieces

/-!
# Tables of character properties

A table lists the code points that have a property as ascending ranges. A range is written as its
distance from the end of the one before, and then, unless it is a single code point, a plus sign and
the distance between its ends.
-/

set_option autoImplicit false

namespace ApiDocs.Pattern

/-- The names and the code points of a property. -/
structure PropertyTable where
  /-- The names without blanks, dashes and underscores, in lower case. -/
  names : List String
  /-- The ranges, in lines. -/
  lines : List String

/-- The number that decimal digits denote. -/
def decimalOfDigits (digits : List Char) : Nat :=
  digits.foldl (fun n c => n * 10 + (c.toNat - 48)) 0

/-- The ranges that are written in words, from the end of the range before them. -/
def rangesOfWords (previous : Nat) : List (List Char) → List (Nat × Nat)
  | [] => []
  | word :: rest =>
    let first := previous + decimalOfDigits (word.takeWhile (· ≠ '+'))
    let last := first + decimalOfDigits ((word.dropWhile (· ≠ '+')).drop 1)
    (first, last) :: rangesOfWords last rest

namespace PropertyTable

/-- The ranges of a table. -/
def ranges (t : PropertyTable) : List (Nat × Nat) :=
  rangesOfWords 0 (t.lines.flatMap fun line => Text.pieces ' ' line.toList)

/-- The table of a name. -/
def find? (tables : List PropertyTable) (name : String) : Option PropertyTable :=
  tables.find? fun t => t.names.contains name

end PropertyTable

end ApiDocs.Pattern
