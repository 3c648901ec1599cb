import ApiDocs.Text.WordRanges

/-!
# Words and digits

The characters that make up words, and the decimal digits of every script.
-/

set_option autoImplicit false

namespace ApiDocs.Text

/-- Whether a code point lies in one of the ranges. -/
def inRanges (ranges : List (Nat × Nat)) (n : Nat) : Bool :=
  ranges.any fun r => r.1 ≤ n && n ≤ r.2

/-- Whether a character is a decimal digit of some script. -/
def isDigit (c : Char) : Bool :=
  ('0' ≤ c && c ≤ '9') || (128 ≤ c.toNat && inRanges digitRanges c.toNat)

/-- Whether a character belongs to a word: a letter, mark, decimal digit, connector (such as the
underscore) or join control. -/
def isWord (c : Char) : Bool :=
  ('a' ≤ c && c ≤ 'z') || ('A' ≤ c && c ≤ 'Z') || ('0' ≤ c && c ≤ '9') || c == '_' ||
    (128 ≤ c.toNat && inRanges wordRanges c.toNat)

end ApiDocs.Text
