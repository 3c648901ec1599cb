/-!
# Letters

Case of ASCII letters on whole texts, and the test for ASCII letters and digits. Letters outside
ASCII have no case here.
-/

set_option autoImplicit false

namespace ApiDocs.Text

/-- The text with its ASCII letters in lower case. -/
def lower (s : List Char) : List Char :=
  s.map Char.toLower

/-- The string with its ASCII letters in lower case. -/
def lowered (s : String) : String :=
  String.ofList (lower s.toList)

/-- Whether a character is an ASCII letter or digit. -/
def isAsciiAlphanumeric (c : Char) : Bool :=
  ('a' ≤ c && c ≤ 'z') || ('A' ≤ c && c ≤ 'Z') || ('0' ≤ c && c ≤ '9')

end ApiDocs.Text
