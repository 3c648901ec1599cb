import ApiDocs.Text.Blank
import ApiDocs.Text.Letters
import ApiDocs.Text.Pieces

/-!
# Tagged lines

An annotation is a comment line `@Tag value`. The tag is read without regard to the case of ASCII
letters, and the value without the blanks around it.
-/

set_option autoImplicit false

namespace ApiDocs.Annotations

open Text (isBlank trim)

/-- A line that carries a tag. -/
structure Tagged where
  /-- The tag in lower case. -/
  tag : String
  /-- The rest of the line without the blanks around it. -/
  value : List Char
deriving DecidableEq, Repr

/-- The tag and the value of a line, if it starts with an at sign and a tag follows at once. -/
def Tagged.ofLine? (line : String) : Option Tagged :=
  match trim line.toList with
  | '@' :: body =>
    let tag := body.takeWhile fun c => !isBlank c
    if tag = [] then none
    else some ⟨String.ofList (Text.lower tag), trim (body.dropWhile fun c => !isBlank c)⟩
  | _ => none

/-- The items of a list with commas between them, without blanks around each; empty items do not
count. -/
def listItems (value : List Char) : List String :=
  (((Text.pieces ',' value).map trim).filter (· ≠ [])).map String.ofList

end ApiDocs.Annotations
