import ApiDocs.GoSource.Declarations
import ApiDocs.Text.Runs
import ApiDocs.Text.Word

/-!
# Fields of structs

A line in the body of a struct: the field it declares, if it declares one, and the braces by which
it opens and closes blocks. Tags stand between back-quotes, and a comment starts at two slashes
outside of a tag.
-/

set_option autoImplicit false

namespace ApiDocs.GoSource

open Text (dropBlanks1? isBlank isWord takeWhile1? trim)

/-- The back-quote, which encloses tags. -/
def backQuote : Char := '\x60'

/-- A line up to the comment that ends it. -/
def withoutComment (inTag : Bool) : List Char → List Char
  | [] => []
  | c :: rest =>
    if c = backQuote then c :: withoutComment (!inTag) rest
    else if inTag = false ∧ c = '/' ∧ rest.head? = some '/' then []
    else c :: withoutComment inTag rest

/-- A line without its tags and their back-quotes. -/
def withoutTags (inTag : Bool) : List Char → List Char
  | [] => []
  | c :: rest =>
    if c = backQuote then withoutTags (!inTag) rest
    else if inTag then withoutTags inTag rest
    else c :: withoutTags inTag rest

/-- A text without the pairs of braces that enclose nothing. -/
def withoutEmptyPairs : List Char → List Char
  | '{' :: '}' :: rest => withoutEmptyPairs rest
  | c :: rest => c :: withoutEmptyPairs rest
  | [] => []

/-- The numbers of braces by which code opens and closes blocks. Tags and empty pairs do not
count. -/
def braceCounts (code : List Char) : Nat × Nat :=
  let code := withoutEmptyPairs (withoutTags false code)
  (code.count '{', code.count '}')

/-- Whether a character can occur in a type expression. -/
def isTypeExpression (c : Char) : Bool :=
  isWord c || c == '.' || c == '[' || c == ']' || c == '*' || c == '{' || c == '}'

/-- What follows the first occurrence of a word in a text. -/
def after? (word : List Char) : List Char → Option (List Char)
  | [] => word.isPrefixOf? []
  | c :: rest =>
    match word.isPrefixOf? (c :: rest) with
    | some found => some found
    | none => after? word rest

/-- The value of the `json` key of a tag. -/
def jsonValue? (tag : List Char) : Option (List Char) := do
  let rest ← after? "json:\"".toList tag
  if '"' ∈ rest then some (rest.takeWhile (· ≠ '"')) else none

/-- What a tag says on the JSON form of a field. -/
structure FieldTag where
  jsonName : Option String := none
  omitEmpty : Bool := false
  skip : Bool := false
deriving DecidableEq, Repr

/-- What the value of a `json` key says: a name, a dash for a field that is left out, or nothing,
and then options. -/
def FieldTag.ofValue (value : List Char) : FieldTag :=
  let parts := Text.pieces ',' value
  let first := parts.headD []
  { jsonName := if first = [] ∨ first = ['-'] then none else some (String.ofList first)
    omitEmpty := parts.tail.any (· == "omitempty".toList)
    skip := first == ['-'] }

/-- The tag at the start of a text, if there is one, and what follows. -/
def takeTag? (s : List Char) : Option (Option (List Char) × List Char) :=
  match s with
  | [] => some (none, [])
  | c :: rest =>
    if c = backQuote then
      if backQuote ∈ rest then
        some (rest.takeWhile (· ≠ backQuote), (rest.dropWhile (· ≠ backQuote)).tail)
      else none
    else some (none, s)

/-- The comment that ends a line; empty if nothing follows, and none if something else does. -/
def lineComment? (s : List Char) : Option (List Char) :=
  match s with
  | [] => some []
  | '/' :: '/' :: comment => some (trim comment)
  | _ => none

/-- The field that a line declares: a name, a type expression, a tag if there is one, and a comment
if there is one. -/
def field? (line : List Char) : Option Field := do
  let (name, rest) ← takeWhile1? isWord (line.dropWhile isBlank)
  let (type, rest) ← takeWhile1? isTypeExpression (← dropBlanks1? rest)
  let (tag, rest) ← takeTag? (rest.dropWhile isBlank)
  let comment ← lineComment? (rest.dropWhile isBlank)
  let tag := ((tag.bind jsonValue?).map FieldTag.ofValue).getD {}
  return {
    name := String.ofList name
    type := String.ofList type
    jsonName := tag.jsonName
    omitEmpty := tag.omitEmpty
    skip := tag.skip
    description := String.ofList comment }

end ApiDocs.GoSource
