import ApiDocs.Json.Value

/-!
# The text of JSON values

Two forms of a value: indented by four spaces, one item or member a line, and compact, on one line.
Texts are written with the escapes that JSON demands and no others.
-/

set_option autoImplicit false

namespace ApiDocs.Json

/-- The hexadecimal digit of a number below sixteen. -/
def hexDigit (n : Nat) : Char :=
  if n < 10 then Char.ofNat (48 + n) else Char.ofNat (87 + n)

/-- A character inside a quoted text. Quotes and backslashes are escaped, and so are the control
characters below the space: by a letter where there is one, and by their code otherwise. -/
def escapeChar (c : Char) : List Char :=
  if c = '"' then ['\\', '"']
  else if c = '\\' then ['\\', '\\']
  else if c = '\x08' then ['\\', 'b']
  else if c = '\x0c' then ['\\', 'f']
  else if c = '\n' then ['\\', 'n']
  else if c = '\r' then ['\\', 'r']
  else if c = '\t' then ['\\', 't']
  else if c.toNat < 32 then
    ['\\', 'u', '0', '0', hexDigit (c.toNat / 16), hexDigit (c.toNat % 16)]
  else [c]

/-- A text in quotes. -/
def quoted (s : List Char) : List Char :=
  '"' :: s.flatMap escapeChar ++ ['"']

/-- A string in quotes. -/
def quote (s : String) : String :=
  String.ofList (quoted s.toList)

/-- The line break before an item at a depth of nesting. -/
def lineBreak (depth : Nat) : List Char :=
  '\n' :: List.replicate (4 * depth) ' '

mutual

/-- The indented text of a value at a depth of nesting. -/
def indented (depth : Nat) : Value → List Char
  | .null => "null".toList
  | .bool b => if b then "true".toList else "false".toList
  | .natural n => (toString n).toList
  | .numeral text => text.toList
  | .string s => quoted s.toList
  | .array [] => ['[', ']']
  | .array (item :: items) =>
    '[' :: lineBreak (depth + 1) ++ indented (depth + 1) item ++ indentedItems (depth + 1) items
      ++ lineBreak depth ++ [']']
  | .object [] => ['{', '}']
  | .object ((name, value) :: members) =>
    '{' :: lineBreak (depth + 1) ++ quoted name.toList ++ [':', ' ']
      ++ indented (depth + 1) value ++ indentedMembers (depth + 1) members
      ++ lineBreak depth ++ ['}']

/-- The items of an array after the first one. -/
def indentedItems (depth : Nat) : List Value → List Char
  | [] => []
  | item :: items =>
    ',' :: lineBreak depth ++ indented depth item ++ indentedItems depth items

/-- The members of an object after the first one. -/
def indentedMembers (depth : Nat) : List (String × Value) → List Char
  | [] => []
  | (name, value) :: members =>
    ',' :: lineBreak depth ++ quoted name.toList ++ [':', ' '] ++ indented depth value
      ++ indentedMembers depth members

end

mutual

/-- The compact text of a value. -/
def compact : Value → List Char
  | .null => "null".toList
  | .bool b => if b then "true".toList else "false".toList
  | .natural n => (toString n).toList
  | .numeral text => text.toList
  | .string s => quoted s.toList
  | .array [] => ['[', ']']
  | .array (item :: items) => '[' :: compact item ++ compactItems items ++ [']']
  | .object [] => ['{', '}']
  | .object ((name, value) :: members) =>
    '{' :: quoted name.toList ++ ':' :: compact value ++ compactMembers members ++ ['}']

/-- The items of an array after the first one. -/
def compactItems : List Value → List Char
  | [] => []
  | item :: items => ',' :: compact item ++ compactItems items

/-- The members of an object after the first one. -/
def compactMembers : List (String × Value) → List Char
  | [] => []
  | (name, value) :: members =>
    ',' :: quoted name.toList ++ ':' :: compact value ++ compactMembers members

end

namespace Value

/-- The text of a value, indented by four spaces. -/
def toIndented (v : Value) : String :=
  String.ofList (indented 0 v)

/-- The text of a value on one line. -/
def toCompact (v : Value) : String :=
  String.ofList (compact v)

end Value

end ApiDocs.Json
