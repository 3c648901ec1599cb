import ApiDocs.Pattern.CaseFolding
import ApiDocs.Pattern.Categories
import ApiDocs.Pattern.Properties
import ApiDocs.Pattern.Scripts
import ApiDocs.Text.Blank
import ApiDocs.Text.Letters
import ApiDocs.Text.Word

/-!
# Sets of characters

The sets that classes of a pattern stand for: ranges, named ASCII classes, and classes by Unicode
property.
-/

set_option autoImplicit false

namespace ApiDocs.Pattern

/-- A set of characters, as its test. -/
abbrev CharSet := Char → Bool

namespace CharSet

/-- The empty set. -/
def none : CharSet := fun _ => false

/-- The set of one character. -/
def single (a : Char) : CharSet := fun c => c == a

/-- The characters from one to another. -/
def range (a b : Char) : CharSet := fun c => a ≤ c && c ≤ b

/-- The characters in either set. -/
def union (s t : CharSet) : CharSet := fun c => s c || t c

/-- The characters that are not in a set. -/
def complement (s : CharSet) : CharSet := fun c => !s c

/-- The complement of a set if a condition holds, and else the set. -/
def complementIf (condition : Bool) (s : CharSet) : CharSet :=
  if condition then complement s else s

/-- The characters with code points in ranges. -/
def ofRanges (ranges : List (Nat × Nat)) : CharSet := fun c => Text.inRanges ranges c.toNat

/-- The set with all letters in all cases in which it has them in one. -/
def closeUnderCase (s : CharSet) : CharSet := fun c =>
  (equivalentCodes c.toNat).any fun n => s (Char.ofNat n)

/-- The set with all ASCII letters in both cases if it has them in one. -/
def closeUnderAsciiCase (s : CharSet) : CharSet := fun c =>
  s c || s c.toLower || s c.toUpper

/-- The set of a named ASCII class. -/
def ofAsciiClass? : String → Option CharSet
  | "alnum" => some fun c => c.isAlphanum
  | "alpha" => some fun c => c.isAlpha
  | "ascii" => some fun c => c.toNat < 128
  | "blank" => some fun c => c == ' ' || c == '\t'
  | "cntrl" => some fun c => c.toNat < 32 || c.toNat == 127
  | "digit" => some fun c => c.isDigit
  | "graph" => some fun c => 33 ≤ c.toNat && c.toNat ≤ 126
  | "lower" => some fun c => c.isLower
  | "print" => some fun c => 32 ≤ c.toNat && c.toNat ≤ 126
  | "punct" => some fun c => 33 ≤ c.toNat && c.toNat ≤ 126 && !c.isAlphanum
  | "space" => some fun c => (9 ≤ c.toNat && c.toNat ≤ 13) || c == ' '
  | "upper" => some fun c => c.isUpper
  | "word" => some fun c => c.isAlphanum || c == '_'
  | "xdigit" => some fun c =>
    c.isDigit || ('a' ≤ c && c ≤ 'f') || ('A' ≤ c && c ≤ 'F')
  | _ => Option.none

/-- The set of digits, blanks or word characters, of all scripts or of ASCII. -/
def ofShorthand (unicode : Bool) (name : Char) : CharSet :=
  if name = 'd' then if unicode then Text.isDigit else fun c => c.isDigit
  else if name = 's' then
    if unicode then Text.isBlank else fun c => (9 ≤ c.toNat && c.toNat ≤ 13) || c == ' '
  else if unicode then Text.isWord else fun c => c.isAlphanum || c == '_'

/-- A name of a property as tables have it: without blanks, dashes and underscores and without a
leading `is`, in lower case. -/
def propertyKey (name : List Char) : String :=
  let lower := Text.lower name
  let plain (s : List Char) : List Char :=
    s.filter fun c => c != ' ' && c != '-' && c != '_' && c.toNat < 128
  match "is".toList.isPrefixOf? lower with
  | some body => if plain body = ['c'] then "isc" else String.ofList (plain body)
  | Option.none => String.ofList (plain lower)

/-- The code points of general categories given by their names. -/
def categoryRanges (names : List String) : List (Nat × Nat) :=
  names.flatMap fun name =>
    ((PropertyTable.find? categoryTables name).map PropertyTable.ranges).getD []

/-- The categories that make up a group of categories. -/
def categoryGroup? : String → Option (List String)
  | "l" | "letter" => some ["lu", "ll", "lt", "lm", "lo"]
  | "lc" | "casedletter" => some ["lu", "ll", "lt"]
  | "m" | "mark" | "combiningmark" => some ["mn", "mc", "me"]
  | "n" | "number" => some ["nd", "nl", "no"]
  | "p" | "punctuation" | "punct" => some ["pc", "pd", "ps", "pe", "pi", "pf", "po"]
  | "s" | "symbol" => some ["sm", "sc", "sk", "so"]
  | "z" | "separator" => some ["zs", "zl", "zp"]
  | _ => Option.none

/-- The set of all characters that have a general category other than unassigned. -/
def assigned : CharSet :=
  ofRanges (categoryTables.flatMap PropertyTable.ranges)

/-- The set of a general category. -/
def ofCategory? (name : String) : Option CharSet :=
  if name = "any" then some fun _ => true
  else if name = "ascii" then some fun c => c.toNat < 128
  else if name = "assigned" then some assigned
  else if name = "cn" ∨ name = "unassigned" then some (complement assigned)
  else if name = "c" ∨ name = "other" then
    some (union (ofRanges (categoryRanges ["cc", "cf", "co"])) (complement assigned))
  else
    match categoryGroup? name with
    | some names => some (ofRanges (categoryRanges names))
    | Option.none => (PropertyTable.find? categoryTables name).map fun t => ofRanges t.ranges

/-- The set of a script. -/
def ofScript? (name : String) : Option CharSet :=
  (PropertyTable.find? scriptTables name).map fun t => ofRanges t.ranges

/-- The set of the characters that are used with a script. -/
def ofScriptExtension? (name : String) : Option CharSet :=
  ((PropertyTable.find? scriptExtensionTables name).or
    (PropertyTable.find? scriptTables name)).map fun t => ofRanges t.ranges

/-- The set of a name that is a binary property, a general category or a script. -/
def ofName? (name : String) : Option CharSet :=
  match PropertyTable.find? propertyTables name with
  | some t => some (ofRanges t.ranges)
  | Option.none => (ofCategory? name).or (ofScript? name)

/-- The set of a property with a value. -/
def ofNameAndValue? (name value : String) : Option CharSet :=
  if name = "gc" ∨ name = "generalcategory" then ofCategory? value
  else if name = "sc" ∨ name = "script" then ofScript? value
  else if name = "scx" ∨ name = "scriptextensions" then ofScriptExtension? value
  else Option.none

end CharSet

end ApiDocs.Pattern
