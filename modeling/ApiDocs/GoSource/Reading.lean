import ApiDocs.GoSource.Fields
import ApiDocs.GoSource.Heads
import ApiDocs.Text.Pieces

/-!
# Reading Go sources

A source text is read line by line. Outside of structs, comment lines gather as the documentation
of a function that follows them directly; the line that opens a struct starts its body, and the
body ends at the line that closes the brace. Bodies of functions are read like other lines: their
lines open no declaration because they are indented.
-/

set_option autoImplicit false

namespace ApiDocs.GoSource

open Text (trim)

/-- Where the reader stands. -/
inductive Place
  /-- Outside of structs, below these comment lines. -/
  | top (doc : List String)
  /-- In the body of a struct with these fields, inside so many open braces. -/
  | body (name : String) (fields : List Field) (depth : Nat)
deriving DecidableEq, Repr

/-- What was read so far. -/
structure Reading where
  place : Place := .top []
  declarations : Declarations := {}
deriving DecidableEq, Repr

namespace Declarations

/-- The declarations with one more function. -/
def addFunction (d : Declarations) (f : Function) : Declarations :=
  { d with functions := d.functions ++ [f] }

/-- The declarations with one more struct. -/
def addStruct (d : Declarations) (s : Struct) : Declarations :=
  { d with structs := d.structs ++ [s] }

end Declarations

/-- The text of a comment line: what follows the two slashes that the line starts with. -/
def comment? (line : List Char) : Option String :=
  (['/', '/'].isPrefixOf? (trim line)).map fun text => String.ofList (trim text)

/-- The number of open braces after a line of a body. -/
def depthAfter (depth : Nat) (line : List Char) : Nat :=
  let (opens, closes) := braceCounts (withoutComment false line)
  depth + opens - closes

/-- The field that a line of a body declares. Only a line directly in the struct declares one, and
only if it opens and closes no block. -/
def fieldAt? (depth : Nat) (line : List Char) : Option Field :=
  if depth = 1 ∧ braceCounts (withoutComment false line) = (0, 0) then field? line else none

namespace Reading

/-- After a line outside of structs that is no comment. -/
def topLine (d : Declarations) (doc : List String) (line : List Char) : Reading :=
  match package? (trim line) with
  | some name => ⟨.top [], { d with package := String.ofList name }⟩
  | none =>
    match functionHead? line with
    | some (name, receiver) => ⟨.top [], d.addFunction ⟨name, receiver, doc⟩⟩
    | none =>
      match structHead? line with
      | some (name, true) => ⟨.top [], d.addStruct ⟨name, []⟩⟩
      | some (name, false) => ⟨.body name [] 1, d⟩
      | none => ⟨.top [], d⟩

/-- After one more line. -/
def line (r : Reading) (line : List Char) : Reading :=
  match r.place with
  | .top doc =>
    match comment? line with
    | some text => { r with place := .top (doc ++ [text]) }
    | none => topLine r.declarations doc line
  | .body name fields depth =>
    let fields := fields ++ (fieldAt? depth line).toList
    match depthAfter depth line with
    | 0 => ⟨.top [], r.declarations.addStruct ⟨name, fields⟩⟩
    | depth => { r with place := .body name fields depth }

/-- The declarations when the text ends. A struct that is still open ends with it. -/
def finish (r : Reading) : Declarations :=
  match r.place with
  | .top _ => r.declarations
  | .body name fields _ => r.declarations.addStruct ⟨name, fields⟩

end Reading

/-- The declarations of a list of lines. -/
def Declarations.ofLines (lines : List (List Char)) : Declarations :=
  (lines.foldl Reading.line {}).finish

/-- The declarations of a source text. -/
def Declarations.ofSource (source : String) : Declarations :=
  .ofLines (Text.lines source.toList)

end ApiDocs.GoSource
