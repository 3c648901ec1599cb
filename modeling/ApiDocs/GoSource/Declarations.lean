import ApiDocs.Path

/-!
# Declarations of Go source files

What is read from a Go file: its package, its functions with the comments above them, and its
struct types with their fields.
-/

set_option autoImplicit false

namespace ApiDocs.GoSource

/-- The receiver of a method. -/
structure Receiver where
  /-- The name of the type without the star of a pointer. -/
  type : String
  isPointer : Bool
deriving DecidableEq, Repr

/-- A function, or a method if it has a receiver. -/
structure Function where
  name : String
  receiver : Option Receiver
  /-- The comment lines directly above the function. -/
  doc : List String
deriving DecidableEq, Repr

/-- A field of a struct. -/
structure Field where
  name : String
  /-- The type expression as written. -/
  type : String
  /-- The name that the tag gives the field in JSON. -/
  jsonName : Option String
  /-- The tag leaves the field out of JSON when it is empty. -/
  omitEmpty : Bool
  /-- The tag leaves the field out of JSON. -/
  skip : Bool
  /-- The comment behind the field. -/
  description : String
deriving DecidableEq, Repr

/-- The name of a field in JSON. -/
def Field.jsonKey (f : Field) : String :=
  f.jsonName.getD f.name

/-- A struct type. -/
structure Struct where
  name : String
  fields : List Field
deriving DecidableEq, Repr

/-- What is read from a text. -/
structure Declarations where
  /-- The name in the package clause; empty if there is none. -/
  package : String := ""
  functions : List Function := []
  structs : List Struct := []
deriving DecidableEq, Repr, Inhabited

/-- A source file that was read. -/
structure File where
  path : Path
  declarations : Declarations
deriving DecidableEq, Repr

end ApiDocs.GoSource
