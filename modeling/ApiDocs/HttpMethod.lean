import ApiDocs.Error
import ApiDocs.Text.Letters

/-!
# HTTP methods

The methods that a route can be declared with.
-/

set_option autoImplicit false

namespace ApiDocs

/-- A method of a route. -/
inductive HttpMethod
  | get
  | post
  | put
  | delete
  | patch
  | options
  | head
deriving DecidableEq, Repr

namespace HttpMethod

/-- The methods in the order of their declaration. -/
def all : List HttpMethod :=
  [get, post, put, delete, patch, options, head]

/-- The name of a method in a request line. -/
def name : HttpMethod → String
  | get => "GET"
  | post => "POST"
  | put => "PUT"
  | delete => "DELETE"
  | patch => "PATCH"
  | options => "OPTIONS"
  | head => "HEAD"

/-- The method of a name; the case of ASCII letters does not matter. -/
def parse (text : String) : Except Error HttpMethod :=
  match all.find? fun m => Text.lowered m.name == Text.lowered text with
  | some m => .ok m
  | none => .error (.configuration (.unknownMethod (Text.lowered text)))

end HttpMethod

end ApiDocs
