import ApiDocs.Swagger.Model

/-!
# Operations

What can be requested of an API on one path with one HTTP method.
-/

set_option autoImplicit false

namespace ApiDocs

/-- A parameter of an operation. The name of its type is given twice, under two names. -/
structure Parameter where
  location : String
  name : String
  description : String := ""
  dataType : String := ""
  type : String := ""
  format : String := ""
  allowMultiple : Bool := false
  required : Bool := false
deriving DecidableEq, Repr, Inhabited

/-- An answer that an operation may give. -/
structure ResponseMessage where
  /-- The status code, a number of sixteen bits. -/
  code : UInt16
  message : String := ""
  responseModel : String := ""
deriving DecidableEq, Repr, Inhabited

/-- An operation on a path. -/
structure Operation where
  httpMethod : String
  nickname : String
  type : String := ""
  items : Option Items := none
  summary : String := ""
  notes : String := ""
  parameters : List Parameter := []
  responseMessages : List ResponseMessage := []
  consumes : List String := []
  produces : List String := []
deriving DecidableEq, Repr, Inhabited

end ApiDocs
