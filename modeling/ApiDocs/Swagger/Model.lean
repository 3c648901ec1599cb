import ApiDocs.SortedMap

/-!
# Models

The data types that operations take and give, as properties with a type each.
-/

set_option autoImplicit false

namespace ApiDocs

/-- The element type of an array: a type name or a reference to a model. -/
structure Items where
  type : Option String := none
  reference : Option String := none
deriving DecidableEq, Repr, Inhabited

/-- A property of a model. -/
structure Property where
  type : Option String := none
  reference : Option String := none
  format : Option String := none
  items : Option Items := none
  description : String := ""
deriving DecidableEq, Repr, Inhabited

/-- A data type. -/
structure Model where
  id : String
  required : List String := []
  properties : SortedMap String Property := .empty
deriving DecidableEq, Inhabited

end ApiDocs
