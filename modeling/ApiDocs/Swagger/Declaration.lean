import ApiDocs.GroupKey
import ApiDocs.Swagger.Listing
import ApiDocs.Swagger.Operation

/-!
# API declarations

The document of one group: its routes with their operations, and the models these refer to. The
documentation of an API is its resource listing together with one declaration for each group.
-/

set_option autoImplicit false

namespace ApiDocs

/-- A path with its operations. -/
structure Route where
  path : String
  description : String := ""
  operations : List Operation := []
deriving DecidableEq, Repr, Inhabited

/-- The document of a group. -/
structure ApiDeclaration where
  apiVersion : String
  swaggerVersion : String
  basePath : String := ""
  resourcePath : String
  produces : List String := []
  consumes : List String := []
  apis : List Route := []
  models : SortedMap String Model := .empty
deriving DecidableEq, Inhabited

/-- The declarations of all groups. -/
abbrev Groups := SortedMap GroupKey ApiDeclaration

/-- The documentation of an API. -/
structure Documentation where
  listing : ResourceListing := {}
  groups : Groups := .empty
deriving DecidableEq, Inhabited

end ApiDocs
