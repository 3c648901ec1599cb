/-!
# The resource listing

The root document of Swagger 1.2: general information on an API and a reference to each of its
groups.
-/

set_option autoImplicit false

namespace ApiDocs

/-- The version of Swagger that all documents declare. -/
def swaggerVersion : String := "1.2"

/-- A reference from the listing to a group. -/
structure ResourceReference where
  path : String
  description : String := ""
deriving DecidableEq, Repr, Inhabited

/-- General information on the API. -/
structure Info where
  title : String := ""
  description : String := ""
  contact : String := ""
  termsOfServiceUrl : String := ""
  license : String := ""
  licenseUrl : String := ""
deriving DecidableEq, Repr, Inhabited

/-- The root document. -/
structure ResourceListing where
  apiVersion : String := ""
  swaggerVersion : String := ""
  basePath : String := ""
  apis : List ResourceReference := []
  info : Info := {}
deriving DecidableEq, Repr, Inhabited

end ApiDocs
