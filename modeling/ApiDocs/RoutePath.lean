import ApiDocs.Text.Pieces

/-!
# Route paths

Routes are declared with markers on their segments: `:name` for a required parameter and `?:name`
for an optional one. Documents show both as the placeholder `{name}`.
-/

set_option autoImplicit false

namespace ApiDocs.RoutePath

open Text (pieces)

/-- A name in braces. -/
def placeholder (name : List Char) : List Char :=
  '{' :: name ++ ['}']

/-- A segment of a route with its marker turned into a placeholder. A segment without a marker
stays as it is; so does a question mark that no colon follows. -/
def segmentTemplate : List Char → List Char
  | ':' :: name => placeholder name
  | '?' :: ':' :: name => placeholder name
  | segment => segment

/-- A route path with every marked segment turned into a placeholder. -/
def template (path : String) : String :=
  String.ofList (['/'].intercalate ((pieces '/' path.toList).map segmentTemplate))

end ApiDocs.RoutePath
