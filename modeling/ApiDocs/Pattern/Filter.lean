import ApiDocs.Error
import ApiDocs.Pattern.Matching
import ApiDocs.Pattern.Reader
import ApiDocs.RouteFilter

/-!
# Filters by pattern

A controller pattern restricts the documentation to receiver types in which it matches somewhere.
-/

set_option autoImplicit false

namespace ApiDocs.RouteFilter

/-- The filter of a controller pattern. An empty pattern restricts nothing. -/
def ofPattern (pattern : Option String) : Except Error RouteFilter :=
  match pattern.filter (· ≠ "") with
  | none => .ok {}
  | some text =>
    match Pattern.read? text with
    | some p => .ok { controllers := some p.isMatch }
    | none => .error (.configuration .invalidPattern)

end ApiDocs.RouteFilter
