import ApiDocs.SortedMap
import ApiDocs.Text.Pieces
import ApiDocs.Types.SwaggerType

/-!
# Type overrides

Types that write themselves as a primitive, so that their declaration says nothing about their JSON
form. They are known by their name without a package.
-/

set_option autoImplicit false

namespace ApiDocs

/-- The primitive that a type writes itself as. -/
inductive OverrideKind
  | string
  | int
  | float
  | bool
deriving DecidableEq, Repr

namespace OverrideKind

/-- The documented type of a primitive. -/
def type : OverrideKind → SwaggerType
  | string => .primitive "string" none
  | int => .primitive "integer" (some "int64")
  | float => .primitive "number" (some "double")
  | bool => .primitive "boolean" none

end OverrideKind

/-- The primitives of overridden types by their names. -/
abbrev TypeOverrides := SortedMap String OverrideKind

namespace TypeOverrides

/-- The nullable wrappers of Go's package for databases. -/
def standard : TypeOverrides :=
  .ofList [("NullString", .string), ("NullInt64", .int), ("NullFloat64", .float),
    ("NullBool", .bool)]

/-- The primitive that a type is overridden with; the package before its name does not matter. -/
def lookup (overrides : TypeOverrides) (name : List Char) : Option OverrideKind :=
  overrides.get? (String.ofList (Text.lastPiece '.' name))

end TypeOverrides

end ApiDocs
