import ApiDocs.GoSource.Declarations

/-!
# Route filters

Which functions take part in the documentation. Without a controller pattern all do; with one, only
methods do whose receiver is a pointer to a type that the pattern accepts.
-/

set_option autoImplicit false

namespace ApiDocs

/-- A choice of functions. -/
structure RouteFilter where
  /-- The receiver types that are accepted, if there is a restriction. -/
  controllers : Option (String → Bool) := none

namespace RouteFilter

/-- Whether a function with this receiver takes part. -/
def includes (filter : RouteFilter) (receiver : Option GoSource.Receiver) : Bool :=
  match filter.controllers with
  | none => true
  | some accepts =>
    match receiver with
    | some r => r.isPointer && accepts r.type
    | none => false

end RouteFilter

end ApiDocs
