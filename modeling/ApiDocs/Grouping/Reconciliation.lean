import ApiDocs.Notice
import ApiDocs.Swagger.Declaration

/-!
# Reconciliation of the listing

The listing refers to exactly the groups that are documented: references to other groups are
dropped, and groups without a reference get one.
-/

set_option autoImplicit false

namespace ApiDocs

namespace ResourceReference

/-- The key of the group that a reference is for. -/
def key? (r : ResourceReference) : Option GroupKey :=
  GroupKey.parse? r.path

/-- Whether a reference is for one of the groups. -/
def isKnown (groups : Groups) (r : ResourceReference) : Bool :=
  match r.key? with
  | some key => groups.contains key
  | none => false

/-- A reference to a group, without a description. -/
def ofKey (key : GroupKey) : ResourceReference :=
  ⟨key.resourcePath, ""⟩

end ResourceReference

namespace ResourceListing

/-- The references that stay: those to documented groups. -/
def kept (listing : ResourceListing) (groups : Groups) : List ResourceReference :=
  listing.apis.filter fun r => r.isKnown groups

/-- The references that are added: one to each group that none of the others is for. -/
def added (groups : Groups) (references : List ResourceReference) : List ResourceReference :=
  (groups.keys.filter fun key => !references.any fun r => r.key? == some key).map .ofKey

/-- The listing with references to exactly the documented groups. -/
def reconcile (listing : ResourceListing) (groups : Groups) : ResourceListing :=
  { listing with apis := listing.kept groups ++ added groups (listing.kept groups) }

/-- What reconciling a listing gives reason to report: the references that are dropped. -/
def reconcileNotices (listing : ResourceListing) (groups : Groups) : List Notice :=
  (listing.apis.filter fun r => !r.isKnown groups).map fun r => .droppedReference r.path

end ResourceListing

end ApiDocs
