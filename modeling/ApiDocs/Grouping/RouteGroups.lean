import ApiDocs.Swagger.Declaration

/-!
# Route groups

Operations as they are gathered: by group, and in a group by path. Paths stand in the order in which
they first occur, and so do the operations on a path.
-/

set_option autoImplicit false

namespace ApiDocs

/-- What was gathered for one group. -/
structure RouteGroup where
  routes : List Route := []
  models : SortedMap String Model := .empty
deriving DecidableEq, Inhabited

/-- What was gathered for all groups. -/
abbrev RouteGroups := SortedMap GroupKey RouteGroup

/-- The routes with one more operation on a path. -/
def putOperation (path : String) (operation : Operation) : List Route → List Route
  | [] => [{ path, operations := [operation] }]
  | route :: others =>
    if route.path = path then
      { route with operations := route.operations ++ [operation] } :: others
    else route :: putOperation path operation others

namespace RouteGroup

/-- The group with one more operation and the models it needs. A model replaces one of the same
name. -/
def add (group : RouteGroup) (path : String) (operation : Operation)
    (models : SortedMap String Model) : RouteGroup where
  routes := putOperation path operation group.routes
  models := group.models.insertAll models.entries

/-- The operations of a group in the order of their paths. -/
def operations (group : RouteGroup) : List Operation :=
  group.routes.flatMap Route.operations

/-- The document of a group. It takes the version and the base path of the listing; the content
types are those of its operations, each once, in the order in which they first occur. -/
def declaration (group : RouteGroup) (listing : ResourceListing) (key : GroupKey) :
    ApiDeclaration where
  apiVersion := listing.apiVersion
  swaggerVersion := swaggerVersion
  basePath := listing.basePath
  resourcePath := key.resourcePath
  produces := (group.operations.flatMap Operation.produces).eraseDups
  consumes := (group.operations.flatMap Operation.consumes).eraseDups
  apis := group.routes
  models := group.models

end RouteGroup

namespace RouteGroups

/-- The groups with one more operation. -/
def add (groups : RouteGroups) (key : GroupKey) (path : String) (operation : Operation)
    (models : SortedMap String Model) : RouteGroups :=
  groups.insert key (((groups.get? key).getD {}).add path operation models)

/-- The documents of all groups. -/
def declarations (groups : RouteGroups) (listing : ResourceListing) : Groups :=
  groups.map fun key group => group.declaration listing key

end RouteGroups

end ApiDocs
