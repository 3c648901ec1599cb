import ApiDocs.Grouping.Operations
import ApiDocs.Grouping.RouteGroups
import ApiDocs.RouteFilter

/-!
# Gathering of routes

The functions of a package are taken one after the other. One that takes part and declares a route
adds its operation to its group, with the models that the operation needs.
-/

set_option autoImplicit false

namespace ApiDocs

open Annotations (Handler)

/-- What was gathered so far. -/
structure Gathering where
  groups : RouteGroups := .empty
  /-- The type names that were reported as unresolved. -/
  unresolved : List String := []
  notices : List Notice := []

namespace Gathering

/-- The gathering after the models of type expressions are collected for a new operation: the
models, and the type names that were not reported before. -/
def collect (g : Gathering) (scope : TypeScope) (types : List String) :
    SortedMap String Model × List String :=
  let c := types.foldl (fun (c : Collection) type => c.collect scope type)
    { unresolved := g.unresolved }
  (c.models, c.unresolved.drop g.unresolved.length)

/-- The gathering with some notices. -/
def report (g : Gathering) (notices : List Notice) : Gathering :=
  { g with notices := g.notices ++ notices }

/-- The gathering with the operation of a handler. -/
def addRoute (g : Gathering) (scope : TypeScope) (function : GoSource.Function) (h : Handler)
    (router : Annotations.Router) (key : GroupKey) : Gathering :=
  let (models, missing) := g.collect scope h.mentionedTypes
  { groups := g.groups.add key router.path (h.operation scope function.name router.method) models
    unresolved := g.unresolved ++ missing
    notices := g.notices ++ missing.map .unresolvedType }

/-- The gathering after one more function. -/
def add (filter : RouteFilter) (scope : TypeScope) (g : Gathering)
    (item : Path × GoSource.Function) : Gathering :=
  let (file, function) := item
  if filter.includes function.receiver then
    let h := Handler.ofDoc function.doc
    let g := g.report (Handler.notices function.doc)
    match h.router with
    | none => g
    | some router =>
      match h.groupKey? function.receiver router.path with
      | none => g.report [.ungrouped function.name file router.path]
      | some key => g.addRoute scope function h router key
  else g

/-- The functions of files, each with the path of its file. -/
def functions (files : List GoSource.File) : List (Path × GoSource.Function) :=
  files.flatMap fun file => file.declarations.functions.map fun f => (file.path, f)

/-- What is gathered from the functions of files. -/
def ofFiles (filter : RouteFilter) (scope : TypeScope) (files : List GoSource.File) : Gathering :=
  (functions files).foldl (add filter scope) {}

end Gathering

end ApiDocs
