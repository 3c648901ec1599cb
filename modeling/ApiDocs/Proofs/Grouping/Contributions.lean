import ApiDocs.Grouping.Gathering
import ApiDocs.Proofs.Grouping.Additions

/-!
# Contributions of functions

A function contributes to the documentation when it takes part, declares a route and has a group.
Gathering is said in these terms once: a step adds the operation of the contribution, if there is
one, and otherwise only reports (`Gathering.add_eq`). A whole run therefore documents, under each
group and path, the operations of the contributions for them and nothing else
(`Gathering.serves_ofFiles`).
-/

set_option autoImplicit false

namespace ApiDocs

open Annotations (Handler Router)

/-- What a function adds to the documentation: an operation on the route of a group. -/
structure Contribution where
  function : GoSource.Function
  handler : Handler
  router : Router
  key : GroupKey

namespace Contribution

/-- The operation that is added. -/
def operation (r : Contribution) (scope : TypeScope) : Operation :=
  r.handler.operation scope r.function.name r.router.method

/-- The contribution of a function. -/
def ofFunction? (filter : RouteFilter) (function : GoSource.Function) : Option Contribution :=
  if filter.includes function.receiver then
    let h := Handler.ofDoc function.doc
    h.router.bind fun router =>
      (h.groupKey? function.receiver router.path).map fun key => ⟨function, h, router, key⟩
  else none

/-- The contributions of the functions of files, in order. -/
def ofFiles (filter : RouteFilter) (files : List GoSource.File) : List Contribution :=
  (Gathering.functions files).filterMap fun item => ofFunction? filter item.2

end Contribution

/-- What a function gives reason to report before any models are collected. -/
def Gathering.readingNotices (filter : RouteFilter) (item : Path × GoSource.Function) :
    List Notice :=
  if filter.includes item.2.receiver then
    let h := Handler.ofDoc item.2.doc
    Handler.notices item.2.doc ++ (h.router.toList.filterMap fun router =>
      if (h.groupKey? item.2.receiver router.path).isNone then
        some (.ungrouped item.2.name item.1 router.path)
      else none)
  else []

namespace Gathering

variable {filter : RouteFilter} {scope : TypeScope}

theorem report_nil (g : Gathering) : g.report [] = g := by
  unfold report
  rw [List.append_nil]

theorem report_append (g : Gathering) (notices others : List Notice) :
    g.report (notices ++ others) = (g.report notices).report others := by
  unfold report
  rw [← List.append_assoc]

/-- A step reports what the function gives reason to, and adds the contribution if there is one. -/
theorem add_eq (filter : RouteFilter) (scope : TypeScope) (g : Gathering)
    (item : Path × GoSource.Function) :
    add filter scope g item
      = match Contribution.ofFunction? filter item.2 with
        | none => g.report (readingNotices filter item)
        | some r =>
          (g.report (readingNotices filter item)).addRoute scope r.function r.handler r.router
            r.key := by
  obtain ⟨file, function⟩ := item
  unfold add Contribution.ofFunction? readingNotices
  by_cases hincluded : filter.includes function.receiver = true
  · simp only [hincluded, if_true]
    cases hrouter : (Handler.ofDoc function.doc).router with
    | none => simp
    | some router =>
      cases hkey : (Handler.ofDoc function.doc).groupKey? function.receiver router.path with
      | none => simp [hkey, report_append]
      | some key => simp [hkey]
  · simp only [hincluded]
    exact (report_nil g).symm

end Gathering

/-! ## The operations on the routes -/

/-- There is an operation on a path of a group. -/
def RouteGroup.Serves (group : RouteGroup) (path : String) (operation : Operation) : Prop :=
  ∃ route ∈ group.routes, route.path = path ∧ operation ∈ route.operations

theorem exists_mem_putOperation_iff {path path' : String} {operation operation' : Operation}
    {routes : List Route} :
    (∃ route ∈ putOperation path operation routes,
        route.path = path' ∧ operation' ∈ route.operations)
      ↔ (path = path' ∧ operation = operation')
        ∨ ∃ route ∈ routes, route.path = path' ∧ operation' ∈ route.operations := by
  induction routes with
  | nil => simp [putOperation, eq_comm]
  | cons route others ih =>
    unfold putOperation
    split
    · next hpath =>
      -- The operation joins those of this route.
      simp only [List.exists_mem_cons_iff, List.mem_append, List.mem_singleton, hpath]
      constructor
      · rintro (⟨rfl, hmem | rfl⟩ | hothers)
        · exact Or.inr (Or.inl ⟨rfl, hmem⟩)
        · exact Or.inl ⟨rfl, rfl⟩
        · exact Or.inr (Or.inr hothers)
      · rintro (⟨rfl, rfl⟩ | ⟨rfl, hmem⟩ | hothers)
        · exact Or.inl ⟨rfl, Or.inr rfl⟩
        · exact Or.inl ⟨rfl, Or.inl hmem⟩
        · exact Or.inr hothers
    · simp only [List.exists_mem_cons_iff, ih]
      exact or_left_comm

theorem RouteGroup.serves_add (group : RouteGroup) (path : String) (operation : Operation)
    (models : SortedMap String Model) (path' : String) (operation' : Operation) :
    (group.add path operation models).Serves path' operation'
      ↔ (path = path' ∧ operation = operation') ∨ group.Serves path' operation' :=
  exists_mem_putOperation_iff

namespace Gathering

variable {filter : RouteFilter} {scope : TypeScope}

/-- There is an operation on a path of one of the groups. -/
def Serves (g : Gathering) (key : GroupKey) (path : String) (operation : Operation) : Prop :=
  ∃ group, g.groups.get? key = some group ∧ group.Serves path operation

/-- When a contribution is added, its group gets the operation and the models, and all other groups
stay as they are. -/
theorem get?_groups_addRoute (g : Gathering) (scope : TypeScope) (r : Contribution)
    (key : GroupKey) :
    (g.addRoute scope r.function r.handler r.router r.key).groups.get? key
      = if key = r.key then
          some (((g.groups.get? r.key).getD {}).add r.router.path (r.operation scope)
            (g.collect scope r.handler.mentionedTypes).1)
        else g.groups.get? key := by
  exact RouteGroups.get?_add g.groups r.key key _ _ _

theorem serves_addRoute (g : Gathering) (scope : TypeScope) (r : Contribution) (key : GroupKey)
    (path : String) (operation : Operation) :
    (g.addRoute scope r.function r.handler r.router r.key).Serves key path operation
      ↔ (r.key = key ∧ r.router.path = path ∧ r.operation scope = operation)
        ∨ g.Serves key path operation := by
  unfold Serves
  rw [get?_groups_addRoute]
  by_cases hkey : key = r.key
  · subst hkey
    simp only [if_true, Option.some.injEq, exists_eq_left', true_and, RouteGroup.serves_add]
    refine or_congr_right ?_
    cases g.groups.get? r.key with
    | none => simp [RouteGroup.Serves]
    | some group => simp
  · simp [hkey, Ne.symm hkey]

theorem serves_add (filter : RouteFilter) (scope : TypeScope) (g : Gathering)
    (item : Path × GoSource.Function) (key : GroupKey) (path : String) (operation : Operation) :
    (add filter scope g item).Serves key path operation
      ↔ (∃ r, Contribution.ofFunction? filter item.2 = some r
          ∧ r.key = key ∧ r.router.path = path ∧ r.operation scope = operation)
        ∨ g.Serves key path operation := by
  rw [add_eq]
  cases Contribution.ofFunction? filter item.2 with
  | none => simp [Serves, report]
  | some r =>
    simp only [Option.some.injEq, exists_eq_left']
    exact serves_addRoute (g.report (readingNotices filter item)) scope r key path operation

theorem serves_foldl_add (items : List (Path × GoSource.Function)) (g : Gathering)
    (key : GroupKey) (path : String) (operation : Operation) :
    (items.foldl (add filter scope) g).Serves key path operation
      ↔ (∃ r ∈ items.filterMap fun item => Contribution.ofFunction? filter item.2,
          r.key = key ∧ r.router.path = path ∧ r.operation scope = operation)
        ∨ g.Serves key path operation := by
  induction items generalizing g with
  | nil => simp
  | cons item items ih =>
    rw [List.foldl_cons, ih, serves_add, ← or_assoc]
    refine or_congr_left ?_
    rw [List.filterMap_cons]
    cases Contribution.ofFunction? filter item.2 with
    | none => simp
    | some r =>
      simp only [List.exists_mem_cons_iff, Option.some.injEq, exists_eq_left']
      exact or_comm

/-- The operations of a gathering are those of the contributions: nothing is on a route of a group
that no function contributes, and no contribution is lost. -/
theorem serves_ofFiles (filter : RouteFilter) (scope : TypeScope) (files : List GoSource.File)
    (key : GroupKey) (path : String) (operation : Operation) :
    (ofFiles filter scope files).Serves key path operation
      ↔ ∃ r ∈ Contribution.ofFiles filter files,
        r.key = key ∧ r.router.path = path ∧ r.operation scope = operation := by
  have hempty : ¬ Serves {} key path operation := by
    simp [Serves, SortedMap.get?, SortedMap.empty]
  unfold ofFiles
  rw [serves_foldl_add, or_iff_left hempty]
  rfl

end Gathering

end ApiDocs
