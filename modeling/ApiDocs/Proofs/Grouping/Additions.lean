import ApiDocs.Grouping.RouteGroups
import ApiDocs.Proofs.SortedMap
import Mathlib.Data.List.Induction
import Mathlib.Data.List.Nodup

/-!
# Additions to route groups

What groups hold after any sequence of additions. An addition changes its own group only, so a group
is what the additions under its key make of an empty one (`RouteGroups.get?_addAll`), whatever other
additions stand between them. Within a group each addition keeps three facts (`RouteGroup.Holds`):
the paths stand in the order in which they first occur, each path has the operations added on it, and
of models with the same name the latest counts. The documents of the groups inherit all of this
(`RouteGroups.declarations_ofAdditions`).
-/

set_option autoImplicit false

namespace ApiDocs

/-! ## First occurrences -/

/-- A list holds the members of another one once each, in the order in which they first occur
there. -/
structure FirstOccurrences {α : Type} [DecidableEq α] (source target : List α) : Prop where
  nodup : target.Nodup
  mem_iff : ∀ a, a ∈ target ↔ a ∈ source
  ordered : target.Pairwise fun a b => source.idxOf a < source.idxOf b

namespace FirstOccurrences

variable {α : Type} [DecidableEq α] {source target : List α}

theorem nil : FirstOccurrences ([] : List α) [] where
  nodup := List.nodup_nil
  mem_iff _ := Iff.rfl
  ordered := List.Pairwise.nil

theorem of_nodup (h : source.Nodup) : FirstOccurrences source source where
  nodup := h
  mem_iff _ := Iff.rfl
  ordered := by
    rw [List.pairwise_iff_getElem]
    intro i j hi hj hij
    rwa [h.idxOf_getElem i hi, h.idxOf_getElem j hj]

/-- A member that occurred before adds nothing, and a new one comes last. -/
theorem concat (h : FirstOccurrences source target) (a : α) :
    FirstOccurrences (source ++ [a]) (if a ∈ target then target else target ++ [a]) := by
  have hidx : ∀ b ∈ target, (source ++ [a]).idxOf b = source.idxOf b := fun b hb =>
    List.idxOf_append_of_mem ((h.mem_iff b).1 hb)
  have hordered : target.Pairwise fun b c =>
      (source ++ [a]).idxOf b < (source ++ [a]).idxOf c := by
    refine h.ordered.imp_of_mem fun hb hc hbc => ?_
    rw [hidx _ hb, hidx _ hc]
    exact hbc
  by_cases ha : a ∈ target
  · rw [if_pos ha]
    refine ⟨h.nodup, fun b => ?_, hordered⟩
    rw [List.mem_append, List.mem_singleton, h.mem_iff]
    constructor
    · exact Or.inl
    · rintro (hb | rfl)
      · exact hb
      · exact (h.mem_iff b).1 ha
  · rw [if_neg ha]
    refine ⟨?_, fun b => ?_, ?_⟩
    · rw [← List.concat_eq_append]
      exact h.nodup.concat ha
    · rw [List.mem_append, List.mem_append, h.mem_iff]
    · rw [List.pairwise_append]
      refine ⟨hordered, List.pairwise_singleton _ _, fun b hb c hc => ?_⟩
      obtain rfl := List.mem_singleton.1 hc
      have hc : c ∉ source := fun hs => ha ((h.mem_iff c).2 hs)
      have hlast : (source ++ [c]).idxOf c = source.length := by
        rw [List.idxOf_append_of_notMem hc]
        simp
      rw [hidx b hb, hlast]
      exact List.idxOf_lt_length_of_mem ((h.mem_iff b).1 hb)

theorem eraseDups (source : List α) : FirstOccurrences source source.eraseDups := by
  induction source using List.reverseRecOn with
  | nil => exact nil
  | append_singleton source a ih =>
    have hstep : (source ++ [a]).eraseDups
        = if a ∈ source.eraseDups then source.eraseDups else source.eraseDups ++ [a] := by
      rw [List.eraseDups_append]
      by_cases ha : a ∈ source
      · simp [List.removeAll, ha]
      · simp [List.removeAll, ha, List.eraseDups_cons]
    rw [hstep]
    exact ih.concat a

end FirstOccurrences

/-! ## Additions to one group -/

/-- An operation that is added on a path of a group, with the models that it needs. -/
structure Addition where
  key : GroupKey
  path : String
  operation : Operation
  models : SortedMap String Model

/-- The operations that additions put on a path, in order. -/
def Addition.onPath (additions : List Addition) (path : String) : List Operation :=
  (additions.filter fun a => a.path = path).map Addition.operation

theorem Addition.onPath_concat (additions : List Addition) (a : Addition) (path : String) :
    onPath (additions ++ [a]) path
      = onPath additions path ++ if a.path = path then [a.operation] else [] := by
  unfold onPath
  rw [List.filter_append, List.map_append]
  by_cases ha : a.path = path
  · simp [ha]
  · simp [ha]

theorem Addition.onPath_eq_nil {additions : List Addition} {path : String}
    (h : path ∉ additions.map Addition.path) : onPath additions path = [] := by
  unfold onPath
  rw [List.map_eq_nil_iff, List.filter_eq_nil_iff]
  intro a ha hpath
  exact h (List.mem_map.2 ⟨a, ha, of_decide_eq_true hpath⟩)

theorem map_path_putOperation (path : String) (operation : Operation) (routes : List Route) :
    (putOperation path operation routes).map Route.path
      = if path ∈ routes.map Route.path then routes.map Route.path
        else routes.map Route.path ++ [path] := by
  induction routes with
  | nil => rfl
  | cons route others ih =>
    unfold putOperation
    by_cases hpath : route.path = path
    · simp [hpath]
    · have hmem : path ∈ (route :: others).map Route.path ↔ path ∈ others.map Route.path := by
        simp [Ne.symm hpath]
      rw [if_neg hpath, List.map_cons, ih]
      by_cases hothers : path ∈ others.map Route.path
      · rw [if_pos hothers, if_pos (hmem.2 hothers)]
        rfl
      · rw [if_neg hothers, if_neg (fun h => hothers (hmem.1 h))]
        rfl

/-- If the routes hold what a function gives for their paths, they do so after one more operation,
for the function that gives this operation last on its path. -/
theorem operations_of_mem_putOperation {path : String} {operation : Operation}
    {routes : List Route} {f : String → List Operation} (hnodup : (routes.map Route.path).Nodup)
    (hroutes : ∀ route ∈ routes, route.operations = f route.path)
    (hnew : path ∉ routes.map Route.path → f path = []) {route : Route}
    (h : route ∈ putOperation path operation routes) :
    route.operations
      = f route.path ++ if path = route.path then [operation] else [] := by
  induction routes with
  | nil =>
    obtain rfl := List.mem_singleton.1 h
    simp [hnew]
  | cons first others ih =>
    rw [List.map_cons, List.nodup_cons] at hnodup
    have hfirst := hroutes first List.mem_cons_self
    have hothers : ∀ r ∈ others, r.operations = f r.path := fun r hr =>
      hroutes r (List.mem_cons_of_mem first hr)
    unfold putOperation at h
    by_cases hpath : first.path = path
    · rw [if_pos hpath] at h
      rcases List.mem_cons.1 h with rfl | hmem
      · simp [hpath, hfirst]
      · have hne : path ≠ route.path := by
          rintro rfl
          exact hnodup.1 (hpath ▸ List.mem_map_of_mem hmem)
        rw [if_neg hne, List.append_nil]
        exact hothers route hmem
    · rw [if_neg hpath] at h
      rcases List.mem_cons.1 h with rfl | hmem
      · rw [if_neg (Ne.symm hpath), List.append_nil]
        exact hfirst
      · refine ih hnodup.2 hothers (fun hpath' => hnew ?_) hmem
        rw [List.map_cons, List.mem_cons]
        rintro (heq | hmem')
        · exact hpath heq.symm
        · exact hpath' hmem'

/-- A group holds what additions put into it, and nothing else. -/
structure RouteGroup.Holds (group : RouteGroup) (additions : List Addition) : Prop where
  paths : FirstOccurrences (additions.map Addition.path) (group.routes.map Route.path)
  operations : ∀ route ∈ group.routes, route.operations = Addition.onPath additions route.path
  models : ∀ name, group.models.get? name
    = additions.reverse.findSome? fun a => a.models.get? name

namespace RouteGroup

/-- The group after some additions, one after the other. -/
def addAll (group : RouteGroup) (additions : List Addition) : RouteGroup :=
  additions.foldl (fun group a => group.add a.path a.operation a.models) group

theorem holds_empty : ({} : RouteGroup).Holds [] where
  paths := .nil
  operations _ h := absurd h List.not_mem_nil
  models _ := rfl

theorem Holds.add {group : RouteGroup} {additions : List Addition} (h : group.Holds additions)
    (a : Addition) : (group.add a.path a.operation a.models).Holds (additions ++ [a]) where
  paths := by
    have hpaths := h.paths.concat a.path
    rw [← map_path_putOperation a.path a.operation] at hpaths
    rw [List.map_append]
    exact hpaths
  operations route hroute := by
    rw [Addition.onPath_concat]
    refine operations_of_mem_putOperation h.paths.nodup h.operations (fun hnew => ?_) hroute
    exact Addition.onPath_eq_nil fun hmem => hnew ((h.paths.mem_iff a.path).2 hmem)
  models name := by
    show (group.models.insertAll a.models.entries).get? name = _
    rw [SortedMap.get?_insertAll_entries, h.models, List.reverse_append, List.reverse_singleton,
      List.singleton_append, List.findSome?_cons]
    cases a.models.get? name with
    | none => rfl
    | some m => rfl

theorem holds_addAll (additions : List Addition) :
    (({} : RouteGroup).addAll additions).Holds additions := by
  induction additions using List.reverseRecOn with
  | nil => exact holds_empty
  | append_singleton additions a ih =>
    have hlast : ({} : RouteGroup).addAll (additions ++ [a])
        = (({} : RouteGroup).addAll additions).add a.path a.operation a.models := by
      unfold addAll
      rw [List.foldl_append]
      rfl
    rw [hlast]
    exact ih.add a

end RouteGroup

/-! ## Additions to all groups -/

namespace RouteGroups

/-- The additions under a key. -/
def under (additions : List Addition) (key : GroupKey) : List Addition :=
  additions.filter fun a => a.key = key

/-- The groups after some additions, one after the other. -/
def addAll (groups : RouteGroups) (additions : List Addition) : RouteGroups :=
  additions.foldl (fun groups a => groups.add a.key a.path a.operation a.models) groups

/-- The groups that additions make. -/
def ofAdditions (additions : List Addition) : RouteGroups :=
  addAll .empty additions

/-- An addition changes its own group only. -/
theorem get?_add (groups : RouteGroups) (added key : GroupKey) (path : String)
    (operation : Operation) (models : SortedMap String Model) :
    (groups.add added path operation models).get? key
      = if key = added then some (((groups.get? added).getD {}).add path operation models)
        else groups.get? key := by
  unfold add
  by_cases hkey : key = added
  · rw [if_pos hkey, hkey]
    exact SortedMap.get?_insert_self _ _ _
  · rw [if_neg hkey]
    exact SortedMap.get?_insert_of_ne _ _ hkey

/-- A group is what the additions under its key have made of it. -/
theorem get?_addAll (groups : RouteGroups) (additions : List Addition) (key : GroupKey) :
    (groups.addAll additions).get? key
      = if under additions key = [] then groups.get? key
        else some (((groups.get? key).getD {}).addAll (under additions key)) := by
  induction additions generalizing groups with
  | nil => rfl
  | cons a additions ih =>
    show ((groups.add a.key a.path a.operation a.models).addAll additions).get? key = _
    rw [ih, get?_add]
    by_cases hkey : key = a.key
    · have hunder : under (a :: additions) key = a :: under additions key := by
        simp [under, hkey]
      rw [hunder, if_neg (List.cons_ne_nil _ _), if_pos hkey, ← hkey]
      by_cases hnil : under additions key = []
      · rw [if_pos hnil, hnil]
        rfl
      · rw [if_neg hnil]
        rfl
    · have hunder : under (a :: additions) key = under additions key := by
        simp [under, Ne.symm hkey]
      rw [hunder, if_neg hkey]

theorem get?_ofAdditions (additions : List Addition) (key : GroupKey) :
    (ofAdditions additions).get? key
      = if under additions key = [] then none
        else some (({} : RouteGroup).addAll (under additions key)) := by
  unfold ofAdditions
  rw [get?_addAll, SortedMap.get?_empty]
  rfl

/-- Additions that are the same under each key make the same groups. -/
theorem ofAdditions_eq {additions others : List Addition}
    (h : ∀ key, under additions key = under others key) :
    ofAdditions additions = ofAdditions others := by
  apply SortedMap.ext_get?
  intro key
  rw [get?_ofAdditions, get?_ofAdditions, h key]

end RouteGroups

/-- The document of a group says what additions put into the group, under the heading of a
listing. -/
structure ApiDeclaration.Documents (d : ApiDeclaration) (additions : List Addition)
    (key : GroupKey) (listing : ResourceListing) : Prop where
  paths : FirstOccurrences (additions.map Addition.path) (d.apis.map Route.path)
  operations : ∀ route ∈ d.apis, route.operations = Addition.onPath additions route.path
  models : ∀ name, d.models.get? name = additions.reverse.findSome? fun a => a.models.get? name
  consumes : FirstOccurrences ((d.apis.flatMap Route.operations).flatMap Operation.consumes)
    d.consumes
  produces : FirstOccurrences ((d.apis.flatMap Route.operations).flatMap Operation.produces)
    d.produces
  resourcePath : d.resourcePath = "/" ++ key.text
  apiVersion : d.apiVersion = listing.apiVersion
  basePath : d.basePath = listing.basePath

theorem RouteGroup.Holds.documents {group : RouteGroup} {additions : List Addition}
    (h : group.Holds additions) (listing : ResourceListing) (key : GroupKey) :
    (group.declaration listing key).Documents additions key listing where
  paths := h.paths
  operations := h.operations
  models := h.models
  consumes := .eraseDups _
  produces := .eraseDups _
  resourcePath := rfl
  apiVersion := rfl
  basePath := rfl

namespace RouteGroups

theorem get?_declarations_ofAdditions (additions : List Addition) (listing : ResourceListing)
    (key : GroupKey) :
    ((ofAdditions additions).declarations listing).get? key
      = if under additions key = [] then none
        else some ((({} : RouteGroup).addAll (under additions key)).declaration listing key) := by
  unfold declarations
  rw [SortedMap.get?_map, get?_ofAdditions]
  by_cases hnil : under additions key = []
  · rw [if_pos hnil, if_pos hnil]
    rfl
  · rw [if_neg hnil, if_neg hnil]
    rfl

theorem documents_of_get? {additions : List Addition} {listing : ResourceListing} {key : GroupKey}
    {d : ApiDeclaration} (hd : ((ofAdditions additions).declarations listing).get? key = some d) :
    d.Documents (under additions key) key listing := by
  rw [get?_declarations_ofAdditions] at hd
  by_cases hnil : under additions key = []
  · rw [if_pos hnil] at hd
    cases hd
  · rw [if_neg hnil, Option.some.injEq] at hd
    subst hd
    exact (RouteGroup.holds_addAll (under additions key)).documents listing key

/-- **Additions are neither lost nor repeated.** For any additions and any listing, there is a
document for exactly the keys that occur. Each one says what the additions under its key put into
the group: the paths in the order in which they first occur, on each path its operations in the
order of the additions, the latest model of each name, and each content type once, in the order of
the routes. So additions that are the same under each key give the same documents, however they
stand among those under other keys. -/
theorem declarations_ofAdditions :
    (∀ (additions : List Addition) (listing : ResourceListing),
      let documents := (ofAdditions additions).declarations listing
      (∀ key, documents.contains key = true ↔ ∃ a ∈ additions, a.key = key)
      ∧ ∀ key d, documents.get? key = some d →
        d.Documents (additions.filter fun a => a.key = key) key listing)
    ∧ ∀ (additions others : List Addition) (listing : ResourceListing),
      (∀ key, (additions.filter fun a => a.key = key) = others.filter fun a => a.key = key) →
      (ofAdditions additions).declarations listing = (ofAdditions others).declarations listing := by
  refine ⟨fun additions listing => ⟨fun key => ?_, fun key d hd => documents_of_get? hd⟩,
    fun additions others listing h => ?_⟩
  · have hoccurs : (∃ a ∈ additions, a.key = key) ↔ under additions key ≠ [] := by
      simp [under, List.filter_eq_nil_iff]
    rw [SortedMap.contains_iff, hoccurs, get?_declarations_ofAdditions]
    by_cases hnil : under additions key = []
    · simp [hnil]
    · simp [hnil]
  · rw [ofAdditions_eq h]

/-- Two groups whose additions alternate, and the same additions group by group. -/
theorem declarations_ofAdditions_alternating :
    let pets : GroupKey := ⟨"pets", by decide⟩
    let store : GroupKey := ⟨"store", by decide⟩
    let get : Addition := ⟨pets, "/pets/:id", { httpMethod := "GET", nickname := "show" }, .empty⟩
    let sell : Addition := ⟨store, "/store", { httpMethod := "POST", nickname := "sell" }, .empty⟩
    let put : Addition := ⟨pets, "/pets/:id", { httpMethod := "PUT", nickname := "edit" }, .empty⟩
    (∃ d, ((ofAdditions [get, sell, put]).declarations {}).get? pets = some d
        ∧ d.Documents [get, put] pets {})
      ∧ (∀ key, ([get, sell, put].filter fun a => a.key = key)
          = [get, put, sell].filter fun a => a.key = key)
      ∧ (ofAdditions [get, sell, put]).declarations {}
          = (ofAdditions [get, put, sell]).declarations {} := by
  intro pets store get sell put
  have hsame : ∀ key, ([get, sell, put].filter fun a => a.key = key)
      = [get, put, sell].filter fun a => a.key = key := by
    intro key
    by_cases hpets : pets = key
    · have hstore : store ≠ key := hpets ▸ by decide
      simp [get, sell, put, hpets, hstore]
    · simp [List.filter_cons, get, sell, put, hpets]
  obtain ⟨hkeys, hdocuments⟩ := declarations_ofAdditions.1 [get, sell, put] {}
  obtain ⟨d, hd⟩ := SortedMap.contains_iff.1 ((hkeys pets).2 ⟨get, List.mem_cons_self, rfl⟩)
  exact ⟨⟨d, hd, hdocuments pets d hd⟩, hsame, declarations_ofAdditions.2 _ _ {} hsame⟩

end RouteGroups

end ApiDocs
