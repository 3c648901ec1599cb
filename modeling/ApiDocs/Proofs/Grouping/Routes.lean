import ApiDocs.Proofs.Annotations.TaggedLines
import ApiDocs.Proofs.Grouping.Contributions
import ApiDocs.Proofs.Types.Reachability
import Mathlib.Data.List.Count
import Mathlib.Data.List.Perm.Basic

/-!
# Routes of functions

Every function of a package is accounted for. What is gathered comes from the additions that the
contributions make, one each (`Gathering.groups_ofFiles`), so the documents hold the operation of
each contribution once, in order. A function that takes part and declares a route, but makes no
contribution, has a fault that is reported (`Gathering.RouteFault`); one that does not take part
changes nothing at all. `Gathering.routes_ofFiles` puts this together.
-/

set_option autoImplicit false

namespace ApiDocs

open Annotations (Handler HandlerLine Router Tagged)

/-! ## What contributions add -/

/-- Models do not depend on the names that were noted before. -/
theorem Collection.models_collectAll (scope : TypeScope) (noted noted' exprs : List String) :
    (collectAll { unresolved := noted } scope exprs).models
      = (collectAll { unresolved := noted' } scope exprs).models := by
  apply SortedMap.ext_get?
  intro name
  apply Option.ext
  intro m
  rw [get?_models_collectAll, get?_models_collectAll]

/-- What a contribution adds to the groups. -/
def Contribution.addition (r : Contribution) (scope : TypeScope) : Addition where
  key := r.key
  path := r.router.path
  operation := r.operation scope
  models := (Collection.collectAll {} scope r.handler.mentionedTypes).models

namespace Gathering

variable {filter : RouteFilter} {scope : TypeScope}

/-- What is gathered from functions. -/
def ofFunctions (filter : RouteFilter) (scope : TypeScope)
    (items : List (Path × GoSource.Function)) : Gathering :=
  items.foldl (add filter scope) {}

theorem groups_addRoute (g : Gathering) (scope : TypeScope) (r : Contribution) :
    (g.addRoute scope r.function r.handler r.router r.key).groups
      = g.groups.add r.key r.router.path (r.operation scope) (r.addition scope).models := by
  have hmodels : (g.collect scope r.handler.mentionedTypes).1 = (r.addition scope).models :=
    Collection.models_collectAll scope g.unresolved [] r.handler.mentionedTypes
  rw [← hmodels]
  rfl

theorem groups_foldl_add (items : List (Path × GoSource.Function)) (g : Gathering) :
    (items.foldl (add filter scope) g).groups
      = g.groups.addAll ((items.filterMap fun item => Contribution.ofFunction? filter item.2).map
          fun r => r.addition scope) := by
  induction items generalizing g with
  | nil => rfl
  | cons item items ih =>
    rw [List.foldl_cons, ih, add_eq, List.filterMap_cons]
    cases Contribution.ofFunction? filter item.2 with
    | none => rfl
    | some r =>
      simp only [groups_addRoute]
      rfl

/-- The groups are those that the contributions make, one addition each. -/
theorem groups_ofFiles (filter : RouteFilter) (scope : TypeScope) (files : List GoSource.File) :
    (ofFiles filter scope files).groups
      = RouteGroups.ofAdditions
          ((Contribution.ofFiles filter files).map fun r => r.addition scope) := by
  exact groups_foldl_add (functions files) {}

end Gathering

/-! ## The operations of documents -/

/-- The operations of all documents, each with its group and its path. -/
def Groups.listed (groups : Groups) : List ((GroupKey × String) × Operation) :=
  groups.entries.flatMap fun e =>
    e.2.apis.flatMap fun route => route.operations.map fun o => ((e.1, route.path), o)

theorem flatMap_ite_of_nodup {α β γ : Type} [DecidableEq β] {l : List α} {g : α → β} {b : β}
    {x : List γ} (hnodup : (l.map g).Nodup) (hx : b ∉ l.map g → x = []) :
    (l.flatMap fun a => if g a = b then x else []) = x := by
  induction l with
  | nil => exact (hx List.not_mem_nil).symm
  | cons a l ih =>
    rw [List.map_cons, List.nodup_cons] at hnodup
    rw [List.flatMap_cons]
    by_cases hb : g a = b
    · have hrest : (l.flatMap fun a => if g a = b then x else []) = [] := by
        rw [List.flatMap_eq_nil_iff]
        intro c hc
        refine if_neg fun hcb => hnodup.1 ?_
        rw [hb, ← hcb]
        exact List.mem_map_of_mem hc
      rw [if_pos hb, hrest, List.append_nil]
    · rw [if_neg hb, List.nil_append]
      refine ih hnodup.2 fun hmem => hx ?_
      rw [List.map_cons, List.mem_cons]
      rintro (rfl | hmem')
      · exact hb rfl
      · exact hmem hmem'

/-- Lists are permutations of each other if their pairs stand in the same order for each first
component. -/
theorem perm_of_filter_fst_eq {α β : Type} [DecidableEq α] [DecidableEq β] {l l' : List (α × β)}
    (h : ∀ a, l.filter (fun x => x.1 = a) = l'.filter fun x => x.1 = a) : l.Perm l' := by
  rw [List.perm_iff_count]
  intro x
  have hcount : ∀ l : List (α × β), (l.filter fun y => y.1 = x.1).count x = l.count x := fun l =>
    List.count_filter (by simp)
  rw [← hcount l, ← hcount l', h]

/-- For each path, the document of a group lists the operations that were added there, in order. -/
theorem ApiDeclaration.Documents.filter_listed {d : ApiDeclaration} {additions : List Addition}
    {key : GroupKey} {listing : ResourceListing} (h : d.Documents additions key listing)
    (path : String) :
    ((d.apis.flatMap fun route => route.operations.map fun o => ((key, route.path), o)).filter
        fun x => x.1 = (key, path))
      = (Addition.onPath additions path).map fun o => ((key, path), o) := by
  have hroute : ∀ route ∈ d.apis,
      ((route.operations.map fun o => ((key, route.path), o)).filter fun x => x.1 = (key, path))
        = if route.path = path then
            (Addition.onPath additions path).map fun o => ((key, path), o)
          else [] := by
    intro route hroute
    by_cases hpath : route.path = path
    · subst hpath
      rw [if_pos rfl, h.operations route hroute, List.filter_eq_self.2]
      intro x hx
      obtain ⟨o, -, rfl⟩ := List.mem_map.1 hx
      exact decide_eq_true rfl
    · rw [if_neg hpath, List.filter_eq_nil_iff]
      intro x hx
      obtain ⟨o, -, rfl⟩ := List.mem_map.1 hx
      simp [hpath]
  rw [List.filter_flatMap, List.flatMap_congr hroute]
  refine flatMap_ite_of_nodup h.paths.nodup fun hpath => ?_
  rw [List.map_eq_nil_iff]
  exact Addition.onPath_eq_nil fun hmem => hpath ((h.paths.mem_iff path).2 hmem)

namespace RouteGroups

theorem filter_listed (additions : List Addition) (listing : ResourceListing) (key : GroupKey)
    (path : String) :
    (((ofAdditions additions).declarations listing).listed.filter fun x => x.1 = (key, path))
      = (Addition.onPath (under additions key) path).map fun o => ((key, path), o) := by
  have hentry : ∀ e ∈ ((ofAdditions additions).declarations listing).entries,
      ((e.2.apis.flatMap fun route => route.operations.map fun o => ((e.1, route.path), o)).filter
          fun x => x.1 = (key, path))
        = if e.1 = key then
            (Addition.onPath (under additions key) path).map fun o => ((key, path), o)
          else [] := by
    rintro ⟨k, d⟩ he
    by_cases hk : k = key
    · subst hk
      rw [if_pos rfl]
      exact (documents_of_get? (SortedMap.mem_entries_iff.1 he)).filter_listed path
    · rw [if_neg hk, List.filter_eq_nil_iff]
      intro x hx
      obtain ⟨route, -, hx⟩ := List.mem_flatMap.1 hx
      obtain ⟨o, -, rfl⟩ := List.mem_map.1 hx
      simp [hk]
  unfold Groups.listed
  rw [List.filter_flatMap, List.flatMap_congr hentry]
  refine flatMap_ite_of_nodup (SortedMap.nodup_keys _) fun hmem => ?_
  -- A key without a document is one without additions.
  have hnone : ((ofAdditions additions).declarations listing).get? key = none := by
    cases hget : ((ofAdditions additions).declarations listing).get? key with
    | none => rfl
    | some d => exact absurd (List.mem_map.2 ⟨_, SortedMap.mem_entries_iff.2 hget, rfl⟩) hmem
  rw [get?_declarations_ofAdditions] at hnone
  by_cases hnil : under additions key = []
  · rw [hnil]
    rfl
  · rw [if_neg hnil] at hnone
    cases hnone

/-- The documents list the operations that were added, each once. -/
theorem listed_perm (additions : List Addition) (listing : ResourceListing) :
    ((ofAdditions additions).declarations listing).listed.Perm
      (additions.map fun a => ((a.key, a.path), a.operation)) := by
  apply perm_of_filter_fst_eq
  rintro ⟨key, path⟩
  rw [filter_listed, List.filter_map, under, Addition.onPath, List.filter_filter, List.map_map]
  have hsame : additions.filter ((fun x : (GroupKey × String) × Operation =>
        decide (x.1 = (key, path))) ∘ fun a => ((a.key, a.path), a.operation))
      = additions.filter fun a => decide (a.path = path) && decide (a.key = key) := by
    apply List.filter_congr
    intro a _
    simp [Prod.mk.injEq, Bool.and_comm]
  rw [hsame]
  apply List.map_congr_left
  intro a ha
  simp only [List.mem_filter, Bool.and_eq_true, decide_eq_true_eq] at ha
  simp [ha.2.1, ha.2.2]

end RouteGroups

namespace Gathering

variable {filter : RouteFilter} {scope : TypeScope}

/-- The contributions to a group, as additions. -/
theorem under_map_addition (contributions : List Contribution) (scope : TypeScope)
    (key : GroupKey) :
    RouteGroups.under (contributions.map fun r => r.addition scope) key
      = (contributions.filter fun r => r.key = key).map fun r => r.addition scope :=
  List.filter_map

theorem onPath_map_addition (contributions : List Contribution) (scope : TypeScope)
    (path : String) :
    Addition.onPath (contributions.map fun r => r.addition scope) path
      = (contributions.filter fun r => r.router.path = path).map fun r => r.operation scope := by
  unfold Addition.onPath
  rw [List.filter_map, List.map_map]
  rfl

/-- The models in the document of a group are those that its contributions lead to. -/
theorem get?_models_iff (contributions : List Contribution) (scope : TypeScope) {key : GroupKey}
    {d : ApiDeclaration} {listing : ResourceListing}
    (hd : d.Documents (RouteGroups.under (contributions.map fun r => r.addition scope) key) key
      listing) (name : String) (m : Model) :
    d.models.get? name = some m
      ↔ ∃ r ∈ contributions, r.key = key ∧ scope.Reaches r.handler.mentionedTypes name
          ∧ ∃ s, scope.struct? name = some s ∧ m = .ofStruct scope name s := by
  have hown : ∀ (r : Contribution) (m : Model), (r.addition scope).models.get? name = some m
      ↔ scope.Reaches r.handler.mentionedTypes name
        ∧ ∃ s, scope.struct? name = some s ∧ m = .ofStruct scope name s := fun r m =>
    Collection.get?_models_collectAll scope [] r.handler.mentionedTypes name m
  rw [hd.models, under_map_addition]
  constructor
  · intro hfound
    obtain ⟨a, ha, hm⟩ := List.exists_of_findSome?_eq_some hfound
    rw [List.mem_reverse] at ha
    obtain ⟨r, hr, rfl⟩ := List.mem_map.1 ha
    obtain ⟨hmem, hkey⟩ := List.mem_filter.1 hr
    obtain ⟨hreaches, hs⟩ := (hown r m).1 hm
    exact ⟨r, hmem, of_decide_eq_true hkey, hreaches, hs⟩
  · rintro ⟨r, hmem, hkey, hreaches, s, hs, rfl⟩
    have hr : r.addition scope ∈
        (((contributions.filter fun r => r.key = key).map fun r => r.addition scope).reverse) := by
      rw [List.mem_reverse]
      exact List.mem_map_of_mem (List.mem_filter.2 ⟨hmem, decide_eq_true hkey⟩)
    have hm := (hown r _).2 ⟨hreaches, s, hs, rfl⟩
    -- The model that counts is the one of the same struct.
    cases hfound : (((contributions.filter fun r => r.key = key).map fun r =>
        r.addition scope).reverse).findSome? fun a => a.models.get? name with
    | none =>
      rw [List.findSome?_eq_none_iff] at hfound
      rw [hfound _ hr] at hm
      cases hm
    | some m' =>
      obtain ⟨a, ha, hm'⟩ := List.exists_of_findSome?_eq_some hfound
      rw [List.mem_reverse] at ha
      obtain ⟨r', -, rfl⟩ := List.mem_map.1 ha
      obtain ⟨-, s', hs', rfl⟩ := (hown r' m').1 hm'
      obtain rfl : s = s' := Option.some.inj (hs.symm.trans hs')
      rfl

/-! ## Faults of routes -/

/-- A line of a doc comment that declares a route, well or badly. -/
def DeclaresRoute (doc : List String) : Prop :=
  ∃ line ∈ doc, ∃ t, Tagged.ofLine? line = some t ∧ t.tag = "router"

/-- A report that names what is wrong with the route of a function: an annotation that cannot be
read, or the route for which no group can be told. -/
inductive RouteFault (item : Path × GoSource.Function) : Notice → Prop
  | malformed {line : String} {t : Tagged} (hline : line ∈ item.2.doc)
      (htagged : Tagged.ofLine? line = some t) (htag : t.tag = "router")
      (hread : Router.read? t.value = none) :
      RouteFault item (.malformedRouter (String.ofList t.value))
  | ungrouped {router : Router} (hrouter : (Handler.ofDoc item.2.doc).router = some router)
      (hkey : (Handler.ofDoc item.2.doc).groupKey? item.2.receiver router.path = none) :
      RouteFault item (.ungrouped item.2.name item.1 router.path)

end Gathering

theorem Annotations.HandlerLine.router_apply (h : Handler) (line : HandlerLine)
    (hh : h.router.isSome = true) : (line.apply h).router.isSome = true := by
  cases line with
  | router r => rfl
  | _ => exact hh

/-- A route that is read once stays, or a later one takes its place. -/
theorem Annotations.Handler.router_foldl_apply {doc : List String} {h : Handler}
    (hroute : h.router.isSome = true ∨ ∃ line ∈ doc, ∃ r, HandlerLine.read line = .router r) :
    (doc.foldl (fun h line => (HandlerLine.read line).apply h) h).router.isSome = true := by
  induction doc generalizing h with
  | nil => simpa using hroute
  | cons line doc ih =>
    rw [List.foldl_cons]
    apply ih
    rcases hroute with hh | ⟨line', hmem, r, hr⟩
    · exact Or.inl (HandlerLine.router_apply h _ hh)
    · rcases List.mem_cons.1 hmem with rfl | hmem
      · left
        rw [hr]
        rfl
      · exact Or.inr ⟨line', hmem, r, hr⟩

namespace Gathering

variable {filter : RouteFilter} {scope : TypeScope}

/-- A function that takes part and declares a route, but makes no contribution, has a fault, which
it gives reason to report. -/
theorem exists_routeFault {item : Path × GoSource.Function}
    (hincluded : filter.includes item.2.receiver = true) (hdeclares : DeclaresRoute item.2.doc)
    (hnone : Contribution.ofFunction? filter item.2 = none) :
    ∃ notice ∈ readingNotices filter item, RouteFault item notice := by
  unfold Contribution.ofFunction? at hnone
  rw [if_pos hincluded] at hnone
  unfold readingNotices
  rw [if_pos hincluded]
  cases hrouter : (Handler.ofDoc item.2.doc).router with
  | none =>
    obtain ⟨line, hline, t, htagged, htag⟩ := hdeclares
    have hline' := HandlerLine.read_router htagged htag
    cases hread : Router.read? t.value with
    | some r =>
      rw [hread] at hline'
      have hsome := Handler.router_foldl_apply (h := {}) (Or.inr ⟨line, hline, r, hline'⟩)
      unfold Handler.ofDoc at hrouter
      rw [hrouter] at hsome
      cases hsome
    | none =>
      rw [hread] at hline'
      refine ⟨_, List.mem_append_left _ ?_, .malformed hline htagged htag hread⟩
      refine List.mem_flatMap.2 ⟨line, hline, ?_⟩
      rw [hline']
      exact List.mem_singleton_self _
  | some router =>
    have hkey : (Handler.ofDoc item.2.doc).groupKey? item.2.receiver router.path = none := by
      simpa [hrouter] using hnone
    refine ⟨_, List.mem_append_right _ ?_, .ungrouped hrouter hkey⟩
    simp only [hrouter, Option.toList_some, List.filterMap_cons, hkey]
    exact List.mem_singleton_self _

theorem RouteFault.level_eq {item : Path × GoSource.Function} {notice : Notice}
    (h : RouteFault item notice) : notice.level = .warning := by
  cases h with
  | malformed => rfl
  | ungrouped => rfl

theorem exists_notices_add (filter : RouteFilter) (scope : TypeScope) (g : Gathering)
    (item : Path × GoSource.Function) :
    ∃ missing, (add filter scope g item).notices
      = g.notices ++ (readingNotices filter item ++ missing) := by
  rw [add_eq]
  cases Contribution.ofFunction? filter item.2 with
  | none => exact ⟨[], by simp [report]⟩
  | some r => exact ⟨_, List.append_assoc _ _ _⟩

/-- Reports stay. -/
theorem exists_notices_foldl_add (filter : RouteFilter) (scope : TypeScope)
    (items : List (Path × GoSource.Function)) (g : Gathering) :
    ∃ later, (items.foldl (add filter scope) g).notices = g.notices ++ later := by
  induction items generalizing g with
  | nil => exact ⟨[], (List.append_nil _).symm⟩
  | cons item items ih =>
    obtain ⟨later, hlater⟩ := ih (add filter scope g item)
    obtain ⟨missing, hmissing⟩ := exists_notices_add filter scope g item
    refine ⟨readingNotices filter item ++ missing ++ later, ?_⟩
    rw [List.foldl_cons, hlater, hmissing, List.append_assoc]

/-- A fault is reported at the turn of its function. -/
theorem routeFault_reported {files : List GoSource.File}
    {before after : List (Path × GoSource.Function)} {item : Path × GoSource.Function}
    (hsplit : functions files = before ++ item :: after)
    (hincluded : filter.includes item.2.receiver = true) (hdeclares : DeclaresRoute item.2.doc)
    (hnone : Contribution.ofFunction? filter item.2 = none) :
    ∃ caused later,
      (ofFunctions filter scope (before ++ [item])).notices
          = (ofFunctions filter scope before).notices ++ caused
        ∧ (ofFiles filter scope files).notices
          = (ofFunctions filter scope (before ++ [item])).notices ++ later
        ∧ ∃ notice ∈ caused, RouteFault item notice ∧ notice.level = .warning := by
  have hlast : ofFunctions filter scope (before ++ [item])
      = add filter scope (ofFunctions filter scope before) item := by
    unfold ofFunctions
    rw [List.foldl_append]
    rfl
  have hall : ofFiles filter scope files
      = after.foldl (add filter scope) (ofFunctions filter scope (before ++ [item])) := by
    unfold ofFiles ofFunctions
    rw [hsplit, ← List.foldl_append, List.append_assoc]
    rfl
  obtain ⟨missing, hmissing⟩ := exists_notices_add filter scope (ofFunctions filter scope before)
    item
  obtain ⟨later, hlater⟩ := exists_notices_foldl_add filter scope after
    (ofFunctions filter scope (before ++ [item]))
  obtain ⟨notice, hnotice, hfault⟩ := exists_routeFault hincluded hdeclares hnone
  refine ⟨readingNotices filter item ++ missing, later, ?_, ?_, notice,
    List.mem_append_left _ hnotice, hfault, hfault.level_eq⟩
  · rw [hlast, hmissing]
  · rw [hall, hlater]

end Gathering

/-! ## Functions that do not take part -/

/-- The files without the functions that do not take part. -/
def RouteFilter.restrict (filter : RouteFilter) (files : List GoSource.File) :
    List GoSource.File :=
  files.map fun file =>
    { file with
      declarations :=
        { file.declarations with
          functions := file.declarations.functions.filter fun f => filter.includes f.receiver } }

namespace Gathering

variable {filter : RouteFilter} {scope : TypeScope}

theorem functions_restrict (filter : RouteFilter) (files : List GoSource.File) :
    functions (filter.restrict files)
      = (functions files).filter fun item => filter.includes item.2.receiver := by
  unfold functions RouteFilter.restrict
  rw [List.flatMap_map, List.filter_flatMap]
  apply List.flatMap_congr
  intro file _
  rw [List.filter_map]
  rfl

theorem scope_restrict (filter : RouteFilter) (files : List GoSource.File)
    (overrides : TypeOverrides) :
    TypeScope.ofFiles (filter.restrict files) overrides = TypeScope.ofFiles files overrides := by
  unfold TypeScope.ofFiles RouteFilter.restrict
  rw [List.flatMap_map]

/-- Functions that do not take part change nothing. -/
theorem ofFiles_restrict (filter : RouteFilter) (overrides : TypeOverrides)
    (files : List GoSource.File) :
    ofFiles filter (.ofFiles (filter.restrict files) overrides) (filter.restrict files)
      = ofFiles filter (.ofFiles files overrides) files := by
  have hstep : ∀ (g : Gathering) (item : Path × GoSource.Function),
      (if filter.includes item.2.receiver = true then add filter (.ofFiles files overrides) g item
        else g) = add filter (.ofFiles files overrides) g item := by
    intro g item
    by_cases hincluded : filter.includes item.2.receiver = true
    · exact if_pos hincluded
    · rw [if_neg hincluded]
      unfold add
      exact (if_neg hincluded).symm
  rw [scope_restrict]
  unfold ofFiles
  rw [functions_restrict, List.foldl_filter]
  simp only [hstep]

/-! ## All functions -/

theorem ofFunction?_eq_some_iff {function : GoSource.Function} {r : Contribution} :
    Contribution.ofFunction? filter function = some r
      ↔ filter.includes function.receiver = true ∧ r.function = function
        ∧ r.handler = Handler.ofDoc function.doc ∧ r.handler.router = some r.router
        ∧ r.handler.groupKey? function.receiver r.router.path = some r.key := by
  unfold Contribution.ofFunction?
  by_cases hincluded : filter.includes function.receiver = true
  · simp only [hincluded, if_true, true_and, Option.bind_eq_some_iff, Option.map_eq_some_iff]
    constructor
    · rintro ⟨router, hrouter, key, hkey, rfl⟩
      exact ⟨rfl, rfl, hrouter, hkey⟩
    · obtain ⟨function', handler, router, key⟩ := r
      dsimp only
      rintro ⟨rfl, rfl, hrouter, hkey⟩
      exact ⟨router, hrouter, key, hkey, rfl⟩
  · simp [hincluded]

/-- **No route is lost, repeated or dropped in silence.** Whatever files are parsed and whatever the
filter is, the documents list one operation for each function that takes part, declares a route and
has a group, and no others; on each path of a group they stand in the order of the files and of the
functions in them, with the method of the route, and the title or else the name of the function. A
function that takes part and declares a route without making a contribution is reported by a warning
that names the fault, at its turn. The models of a document are those that the types of its own
contributions lead to, and functions that do not take part could as well be missing. -/
theorem routes_ofFiles (filter : RouteFilter) (overrides : TypeOverrides)
    (files : List GoSource.File) (listing : ResourceListing) :
    let scope := TypeScope.ofFiles files overrides
    let g := ofFiles filter scope files
    let documents := g.groups.declarations listing
    let contributions := Contribution.ofFiles filter files
    (∀ function r, Contribution.ofFunction? filter function = some r
        ↔ filter.includes function.receiver = true ∧ r.function = function
          ∧ r.handler = Handler.ofDoc function.doc ∧ r.handler.router = some r.router
          ∧ r.handler.groupKey? function.receiver r.router.path = some r.key)
      ∧ documents.listed.Perm
          (contributions.map fun r => ((r.key, r.router.path), r.operation scope))
      ∧ (∀ key d, documents.get? key = some d → (d.apis.map Route.path).Nodup
        ∧ ∀ route ∈ d.apis, route.operations
          = (contributions.filter fun r => r.key = key ∧ r.router.path = route.path).map
              fun r => r.operation scope)
      ∧ (∀ r ∈ contributions, (r.operation scope).httpMethod = r.router.method.name
        ∧ (r.operation scope).nickname = r.handler.title.getD r.function.name)
      ∧ (∀ before item after, functions files = before ++ item :: after →
        filter.includes item.2.receiver = true → DeclaresRoute item.2.doc →
        Contribution.ofFunction? filter item.2 = none →
        ∃ caused later,
          (ofFunctions filter scope (before ++ [item])).notices
              = (ofFunctions filter scope before).notices ++ caused
            ∧ g.notices = (ofFunctions filter scope (before ++ [item])).notices ++ later
            ∧ ∃ notice ∈ caused, RouteFault item notice ∧ notice.level = .warning)
      ∧ (∀ key d, documents.get? key = some d → ∀ name m, d.models.get? name = some m
        ↔ ∃ r ∈ contributions, r.key = key ∧ scope.Reaches r.handler.mentionedTypes name
          ∧ ∃ s, scope.struct? name = some s ∧ m = .ofStruct scope name s)
      ∧ ofFiles filter (.ofFiles (filter.restrict files) overrides) (filter.restrict files) = g := by
  intro scope g documents contributions
  have hdocuments : documents = (RouteGroups.ofAdditions
      (contributions.map fun r => r.addition scope)).declarations listing := by
    show g.groups.declarations listing = _
    rw [groups_ofFiles]
  refine ⟨fun function r => ofFunction?_eq_some_iff, ?_, fun key d hd => ?_, fun r _ => ⟨rfl, rfl⟩,
    fun before item after hsplit hincluded hdeclares hnone => ?_, fun key d hd => ?_,
    ofFiles_restrict filter overrides files⟩
  · have hperm := RouteGroups.listed_perm (contributions.map fun r => r.addition scope) listing
    rw [List.map_map] at hperm
    rw [hdocuments]
    exact hperm
  · rw [hdocuments] at hd
    have hdoc := RouteGroups.documents_of_get? hd
    refine ⟨hdoc.paths.nodup, fun route hroute => ?_⟩
    rw [hdoc.operations route hroute, under_map_addition, onPath_map_addition, List.filter_filter]
    simp only [Bool.decide_and, Bool.and_comm]
  · exact routeFault_reported hsplit hincluded hdeclares hnone
  · rw [hdocuments] at hd
    exact get?_models_iff contributions scope (RouteGroups.documents_of_get? hd)

/-- A method with a route that can be read, and one whose route names no method of HTTP. -/
theorem routes_ofFiles_unknown_method :
    let filter : RouteFilter := ⟨some fun type => type == "Pets"⟩
    let list : GoSource.Function := ⟨"List", some ⟨"Pets", true⟩, ["@Router /pets [get]"]⟩
    let fetch : GoSource.Function := ⟨"Fetch", some ⟨"Pets", true⟩, ["@Router /pets [fetch]"]⟩
    let files : List GoSource.File := [⟨⟨"pets.go"⟩, { functions := [list, fetch] }⟩]
    filter.includes fetch.receiver = true ∧ DeclaresRoute fetch.doc
      ∧ Contribution.ofFunction? filter fetch = none
      ∧ ∃ notice ∈ (ofFiles filter (.ofFiles files .standard) files).notices,
          RouteFault (⟨"pets.go"⟩, fetch) notice ∧ notice.level = .warning := by
  intro filter list fetch files
  have hincluded : filter.includes fetch.receiver = true := by decide
  have hdeclares : DeclaresRoute fetch.doc :=
    ⟨_, List.mem_singleton_self _, ⟨"router", "/pets [fetch]".toList⟩, by decide +kernel, rfl⟩
  have hnone : Contribution.ofFunction? filter fetch = none :=
    Option.isNone_iff_eq_none.1 (by decide +kernel)
  obtain ⟨-, -, -, -, hwarned, -⟩ := routes_ofFiles filter .standard files {}
  obtain ⟨caused, later, hcaused, hlater, notice, hnotice, hfault⟩ :=
    hwarned [(⟨"pets.go"⟩, list)] (⟨"pets.go"⟩, fetch) [] rfl hincluded hdeclares hnone
  refine ⟨hincluded, hdeclares, hnone, notice, ?_, hfault⟩
  rw [hlater, hcaused]
  exact List.mem_append_left _ (List.mem_append_right _ hnotice)

end Gathering

end ApiDocs
