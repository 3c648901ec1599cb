import ApiDocs.Proofs.Grouping.Contributions
import ApiDocs.Proofs.Survey
import ApiDocs.Proofs.Types.Visits

/-!
# References to models

Operations and models mention other models by name. Each mention comes from a type expression whose
models are collected for the same group: for an operation these are the expressions that its handler
mentions, and for a model the visit of its struct has settled what its fields lead to. The names
that the visit cannot settle by a model are noted, and what is noted is reported.

Gathering keeps all of this (`Gathering.Complete`), so in every declaration a mentioned name has its
model there, or it has no struct and the run says so.
-/

set_option autoImplicit false

namespace ApiDocs

open Annotations (Handler Param Response)

/-! ## What mentions a model -/

/-- A property refers to a model by its own type or by the type of its elements. -/
def Property.RefersTo (p : Property) (name : String) : Prop :=
  p.reference = some name ∨ ∃ items, p.items = some items ∧ items.reference = some name

/-- A model refers to another one in a property. -/
def Model.RefersTo (m : Model) (name : String) : Prop :=
  ∃ key p, m.properties.get? key = some p ∧ p.RefersTo name

/-- A name in an operation of a handler that comes from a type resolved as a model. The type of an
answer or a parameter may be written like a model and be none, so the annotation behind it counts;
references are names of models by themselves. -/
inductive Annotations.Handler.Mentions (scope : TypeScope) (h : Handler) (operation : Operation) :
    String → Prop
  | type {r : Response} {expr : String} (hr : h.firstTypedSuccess? = some (r, expr))
      (hmodel : scope.resolve expr = .model operation.type) :
      Mentions scope h operation operation.type
  | items {items : Items} {name : String} (hitems : operation.items = some items)
      (hreference : items.reference = some name) : Mentions scope h operation name
  | parameter {i : Nat} {p : Param} {q : Parameter} {name : String} (hp : h.params[i]? = some p)
      (hq : operation.parameters[i]? = some q) (hmodel : scope.resolve p.type = .model name)
      (hname : q.type = name ∨ q.dataType = name) : Mentions scope h operation name
  | response {i : Nat} {r : Response} {q : ResponseMessage} {expr : String}
      (hr : h.responses[i]? = some r) (hq : operation.responseMessages[i]? = some q)
      (hexpr : r.type = some expr) (hmodel : scope.resolve expr = .model q.responseModel) :
      Mentions scope h operation q.responseModel

namespace SwaggerType

theorem eq_model_of_items {type : SwaggerType} {name : String}
    (h : type.items.reference = some name) : type = .model name := by
  cases type with
  | model target => simpa [items] using h
  | primitive kind format => simp [items] at h
  | array element => simp [items] at h

theorem modelName?_of_refersTo {type : SwaggerType} {name : String}
    (h : type.property.RefersTo name) : type.modelName? = some name := by
  cases type with
  | primitive kind format => simp [property, Property.RefersTo] at h
  | model target => simpa [property, Property.RefersTo, modelName?] using h
  | array element =>
    have hitems : element.items.reference = some name := by
      simpa [property, Property.RefersTo] using h
    rw [eq_model_of_items hitems]
    rfl

end SwaggerType

/-- The model of a struct refers to names that the fields of the struct lead to. -/
theorem Model.mem_references_of_refersTo {scope : TypeScope} {key name : String}
    {s : GoSource.Struct} (h : (ofStruct scope key s).RefersTo name) :
    name ∈ scope.references s := by
  obtain ⟨jsonKey, p, hp, hrefers⟩ := h
  rcases SortedMap.get?_insertAll hp with hmem | hempty
  · obtain ⟨f, hf, heq⟩ := List.mem_map.1 hmem
    obtain ⟨-, rfl⟩ := Prod.mk.inj heq
    have hmodel : f.2.modelName? = some name := SwaggerType.modelName?_of_refersTo hrefers
    exact List.mem_filterMap.2 ⟨f, hf, hmodel⟩
  · simp [SortedMap.get?, SortedMap.empty] at hempty

/-- Every name that the operation of a handler mentions comes from a type expression that the
handler mentions. -/
theorem Annotations.Handler.mem_roots_of_mentions {scope : TypeScope} {h : Handler}
    {function : String} {method : HttpMethod} {name : String}
    (hname : h.Mentions scope (h.operation scope function method) name) :
    name ∈ scope.roots h.mentionedTypes := by
  have of_mem {expr name : String} (hexpr : expr ∈ h.mentionedTypes)
      (hmodel : scope.resolve expr = .model name) : name ∈ scope.roots h.mentionedTypes :=
    List.mem_filterMap.2 ⟨expr, hexpr, by rw [hmodel]; rfl⟩
  have success {r : Response} {expr : String} (hr : h.firstTypedSuccess? = some (r, expr)) :
      expr ∈ h.mentionedTypes := by
    simp [mentionedTypes, hr]
  cases hname with
  | type hr hmodel => exact of_mem (success hr) hmodel
  | @items items _ hitems hreference =>
    have hanswer : (h.answer scope).2 = some items := hitems
    unfold answer at hanswer
    split at hanswer
    · simp at hanswer
    · next r expr hr =>
      split at hanswer
      · obtain rfl : (scope.resolve expr).items = items := Option.some.inj hanswer
        exact of_mem (success hr) (SwaggerType.eq_model_of_items hreference)
      · simp at hanswer
  | @parameter i p q _ hp hq hmodel hname =>
    have hmem : p.type ∈ h.mentionedTypes := by
      simp only [mentionedTypes, List.mem_append]
      exact Or.inl (Or.inr (List.mem_map_of_mem (List.mem_of_getElem? hp)))
    exact of_mem hmem hmodel
  | @response i r q expr hr hq hexpr hmodel =>
    have hmem : expr ∈ h.mentionedTypes := by
      simp only [mentionedTypes, List.mem_append]
      exact Or.inr (List.mem_filterMap.2 ⟨r, List.mem_of_getElem? hr, hexpr⟩)
    exact of_mem hmem hmodel

/-! ## Names that are accounted for -/

/-- A name has its model, or it has no struct and this is reported. -/
def TypeScope.AccountsFor (scope : TypeScope) (models : SortedMap String Model)
    (notices : List Notice) (name : String) : Prop :=
  models.contains name = true
    ∨ scope.struct? name = none ∧ Notice.unresolvedType name ∈ notices

theorem TypeScope.AccountsFor.mono {scope : TypeScope} {models models' : SortedMap String Model}
    {notices notices' : List Notice} {name : String} (h : scope.AccountsFor models notices name)
    (hmodels : models.contains name = true → models'.contains name = true)
    (hnotices : notices ⊆ notices') : scope.AccountsFor models' notices' name :=
  h.imp hmodels (And.imp_right fun hmem => hnotices hmem)

namespace Gathering

/-- What gathering keeps: the unresolved names are reported; the names that the handlers of the
contributions so far mention are accounted for in their groups; and so are the names that the models
of each group refer to. -/
structure Complete (scope : TypeScope) (contributions : List Contribution) (g : Gathering) :
    Prop where
  reported : ∀ name ∈ g.unresolved, Notice.unresolvedType name ∈ g.notices
  mentioned : ∀ r ∈ contributions, ∃ group, g.groups.get? r.key = some group
    ∧ ∀ name ∈ scope.roots r.handler.mentionedTypes,
      scope.AccountsFor group.models g.notices name
  referenced : ∀ key group, g.groups.get? key = some group →
    ∀ id m, group.models.get? id = some m → ∀ name, m.RefersTo name →
      scope.AccountsFor group.models g.notices name

variable {filter : RouteFilter} {scope : TypeScope} {contributions : List Contribution}
  {g : Gathering}

theorem complete_empty (scope : TypeScope) : Complete scope [] {} where
  reported name hname := absurd hname List.not_mem_nil
  mentioned r hr := absurd hr List.not_mem_nil
  referenced key group hgroup := by
    simp [SortedMap.get?, SortedMap.empty] at hgroup

theorem Complete.report (h : Complete scope contributions g) (notices : List Notice) :
    Complete scope contributions (g.report notices) where
  reported name hname := List.mem_append_left _ (h.reported name hname)
  mentioned r hr := by
    obtain ⟨group, hgroup, hnames⟩ := h.mentioned r hr
    exact ⟨group, hgroup, fun name hname =>
      (hnames name hname).mono id (List.subset_append_left _ _)⟩
  referenced key group hgroup id m hm name hname :=
    (h.referenced key group hgroup id m hm name hname).mono (fun hc => hc)
      (List.subset_append_left _ _)

/-! ## Models for a contribution -/

/-- The reports on the types of a contribution that were not reported before. -/
def missingNotices (g : Gathering) (scope : TypeScope) (types : List String) : List Notice :=
  (g.collect scope types).2.map .unresolvedType

/-- The names noted while models are collected are the old ones and those reported now. -/
theorem unresolved_collectAll (g : Gathering) (scope : TypeScope) (types : List String) :
    (Collection.collectAll { unresolved := g.unresolved } scope types).unresolved
      = g.unresolved ++ (g.collect scope types).2 := by
  have hprefix := (Collection.visits_collectAll scope { unresolved := g.unresolved } types).extends
  exact (List.prefix_iff_eq_append.1 hprefix.unresolved).symm

theorem accountsFor_of_settled
    (hreported : ∀ name ∈ g.unresolved, Notice.unresolvedType name ∈ g.notices)
    {types : List String} {name : String}
    (h : (Collection.collectAll { unresolved := g.unresolved } scope types).Settled scope name) :
    scope.AccountsFor (g.collect scope types).1 (g.notices ++ g.missingNotices scope types)
      name := by
  refine h.imp id (And.imp_right fun hmem => ?_)
  rw [unresolved_collectAll, List.mem_append] at hmem
  rcases hmem with hold | hnew
  · exact List.mem_append_left _ (hreported name hold)
  · exact List.mem_append_right _ (List.mem_map_of_mem hnew)

/-- The names that the types stand for are accounted for, and so are those that the new models refer
to. -/
theorem accountsFor_of_mem_roots
    (hreported : ∀ name ∈ g.unresolved, Notice.unresolvedType name ∈ g.notices)
    {types : List String} {name : String} (hname : name ∈ scope.roots types) :
    scope.AccountsFor (g.collect scope types).1 (g.notices ++ g.missingNotices scope types) name :=
  accountsFor_of_settled hreported ((Collection.visits_collectAll scope _ types).settled hname)

theorem accountsFor_of_refersTo
    (hreported : ∀ name ∈ g.unresolved, Notice.unresolvedType name ∈ g.notices)
    {types : List String} {id name : String} {m : Model}
    (hm : (g.collect scope types).1.get? id = some m) (hname : m.RefersTo name) :
    scope.AccountsFor (g.collect scope types).1 (g.notices ++ g.missingNotices scope types)
      name := by
  rcases (Collection.visits_collectAll scope _ types).entry_of_get? hm with hempty | hentry
  · simp [SortedMap.get?, SortedMap.empty] at hempty
  · obtain ⟨s, -, rfl, hrefs⟩ := hentry
    exact accountsFor_of_settled hreported (hrefs name (Model.mem_references_of_refersTo hname))

end Gathering

theorem RouteGroup.contains_models_add {group : RouteGroup} {path name : String}
    {operation : Operation} {models : SortedMap String Model} :
    (group.add path operation models).models.contains name = true
      ↔ models.contains name = true ∨ group.models.contains name = true := by
  show (group.models.insertAll models.entries).contains name = true ↔ _
  rw [SortedMap.contains_insertAll, SortedMap.contains_iff (m := models)]
  simp only [SortedMap.mem_entries_iff]

namespace Gathering

variable {filter : RouteFilter} {scope : TypeScope} {contributions : List Contribution}
  {g : Gathering}

/-- Adding a contribution accounts for what it mentions, and for what its models refer to. -/
theorem Complete.addRoute (h : Complete scope contributions g) (r : Contribution) :
    Complete scope (contributions ++ [r])
      (g.addRoute scope r.function r.handler r.router r.key) := by
  have hnotices : g.notices ⊆ g.notices ++ g.missingNotices scope r.handler.mentionedTypes :=
    List.subset_append_left _ _
  -- Other groups keep their models; the group of the contribution gains those just collected.
  refine ⟨fun name hname => ?_, fun r' hr' => ?_, fun key group hgroup id m hm name hname => ?_⟩
  · rcases List.mem_append.1 hname with hold | hnew
    · exact hnotices (h.reported name hold)
    · exact List.mem_append_right _ (List.mem_map_of_mem hnew)
  · rw [get?_groups_addRoute]
    rcases List.mem_append.1 hr' with hold | hnew
    · obtain ⟨group, hgroup, hnames⟩ := h.mentioned r' hold
      by_cases hkey : r'.key = r.key
      · rw [if_pos hkey, ← hkey, hgroup]
        refine ⟨_, rfl, fun name hname => (hnames name hname).mono (fun hc => ?_) hnotices⟩
        exact RouteGroup.contains_models_add.2 (Or.inr hc)
      · rw [if_neg hkey]
        exact ⟨group, hgroup, fun name hname => (hnames name hname).mono id hnotices⟩
    · obtain rfl : r' = r := List.mem_singleton.1 hnew
      rw [if_pos rfl]
      refine ⟨_, rfl, fun name hname => ?_⟩
      refine (accountsFor_of_mem_roots h.reported hname).mono (fun hc => ?_) (List.Subset.refl _)
      exact RouteGroup.contains_models_add.2 (Or.inl hc)
  · rw [get?_groups_addRoute] at hgroup
    split at hgroup
    · obtain rfl := Option.some.inj hgroup
      rcases SortedMap.get?_insertAll hm with hnew | hold
      · have hm' := SortedMap.mem_entries_iff.1 hnew
        refine (accountsFor_of_refersTo h.reported hm' hname).mono (fun hc => ?_)
          (List.Subset.refl _)
        exact RouteGroup.contains_models_add.2 (Or.inl hc)
      · cases hgroup : g.groups.get? r.key with
        | none =>
          rw [hgroup] at hold
          simp [SortedMap.get?, SortedMap.empty] at hold
        | some group =>
          rw [hgroup] at hold
          refine (h.referenced r.key group hgroup id m hold name hname).mono (fun hc => ?_)
            hnotices
          exact RouteGroup.contains_models_add.2 (Or.inr hc)
    · exact (h.referenced key group hgroup id m hm name hname).mono (fun hc => hc) hnotices

theorem Complete.add (h : Complete scope contributions g) (filter : RouteFilter)
    (item : Path × GoSource.Function) :
    Complete scope (contributions ++ (Contribution.ofFunction? filter item.2).toList)
      (add filter scope g item) := by
  rw [add_eq]
  cases Contribution.ofFunction? filter item.2 with
  | none =>
    simp only [Option.toList_none, List.append_nil]
    exact h.report _
  | some r => exact (h.report _).addRoute r

theorem Complete.foldl_add (h : Complete scope contributions g) (filter : RouteFilter)
    (items : List (Path × GoSource.Function)) :
    Complete scope
      (contributions ++ items.filterMap fun item => Contribution.ofFunction? filter item.2)
      (items.foldl (Gathering.add filter scope) g) := by
  induction items generalizing contributions g with
  | nil =>
    rw [List.filterMap_nil, List.append_nil]
    exact h
  | cons item items ih =>
    have hnext := ih (h.add filter item)
    rw [List.append_assoc] at hnext
    rw [List.filterMap_eq_flatMap_toList] at hnext ⊢
    exact hnext

theorem complete_ofFiles (filter : RouteFilter) (scope : TypeScope)
    (files : List GoSource.File) :
    Complete scope (Contribution.ofFiles filter files) (ofFiles filter scope files) :=
  (complete_empty scope).foldl_add filter (functions files)

end Gathering

/-! ## Declarations -/

/-- Nothing dangles in the declaration of a group: its operations are those of the contributions to
the group; what each of them mentions is accounted for, and so is what the models refer to. -/
structure ApiDeclaration.Resolved (d : ApiDeclaration) (scope : TypeScope)
    (contributions : List Contribution) (key : GroupKey) (notices : List Notice) : Prop where
  served : ∀ path operation,
    (∃ route ∈ d.apis, route.path = path ∧ operation ∈ route.operations)
      ↔ ∃ r ∈ contributions, r.key = key ∧ r.router.path = path ∧ r.operation scope = operation
  mentioned : ∀ r ∈ contributions, r.key = key →
    ∀ name, r.handler.Mentions scope (r.operation scope) name →
      scope.AccountsFor d.models notices name
  referenced : ∀ id m, d.models.get? id = some m → ∀ name, m.RefersTo name →
    scope.AccountsFor d.models notices name

theorem ApiDeclaration.Resolved.mono {d : ApiDeclaration} {scope : TypeScope}
    {contributions : List Contribution} {key : GroupKey} {notices notices' : List Notice}
    (h : d.Resolved scope contributions key notices) (hnotices : notices ⊆ notices') :
    d.Resolved scope contributions key notices' where
  served := h.served
  mentioned r hr hkey name hname := (h.mentioned r hr hkey name hname).mono id hnotices
  referenced id m hm name hname := (h.referenced id m hm name hname).mono (fun hc => hc) hnotices

/-- The declarations that are gathered from any files are resolved. -/
theorem Gathering.resolved_of_get?_declarations (filter : RouteFilter) (scope : TypeScope)
    (files : List GoSource.File) (listing : ResourceListing) {key : GroupKey} {d : ApiDeclaration}
    (hd : ((ofFiles filter scope files).groups.declarations listing).get? key = some d) :
    d.Resolved scope (Contribution.ofFiles filter files) key
      (ofFiles filter scope files).notices := by
  have hcomplete := complete_ofFiles filter scope files
  unfold RouteGroups.declarations at hd
  rw [SortedMap.get?_map, Option.map_eq_some_iff] at hd
  obtain ⟨group, hgroup, rfl⟩ := hd
  refine ⟨fun path operation => ?_, fun r hr hkey name hname => ?_, ?_⟩
  · rw [← serves_ofFiles filter scope files key path operation]
    constructor
    · intro hserves
      exact ⟨group, hgroup, hserves⟩
    · rintro ⟨group', hgroup', hserves⟩
      rw [hgroup, Option.some.injEq] at hgroup'
      subst hgroup'
      exact hserves
  · obtain ⟨group', hgroup', hnames⟩ := hcomplete.mentioned r hr
    rw [hkey, hgroup, Option.some.injEq] at hgroup'
    subst hgroup'
    exact hnames name (Handler.mem_roots_of_mentions hname)
  · exact hcomplete.referenced key group hgroup

/-- **No dangling references.** Whatever files are parsed, and whatever the filter and the overrides
are, each name that a declaration gives for a resolved model is a key of the models of the same
declaration, or it has no struct and is reported as unresolved. The groups that a successful run
leaves in a survey are such declarations, for the sources that it has read, and the reports are
those of this run. -/
theorem Survey.no_dangling_reference :
    (∀ (filter : RouteFilter) (overrides : TypeOverrides) (files : List GoSource.File)
        (listing : ResourceListing),
      let scope := TypeScope.ofFiles files overrides
      let g := Gathering.ofFiles filter scope files
      ∀ key d, (g.groups.declarations listing).get? key = some d →
        d.Resolved scope (Contribution.ofFiles filter files) key g.notices)
    ∧ ∀ (files : FileSystem) (package : String) (s : Survey),
      match (readPackage files package).run.run s with
      | (.error _, s') => s' = s
      | (.ok (), s') =>
        ∃ directory paths notices, packageDirectory files package s.roots = .ok directory
          ∧ files.scan directory = .ok paths
          ∧ s'.notices = s.notices ++ notices
          ∧ ∀ key d, s'.groups.get? key = some d →
            d.Resolved (.ofFiles (readableSources files paths) s.overrides)
              (Contribution.ofFiles s.filter (readableSources files paths)) key notices := by
  refine ⟨fun filter overrides files listing key d hd => ?_, fun files package s => ?_⟩
  · exact Gathering.resolved_of_get?_declarations filter _ files listing hd
  · rw [readPackage_run]
    cases hdirectory : packageDirectory files package s.roots with
    | error e => rfl
    | ok directory =>
      simp only
      cases hscan : files.scan directory with
      | error e => rfl
      | ok paths =>
        refine ⟨directory, paths, _, rfl, hscan, List.append_assoc _ _ _, fun key d hd => ?_⟩
        have hresolved := Gathering.resolved_of_get?_declarations s.filter _ _ s.listing hd
        refine hresolved.mono fun notice hnotice => ?_
        simp only [List.mem_append]
        exact Or.inr (Or.inl (Or.inl hnotice))

end ApiDocs
