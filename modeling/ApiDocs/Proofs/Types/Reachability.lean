import ApiDocs.Proofs.Types.Visits
import Mathlib.Logic.Relation

/-!
# Models of the reachable types

A name leads to another one when a field of its struct does. Collecting models for type expressions
finds the structs that can be reached in this way, no more and no fewer: everything that the visit
enters is reachable, because each name that it is asked to visit is, and everything reachable is
entered, because each entry has its references settled. Cycles need no special care on either side.
-/

set_option autoImplicit false

namespace ApiDocs

open Collection

namespace TypeScope

/-- One name leads to another: its struct has a field that appears in JSON and whose type, without
the array layers around it, is the model of the other name. -/
def Leads (scope : TypeScope) (name target : String) : Prop :=
  ∃ s, scope.struct? name = some s
    ∧ ∃ f ∈ s.fields, f.skip = false ∧ (scope.resolve f.type).modelName? = some target

/-- A name can be reached from a model that one of the type expressions stands for. -/
def Reaches (scope : TypeScope) (exprs : List String) (name : String) : Prop :=
  ∃ expr ∈ exprs, ∃ root, (scope.resolve expr).modelName? = some root
    ∧ Relation.ReflTransGen scope.Leads root name

variable {scope : TypeScope}

theorem leads_iff {name target : String} :
    scope.Leads name target
      ↔ ∃ s, scope.struct? name = some s ∧ target ∈ scope.references s := by
  simp only [Leads, references, fields, List.mem_filterMap, List.mem_map, List.mem_filter,
    Bool.not_eq_true']
  constructor
  · rintro ⟨s, hs, f, hf, hskip, htarget⟩
    exact ⟨s, hs, (f, scope.resolve f.type), ⟨f, ⟨hf, hskip⟩, rfl⟩, htarget⟩
  · rintro ⟨s, hs, _, ⟨f, ⟨hf, hskip⟩, rfl⟩, htarget⟩
    exact ⟨s, hs, f, hf, hskip, htarget⟩

theorem mem_roots {exprs : List String} {root : String} :
    root ∈ scope.roots exprs ↔ ∃ expr ∈ exprs, (scope.resolve expr).modelName? = some root :=
  List.mem_filterMap

end TypeScope

namespace Collection

variable {scope : TypeScope} {c c' : Collection} {names : List String}

/-! ## Nothing else is collected -/

/-- A property that names hand on to the names that they lead to holds of all that a visit enters,
if it holds of the names that it is asked to visit. -/
theorem Visits.forall_contains {P : String → Prop}
    (hleads : ∀ name target, P name → scope.Leads name target → P target)
    (h : Visits scope c names c') (hnames : ∀ n ∈ names, P n)
    (hc : ∀ k, c.models.contains k = true → P k) :
    ∀ k, c'.models.contains k = true → P k := by
  induction h with
  | nil c => exact hc
  | known _ _ ih => exact ih (fun n hn => hnames n (List.mem_cons_of_mem _ hn)) hc
  | missing _ _ _ ih =>
    refine ih (fun n hn => hnames n (List.mem_cons_of_mem _ hn)) ?_
    rw [models_note]
    exact hc
  | @found c c₁ c' name rest s _ hs _ _ ihfields ihrest =>
    have hname : P name := hnames name List.mem_cons_self
    refine ihrest (fun n hn => hnames n (List.mem_cons_of_mem _ hn)) (ihfields ?_ ?_)
    · intro n hn
      exact hleads name n hname (TypeScope.leads_iff.2 ⟨s, hs, hn⟩)
    · intro k hk
      rw [contains_add, Bool.or_eq_true, beq_iff_eq] at hk
      rcases hk with rfl | hk
      · exact hname
      · exact hc k hk

/-! ## Everything reachable is collected -/

/-- When all is right about the entries, what a settled name leads to is settled. -/
theorem Settled.of_leads (hentries : ∀ k m, c.models.get? k = some m → c.IsEntry scope k m)
    {name target : String} (h : c.Settled scope name) (hleads : scope.Leads name target) :
    c.Settled scope target := by
  obtain ⟨s, hs, htarget⟩ := TypeScope.leads_iff.1 hleads
  rcases h with hknown | ⟨hnone, _⟩
  · obtain ⟨m, hm⟩ := SortedMap.contains_iff.1 hknown
    obtain ⟨s', hs', _, hrefs⟩ := hentries name m hm
    obtain rfl : s = s' := Option.some.inj (hs.symm.trans hs')
    exact hrefs target htarget
  · simp [hs] at hnone

theorem Settled.of_reflTransGen
    (hentries : ∀ k m, c.models.get? k = some m → c.IsEntry scope k m) {root name : String}
    (hroot : c.Settled scope root) (h : Relation.ReflTransGen scope.Leads root name) :
    c.Settled scope name := by
  induction h with
  | refl => exact hroot
  | tail _ hleads ih => exact ih.of_leads hentries hleads

/-- All is right about the models of a collection that starts without models. -/
theorem isEntry_of_get?_collectAll (scope : TypeScope) (noted exprs : List String) (k : String)
    (m : Model) (hm : (collectAll { unresolved := noted } scope exprs).models.get? k = some m) :
    (collectAll { unresolved := noted } scope exprs).IsEntry scope k m := by
  rcases (visits_collectAll scope _ exprs).entry_of_get? hm with hempty | hentry
  · exact absurd hempty (by simp [SortedMap.get?, SortedMap.empty])
  · exact hentry

/-- The models collected for type expressions are those of the structs that can be reached. -/
theorem get?_models_collectAll (scope : TypeScope) (noted exprs : List String) (name : String)
    (m : Model) :
    (collectAll { unresolved := noted } scope exprs).models.get? name = some m
      ↔ scope.Reaches exprs name
        ∧ ∃ s, scope.struct? name = some s ∧ m = .ofStruct scope name s := by
  have hvisits := visits_collectAll scope { unresolved := noted } exprs
  have hentries := isEntry_of_get?_collectAll scope noted exprs
  constructor
  · intro hm
    obtain ⟨s, hs, hmodel, _⟩ := hentries name m hm
    refine ⟨?_, s, hs, hmodel⟩
    refine hvisits.forall_contains (P := scope.Reaches exprs) ?_ ?_ ?_ name
      (SortedMap.contains_iff.2 ⟨m, hm⟩)
    · rintro n target ⟨expr, hexpr, root, hroot, hpath⟩ hleads
      exact ⟨expr, hexpr, root, hroot, hpath.tail hleads⟩
    · intro root hroot
      obtain ⟨expr, hexpr, hroot⟩ := TypeScope.mem_roots.1 hroot
      exact ⟨expr, hexpr, root, hroot, .refl⟩
    · intro k hk
      simp [SortedMap.contains, SortedMap.empty] at hk
  -- A settled name that has a struct is not one that was only noted, so its model is there.
  · rintro ⟨⟨expr, hexpr, root, hroot, hpath⟩, s, hs, rfl⟩
    have hsettled := Settled.of_reflTransGen hentries
      (hvisits.settled (TypeScope.mem_roots.2 ⟨expr, hexpr, hroot⟩)) hpath
    rcases hsettled with hknown | ⟨hnone, _⟩
    · obtain ⟨m, hm⟩ := SortedMap.contains_iff.1 hknown
      obtain ⟨s', hs', rfl, _⟩ := hentries name m hm
      obtain rfl : s = s' := Option.some.inj (hs.symm.trans hs')
      exact hm
    · simp [hs] at hnone

/-- **Collection of models.** For the types of any source files and any overrides, each call of the
collection is the depth-first visit, which therefore always ends. The models of some type
expressions, one after the other and starting without models, are at exactly the names that have a
struct and can be reached from the model of one of the expressions; each has its name as its id and
is the model of its struct alone; and neither the order nor the repetition of the expressions
matters, nor does what was noted before. -/
theorem collectAll_models (files : List GoSource.File) (overrides : TypeOverrides)
    (noted exprs : List String) :
    let scope := TypeScope.ofFiles files overrides
    let models := (collectAll { unresolved := noted } scope exprs).models
    (∀ c expr c', Visits scope c (scope.resolve expr).modelName?.toList c'
        ↔ c' = c.collect scope expr)
      ∧ (∀ name, models.contains name = true
        ↔ (scope.struct? name).isSome = true
          ∧ ∃ expr ∈ exprs, ∃ root, (scope.resolve expr).modelName? = some root
            ∧ Relation.ReflTransGen scope.Leads root name)
      ∧ (∀ name m, models.get? name = some m → m.id = name
        ∧ ∃ s, scope.struct? name = some s ∧ m = .ofStruct ⟨[s], overrides⟩ name s)
      ∧ ∀ noted' exprs', (∀ expr, expr ∈ exprs' ↔ expr ∈ exprs) →
        (collectAll { unresolved := noted' } scope exprs').models = models := by
  intro scope models
  refine ⟨fun c expr c' => ?_, fun name => ?_, fun name m hm => ?_, fun noted' exprs' hsame => ?_⟩
  · constructor
    · intro h
      exact h.unique (visits_take scope c _)
    · rintro rfl
      exact visits_take scope c _
  · rw [SortedMap.contains_iff]
    constructor
    · rintro ⟨m, hm⟩
      obtain ⟨hreaches, s, hs, _⟩ := (get?_models_collectAll scope noted exprs name m).1 hm
      exact ⟨by rw [hs, Option.isSome_some], hreaches⟩
    · rintro ⟨hsome, hreaches⟩
      obtain ⟨s, hs⟩ := Option.isSome_iff_exists.1 hsome
      exact ⟨_, (get?_models_collectAll scope noted exprs name _).2 ⟨hreaches, s, hs, rfl⟩⟩
  · obtain ⟨_, s, hs, rfl⟩ := (get?_models_collectAll scope noted exprs name m).1 hm
    exact ⟨rfl, s, hs, rfl⟩
  · have hreaches : ∀ name, scope.Reaches exprs' name ↔ scope.Reaches exprs name := by
      intro name
      simp only [TypeScope.Reaches, hsame]
    apply SortedMap.ext_get?
    intro name
    apply Option.ext
    intro m
    rw [get?_models_collectAll, get?_models_collectAll, hreaches]

end Collection

end ApiDocs
