import ApiDocs.Grouping.Gathering
import ApiDocs.Proofs.Types.Reachability
import Mathlib.Data.List.Nodup

/-!
# Reports on unresolved types

A collector of models fills any number of maps, one call after the other, and reports the names for
which it finds no struct. What a call visits depends on the map that it fills, while the names that
were reported are remembered for all maps together.

The two are linked by an invariant of all maps at once (`Collector.Accounts`): what the models of a
map refer to has a model in the same map or is reported. So whatever a call passes over because its
model is there has been followed to its end before, and each name without a struct that can be
reached is reported, by the first call that comes to it (`Collector.reported_once`). The models that
the operation of a route needs are collected in this way, in a map of their own
(`Gathering.collect_eq_calls`).
-/

set_option autoImplicit false

namespace ApiDocs

open Collection

/-! ## The unresolved names of one visit -/

namespace Collection

variable {scope : TypeScope} {c c' : Collection} {names : List String}

theorem nodup_note (h : c.unresolved.Nodup) (name : String) : (c.note name).unresolved.Nodup := by
  unfold note
  split
  · exact h
  · next hnew =>
    refine List.nodup_append.2 ⟨h, by simp, ?_⟩
    rintro n hn m hm rfl
    exact hnew (List.mem_singleton.1 hm ▸ hn)

theorem mem_unresolved_note {name n : String} (h : n ∈ (c.note name).unresolved) :
    n ∈ c.unresolved ∨ n = name := by
  unfold note at h
  split at h
  · exact Or.inl h
  · exact (List.mem_append.1 h).imp id List.mem_singleton.1

/-- A visit notes no name twice. -/
theorem Visits.nodup_unresolved (h : Visits scope c names c') (hc : c.unresolved.Nodup) :
    c'.unresolved.Nodup := by
  induction h with
  | nil c => exact hc
  | known _ _ ih => exact ih hc
  | missing _ _ _ ih => exact ih (nodup_note hc _)
  | found _ _ _ _ ihfields ihrest => exact ihrest (ihfields hc)

/-- The names that a visit notes have no struct; and they have every property that names hand on to
the names that they lead to, if the names that the visit is asked to visit have it. -/
theorem Visits.forall_unresolved {P : String → Prop}
    (hleads : ∀ name target, P name → scope.Leads name target → P target)
    (h : Visits scope c names c') (hnames : ∀ n ∈ names, P n)
    (hc : ∀ n ∈ c.unresolved, scope.struct? n = none ∧ P n) :
    ∀ n ∈ c'.unresolved, scope.struct? n = none ∧ P n := by
  induction h with
  | nil c => exact hc
  | known _ _ ih => exact ih (fun n hn => hnames n (List.mem_cons_of_mem _ hn)) hc
  | missing _ hnone _ ih =>
    refine ih (fun n hn => hnames n (List.mem_cons_of_mem _ hn)) fun n hn => ?_
    rcases mem_unresolved_note hn with hn | rfl
    · exact hc n hn
    · exact ⟨hnone, hnames n List.mem_cons_self⟩
  | @found c c₁ c' name rest s _ hs _ _ ihfields ihrest =>
    have hname : P name := hnames name List.mem_cons_self
    refine ihrest (fun n hn => hnames n (List.mem_cons_of_mem _ hn)) (ihfields (fun n hn => ?_) hc)
    exact hleads name n hname (TypeScope.leads_iff.2 ⟨s, hs, hn⟩)

end Collection

theorem TypeScope.Reaches.mono {scope : TypeScope} {exprs others : List String} {name : String}
    (h : scope.Reaches exprs name) (hsubset : exprs ⊆ others) : scope.Reaches others name := by
  obtain ⟨expr, hexpr, hroot⟩ := h
  exact ⟨expr, hsubset hexpr, hroot⟩

/-! ## Several maps -/

/-- A collector of models: the models in each of the maps that it fills, the names that it knows to
be unresolved, and what it reported. -/
structure Collector (ι : Type) where
  models : ι → SortedMap String Model := fun _ => .empty
  unresolved : List String := []
  notices : List Notice := []

namespace Collector

variable {ι : Type}

/-- What a call on one of the maps starts from. -/
def collection (g : Collector ι) (i : ι) : Collection :=
  ⟨g.models i, g.unresolved⟩

/-- What a collector keeps for the type expressions of the calls so far: the unresolved names are
reported, once each, and nothing else is; they have no struct and can be reached; all is right
about the models in every map; and what an expression stands for is settled in some map. -/
structure Accounts (scope : TypeScope) (exprs : List String) (g : Collector ι) : Prop where
  notices : g.notices = g.unresolved.map .unresolvedType
  nodup : g.unresolved.Nodup
  reached : ∀ n ∈ g.unresolved, scope.struct? n = none ∧ scope.Reaches exprs n
  entries : ∀ i k m, (g.collection i).models.get? k = some m →
    (g.collection i).IsEntry scope k m
  settled : ∀ root ∈ scope.roots exprs, ∃ i, (g.collection i).Settled scope root

theorem accounts_empty (scope : TypeScope) : Accounts scope [] ({} : Collector ι) where
  notices := rfl
  nodup := List.nodup_nil
  reached n hn := absurd hn List.not_mem_nil
  entries i k m hm := by simp [collection] at hm
  settled root hroot := absurd hroot List.not_mem_nil

/-- The unresolved names are exactly the names without a struct that can be reached. -/
theorem Accounts.mem_unresolved_iff {scope : TypeScope} {exprs : List String} {g : Collector ι}
    (h : g.Accounts scope exprs) {name : String} :
    name ∈ g.unresolved ↔ scope.struct? name = none ∧ scope.Reaches exprs name := by
  constructor
  · exact h.reached name
  · rintro ⟨hnone, expr, hexpr, root, hroot, hpath⟩
    obtain ⟨i, hsettled⟩ := h.settled root (TypeScope.mem_roots.2 ⟨expr, hexpr, hroot⟩)
    rcases hsettled.of_reflTransGen (h.entries i) hpath with hknown | ⟨_, hnoted⟩
    · obtain ⟨m, hm⟩ := SortedMap.contains_iff.1 hknown
      obtain ⟨s, hs, -⟩ := h.entries i name m hm
      simp [hnone] at hs
    · exact hnoted

variable [DecidableEq ι]

/-- The collector after one more call, which adds the models for a type expression to one of the
maps and reports the names that turn out to be unresolved. -/
def call (scope : TypeScope) (g : Collector ι) (request : ι × String) : Collector ι :=
  let c := (g.collection request.1).collect scope request.2
  { models := Function.update g.models request.1 c.models
    unresolved := c.unresolved
    notices := g.notices ++ (c.unresolved.drop g.unresolved.length).map .unresolvedType }

variable {scope : TypeScope} {g : Collector ι}

theorem collection_call_self (i : ι) (expr : String) :
    (g.call scope (i, expr)).collection i = (g.collection i).collect scope expr := by
  simp [call, collection]

theorem models_call_of_ne {i j : ι} (h : j ≠ i) (expr : String) :
    ((g.call scope (i, expr)).collection j).models = (g.collection j).models := by
  simp [call, collection, h]

/-- A call keeps what is in the maps and which names are unresolved. -/
theorem extends_call (scope : TypeScope) (g : Collector ι) (i : ι) (expr : String) (j : ι) :
    Extends (g.collection j) ((g.call scope (i, expr)).collection j) := by
  have hextends :=
    (visits_take scope (g.collection i) (scope.resolve expr).modelName?.toList).extends
  by_cases h : j = i
  · subst h
    rw [collection_call_self]
    exact hextends
  · refine ⟨fun k m hm => ?_, hextends.unresolved⟩
    rw [models_call_of_ne h]
    exact hm

theorem Accounts.call {exprs : List String} (h : g.Accounts scope exprs) (i : ι) (expr : String) :
    (g.call scope (i, expr)).Accounts scope (exprs ++ [expr]) := by
  have hvisits := visits_take scope (g.collection i) (scope.resolve expr).modelName?.toList
  refine ⟨?_, hvisits.nodup_unresolved h.nodup, ?_, fun j k m hm => ?_, fun root hroot => ?_⟩
  · obtain ⟨new, hnew⟩ := hvisits.extends.unresolved
    have hunresolved : ((g.collection i).collect scope expr).unresolved = g.unresolved ++ new :=
      hnew.symm
    simp only [Collector.call, hunresolved, h.notices, List.drop_left, List.map_append]
  · refine hvisits.forall_unresolved (P := scope.Reaches (exprs ++ [expr])) ?_ ?_ ?_
    · rintro n target ⟨other, hother, root, hroot, hpath⟩ hleads
      exact ⟨other, hother, root, hroot, hpath.tail hleads⟩
    · intro root hroot
      exact ⟨expr, by simp, root, Option.mem_toList.1 hroot, .refl⟩
    · intro n hn
      exact (h.reached n hn).imp id fun hreaches => hreaches.mono (List.subset_append_left _ _)
  -- Only the map of the call has new entries, and the visit has settled their references.
  · by_cases hj : j = i
    · subst hj
      have hextends := extends_call scope g j expr j
      rw [collection_call_self] at hm hextends ⊢
      rcases hvisits.entry_of_get? hm with hold | hentry
      · exact (h.entries j k m hold).mono hextends
      · exact hentry
    · rw [models_call_of_ne hj] at hm
      exact (h.entries j k m hm).mono (extends_call scope g i expr j)
  · rw [TypeScope.roots, List.filterMap_append, List.mem_append] at hroot
    rcases hroot with hroot | hroot
    · obtain ⟨j, hsettled⟩ := h.settled root hroot
      exact ⟨j, hsettled.mono (extends_call scope g i expr j)⟩
    · refine ⟨i, ?_⟩
      rw [collection_call_self]
      exact hvisits.settled (by simpa using hroot)

/-- A run of calls keeps the invariant. -/
theorem Accounts.foldl_call {exprs : List String} (h : g.Accounts scope exprs)
    (calls : List (ι × String)) :
    (calls.foldl (Collector.call scope) g).Accounts scope (exprs ++ calls.map Prod.snd) := by
  induction calls generalizing exprs g with
  | nil => simpa using h
  | cons request calls ih =>
    have hrest := ih (h.call request.1 request.2)
    rwa [List.append_assoc, List.singleton_append] at hrest

/-- Calls on one map collect what a collection does, and report what is new in the end. -/
theorem foldl_call_on (scope : TypeScope) (g : Collector ι) (i : ι) (exprs : List String) :
    let g' := (exprs.map (i, ·)).foldl (Collector.call scope) g
    g'.collection i = (g.collection i).collectAll scope exprs
      ∧ g'.notices = g.notices
        ++ (g'.unresolved.drop g.unresolved.length).map .unresolvedType := by
  induction exprs generalizing g with
  | nil => simp [collectAll]
  | cons expr exprs ih =>
    intro g'
    obtain ⟨hcollection, hnotices⟩ := ih (g.call scope (i, expr))
    rw [collection_call_self] at hcollection
    refine ⟨hcollection, ?_⟩
    -- What the first call found is still there in the end, so the reports can be joined.
    obtain ⟨first, hfirst⟩ := (extends_call scope g i expr i).unresolved
    have hextends := (visits_collectAll scope ((g.collection i).collect scope expr) exprs).extends
    obtain ⟨others, hothers⟩ := hextends.unresolved
    have hfirst : (g.call scope (i, expr)).unresolved = g.unresolved ++ first := hfirst.symm
    have hothers : g'.unresolved = (g.call scope (i, expr)).unresolved ++ others :=
      (congrArg Collection.unresolved hcollection).trans hothers.symm
    change g'.notices = _ ++ (g'.unresolved.drop _).map _ at hnotices
    have hcall : (g.call scope (i, expr)).notices = g.notices ++ first.map .unresolvedType := by
      have hdrop : (g.call scope (i, expr)).notices = g.notices
          ++ ((g.call scope (i, expr)).unresolved.drop g.unresolved.length).map .unresolvedType :=
        rfl
      rw [hdrop, hfirst, List.drop_left]
    rw [hnotices, hcall, hothers, List.drop_left, hfirst, List.append_assoc, List.append_assoc,
      List.drop_left, List.map_append]

theorem message_unresolvedType_injective :
    Function.Injective fun name => (Notice.unresolvedType name).message := by
  intro a b h
  change "Could not resolve type: " ++ a = "Could not resolve type: " ++ b at h
  exact (String.append_right_inj _).1 h

/-- **Reports on unresolved types.** Calls on any number of maps, which are empty at first and
changed by the calls only, give warnings about unresolved types and no other notices. No warning
comes twice, and a name has one exactly when it has no struct and can be reached from a type
expression of a call: as the model that the expression stands for without its array layers, or
through the fields of structs that can be reached. -/
theorem reported_once (files : List GoSource.File) (overrides : TypeOverrides)
    (calls : List (ι × String)) :
    let scope := TypeScope.ofFiles files overrides
    let notices := (calls.foldl (Collector.call scope) {}).notices
    (∀ notice ∈ notices, notice.level = .warning)
      ∧ (notices.map Notice.message).Nodup
      ∧ ∀ text, text ∈ notices.map Notice.message
        ↔ ∃ name, text = "Could not resolve type: " ++ name
          ∧ scope.struct? name = none ∧ scope.Reaches (calls.map Prod.snd) name := by
  intro scope notices
  have haccounts := (accounts_empty (ι := ι) scope).foldl_call calls
  rw [List.nil_append] at haccounts
  have hnotices : notices = _ := haccounts.notices
  refine ⟨fun notice hnotice => ?_, ?_, fun text => ?_⟩
  · rw [hnotices] at hnotice
    obtain ⟨name, -, rfl⟩ := List.mem_map.1 hnotice
    rfl
  · rw [hnotices, List.map_map]
    exact haccounts.nodup.map message_unresolvedType_injective
  · rw [hnotices, List.map_map, List.mem_map]
    refine exists_congr fun name => ?_
    rw [haccounts.mem_unresolved_iff, and_comm]
    exact and_congr_left fun _ => eq_comm

end Collector

/-- What a route needs is collected and reported by calls on one empty map. -/
theorem Gathering.collect_eq_calls (scope : TypeScope) (g : Gathering) (types : List String) :
    let c := (types.map ((), ·)).foldl (Collector.call scope)
      { unresolved := g.unresolved, notices := g.notices }
    g.collect scope types = (c.models (), c.unresolved.drop g.unresolved.length)
      ∧ c.notices = g.notices ++ (g.collect scope types).2.map .unresolvedType := by
  intro c
  obtain ⟨hcollection, hnotices⟩ := Collector.foldl_call_on scope
    { unresolved := g.unresolved, notices := g.notices } () types
  have hcollect : g.collect scope types
      = (c.models (), c.unresolved.drop g.unresolved.length) := by
    have hmodels := congrArg Collection.models hcollection
    have hunresolved := congrArg Collection.unresolved hcollection
    change c.models () = _ at hmodels
    change c.unresolved = _ at hunresolved
    rw [hmodels, hunresolved]
    rfl
  exact ⟨hcollect, hcollect ▸ hnotices⟩

end ApiDocs
