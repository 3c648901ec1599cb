import ApiDocs.Proofs.SortedMap
import ApiDocs.Types.Collection
import Mathlib.Data.List.Basic

/-!
# Visits of types

The collection of models is a depth-first visit: a known name and a name without a struct are passed
over, and a struct is entered before the names that its fields lead to are visited, which in turn
come before the other pending names. `Visits` is this recursion as a relation. Working off the list
of pending names performs it (`visits_take`), so it ends for all scopes, and it has one outcome
(`Visits.unique`).

While a visit runs there are structs that are entered but whose fields are not yet followed. What a
visit leaves behind is therefore said relative to what it finds: every entry that it adds has all
its references settled at the end (`Visits.entry_of_get?`), whatever the entries before it look
like.
-/

set_option autoImplicit false

namespace ApiDocs

namespace Collection

/-- The depth-first visit of pending names, from one collection to another. -/
inductive Visits (scope : TypeScope) : Collection → List String → Collection → Prop
  | nil (c : Collection) : Visits scope c [] c
  | known {c c' : Collection} {name : String} {rest : List String}
      (hknown : c.models.contains name = true) (hrest : Visits scope c rest c') :
      Visits scope c (name :: rest) c'
  | missing {c c' : Collection} {name : String} {rest : List String}
      (hnew : c.models.contains name = false) (hnone : scope.struct? name = none)
      (hrest : Visits scope (c.note name) rest c') : Visits scope c (name :: rest) c'
  | found {c c₁ c' : Collection} {name : String} {rest : List String} {s : GoSource.Struct}
      (hnew : c.models.contains name = false) (hs : scope.struct? name = some s)
      (hfields : Visits scope (c.add scope name s) (scope.references s) c₁)
      (hrest : Visits scope c₁ rest c') : Visits scope c (name :: rest) c'

variable {scope : TypeScope} {c c' : Collection}

/-! ## The recursion ends, in one way -/

theorem Visits.append {c₁ : Collection} {names others : List String} (h : Visits scope c names c₁)
    (hothers : Visits scope c₁ others c') : Visits scope c (names ++ others) c' := by
  induction h with
  | nil c => exact hothers
  | known hknown _ ih => exact .known hknown (ih hothers)
  | missing hnew hnone _ ih => exact .missing hnew hnone (ih hothers)
  | found hnew hs hfields _ _ ih => exact .found hnew hs hfields (ih hothers)

/-- A visit of two lists is a visit of the first and then one of the second. -/
theorem Visits.split {names others : List String} (h : Visits scope c (names ++ others) c') :
    ∃ c₁, Visits scope c names c₁ ∧ Visits scope c₁ others c' := by
  generalize hpending : names ++ others = pending at h
  induction h generalizing names with
  | nil c =>
    obtain ⟨rfl, rfl⟩ := List.append_eq_nil_iff.1 hpending
    exact ⟨c, .nil c, .nil c⟩
  | known hknown hrest ih =>
    rcases List.append_eq_cons_iff.1 hpending with ⟨rfl, rfl⟩ | ⟨names, rfl, rfl⟩
    · exact ⟨_, .nil _, .known hknown hrest⟩
    · obtain ⟨c₁, hnames, hothers⟩ := ih rfl
      exact ⟨c₁, .known hknown hnames, hothers⟩
  | missing hnew hnone hrest ih =>
    rcases List.append_eq_cons_iff.1 hpending with ⟨rfl, rfl⟩ | ⟨names, rfl, rfl⟩
    · exact ⟨_, .nil _, .missing hnew hnone hrest⟩
    · obtain ⟨c₁, hnames, hothers⟩ := ih rfl
      exact ⟨c₁, .missing hnew hnone hnames, hothers⟩
  | found hnew hs hfields hrest _ ih =>
    rcases List.append_eq_cons_iff.1 hpending with ⟨rfl, rfl⟩ | ⟨names, rfl, rfl⟩
    · exact ⟨_, .nil _, .found hnew hs hfields hrest⟩
    · obtain ⟨c₁, hnames, hothers⟩ := ih rfl
      exact ⟨c₁, .found hnew hs hfields hnames, hothers⟩

/-- Working off the pending names is a depth-first visit of them. -/
theorem visits_take (scope : TypeScope) (c : Collection) (pending : List String) :
    Visits scope c pending (c.take scope pending) := by
  induction c, pending using Collection.take.induct scope with
  | case1 c =>
    rw [take]
    exact .nil c
  | case2 c name rest hknown ih =>
    rw [take, dif_pos hknown]
    exact .known hknown ih
  | case3 c name rest hnew hnone ih =>
    rw [take, dif_neg hnew]
    split
    · exact .missing (Bool.eq_false_iff.2 hnew) hnone ih
    · next s hs => simp [hnone] at hs
  | case4 c name rest hnew s hs ih =>
    rw [take, dif_neg hnew]
    split
    · next hnone => simp [hnone] at hs
    · next s' hs' =>
      obtain rfl : s = s' := Option.some.inj (hs.symm.trans hs')
      -- The list of pending names holds the references in front of the rest: two visits in one.
      obtain ⟨c₁, hfields, hrest⟩ := Visits.split ih
      exact .found (Bool.eq_false_iff.2 hnew) hs hfields hrest

/-- A visit has one outcome. -/
theorem Visits.unique {c₁ c₂ : Collection} {names : List String} (h₁ : Visits scope c names c₁)
    (h₂ : Visits scope c names c₂) : c₁ = c₂ := by
  induction h₁ generalizing c₂ with
  | nil c =>
    cases h₂
    rfl
  | known hknown _ ih =>
    cases h₂ with
    | known _ hrest => exact ih hrest
    | missing hnew _ _ => simp [hknown] at hnew
    | found hnew _ _ _ => simp [hknown] at hnew
  | missing hnew hnone _ ih =>
    cases h₂ with
    | known hknown _ => simp [hnew] at hknown
    | missing _ _ hrest => exact ih hrest
    | found _ hs _ _ => simp [hnone] at hs
  | found hnew hs _ _ ihfields ihrest =>
    cases h₂ with
    | known hknown _ => simp [hnew] at hknown
    | missing _ hnone _ => simp [hs] at hnone
    | found _ hs' hfields' hrest' =>
      obtain rfl := Option.some.inj (hs.symm.trans hs')
      obtain rfl := ihfields hfields'
      exact ihrest hrest'

/-! ## What a visit keeps -/

/-- Everything that one collection holds is in the other one, too. -/
structure Extends (c c' : Collection) : Prop where
  models : ∀ k m, c.models.get? k = some m → c'.models.get? k = some m
  unresolved : c.unresolved <+: c'.unresolved

theorem Extends.trans {c₁ : Collection} (h : Extends c c₁) (h' : Extends c₁ c') : Extends c c' :=
  ⟨fun k m hm => h'.models k m (h.models k m hm), h.unresolved.trans h'.unresolved⟩

theorem extends_note (c : Collection) (name : String) : Extends c (c.note name) := by
  unfold note
  split
  · exact ⟨fun _ _ => id, List.prefix_refl _⟩
  · exact ⟨fun _ _ => id, List.prefix_append _ _⟩

theorem extends_add {name : String} (hnew : c.models.contains name = false) (scope : TypeScope)
    (s : GoSource.Struct) : Extends c (c.add scope name s) := by
  refine ⟨fun k m hm => ?_, List.prefix_refl _⟩
  have hk : k ≠ name := by
    rintro rfl
    have hknown := SortedMap.contains_iff.2 ⟨m, hm⟩
    simp [hnew] at hknown
  exact (SortedMap.get?_insert_of_ne _ _ hk).trans hm

theorem Visits.extends {names : List String} (h : Visits scope c names c') : Extends c c' := by
  induction h with
  | nil c => exact ⟨fun _ _ => id, List.prefix_refl _⟩
  | known _ _ ih => exact ih
  | missing _ _ _ ih => exact (extends_note _ _).trans ih
  | found hnew _ _ _ ihfields ihrest => exact ((extends_add hnew _ _).trans ihfields).trans ihrest

/-! ## What a visit achieves -/

/-- A name is settled when its model is there, or it is noted that it has no struct. -/
def Settled (c : Collection) (scope : TypeScope) (name : String) : Prop :=
  c.models.contains name = true ∨ scope.struct? name = none ∧ name ∈ c.unresolved

theorem Settled.mono {name : String} (h : c.Settled scope name) (hext : Extends c c') :
    c'.Settled scope name := by
  refine h.imp (fun hc => ?_) (And.imp_right fun hmem => hext.unresolved.subset hmem)
  obtain ⟨m, hm⟩ := SortedMap.contains_iff.1 hc
  exact SortedMap.contains_iff.2 ⟨m, hext.models _ m hm⟩

theorem settled_note {name : String} (hnone : scope.struct? name = none) :
    (c.note name).Settled scope name := by
  refine Or.inr ⟨hnone, ?_⟩
  unfold note
  split
  · assumption
  · exact List.mem_append_right _ (List.mem_singleton_self _)

theorem settled_add (c : Collection) (scope : TypeScope) (name : String) (s : GoSource.Struct) :
    (c.add scope name s).Settled scope name := by
  refine Or.inl ?_
  rw [contains_add, beq_self_eq_true, Bool.true_or]

/-- A visit settles the names that it is asked to visit. -/
theorem Visits.settled {names : List String} (h : Visits scope c names c') {name : String}
    (hname : name ∈ names) : c'.Settled scope name := by
  induction h with
  | nil c => exact absurd hname List.not_mem_nil
  | known hknown hrest ih =>
    rcases List.mem_cons.1 hname with rfl | hname
    · exact Settled.mono (Or.inl hknown) hrest.extends
    · exact ih hname
  | missing _ hnone hrest ih =>
    rcases List.mem_cons.1 hname with rfl | hname
    · exact (settled_note hnone).mono hrest.extends
    · exact ih hname
  | found _ _ hfields hrest _ ih =>
    rcases List.mem_cons.1 hname with rfl | hname
    · exact (settled_add _ _ _ _).mono (hfields.extends.trans hrest.extends)
    · exact ih hname

/-- What is right about a model in a collection: it is the model of the struct of its name, and all
references of this struct are settled. -/
def IsEntry (c : Collection) (scope : TypeScope) (name : String) (m : Model) : Prop :=
  ∃ s, scope.struct? name = some s ∧ m = .ofStruct scope name s
    ∧ ∀ n ∈ scope.references s, c.Settled scope n

theorem IsEntry.mono {name : String} {m : Model} (h : c.IsEntry scope name m)
    (hext : Extends c c') : c'.IsEntry scope name m := by
  obtain ⟨s, hs, hm, hrefs⟩ := h
  exact ⟨s, hs, hm, fun n hn => (hrefs n hn).mono hext⟩

/-- Every model that a visit leaves was there before, or all is right about it. -/
theorem Visits.entry_of_get? {names : List String} (h : Visits scope c names c') {k : String}
    {m : Model} (hm : c'.models.get? k = some m) :
    c.models.get? k = some m ∨ c'.IsEntry scope k m := by
  induction h with
  | nil c => exact Or.inl hm
  | known _ _ ih => exact ih hm
  | missing _ _ _ ih =>
    rw [← models_note]
    exact ih hm
  | @found c c₁ c' name rest s _ hs hfields hrest ihfields ihrest =>
    rcases ihrest hm with hm₁ | hentry
    · rcases ihfields hm₁ with hm₀ | hentry
      · by_cases hk : k = name
        · -- The model just entered: the visit of its fields has settled its references.
          subst hk
          have hself : (c.add scope k s).models.get? k = some (.ofStruct scope k s) :=
            SortedMap.get?_insert_self _ _ _
          obtain rfl : Model.ofStruct scope k s = m := Option.some.inj (hself.symm.trans hm₀)
          exact Or.inr ⟨s, hs, rfl, fun n hn => (hfields.settled hn).mono hrest.extends⟩
        · exact Or.inl ((SortedMap.get?_insert_of_ne _ _ hk).symm.trans hm₀)
      · exact Or.inr (hentry.mono hrest.extends)
    · exact Or.inr hentry

/-! ## Lists of type expressions -/

/-- The collection after some type expressions, one after the other. -/
def collectAll (c : Collection) (scope : TypeScope) (exprs : List String) : Collection :=
  exprs.foldl (fun c expr => c.collect scope expr) c

end Collection

/-- The names that type expressions stand for, array layers taken off. -/
def TypeScope.roots (scope : TypeScope) (exprs : List String) : List String :=
  exprs.filterMap fun expr => (scope.resolve expr).modelName?

namespace Collection

/-- Collecting for type expressions is one visit of the names that they stand for. -/
theorem visits_collectAll (scope : TypeScope) (c : Collection) (exprs : List String) :
    Visits scope c (scope.roots exprs) (c.collectAll scope exprs) := by
  induction exprs generalizing c with
  | nil => exact .nil c
  | cons expr exprs ih =>
    have hrest := ih (c.collect scope expr)
    unfold TypeScope.roots at hrest ⊢
    rw [List.filterMap_eq_flatMap_toList] at hrest ⊢
    exact (visits_take scope c _).append hrest

end Collection

end ApiDocs
