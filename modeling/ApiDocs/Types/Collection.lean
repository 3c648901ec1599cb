import ApiDocs.Types.Scope

/-!
# Collection of models

The models that a type needs: its own, and those of every type that its fields lead to. Names are
taken up in the order in which they are met, each at most once; a name without a struct is noted
once and for all.
-/

set_option autoImplicit false

namespace ApiDocs

/-- The models collected so far, and the names that were found to have no struct, in the order of
their discovery. -/
structure Collection where
  models : SortedMap String Model := .empty
  unresolved : List String := []

namespace Collection

/-- The collection with one more name noted as unresolved, unless it is noted already. -/
def note (c : Collection) (name : String) : Collection :=
  if name ∈ c.unresolved then c else { c with unresolved := c.unresolved ++ [name] }

/-- Noting a name adds no model. -/
@[simp]
theorem models_note (c : Collection) (name : String) : (c.note name).models = c.models := by
  unfold note; split <;> rfl

/-- The collection with the model of a struct. -/
def add (c : Collection) (scope : TypeScope) (name : String) (s : GoSource.Struct) : Collection :=
  { c with models := c.models.insert name (.ofStruct scope name s) }

/-- A model that is added is there. -/
theorem contains_add (c : Collection) (scope : TypeScope) (name : String) (s : GoSource.Struct)
    (n : String) : (c.add scope name s).models.contains n = (n == name || c.models.contains n) :=
  SortedMap.contains_insert _ _ _ _

end Collection

/-- All names that fields of structs lead to. -/
def TypeScope.allReferences (scope : TypeScope) : List String :=
  scope.structs.flatMap scope.references

/-- How many names can still be taken up: those that fields lead to, and the pending ones that no
field leads to, as far as they have no model. -/
def Collection.remaining (c : Collection) (scope : TypeScope) (pending : List String) : Nat :=
  scope.allReferences.countP (fun n => !c.models.contains n)
    + pending.countP fun n => !c.models.contains n && !scope.allReferences.contains n

/-- A stricter condition that fails at a member holds at fewer members. -/
theorem countP_lt_of_mem {α : Type} {p q : α → Bool} {l : List α} {a : α} (ha : a ∈ l)
    (hp : p a = false) (hq : q a = true) (hpq : ∀ x, p x = true → q x = true) :
    l.countP p < l.countP q := by
  induction l with
  | nil => simp at ha
  | cons b l ih =>
    have mono : l.countP p ≤ l.countP q := List.countP_mono_left fun x _ => hpq x
    rcases List.mem_cons.1 ha with rfl | ha
    · rw [List.countP_cons, List.countP_cons, hp, hq]; simp; omega
    · have := ih ha
      rw [List.countP_cons, List.countP_cons]
      have : (if p b = true then 1 else 0) ≤ (if q b = true then 1 else 0 : Nat) := by
        split
        · next h => simp [hpq b h]
        · exact Nat.zero_le _
      omega

/-- The struct of a name is one of the scope. -/
theorem TypeScope.struct?_mem {scope : TypeScope} {name : String} {s : GoSource.Struct}
    (h : scope.struct? name = some s) : s ∈ scope.structs :=
  List.mem_of_find?_eq_some h

/-- Taking up a name leaves fewer names. -/
theorem Collection.remaining_add_lt {c : Collection} {scope : TypeScope} {name : String}
    {rest : List String} {s : GoSource.Struct} (hnew : c.models.contains name = false)
    (hs : scope.struct? name = some s) :
    (c.add scope name s).remaining scope (scope.references s ++ rest)
      < c.remaining scope (name :: rest) := by
  have refs : (scope.references s).countP (fun n =>
      !(c.add scope name s).models.contains n && !scope.allReferences.contains n) = 0 := by
    rw [List.countP_eq_zero]
    intro n hn
    have : n ∈ scope.allReferences :=
      List.mem_flatMap.2 ⟨s, TypeScope.struct?_mem hs, hn⟩
    simp [this]
  have fewer : ∀ n, (!(c.add scope name s).models.contains n) = true →
      (!c.models.contains n) = true := by
    intro n; rw [contains_add]; cases c.models.contains n <;> simp
  have fewer' : ∀ n, (!(c.add scope name s).models.contains n
      && !scope.allReferences.contains n) = true →
      (!c.models.contains n && !scope.allReferences.contains n) = true := by
    intro n h
    rw [Bool.and_eq_true] at h ⊢
    exact ⟨fewer n h.1, h.2⟩
  have gone : (!(c.add scope name s).models.contains name) = false := by simp [contains_add]
  have here : (!c.models.contains name) = true := by simp [hnew]
  unfold remaining
  rw [List.countP_append, refs, List.countP_cons]
  have all := List.countP_mono_left (l := scope.allReferences) fun x _ => fewer x
  have others := List.countP_mono_left (l := rest) fun x _ => fewer' x
  by_cases hmem : name ∈ scope.allReferences
  · have := countP_lt_of_mem hmem gone here fewer
    omega
  · have : (!c.models.contains name && !scope.allReferences.contains name) = true := by
      simp [hnew, hmem]
    rw [this]
    simp only [if_true]
    omega

/-- Passing over a name leaves no more names. -/
theorem Collection.remaining_tail_le (c : Collection) (scope : TypeScope) (name : String)
    (rest : List String) : c.remaining scope rest ≤ c.remaining scope (name :: rest) := by
  unfold remaining
  rw [List.countP_cons]
  omega

/-- Noting a name changes nothing in what remains. -/
theorem Collection.remaining_note (c : Collection) (scope : TypeScope) (name : String)
    (pending : List String) :
    (c.note name).remaining scope pending = c.remaining scope pending := by
  unfold remaining; rw [models_note]

/-- The collection after taking up the pending names and all that they lead to. The first pending
name goes first, and the names it leads to go before the other pending ones. -/
def Collection.take (c : Collection) (scope : TypeScope) (pending : List String) : Collection :=
  match pending with
  | [] => c
  | name :: rest =>
    if _hnew : c.models.contains name = true then c.take scope rest
    else
      match _hs : scope.struct? name with
      | none => (c.note name).take scope rest
      | some s => (c.add scope name s).take scope (scope.references s ++ rest)
termination_by (c.remaining scope pending, pending.length)
decreasing_by
  · have := c.remaining_tail_le scope name rest
    rcases Nat.lt_or_eq_of_le this with h | h
    · exact Prod.Lex.left _ _ h
    · rw [h]; exact Prod.Lex.right _ (by simp)
  · have := c.remaining_tail_le scope name rest
    rw [← c.remaining_note scope name rest] at this
    rcases Nat.lt_or_eq_of_le this with h | h
    · exact Prod.Lex.left _ _ h
    · rw [h]; exact Prod.Lex.right _ (by simp)
  · exact Prod.Lex.left _ _
      (Collection.remaining_add_lt (Bool.eq_false_iff.2 _hnew) _hs)

/-- The collection after one more type expression. -/
def Collection.collect (c : Collection) (scope : TypeScope) (expr : String) : Collection :=
  c.take scope (scope.resolve expr).modelName?.toList

end ApiDocs
