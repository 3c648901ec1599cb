import ApiDocs.Proofs.Files.Below

/-!
# Components of paths

A path is read as its components: the root or the dot that it starts with, and then the entries and
the dots that lead upwards (`components`). Paths that differ only in the slashes and single dots
between their names have the same components. Joining a relative path puts its components behind
those of the path before it (`components_join`), and names that are joined one after the other are
components of their own (`components_below`).
-/

set_option autoImplicit false

namespace ApiDocs.Path

/-- A component of a path. -/
inductive Component
  /-- The top of the file system. -/
  | root
  /-- The directory where a relative path starts, written as a dot. -/
  | current
  /-- The directory above. -/
  | parent
  /-- The entry of a name. -/
  | entry (name : String)
deriving DecidableEq, Repr

/-- The component that a name in a path stands for. A dot adds nothing to the names before it. -/
def component? (name : String) : Option Component :=
  if name = "." then none else if name = ".." then some .parent else some (.entry name)

/-- The components of a path. Only a dot that a relative path starts with is one of them. -/
def components (p : Path) : List Component :=
  (if p.isAbsolute then [.root] else if p.names.head? = some "." then [.current] else [])
    ++ p.names.filterMap component?

theorem Component.entry_injective : Function.Injective Component.entry := by
  intro a b hsame
  cases hsame
  rfl

theorem components_of_isAbsolute {p : Path} (h : p.isAbsolute = true) :
    p.components = [.root] ++ p.names.filterMap component? := by
  rw [components, if_pos h]

/-- Joining a relative path puts its components behind the others, unless there are no names before
it and it starts with a dot. -/
theorem components_join {p q : Path} (hq : q.isAbsolute = false)
    (hdot : p.names ≠ [] ∨ q.names.head? ≠ some ".") :
    (p.join q).components = p.components ++ q.names.filterMap component? := by
  have hhead : (p.names ++ q.names).head? = some "." ↔ p.names.head? = some "." := by
    cases hnames : p.names with
    | nil => simpa using hdot.resolve_left (not_not_intro hnames)
    | cons name rest => simp
  unfold components
  rw [names_join hq, isAbsolute_join hq, List.filterMap_append]
  simp only [hhead, List.append_assoc]

theorem component?_name {name : String} (h : IsName name) :
    component? name = some (.entry name) := by
  obtain ⟨-, hdot, hdots⟩ := FileSystem.isFixedStep_eq_false_iff.1 h.proper
  rw [component?, if_neg hdot, if_neg hdots]

theorem filterMap_component? {names : List String} (h : ∀ s ∈ names, IsName s) :
    names.filterMap component? = names.map .entry := by
  rw [← List.filterMap_eq_map]
  exact List.filterMap_congr fun s hs => component?_name (h s hs)

theorem components_join_name {name : String} (h : IsName name) (p : Path) :
    (p.join ⟨name⟩).components = p.components ++ [.entry name] := by
  have hnames : names ⟨name⟩ = [name] := names_of_not_mem h.ne_empty h.slash
  have hdot : (names ⟨name⟩).head? ≠ some "." := by
    rw [hnames, List.head?_cons, ne_eq, Option.some.injEq]
    exact (FileSystem.isFixedStep_eq_false_iff.1 h.proper).2.1
  rw [components_join h.isAbsolute (Or.inr hdot), hnames, filterMap_component? (by simpa using h)]
  rfl

/-- Below a path, each name is a component of its own. -/
theorem components_below {names : List String} (h : ∀ s ∈ names, IsName s) (p : Path) :
    (p.below names).components = p.components ++ names.map .entry := by
  induction names generalizing p with
  | nil => simp [below]
  | cons name rest ih =>
    rw [below_cons, ih fun s hs => h s (List.mem_cons_of_mem name hs),
      components_join_name (h name List.mem_cons_self), List.append_assoc]
    rfl

end ApiDocs.Path
