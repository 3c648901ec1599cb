import ApiDocs.Proofs.Files.Below
import ApiDocs.Proofs.Files.Places
import Mathlib.Data.List.Nodup

/-!
# Well-named trees

In a file system no directory has two entries of one name, and no name has a slash in it. A tree of
that kind (`WellNamed`) stays one when something is put at a place of names (`WellNamed.put`), and
what stands in it is one again.
-/

set_option autoImplicit false

namespace ApiDocs.FileTree

open ApiDocs.Path (IsName)

/-- A tree as file systems have it: the entries of a directory have different names, and each of
these is one that a step of a path can have. -/
inductive WellNamed : FileTree → Prop
  | file (bytes : ByteArray) : WellNamed (file bytes)
  | directory {entries : List (String × FileTree)} (distinct : (entries.map Prod.fst).Nodup)
      (names : ∀ e ∈ entries, IsName e.1) (below : ∀ e ∈ entries, WellNamed e.2) :
      WellNamed (directory entries)

variable {tree node : FileTree} {place : List String} {name : String}
  {entries : List (String × FileTree)}

theorem mem_of_lookup (h : entries.lookup name = some node) : (name, node) ∈ entries := by
  obtain ⟨before, behind, rfl, -⟩ := List.lookup_eq_some_iff.1 h
  exact List.mem_append_right before List.mem_cons_self

/-- Under different names, each entry is found under its own. -/
theorem lookup_of_mem (hdistinct : (entries.map Prod.fst).Nodup) {e : String × FileTree}
    (h : e ∈ entries) : entries.lookup e.1 = some e.2 := by
  induction entries with
  | nil => exact absurd h List.not_mem_nil
  | cons first rest ih =>
    rw [List.map_cons, List.nodup_cons] at hdistinct
    rcases List.mem_cons.1 h with rfl | h
    · rw [List.lookup_cons, beq_self_eq_true]
    · have hother : e.1 ≠ first.1 := fun heq => hdistinct.1 (heq ▸ List.mem_map_of_mem h)
      rw [List.lookup_cons, beq_false_of_ne hother]
      exact ih hdistinct.2 h

theorem mem_of_mem_setEntry {e : String × FileTree} (h : e ∈ setEntry name node entries) :
    e = (name, node) ∨ e ∈ entries := by
  induction entries with
  | nil => exact Or.inl (List.mem_singleton.1 h)
  | cons first rest ih =>
    rw [setEntry] at h
    split at h
    · exact (List.mem_cons.1 h).imp id (List.mem_cons_of_mem first)
    · rcases List.mem_cons.1 h with rfl | h
      · exact Or.inr List.mem_cons_self
      · exact (ih h).imp id (List.mem_cons_of_mem first)

theorem map_fst_setEntry (name : String) (node : FileTree) (entries : List (String × FileTree)) :
    (setEntry name node entries).map Prod.fst
      = if name ∈ entries.map Prod.fst then entries.map Prod.fst
        else entries.map Prod.fst ++ [name] := by
  induction entries with
  | nil => rfl
  | cons first rest ih =>
    rw [setEntry]
    by_cases hfirst : first.1 = name
    · simp [hfirst]
    · rw [if_neg hfirst, List.map_cons, ih, List.map_cons]
      simp only [List.mem_cons, Ne.symm hfirst, false_or]
      split <;> rfl

namespace WellNamed

/-- What stands at a place of a well-named tree is well named. -/
theorem of_get? (h : tree.WellNamed) (hplace : tree.get? place = some node) : node.WellNamed := by
  induction place generalizing tree with
  | nil =>
    rw [get?, Option.some.injEq] at hplace
    rwa [← hplace]
  | cons first others ih =>
    cases h with
    | file bytes => simp [get?] at hplace
    | directory distinct names below =>
      rw [get?] at hplace
      split at hplace
      · next found hfound => exact ih (below _ (mem_of_lookup hfound)) hplace
      · simp at hplace

/-- The places of a well-named tree consist of names. -/
theorem isName_of_get? (h : tree.WellNamed) (hplace : tree.get? place = some node) :
    ∀ s ∈ place, IsName s := by
  induction place generalizing tree with
  | nil => simp
  | cons first others ih =>
    cases h with
    | file bytes => simp [get?] at hplace
    | directory distinct names below =>
      rw [get?] at hplace
      split at hplace
      · next found hfound =>
        have hentry := mem_of_lookup hfound
        exact List.forall_mem_cons.2 ⟨names _ hentry, ih (below _ hentry) hplace⟩
      · simp at hplace

theorem setEntry (h : (FileTree.directory entries).WellNamed) (hname : IsName name)
    (hnode : node.WellNamed) :
    (FileTree.directory (FileTree.setEntry name node entries)).WellNamed := by
  cases h with
  | directory distinct names below =>
    refine .directory ?_ ?_ ?_
    · rw [map_fst_setEntry]
      split
      · exact distinct
      · next hnew =>
        exact List.nodup_append.2 ⟨distinct, List.nodup_singleton name, fun a ha b hb heq =>
          hnew (List.mem_singleton.1 hb ▸ heq ▸ ha)⟩
    · intro e he
      rcases mem_of_mem_setEntry he with rfl | he
      · exact hname
      · exact names e he
    · intro e he
      rcases mem_of_mem_setEntry he with rfl | he
      · exact hnode
      · exact below e he

theorem empty : FileTree.empty.WellNamed :=
  .directory List.nodup_nil (by simp) (by simp)

/-- A well-named tree stays one when another is put at a place of names. -/
theorem put (h : tree.WellNamed) (hplace : ∀ s ∈ place, IsName s) (hnode : node.WellNamed) :
    (tree.put place node).WellNamed := by
  induction place generalizing tree with
  | nil => rwa [FileTree.put]
  | cons name rest ih =>
    obtain ⟨hname, hrest⟩ := List.forall_mem_cons.1 hplace
    cases tree with
    | file bytes => exact h
    | directory entries =>
      rw [FileTree.put]
      refine h.setEntry hname (ih ?_ hrest)
      cases hfound : entries.lookup name with
      | none => exact empty
      | some found =>
        have hget : (FileTree.directory entries).get? [name] = some found := by
          simp [get?, hfound]
        exact h.of_get? hget

end WellNamed

end ApiDocs.FileTree
