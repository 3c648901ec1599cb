import ApiDocs.Files.Tree
import Mathlib.Data.List.Basic

/-!
# What stands at a place of a tree

A place of a tree holds a file, a directory or nothing (`kindAt?`). Putting a tree at a place of a
directory makes the places below it those of the new tree and leaves the kind of every other place
as it was (`kindAt?_put`), so a single file or an empty directory changes one place only
(`kindAt?_put_leaf`).
-/

set_option autoImplicit false

namespace ApiDocs.FileTree

/-- What a tree is, without the entries of a directory. -/
inductive Kind
  | file (bytes : ByteArray)
  | directory

/-- The kind of a tree. -/
def kind : FileTree → Kind
  | file bytes => .file bytes
  | directory _ => .directory

/-- The kind of what stands at a place. -/
def kindAt? (tree : FileTree) (place : List String) : Option Kind :=
  (tree.get? place).map kind

/-- The bytes of the file at a place. -/
def fileAt? (tree : FileTree) (place : List String) : Option ByteArray :=
  match tree.kindAt? place with
  | some (.file bytes) => some bytes
  | _ => none

variable {tree node : FileTree} {place : List String} {name : String}
  {entries : List (String × FileTree)}

/-! ## Places below places -/

@[simp] theorem kindAt?_nil (tree : FileTree) : tree.kindAt? [] = some tree.kind := by
  cases tree <;> rfl

@[simp] theorem kindAt?_file_cons (bytes : ByteArray) (name : String) (rest : List String) :
    (file bytes).kindAt? (name :: rest) = none := rfl

theorem kindAt?_directory_cons (entries : List (String × FileTree)) (name : String)
    (rest : List String) :
    (directory entries).kindAt? (name :: rest)
      = (entries.lookup name).bind fun node => node.kindAt? rest := by
  unfold kindAt?
  rw [get?]
  cases entries.lookup name <;> rfl

/-- Something stands at a place exactly if the place has a kind. -/
theorem isSome_get? (tree : FileTree) (place : List String) :
    (tree.get? place).isSome = (tree.kindAt? place).isSome := by
  rw [kindAt?, Option.isSome_map]

/-- A directory stands at a place exactly if the place has the kind of a directory. -/
theorem get?_eq_directory_iff :
    tree.kindAt? place = some .directory
      ↔ ∃ entries, tree.get? place = some (directory entries) := by
  unfold kindAt?
  cases tree.get? place with
  | none => simp
  | some found =>
    cases found with
    | file bytes => simp [kind]
    | directory entries => simp [kind]

theorem fileAt?_eq_some_iff {bytes : ByteArray} :
    tree.fileAt? place = some bytes ↔ tree.kindAt? place = some (.file bytes) := by
  unfold fileAt?
  cases tree.kindAt? place with
  | none => simp
  | some kind => cases kind <;> simp

/-- A file stands at a place exactly if the place has its bytes. -/
theorem get?_eq_file_iff {bytes : ByteArray} :
    tree.fileAt? place = some bytes ↔ tree.get? place = some (file bytes) := by
  rw [fileAt?_eq_some_iff, kindAt?, Option.map_eq_some_iff]
  constructor
  · rintro ⟨node, hnode, hkind⟩
    cases node with
    | file found =>
      cases hkind
      exact hnode
    | directory entries => cases hkind
  · exact fun h => ⟨_, h, rfl⟩

theorem fileAt?_directory_cons (entries : List (String × FileTree)) (name : String)
    (rest : List String) :
    (directory entries).fileAt? (name :: rest)
      = (entries.lookup name).bind fun node => node.fileAt? rest := by
  unfold fileAt?
  rw [kindAt?_directory_cons]
  cases entries.lookup name <;> rfl

theorem get?_append (h : tree.get? place = some node) (rest : List String) :
    tree.get? (place ++ rest) = node.get? rest := by
  induction place generalizing tree with
  | nil =>
    rw [get?, Option.some.injEq] at h
    rw [h, List.nil_append]
  | cons first others ih =>
    cases tree with
    | file bytes => simp [get?] at h
    | directory entries =>
      rw [get?] at h
      rw [List.cons_append, get?]
      cases hfirst : entries.lookup first with
      | none => simp [hfirst] at h
      | some below =>
        rw [hfirst] at h
        exact ih h

/-- The files below a place are those of what stands there. -/
theorem fileAt?_append (h : tree.get? place = some node) (rest : List String) :
    tree.fileAt? (place ++ rest) = node.fileAt? rest := by
  unfold fileAt? kindAt?
  rw [get?_append h]

theorem kindAt?_concat (h : tree.get? place = some (directory entries)) (name : String) :
    tree.kindAt? (place ++ [name]) = (entries.lookup name).map kind := by
  unfold kindAt?
  rw [get?_append h, get?]
  cases entries.lookup name <;> rfl

/-- Nothing stands below a place without a directory. -/
theorem kindAt?_append_cons (h : tree.kindAt? place ≠ some .directory) (name : String)
    (rest : List String) : tree.kindAt? (place ++ name :: rest) = none := by
  induction place generalizing tree with
  | nil =>
    cases tree with
    | file bytes => rfl
    | directory entries => exact absurd rfl h
  | cons first others ih =>
    cases tree with
    | file bytes => rfl
    | directory entries =>
      rw [kindAt?_directory_cons] at h
      rw [List.cons_append, kindAt?_directory_cons]
      cases hfirst : entries.lookup first with
      | none => rfl
      | some node =>
        rw [hfirst] at h
        exact ih h

/-! ## Putting something at a place -/

theorem lookup_setEntry (name : String) (node : FileTree) (entries : List (String × FileTree))
    (other : String) :
    (setEntry name node entries).lookup other
      = if other = name then some node else entries.lookup other := by
  induction entries with
  | nil =>
    rw [setEntry, List.lookup_cons]
    by_cases h : other = name
    · simp [h]
    · simp [beq_false_of_ne h, h]
  | cons e rest ih =>
    rw [setEntry]
    by_cases he : e.1 = name
    · rw [if_pos he, List.lookup_cons, List.lookup_cons, he]
      by_cases h : other = name
      · simp [h]
      · simp [beq_false_of_ne h, h]
    · rw [if_neg he, List.lookup_cons, List.lookup_cons, ih]
      by_cases h : other = e.1
      · simp [h, he]
      · simp [beq_false_of_ne h]

/-- A tree that is put into a directory stands at its place, and every place that does not lie below
keeps its kind. -/
theorem kindAt?_put (hdir : tree.kindAt? place = some .directory) (name : String)
    (node : FileTree) (other : List String) :
    (tree.put (place ++ [name]) node).kindAt? other
      = if place ++ [name] <+: other then node.kindAt? (other.drop (place.length + 1))
        else tree.kindAt? other := by
  induction place generalizing tree other with
  | nil =>
    cases tree with
    | file bytes => simp [kind] at hdir
    | directory entries =>
      rw [List.nil_append, put, put]
      cases other with
      | nil => simp [kind]
      | cons step rest =>
        rw [kindAt?_directory_cons, kindAt?_directory_cons, lookup_setEntry]
        by_cases hstep : step = name
        · simp [hstep]
        · simp [hstep, Ne.symm hstep]
  | cons first others ih =>
    cases tree with
    | file bytes => simp at hdir
    | directory entries =>
      rw [kindAt?_directory_cons] at hdir
      cases hfirst : entries.lookup first with
      | none => simp [hfirst] at hdir
      | some below =>
        rw [hfirst, Option.bind_some] at hdir
        rw [List.cons_append, put, hfirst, Option.getD_some]
        cases other with
        | nil => simp [kind]
        | cons step rest =>
          rw [kindAt?_directory_cons, kindAt?_directory_cons, lookup_setEntry]
          by_cases hstep : step = first
          · rw [if_pos hstep, hstep, hfirst, Option.bind_some, Option.bind_some, ih hdir rest]
            simp
          · simp [hstep, Ne.symm hstep]

/-- A file or an empty directory that is put where no directory stands changes its own place and no
other. -/
theorem kindAt?_put_leaf {kind : Kind} (hdir : tree.kindAt? place = some .directory)
    (hfree : tree.kindAt? (place ++ [name]) ≠ some .directory)
    (hleaf : ∀ rest, node.kindAt? rest = if rest = [] then some kind else none)
    (other : List String) :
    (tree.put (place ++ [name]) node).kindAt? other
      = if other = place ++ [name] then some kind else tree.kindAt? other := by
  rw [kindAt?_put hdir, hleaf]
  by_cases hbelow : place ++ [name] <+: other
  · rw [if_pos hbelow]
    obtain ⟨rest, rfl⟩ := hbelow
    cases rest with
    | nil => simp
    | cons step rest => rw [kindAt?_append_cons hfree]; simp
  · rw [if_neg hbelow, if_neg]
    rintro rfl
    exact hbelow (List.prefix_refl _)

theorem kindAt?_file (bytes : ByteArray) (place : List String) :
    (file bytes).kindAt? place = if place = [] then some (.file bytes) else none := by
  cases place <;> rfl

theorem kindAt?_empty (place : List String) :
    empty.kindAt? place = if place = [] then some .directory else none := by
  cases place <;> rfl

end ApiDocs.FileTree
