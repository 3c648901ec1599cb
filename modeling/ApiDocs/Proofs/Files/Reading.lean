import ApiDocs.Proofs.Files.Building
import ApiDocs.Proofs.Files.WellNamed

/-!
# Reading a file below a directory

The path to a file below a directory is looked up from the place of the directory (`follow_below`),
and its names lead to the file unless one of them is too long (`follow_file`). What is read from it
therefore depends on its bytes and on the path alone (`readText_below`).
-/

set_option autoImplicit false

namespace ApiDocs.FileSystem

open ApiDocs.Path (IsName)
open FileTree (WellNamed)

variable {fs : FileSystem} {tree : FileTree} {dir : Path} {base place names : List String}

/-- Whether the path to a place below a directory is not too long, and no name in it is. -/
def isReachable (dir : Path) (place : List String) : Bool :=
  (pathIssue? (dir.below place)).isNone
    && place.all fun name => decide (name.utf8ByteSize ≤ maxNameSize)

/-- A path that ends in a name does not end in a slash. -/
theorem lookupSteps_below (hnames : ∀ s ∈ names, IsName s) (hne : names ≠ []) (dir : Path) :
    lookupSteps (dir.below names) = steps (dir.below names) := by
  obtain ⟨before, name, rfl⟩ := (List.eq_nil_or_concat names).resolve_left hne
  rw [List.concat_eq_append] at hnames ⊢
  have hname := hnames name (by simp)
  have hlist : name.toList ≠ [] := fun h => hname.ne_empty (String.toList_eq_nil_iff.1 h)
  unfold lookupSteps
  rw [if_neg]
  rw [Path.below_concat, Path.toList_join hname.isAbsolute, List.getLast?_append_of_ne_nil _ hlist]
  exact fun hslash => hname.slash (List.mem_of_getLast? hslash)

/-- Names lead to a file unless one of them is too long. -/
theorem follow_file (hbase : fs.tree.get? base = some tree) (hnamed : tree.WellNamed)
    (hfile : (tree.fileAt? place).isSome = true) :
    fs.follow base place
      = if place.all fun name => decide (name.utf8ByteSize ≤ maxNameSize) then .ok (base ++ place)
        else .error .nameTooLong := by
  induction place generalizing base tree with
  | nil => simp [follow]
  | cons name rest ih =>
    cases hnamed with
    | file bytes => simp [FileTree.fileAt?] at hfile
    | @directory entries distinct hnames below =>
      rw [FileTree.fileAt?_directory_cons] at hfile
      cases hfound : entries.lookup name with
      | none => simp [hfound] at hfile
      | some node =>
        rw [hfound] at hfile
        have hentry := FileTree.mem_of_lookup hfound
        obtain ⟨hempty, hdot, hdots⟩ := isFixedStep_eq_false_iff.1 (hnames _ hentry).proper
        rw [follow, if_neg hempty, hbase]
        simp only [if_neg hdot, if_neg hdots, hfound, Option.isSome_some, if_true]
        by_cases hsize : name.utf8ByteSize > maxNameSize
        · rw [if_pos hsize, if_neg]
          simp [hsize]
        · have hnode : fs.tree.get? (base ++ [name]) = some node := by
            rw [FileTree.get?_append hbase, FileTree.get?, hfound]
            rfl
          rw [if_neg hsize, ih hnode (below _ hentry) hfile, List.append_assoc]
          simp [Nat.not_lt.1 hsize]

/-- Below a directory, a path of names is looked up from the place of the directory. -/
theorem follow_below (h : LeadsTo fs dir base) (hnames : ∀ s ∈ names, IsName s) (hne : names ≠ []) :
    fs.follow (fs.start (dir.below names)) (lookupSteps (dir.below names))
      = fs.follow base names := by
  rw [lookupSteps_below hnames hne]
  exact placeOf_below hnames h

/-- What is read from a file below a directory depends on its bytes and on the path to it. -/
theorem readText_below {bytes : ByteArray} (hfind : fs.find? dir = some tree)
    (hnamed : tree.WellNamed) (hne : place ≠ []) (hfile : tree.fileAt? place = some bytes) :
    (fs.readText (dir.below place)).toOption
      = if isReachable dir place then String.fromUTF8? bytes else none := by
  obtain ⟨entries, rfl⟩ : ∃ entries, tree = .directory entries := by
    cases tree with
    | file other =>
      obtain ⟨name, rest, rfl⟩ := List.exists_cons_of_ne_nil hne
      simp [FileTree.fileAt?] at hfile
    | directory entries => exact ⟨entries, rfl⟩
  obtain ⟨base, hleads, hbase⟩ := LeadsTo.of_find? hfind
  have hnames := hnamed.isName_of_get? (FileTree.get?_eq_file_iff.1 hfile)
  have hget : fs.tree.get? (base ++ place) = some (.file bytes) := by
    rw [FileTree.get?_append hbase]
    exact FileTree.get?_eq_file_iff.1 hfile
  unfold readText locate isReachable
  cases pathIssue? (dir.below place) with
  | some issue => rfl
  | none =>
    simp only [follow_below hleads hnames hne, follow_file hbase hnamed (by rw [hfile]; rfl),
      Option.isNone_none, Bool.true_and]
    by_cases hsize : (place.all fun name => decide (name.utf8ByteSize ≤ maxNameSize)) = true
    · simp only [if_pos hsize, hget]
      cases String.fromUTF8? bytes <;> rfl
    · simp only [if_neg hsize]
      rfl

end ApiDocs.FileSystem
