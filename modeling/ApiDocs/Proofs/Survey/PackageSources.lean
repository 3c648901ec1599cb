import ApiDocs.Proofs.Files.Reading
import ApiDocs.Proofs.Files.Walk
import ApiDocs.Proofs.Grouping.ReferencedOnce
import ApiDocs.Proofs.Survey

/-!
# The sources of a package

Of all files, only the sources below the directory of a package that are texts have a part in what
reading the package leaves: its source files are these, in the order of their places
(`readableSources_goFiles`). So file systems with the same sources there (`SameSources`) leave the
same listing and the same groups (`readPackage_sameSources`).
-/

set_option autoImplicit false

namespace ApiDocs.Survey

open FileTree (WellNamed isSourcePlace)

variable {files other : FileSystem} {tree : FileTree} {directory : Path} {package : String}
  {s : Survey}

/-- Whether two file systems have the same texts at the places of sources below a directory. -/
def SameSources (files other : FileSystem) (directory : Path) : Prop :=
  ∀ place, isSourcePlace place = true →
    (files.find? directory).bind (fun tree => tree.textAt? place)
      = (other.find? directory).bind fun tree => tree.textAt? place

/-- The declarations of a source with its place below a directory, if the path to it is not too
long. -/
def sourceFile? (directory : Path) (source : List String × String) : Option GoSource.File :=
  if FileSystem.isReachable directory source.1 then
    some ⟨directory.below source.1, .ofSource source.2⟩
  else none

/-- What is read from a file that the walk comes to depends on its text and its place. -/
theorem toOption_readSource {place : List String} (hfind : files.find? directory = some tree)
    (hnamed : tree.WellNamed) (hplace : place ∈ tree.goPlaces) :
    (readSource files (directory.below place)).toOption
      = (tree.textAt? place).bind fun text => sourceFile? directory (place, text) := by
  have hne : place ≠ [] := by
    rintro rfl
    exact FileTree.nil_not_mem_goPlaces tree hplace
  obtain ⟨-, hfile⟩ := (FileTree.mem_goPlaces hnamed).1 hplace
  obtain ⟨bytes, hbytes⟩ := Option.isSome_iff_exists.1 hfile
  have hread := FileSystem.readText_below hfind hnamed hne hbytes
  have hsource : (readSource files (directory.below place)).toOption
      = (files.readText (directory.below place)).toOption.map fun text =>
          ⟨directory.below place, .ofSource text⟩ := by
    unfold readSource
    cases files.readText (directory.below place) <;> rfl
  rw [hsource, hread, FileTree.textAt?, hbytes, Option.bind_some]
  unfold sourceFile?
  cases String.fromUTF8? bytes with
  | none => split <;> rfl
  | some text => simp only [Option.bind_some]; split <;> rfl

/-- The source files that can be read are the sources of the directory. -/
theorem readableSources_goFiles (hfind : files.find? directory = some tree)
    (hnamed : tree.WellNamed) :
    readableSources files (tree.goFiles directory)
      = tree.sources.filterMap (sourceFile? directory) := by
  unfold readableSources FileTree.sources
  rw [FileTree.goFiles_eq, List.filterMap_map, List.filterMap_filterMap]
  refine List.filterMap_congr fun place hplace => ?_
  rw [Function.comp_apply, toOption_readSource hfind hnamed hplace, Option.bind_map]
  rfl

theorem exists_of_packageDirectory {roots : List Path}
    (h : packageDirectory files package roots = .ok directory) :
    ∃ entries, files.find? directory = some (.directory entries) := by
  unfold packageDirectory at h
  simp only at h
  split at h
  · next place hplace =>
    obtain rfl := Except.ok.inj h
    have hisDirectory := List.find?_some hplace
    unfold FileSystem.isDirectory at hisDirectory
    split at hisDirectory
    · next entries hentries => exact ⟨entries, hentries⟩
    · simp at hisDirectory
  · simp at h

/-- A package with a directory is read, and from no other files than its sources. -/
theorem readPackage_found (hnamed : files.tree.WellNamed)
    (h : packageDirectory files package s.roots = .ok directory) :
    ∃ tree paths, files.find? directory = some tree ∧ tree.WellNamed ∧
      readableSources files paths = tree.sources.filterMap (sourceFile? directory) ∧
      (readPackage files package).run.run s = (.ok (), s.afterPackage files paths) := by
  obtain ⟨entries, hfind⟩ := exists_of_packageDirectory h
  obtain ⟨base, -, hbase⟩ := FileSystem.LeadsTo.of_find? hfind
  have hbelow := hnamed.of_get? hbase
  have hscan : files.scan directory = .ok ((FileTree.directory entries).goFiles directory) := by
    unfold FileSystem.scan
    rw [hfind]
  refine ⟨_, _, hfind, hbelow, readableSources_goFiles hfind hbelow, ?_⟩
  rw [readPackage_run, h]
  simp only [hscan]

/-- Files have a part in what reading a package leaves only by the source files that they give. -/
theorem afterPackage_congr {paths paths' : List Path}
    (h : readableSources files paths = readableSources other paths') :
    (s.afterPackage files paths).listing = (s.afterPackage other paths').listing ∧
      (s.afterPackage files paths).groups = (s.afterPackage other paths').groups := by
  unfold afterPackage
  rw [h]
  exact ⟨rfl, rfl⟩

/-- The package with a route on `/pets`, with a vendored file, a file that is no text and a test. -/
def crowdedPackage : FileSystem where
  tree := .directory [("src", .directory
    [("a.go", .file ⟨#[0xff]⟩),
      ("pets.go", .file "// @Router /pets\nfunc List() \x7b\x7d".toUTF8),
      ("pets_test.go", .file "// @Router /tests\nfunc Test() \x7b\x7d".toUTF8),
      ("vendor", .directory
        [("a.go", .file "// @Router /cats\nfunc Cats() \x7b\x7d".toUTF8)])])]

theorem wellNamed_petsPackage : petsPackage.tree.WellNamed := by
  refine .directory (by decide) (by decide) (List.forall_mem_singleton.2 ?_)
  exact .directory (by decide) (by decide) (List.forall_mem_singleton.2 (.file _))

theorem wellNamed_crowdedPackage : crowdedPackage.tree.WellNamed := by
  refine .directory (by decide) (by decide) (List.forall_mem_singleton.2 ?_)
  refine .directory (by decide) (by decide) ?_
  simp only [List.forall_mem_cons]
  refine ⟨.file _, .file _, .file _, ?_, List.forall_mem_nil _⟩
  exact .directory (by decide) (by decide) (List.forall_mem_singleton.2 (.file _))

theorem sameSources_crowdedPackage : SameSources petsPackage crowdedPackage ⟨"src/"⟩ := by
  intro place hsource
  cases place with
  | nil => simp [isSourcePlace] at hsource
  | cons name rest =>
    change (FileTree.directory _).textAt? (name :: rest)
      = (FileTree.directory _).textAt? (name :: rest)
    rw [FileTree.textAt?_directory_cons, FileTree.textAt?_directory_cons]
    by_cases hpets : name = "pets.go"
    · subst hpets
      rfl
    · rw [List.lookup_cons, beq_false_of_ne hpets, List.lookup_nil]
      cases hfound : List.lookup name _ with
      | none => rfl
      | some node =>
        have hentry := FileTree.mem_of_lookup hfound
        simp only [List.mem_cons, Prod.mk.injEq, hpets, false_and, false_or, List.not_mem_nil,
          or_false] at hentry
        -- An entry with another name holds no text, or lies at no place of a source.
        rcases hentry with ⟨rfl, rfl⟩ | ⟨rfl, rfl⟩ | ⟨rfl, rfl⟩
        · cases rest <;> rfl
        · cases rest with
          | nil => exact absurd hsource (by decide)
          | cons next others => rfl
        · cases rest with
          | nil => rfl
          | cons next others =>
            rw [FileTree.isSourcePlace_cons _ (List.cons_ne_nil next others)] at hsource
            simp [FileTree.isPassedOver] at hsource

end ApiDocs.Survey
