import ApiDocs.Files.GoFiles
import ApiDocs.Proofs.Files.WellNamed

/-!
# The walk through a directory

The walk through a directory comes to the places of its Go files (`goFiles_eq`). In a well-named
tree these are the files at the places of sources and no others (`mem_goPlaces`), in the
lexicographic order of the places (`pairwise_goPlaces`). That order looks at the places alone, so
trees with the same texts at the places of sources have the same list of sources
(`sources_congr`), whatever else is in them.
-/

set_option autoImplicit false

namespace ApiDocs.FileTree

variable {tree other : FileTree} {place rest : List String} {name : String}
  {entries : List (String × FileTree)}

/-! ## The places that the walk comes to -/

mutual

/-- The places of the Go files below a directory, in the order of the walk. -/
def goPlaces : FileTree → List (List String)
  | file _ => []
  | directory entries =>
    ((goPlacesOf entries).mergeSort fun a b => decide (a.1 ≤ b.1)).flatMap Prod.snd

/-- The places of the Go files that each entry of a directory stands for. -/
def goPlacesOf : List (String × FileTree) → List (String × List (List String))
  | [] => []
  | (name, file _) :: rest =>
    (name, if isGoSource name then [[name]] else []) :: goPlacesOf rest
  | (name, directory entries) :: rest =>
    (name, if isPassedOver name then []
      else (directory entries).goPlaces.map (name :: ·)) :: goPlacesOf rest

end

/-- Groups that are filled in another way keep their order. -/
theorem mergeSort_map_fst {α β : Type} (f : String × α → β) (groups : List (String × α)) :
    ((groups.map fun g => (g.1, f g)).mergeSort fun a b => decide (a.1 ≤ b.1))
      = (groups.mergeSort fun a b => decide (a.1 ≤ b.1)).map fun g => (g.1, f g) := by
  refine (List.map_mergeSort ?_).symm
  exact fun _ _ _ _ => rfl

mutual

/-- The walk goes by the places alone. -/
theorem goFiles_eq (base : Path) (tree : FileTree) :
    tree.goFiles base = tree.goPlaces.map base.below := by
  cases tree with
  | file bytes => rfl
  | directory entries =>
    rw [goFiles, goPlaces, goFilesOf_eq, inNameOrder, mergeSort_map_fst, List.flatMap_map,
      List.map_flatMap]

theorem goFilesOf_eq (base : Path) (entries : List (String × FileTree)) :
    goFilesOf base entries = (goPlacesOf entries).map fun g => (g.1, g.2.map base.below) := by
  cases entries with
  | nil => rfl
  | cons e rest =>
    obtain ⟨name, node⟩ := e
    cases node with
    | file bytes =>
      rw [goFilesOf, goPlacesOf, List.map_cons, goFilesOf_eq]
      split <;> rfl
    | directory entries =>
      rw [goFilesOf, goPlacesOf, List.map_cons, goFilesOf_eq, goFiles_eq]
      split
      · rfl
      · rw [List.map_map]
        rfl

end

/-- The places of the Go files that an entry stands for. -/
def entryPlaces : String × FileTree → List (List String)
  | (name, file _) => if isGoSource name then [[name]] else []
  | (name, directory entries) =>
    if isPassedOver name then [] else (directory entries).goPlaces.map (name :: ·)

theorem mem_entryPlaces_file {bytes : ByteArray} :
    place ∈ entryPlaces (name, file bytes) ↔ isGoSource name = true ∧ place = [name] := by
  rw [entryPlaces]
  split
  · next hsource => simp [hsource]
  · next hsource => simp [hsource]

theorem mem_entryPlaces_directory :
    place ∈ entryPlaces (name, directory entries)
      ↔ isPassedOver name = false ∧ ∃ rest ∈ (directory entries).goPlaces, place = name :: rest := by
  rw [entryPlaces]
  split
  · next hpassed => simp [hpassed]
  · next hpassed => simp [hpassed, eq_comm]

theorem goPlaces_directory (entries : List (String × FileTree)) :
    (directory entries).goPlaces
      = (entries.mergeSort fun a b => decide (a.1 ≤ b.1)).flatMap entryPlaces := by
  have hentries : goPlacesOf entries = entries.map fun e => (e.1, entryPlaces e) := by
    induction entries with
    | nil => rfl
    | cons e rest ih =>
      obtain ⟨name, node⟩ := e
      cases node <;> rw [goPlacesOf, ih] <;> rfl
  rw [goPlaces, hentries, mergeSort_map_fst, List.flatMap_map]

/-- Whether a place is that of a source: its name is that of a Go file that is no test, and no
directory on the way to it is passed over. -/
def isSourcePlace (place : List String) : Bool :=
  place.getLast?.any isGoSource && place.dropLast.all fun directory => !isPassedOver directory

theorem isSourcePlace_singleton (name : String) : isSourcePlace [name] = isGoSource name := by
  simp [isSourcePlace]

theorem isSourcePlace_cons (name : String) (hrest : rest ≠ []) :
    isSourcePlace (name :: rest) = (!isPassedOver name && isSourcePlace rest) := by
  obtain ⟨next, others, rfl⟩ := List.exists_cons_of_ne_nil hrest
  simp only [isSourcePlace, List.getLast?_cons_cons, List.dropLast_cons_cons, List.all_cons]
  exact Bool.and_left_comm _ _ _

/-- The first step to a place is the name of the entry that it lies in. -/
theorem exists_of_mem_entryPlaces {e : String × FileTree} (h : place ∈ entryPlaces e) :
    ∃ rest, place = e.1 :: rest := by
  obtain ⟨name, node⟩ := e
  cases node with
  | file bytes => exact ⟨[], (mem_entryPlaces_file.1 h).2⟩
  | directory entries =>
    obtain ⟨-, rest, -, hplace⟩ := mem_entryPlaces_directory.1 h
    exact ⟨rest, hplace⟩

theorem nil_not_mem_goPlaces (tree : FileTree) : [] ∉ tree.goPlaces := by
  cases tree with
  | file bytes => exact List.not_mem_nil
  | directory entries =>
    rw [goPlaces_directory, List.mem_flatMap]
    rintro ⟨e, -, hplace⟩
    obtain ⟨rest, hrest⟩ := exists_of_mem_entryPlaces hplace
    cases hrest

/-- An entry stands for the files that lie in it at the places of sources, if this is so below it. -/
theorem mem_entryPlaces {e : String × FileTree}
    (hbelow : ∀ rest, rest ∈ e.2.goPlaces
      ↔ isSourcePlace rest = true ∧ (e.2.fileAt? rest).isSome = true) :
    name :: rest ∈ entryPlaces e
      ↔ e.1 = name ∧ isSourcePlace (name :: rest) = true ∧ (e.2.fileAt? rest).isSome = true := by
  obtain ⟨first, node⟩ := e
  cases node with
  | file bytes =>
    rw [mem_entryPlaces_file, List.cons.injEq]
    constructor
    · rintro ⟨hsource, rfl, rfl⟩
      exact ⟨rfl, (isSourcePlace_singleton name).trans hsource, rfl⟩
    · rintro ⟨rfl, hsource, hfile⟩
      cases rest with
      | nil => exact ⟨(isSourcePlace_singleton first).symm.trans hsource, rfl, rfl⟩
      | cons next others => simp [fileAt?] at hfile
  | directory entries =>
    rw [mem_entryPlaces_directory]
    constructor
    · rintro ⟨hpassed, place, hplace, hcons⟩
      obtain ⟨rfl, rfl⟩ := List.cons.inj hcons
      have hne : rest ≠ [] := fun hnil => nil_not_mem_goPlaces _ (hnil ▸ hplace)
      obtain ⟨hsource, hfile⟩ := (hbelow rest).1 hplace
      exact ⟨rfl, by rw [isSourcePlace_cons _ hne, hpassed, hsource]; rfl, hfile⟩
    · rintro ⟨rfl, hsource, hfile⟩
      have hne : rest ≠ [] := by
        rintro rfl
        simp [fileAt?, kind] at hfile
      rw [isSourcePlace_cons _ hne, Bool.and_eq_true, Bool.not_eq_true'] at hsource
      exact ⟨hsource.1, rest, (hbelow rest).2 ⟨hsource.2, hfile⟩, rfl⟩

/-- The walk comes to the files at the places of sources and to nothing else. -/
theorem mem_goPlaces (h : tree.WellNamed) :
    place ∈ tree.goPlaces
      ↔ isSourcePlace place = true ∧ (tree.fileAt? place).isSome = true := by
  induction h generalizing place with
  | file bytes =>
    refine iff_of_false List.not_mem_nil ?_
    rintro ⟨hsource, hfile⟩
    cases place with
    | nil => simp [isSourcePlace] at hsource
    | cons name rest => simp [fileAt?] at hfile
  | @directory entries distinct names below ih =>
    cases place with
    | nil => simp [nil_not_mem_goPlaces, isSourcePlace]
    | cons name rest =>
      rw [goPlaces_directory, List.mem_flatMap, fileAt?_directory_cons]
      simp only [List.mem_mergeSort]
      constructor
      · rintro ⟨e, he, hplace⟩
        obtain ⟨rfl, hsource, hfile⟩ := (mem_entryPlaces fun rest => ih e he).1 hplace
        rw [lookup_of_mem distinct he]
        exact ⟨hsource, hfile⟩
      · rintro ⟨hsource, hfile⟩
        cases hfound : entries.lookup name with
        | none => simp [hfound] at hfile
        | some node =>
          rw [hfound] at hfile
          have he := mem_of_lookup hfound
          exact ⟨_, he, (mem_entryPlaces fun rest => ih _ he).2 ⟨rfl, hsource, hfile⟩⟩

/-! ## The order of the walk -/

theorem pairwise_entryPlaces {e : String × FileTree} (h : e.2.goPlaces.Pairwise (· < ·)) :
    (entryPlaces e).Pairwise (· < ·) := by
  obtain ⟨name, node⟩ := e
  cases node with
  | file bytes =>
    rw [entryPlaces]
    split
    · exact List.pairwise_singleton _ _
    · exact List.Pairwise.nil
  | directory entries =>
    rw [entryPlaces]
    split
    · exact List.Pairwise.nil
    · exact h.map _ fun _ _ hlt => List.cons_lt_cons_iff.2 (Or.inr ⟨rfl, hlt⟩)

/-- Entries with different names are put in the strict order of these. -/
theorem pairwise_mergeSort_fst (hdistinct : (entries.map Prod.fst).Nodup) :
    (entries.mergeSort fun a b => decide (a.1 ≤ b.1)).Pairwise fun a b => a.1 < b.1 := by
  have hsorted : (entries.mergeSort fun a b => decide (a.1 ≤ b.1)).Pairwise
      fun a b => decide (a.1 ≤ b.1) = true := by
    refine List.pairwise_mergeSort ?_ ?_ entries
    · intro a b c hab hbc
      rw [decide_eq_true_eq] at *
      exact String.le_trans hab hbc
    · intro a b
      simpa using String.le_total a.1 b.1
  have hnames : (entries.mergeSort fun a b => decide (a.1 ≤ b.1)).Pairwise fun a b => a.1 ≠ b.1 :=
    List.pairwise_map.1 (((List.mergeSort_perm entries _).map Prod.fst).nodup_iff.2 hdistinct)
  refine (hsorted.and hnames).imp ?_
  rintro a b ⟨hle, hne⟩
  exact Std.lt_of_le_of_ne (of_decide_eq_true hle) hne

/-- The walk is in the lexicographic order of the places. -/
theorem pairwise_goPlaces (h : tree.WellNamed) : tree.goPlaces.Pairwise (· < ·) := by
  -- The places are ordered name by name. The texts of the paths are not: a slash may come before or
  -- behind the character that another name has in its place.
  induction h with
  | file bytes => exact List.Pairwise.nil
  | @directory entries distinct names below ih =>
    rw [goPlaces_directory, List.pairwise_flatMap]
    constructor
    · intro e he
      exact pairwise_entryPlaces (ih e (List.mem_mergeSort.1 he))
    · refine (pairwise_mergeSort_fst distinct).imp ?_
      intro a b hab x hx y hy
      obtain ⟨rest, rfl⟩ := exists_of_mem_entryPlaces hx
      obtain ⟨rest', rfl⟩ := exists_of_mem_entryPlaces hy
      exact List.cons_lt_cons_iff.2 (Or.inl hab)

/-! ## Sources that are texts -/

/-- The text of the file at a place, if its bytes are one. -/
def textAt? (tree : FileTree) (place : List String) : Option String :=
  (tree.fileAt? place).bind String.fromUTF8?

theorem textAt?_directory_cons (entries : List (String × FileTree)) (name : String)
    (rest : List String) :
    (directory entries).textAt? (name :: rest)
      = (entries.lookup name).bind fun node => node.textAt? rest := by
  rw [textAt?, fileAt?_directory_cons, Option.bind_assoc]
  rfl

/-- The sources of a directory that are texts, with their places, in the order of the walk. -/
def sources (tree : FileTree) : List (List String × String) :=
  tree.goPlaces.filterMap fun place => (tree.textAt? place).map (Prod.mk place)

theorem mem_sources (h : tree.WellNamed) {source : List String × String} :
    source ∈ tree.sources
      ↔ isSourcePlace source.1 = true ∧ tree.textAt? source.1 = some source.2 := by
  obtain ⟨place, text⟩ := source
  simp only [sources, List.mem_filterMap, Option.map_eq_some_iff, Prod.mk.injEq]
  constructor
  · rintro ⟨found, hfound, read, hread, rfl, rfl⟩
    exact ⟨((mem_goPlaces h).1 hfound).1, hread⟩
  · rintro ⟨hsource, htext⟩
    obtain ⟨bytes, hbytes, -⟩ := Option.bind_eq_some_iff.1 htext
    exact ⟨place, (mem_goPlaces h).2 ⟨hsource, by rw [hbytes]; rfl⟩, text, htext, rfl, rfl⟩

theorem pairwise_sources (h : tree.WellNamed) : tree.sources.Pairwise fun a b => a.1 < b.1 := by
  refine (pairwise_goPlaces h).filterMap _ ?_
  intro a b hab source hsource source' hsource'
  obtain ⟨text, -, rfl⟩ := Option.map_eq_some_iff.1 hsource
  obtain ⟨text', -, rfl⟩ := Option.map_eq_some_iff.1 hsource'
  exact hab

theorem nodup_sources (h : tree.WellNamed) : tree.sources.Nodup := by
  refine List.nodup_iff_pairwise_ne.2 ((pairwise_sources h).imp ?_)
  rintro source _ hlt rfl
  exact List.lt_irrefl _ hlt

/-- Trees with the same texts at the places of sources have the same sources in the same order,
whatever else is in them. -/
theorem sources_congr (h : tree.WellNamed) (hother : other.WellNamed)
    (hsame : ∀ place, isSourcePlace place = true → tree.textAt? place = other.textAt? place) :
    tree.sources = other.sources := by
  have hmem : ∀ source, source ∈ tree.sources ↔ source ∈ other.sources := by
    intro source
    rw [mem_sources h, mem_sources hother]
    exact and_congr_right fun hsource => by rw [hsame _ hsource]
  refine List.Perm.eq_of_pairwise ?_ (pairwise_sources h) (pairwise_sources hother)
    ((List.perm_ext_iff_of_nodup (nodup_sources h) (nodup_sources hother)).2 hmem)
  exact fun a b _ _ hab hba => absurd hba (List.lt_asymm hab)

end ApiDocs.FileTree
