import ApiDocs.Files.Writing
import ApiDocs.Proofs.Files.Places
import ApiDocs.Proofs.Path

/-!
# What writing does to the files

A file system only grows: directories stay directories and nothing goes away (`Grows`), so a path
that leads to a place goes on leading there (`Grows.follow`). Making directories leaves every file
as it is (`makeDirectories_keepsFiles`), and so does writing a text when it fails
(`writeText_spec`). A file that is written changes the one place that its path names
(`writeFile_below`).
-/

set_option autoImplicit false

namespace ApiDocs.FileSystem

open FileTree (Kind)

variable {fs next : FileSystem} {place target : List String} {p : Path}

/-! ## Following steps -/

theorem follow_nil (fs : FileSystem) (place : List String) : fs.follow place [] = .ok place :=
  rfl

theorem follow_cons (fs : FileSystem) (place : List String) (step : String) (rest : List String) :
    fs.follow place (step :: rest)
      = if step = "" then fs.follow place rest
        else
          match fs.tree.get? place with
          | some (.directory entries) =>
            if step = "." then fs.follow place rest
            else if step = ".." then fs.follow place.dropLast rest
            else if step.utf8ByteSize > maxNameSize then .error .nameTooLong
            else if (entries.lookup step).isSome then fs.follow (place ++ [step]) rest
            else .error .notFound
          | _ => .error .notADirectory :=
  rfl

/-- Following steps is following the first of them and then the others. -/
theorem follow_append (fs : FileSystem) (place first others : List String) :
    fs.follow place (first ++ others)
      = (fs.follow place first).bind fun between => fs.follow between others := by
  induction first generalizing place with
  | nil => rfl
  | cons step rest ih =>
    rw [List.cons_append, follow_cons, follow_cons]
    by_cases hempty : step = ""
    · rw [if_pos hempty, if_pos hempty, ih]
    · rw [if_neg hempty, if_neg hempty]
      split
      · by_cases hdot : step = "."
        · rw [if_pos hdot, if_pos hdot, ih]
        · rw [if_neg hdot, if_neg hdot]
          by_cases hdots : step = ".."
          · rw [if_pos hdots, if_pos hdots, ih]
          · rw [if_neg hdots, if_neg hdots]
            split
            · rfl
            · split
              · rw [ih]
              · rfl
      · rfl

/-- Empty steps lead nowhere. -/
theorem follow_filter (fs : FileSystem) (place steps : List String) :
    fs.follow place (steps.filter (· ≠ "")) = fs.follow place steps := by
  induction steps generalizing place with
  | nil => rfl
  | cons step rest ih =>
    by_cases hempty : step = ""
    · rw [List.filter_cons_of_neg (by simpa using hempty), ih, follow_cons, if_pos hempty]
    · rw [List.filter_cons_of_pos (by simpa using hempty), follow_cons, follow_cons,
        if_neg hempty, if_neg hempty]
      simp only [ih]

/-- A dot leads from a directory to itself. -/
theorem follow_dot {reached : List String} (h : fs.follow place ["."] = .ok reached) :
    fs.tree.kindAt? place = some .directory ∧ reached = place := by
  rw [follow_cons, if_neg (by decide)] at h
  split at h
  · next entries hentries =>
    rw [if_pos rfl, follow_nil, Except.ok.injEq] at h
    exact ⟨FileTree.get?_eq_directory_iff.2 ⟨entries, hentries⟩, h.symm⟩
  · simp at h

/-- Names lead to the place that they spell. -/
theorem follow_names {names reached : List String} (hnames : ∀ s ∈ names, isFixedStep s = false)
    (h : fs.follow place names = .ok reached) : reached = place ++ names := by
  induction names generalizing place with
  | nil =>
    rw [follow_nil, Except.ok.injEq] at h
    simp [h]
  | cons step rest ih =>
    obtain ⟨hempty, hdot, hdots⟩ := isFixedStep_eq_false_iff.1 (hnames step List.mem_cons_self)
    rw [follow_cons, if_neg hempty] at h
    split at h
    · rw [if_neg hdot, if_neg hdots] at h
      split at h
      · simp at h
      · split at h
        · rw [ih (fun s hs => hnames s (List.mem_cons_of_mem step hs)) h, List.append_assoc]
          rfl
        · simp at h
    · simp at h

/-! ## Growing -/

/-- Nothing went away on the way from one file system to another, and no directory became a file. -/
structure Grows (fs next : FileSystem) : Prop where
  workingPlace : next.workingPlace = fs.workingPlace
  directory : ∀ place, fs.tree.kindAt? place = some .directory →
    next.tree.kindAt? place = some .directory
  present : ∀ place, (fs.tree.kindAt? place).isSome → (next.tree.kindAt? place).isSome

namespace Grows

theorem refl (fs : FileSystem) : Grows fs fs :=
  ⟨rfl, fun _ h => h, fun _ h => h⟩

theorem trans {last : FileSystem} (h : Grows fs next) (h' : Grows next last) : Grows fs last where
  workingPlace := h'.workingPlace.trans h.workingPlace
  directory place hplace := h'.directory place (h.directory place hplace)
  present place hplace := h'.present place (h.present place hplace)

/-- A path that leads to a place goes on leading there. -/
theorem follow (h : Grows fs next) {steps reached : List String}
    (hreached : fs.follow place steps = .ok reached) :
    next.follow place steps = .ok reached := by
  induction steps generalizing place with
  | nil => exact hreached
  | cons step rest ih =>
    rw [FileSystem.follow] at hreached ⊢
    by_cases hempty : step = ""
    · rw [if_pos hempty] at hreached ⊢
      exact ih hreached
    · rw [if_neg hempty] at hreached ⊢
      split at hreached
      · next entries hentries =>
        have hdirectory := h.directory place (FileTree.get?_eq_directory_iff.2 ⟨_, hentries⟩)
        obtain ⟨grown, hgrown⟩ := FileTree.get?_eq_directory_iff.1 hdirectory
        rw [hgrown]
        simp only
        split at hreached
        · next hdot =>
          rw [if_pos hdot]
          exact ih hreached
        · next hdot =>
          rw [if_neg hdot]
          split at hreached
          · next hdots =>
            rw [if_pos hdots]
            exact ih hreached
          · next hdots =>
            rw [if_neg hdots]
            split at hreached
            · simp at hreached
            · next hsize =>
              rw [if_neg hsize]
              split at hreached
              · next hentry =>
                have hpresent := h.present (place ++ [step])
                rw [FileTree.kindAt?_concat hentries, FileTree.kindAt?_concat hgrown,
                  Option.isSome_map, Option.isSome_map] at hpresent
                rw [if_pos (hpresent hentry)]
                exact ih hreached
              · simp at hreached
      · simp at hreached

end Grows

/-- A file system that differs from another in what stands at one place, where no directory was. -/
structure Sets (fs next : FileSystem) (target : List String) (kind : Kind) : Prop where
  workingPlace : next.workingPlace = fs.workingPlace
  free : fs.tree.kindAt? target ≠ some .directory
  kindAt? : ∀ place, next.tree.kindAt? place
    = if place = target then some kind else fs.tree.kindAt? place

namespace Sets

variable {kind : Kind}

theorem grows (h : Sets fs next target kind) : Grows fs next where
  workingPlace := h.workingPlace
  directory place hplace := by
    have hne : place ≠ target := by
      rintro rfl
      exact h.free hplace
    rw [h.kindAt?, if_neg hne, hplace]
  present place hplace := by
    rw [h.kindAt?]
    split
    · rfl
    · exact hplace

theorem fileAt?_file {bytes : ByteArray} (h : Sets fs next target (.file bytes))
    (place : List String) :
    next.tree.fileAt? place = if place = target then some bytes else fs.tree.fileAt? place := by
  unfold FileTree.fileAt?
  rw [h.kindAt?]
  by_cases hplace : place = target
  · rw [if_pos hplace, if_pos hplace]
  · rw [if_neg hplace, if_neg hplace]

theorem put_leaf {node : FileTree} {name : String}
    (hdirectory : fs.tree.kindAt? place = some .directory)
    (hfree : fs.tree.kindAt? (place ++ [name]) ≠ some .directory)
    (hleaf : ∀ rest, node.kindAt? rest = if rest = [] then some kind else none) :
    Sets fs (fs.put (place ++ [name]) node) (place ++ [name]) kind where
  workingPlace := rfl
  free := hfree
  kindAt? := FileTree.kindAt?_put_leaf hdirectory hfree hleaf

end Sets

/-! ## Directories -/

/-- A file system that grew without a change to any file. -/
structure KeepsFiles (fs next : FileSystem) : Prop extends Grows fs next where
  fileAt? : ∀ place, next.tree.fileAt? place = fs.tree.fileAt? place

namespace KeepsFiles

theorem refl (fs : FileSystem) : KeepsFiles fs fs :=
  ⟨Grows.refl fs, fun _ => rfl⟩

theorem trans {last : FileSystem} (h : KeepsFiles fs next) (h' : KeepsFiles next last) :
    KeepsFiles fs last :=
  ⟨h.toGrows.trans h'.toGrows, fun place => (h'.fileAt? place).trans (h.fileAt? place)⟩

end KeepsFiles

/-- The directory that holds what a path names. -/
theorem locateParent_spec (h : fs.locateParent p = .ok place) :
    fs.follow (fs.start p) (lastStep p).1 = .ok place ∧
      fs.tree.kindAt? place = some .directory := by
  unfold locateParent at h
  split at h
  · simp at h
  · rw [follow_append] at h
    cases hbefore : fs.follow (fs.start p) (lastStep p).1 with
    | error issue => simp [hbefore, Except.bind] at h
    | ok between =>
      rw [hbefore] at h
      obtain ⟨hdirectory, rfl⟩ := follow_dot h
      exact ⟨rfl, hdirectory⟩

theorem makeDirectory_keepsFiles (h : fs.makeDirectory p = .ok next) : KeepsFiles fs next := by
  unfold makeDirectory at h
  split at h
  · simp at h
  · next place hplace =>
    obtain ⟨-, hdirectory⟩ := locateParent_spec hplace
    simp only at h
    split at h
    · simp at h
    split at h
    · simp at h
    split at h
    · simp at h
    · next hmissing =>
      rw [Except.ok.injEq] at h
      subst h
      have hnone : fs.tree.kindAt? (place ++ [(lastStep p).2.1]) = none := by
        simpa [FileTree.kindAt?] using hmissing
      have hfree : fs.tree.kindAt? (place ++ [(lastStep p).2.1]) ≠ some .directory := by
        simp [hnone]
      have hsets := Sets.put_leaf hdirectory hfree FileTree.kindAt?_empty
      refine ⟨hsets.grows, fun other => ?_⟩
      unfold FileTree.fileAt?
      rw [hsets.kindAt?]
      by_cases hother : other = place ++ [(lastStep p).2.1]
      · rw [if_pos hother, hother, hnone]
      · rw [if_neg hother]

/-- Making directories leaves every file as it is, whether or not it comes to its end. -/
theorem makeChain_keepsFiles (fs : FileSystem) (paths : List Path) :
    KeepsFiles fs (fs.makeChain paths).1 := by
  induction paths with
  | nil => exact KeepsFiles.refl fs
  | cons p above ih =>
    rw [makeChain]
    split
    · exact KeepsFiles.refl fs
    split
    · next made hmade => exact makeDirectory_keepsFiles hmade
    · split
      · next grown issue hgrown =>
        rw [hgrown] at ih
        exact ih
      · next grown hgrown =>
        rw [hgrown] at ih
        split
        · next made hmade => exact ih.trans (makeDirectory_keepsFiles hmade)
        · exact ih
    · exact KeepsFiles.refl fs

theorem makeDirectories_keepsFiles (fs : FileSystem) (p : Path) :
    KeepsFiles fs (fs.makeDirectories p).1 :=
  makeChain_keepsFiles fs _

/-! ## Files -/

/-- The place that the steps of a path lead to. -/
def placeOf (fs : FileSystem) (p : Path) : Except FileIssue (List String) :=
  fs.follow (fs.start p) (steps p)

theorem placeOf_eq (fs : FileSystem) (p : Path) :
    fs.placeOf p = fs.follow (fs.start p) p.names :=
  (follow_filter fs _ _).symm

theorem Grows.placeOf (h : Grows fs next) (hplace : fs.placeOf p = .ok place) :
    next.placeOf p = .ok place := by
  have hstart : next.start p = fs.start p := by
    unfold start
    rw [h.workingPlace]
  unfold FileSystem.placeOf
  rw [hstart]
  exact h.follow hplace

theorem filter_dropWhile_empty (steps : List String) :
    (steps.dropWhile (· = "")).filter (· ≠ "") = steps.filter (· ≠ "") := by
  induction steps with
  | nil => rfl
  | cons step rest ih =>
    by_cases hempty : step = ""
    · rw [List.dropWhile_cons_of_pos (by simpa using hempty), ih,
        List.filter_cons_of_neg (by simpa using hempty)]
    · rw [List.dropWhile_cons_of_neg (by simpa using hempty)]

/-- The last step of a path is its last name, and the steps before it have the other names. -/
theorem lastStep_spec {before : List String} {name : String} (h : p.names = before ++ [name]) :
    (lastStep p).1.filter (· ≠ "") = before ∧ (lastStep p).2.1 = name := by
  have hbody : ((steps p).reverse.dropWhile (· = "")).filter (· ≠ "") = name :: before.reverse := by
    rw [filter_dropWhile_empty, List.filter_reverse]
    change p.names.reverse = _
    rw [h, List.reverse_append]
    rfl
  unfold lastStep
  simp only
  cases hlast : (steps p).reverse.dropWhile (· = "") with
  | nil => simp [hlast] at hbody
  | cons last rest =>
    have hne : last ≠ "" := by
      have hhead := List.head?_dropWhile_not (fun s : String => decide (s = "")) (steps p).reverse
      rw [hlast] at hhead
      simpa using hhead
    rw [hlast, List.filter_cons_of_pos (by simpa using hne), List.cons.injEq] at hbody
    obtain ⟨hname, hbefore⟩ := hbody
    refine ⟨?_, hname⟩
    rw [List.tail_cons, List.filter_reverse, hbefore, List.reverse_reverse]

theorem writeFile_spec {bytes : ByteArray} (h : fs.writeFile p bytes = .ok next) :
    ∃ place, fs.follow (fs.start p) (lastStep p).1 = .ok place ∧
      Sets fs next (place ++ [(lastStep p).2.1]) (.file bytes) := by
  unfold writeFile at h
  split at h
  · simp at h
  · next place hplace =>
    obtain ⟨hfollow, hdirectory⟩ := locateParent_spec hplace
    simp only at h
    split at h
    · simp at h
    split at h
    · simp at h
    split at h
    · simp at h
    · next hfree =>
      rw [Except.ok.injEq] at h
      subst h
      refine ⟨place, hfollow, Sets.put_leaf hdirectory ?_ (FileTree.kindAt?_file bytes)⟩
      intro hkind
      obtain ⟨entries, hentries⟩ := FileTree.get?_eq_directory_iff.1 hkind
      exact hfree entries hentries

/-- A file that is written below a directory changes that place and no other. -/
theorem writeFile_below {dir : Path} {names : List String} {bytes : ByteArray}
    (hnames : p.names = dir.names ++ names) (habsolute : p.isAbsolute = dir.isAbsolute)
    (hne : names ≠ []) (hproper : ∀ s ∈ names, isFixedStep s = false)
    (h : fs.writeFile p bytes = .ok next) :
    ∃ base, fs.placeOf dir = .ok base ∧ Sets fs next (base ++ names) (.file bytes) := by
  obtain ⟨place, hfollow, hsets⟩ := writeFile_spec h
  obtain ⟨before, name, rfl⟩ := (List.eq_nil_or_concat names).resolve_left hne
  rw [List.concat_eq_append] at hnames hproper
  obtain ⟨hbefore, hname⟩ := lastStep_spec (hnames.trans (List.append_assoc _ _ _).symm)
  have hstart : fs.start p = fs.start dir := by
    unfold start
    rw [habsolute]
  rw [← follow_filter, hbefore, follow_append, hstart, ← placeOf_eq] at hfollow
  cases hbase : fs.placeOf dir with
  | error issue => simp [hbase, Except.bind] at hfollow
  | ok base =>
    rw [hbase] at hfollow
    have hplace : place = base ++ before :=
      follow_names (fun s hs => hproper s (List.mem_append_left _ hs)) hfollow
    rw [hplace, hname, List.append_assoc] at hsets
    exact ⟨base, rfl, by rwa [List.concat_eq_append]⟩

/-- Writing a text fails and leaves every file as it is, or makes the directories it needs and
writes the file. -/
theorem writeText_spec (fs : FileSystem) (p : Path) (text : String) :
    ∃ ready, KeepsFiles fs ready ∧
      ((∃ e, fs.writeText p text = (ready, .error e)) ∨
        ∃ next, ready.writeFile p text.toUTF8 = .ok next ∧
          fs.writeText p text = (next, .ok ())) := by
  unfold writeText
  cases hparent : p.parent? with
  | none =>
    simp only
    refine ⟨fs, KeepsFiles.refl fs, ?_⟩
    cases hwrite : fs.writeFile p text.toUTF8 with
    | error issue => exact Or.inl ⟨_, rfl⟩
    | ok next => exact Or.inr ⟨next, rfl, rfl⟩
  | some above =>
    have hkeeps := makeDirectories_keepsFiles fs above
    cases hmade : fs.makeDirectories above with
    | mk ready outcome =>
      rw [hmade] at hkeeps
      refine ⟨ready, hkeeps, ?_⟩
      cases outcome with
      | error issue => exact Or.inl ⟨_, by simp only [hmade, Except.mapError]; rfl⟩
      | ok _ =>
        simp only [hmade, Except.mapError]
        cases hwrite : ready.writeFile p text.toUTF8 with
        | error issue => exact Or.inl ⟨_, rfl⟩
        | ok next => exact Or.inr ⟨next, rfl, rfl⟩

end ApiDocs.FileSystem
