import ApiDocs.Proofs.Files.Below
import ApiDocs.Proofs.Files.Effects

/-!
# Writing below a directory that is there

Below an existing directory only files can be in the way. Where there are none on the way to a place,
the directories to it are made (`makeChain_below`), and then a file is written there unless a
directory has its place (`writeText_below`). What a path leads to is given by `LeadsTo`, and what is
left by the places that have changed (`Built`, `Filed`).
-/

set_option autoImplicit false

namespace ApiDocs.FileSystem

open FileTree (Kind)
open ApiDocs.Path (IsName)

variable {fs next : FileSystem} {place base names : List String} {name : String} {p q output : Path}

/-! ## Paths that can be looked up -/

theorem pathIssue?_eq_none_iff :
    pathIssue? p = none
      ↔ '\x00' ∉ p.text.toList ∧ p.text ≠ "" ∧ p.text.utf8ByteSize ≤ maxPathSize := by
  unfold pathIssue?
  by_cases hnull : '\x00' ∈ p.text.toList
  · simp [hnull]
  · by_cases hempty : p.text = ""
    · simp [hempty]
    · by_cases hsize : p.text.utf8ByteSize > maxPathSize
      · simp [hnull, hempty, hsize]
      · simp [hnull, hempty, Nat.not_lt.1 hsize]

/-- What can be looked up starts with paths that can be looked up. -/
theorem pathIssue?_of_isPrefix (h : pathIssue? p = none) (hbegin : q.text.toList <+: p.text.toList)
    (hne : q.text ≠ "") : pathIssue? q = none := by
  rw [pathIssue?_eq_none_iff] at h ⊢
  obtain ⟨hnull, -, hsize⟩ := h
  refine ⟨fun hmem => hnull (hbegin.subset hmem), hne, ?_⟩
  obtain ⟨rest, hrest⟩ := hbegin
  have htext : p.text = q.text ++ String.ofList rest := by
    rw [← String.toList_inj, String.toList_append, String.toList_ofList, hrest]
  rw [htext, String.utf8ByteSize_append] at hsize
  omega

theorem null_not_mem_below (houtput : '\x00' ∉ output.text.toList)
    (hnames : ∀ s ∈ names, IsName s ∧ '\x00' ∉ s.toList) :
    '\x00' ∉ (output.below names).text.toList := by
  induction names generalizing output with
  | nil => exact houtput
  | cons name rest ih =>
    obtain ⟨hname, hnull⟩ := hnames name List.mem_cons_self
    have hrest : ∀ s ∈ rest, IsName s ∧ '\x00' ∉ s.toList := fun s hs =>
      hnames s (List.mem_cons_of_mem name hs)
    have hopened : '\x00' ∉ Path.opened output.text.toList := by
      unfold Path.opened
      split
      · exact houtput
      · simp [houtput]
    refine ih ?_ hrest
    rw [Path.toList_join hname.isAbsolute, List.mem_append, not_or]
    exact ⟨hopened, hnull⟩

/-- A text that names an entry of a directory and is not too long for that. -/
structure IsEntryName (s : String) : Prop extends IsName s where
  size : s.utf8ByteSize ≤ maxNameSize

/-- A path that leads to a directory at a place. -/
structure LeadsTo (fs : FileSystem) (p : Path) (place : List String) : Prop where
  issue : pathIssue? p = none
  placeOf : fs.placeOf p = .ok place
  directory : fs.tree.kindAt? place = some .directory

namespace LeadsTo

theorem grows (h : LeadsTo fs p place) (hgrows : Grows fs next) : LeadsTo next p place where
  issue := h.issue
  placeOf := hgrows.placeOf h.placeOf
  directory := hgrows.directory place h.directory

theorem follow_dot (hdirectory : fs.tree.kindAt? place = some .directory) :
    fs.follow place ["."] = .ok place := by
  obtain ⟨entries, hentries⟩ := FileTree.get?_eq_directory_iff.1 hdirectory
  rw [follow_cons, if_neg (by decide), hentries]
  simp only [if_true, follow_nil]

theorem locate (h : LeadsTo fs p place) : fs.locate p = .ok place := by
  have hplace : fs.follow (fs.start p) (steps p) = .ok place := h.placeOf
  unfold FileSystem.locate
  rw [h.issue]
  simp only
  unfold lookupSteps
  split
  · rw [follow_append, hplace]
    exact follow_dot h.directory
  · exact hplace

theorem isDirectory (h : LeadsTo fs p place) : fs.isDirectory p = true := by
  obtain ⟨entries, hentries⟩ := FileTree.get?_eq_directory_iff.1 h.directory
  unfold FileSystem.isDirectory find?
  rw [h.locate]
  simp only [hentries]

theorem of_find? {entries : List (String × FileTree)}
    (h : fs.find? p = some (.directory entries)) :
    ∃ place, LeadsTo fs p place ∧ fs.tree.get? place = some (.directory entries) := by
  unfold find? at h
  split at h
  · next place hlocate =>
    have hdirectory := FileTree.get?_eq_directory_iff.2 ⟨entries, h⟩
    unfold FileSystem.locate at hlocate
    split at hlocate
    · simp at hlocate
    · next hissue =>
      refine ⟨place, ⟨hissue, ?_, hdirectory⟩, h⟩
      unfold lookupSteps at hlocate
      split at hlocate
      · rw [follow_append] at hlocate
        cases hsteps : fs.follow (fs.start p) (steps p) with
        | error issue => simp [hsteps, Except.bind] at hlocate
        | ok reached =>
          rw [hsteps] at hlocate
          obtain ⟨-, rfl⟩ := FileSystem.follow_dot hlocate
          exact hsteps
      · exact hlocate
  · simp at h

end LeadsTo

/-! ## Steps through directories -/

/-- An entry of a directory is entered, and a missing one is not found. -/
theorem follow_name_cons (hname : IsEntryName name)
    (hbase : fs.tree.kindAt? base = some .directory) (rest : List String) :
    fs.follow base (name :: rest)
      = if (fs.tree.kindAt? (base ++ [name])).isSome then fs.follow (base ++ [name]) rest
        else .error .notFound := by
  obtain ⟨entries, hentries⟩ := FileTree.get?_eq_directory_iff.1 hbase
  obtain ⟨hempty, hdot, hdots⟩ := isFixedStep_eq_false_iff.1 hname.proper
  have hsize : ¬ name.utf8ByteSize > maxNameSize := Nat.not_lt.2 hname.size
  rw [follow_cons, if_neg hempty, hentries, FileTree.kindAt?_concat hentries, Option.isSome_map]
  simp only [if_neg hdot, if_neg hdots, if_neg hsize]

/-- Where no file is in the way, names lead to a directory or are not found. -/
theorem follow_names_dichotomy (hnames : ∀ s ∈ names, IsEntryName s)
    (hbase : fs.tree.kindAt? base = some .directory)
    (hfree : ∀ front, front <+: names → fs.tree.fileAt? (base ++ front) = none) :
    (fs.tree.kindAt? (base ++ names) = some .directory ∧
        fs.follow base names = .ok (base ++ names)) ∨
      (fs.tree.kindAt? (base ++ names) = none ∧ fs.follow base names = .error .notFound) := by
  induction names generalizing base with
  | nil =>
    rw [List.append_nil]
    exact Or.inl ⟨hbase, rfl⟩
  | cons name rest ih =>
    have hname := hnames name List.mem_cons_self
    have hrest : ∀ s ∈ rest, IsEntryName s := fun s hs => hnames s (List.mem_cons_of_mem name hs)
    have hplace : base ++ name :: rest = base ++ [name] ++ rest := by simp
    have hfile : fs.tree.fileAt? (base ++ [name]) = none :=
      hfree [name] (List.prefix_append [name] rest)
    rw [follow_name_cons hname hbase, hplace]
    cases hkind : fs.tree.kindAt? (base ++ [name]) with
    | none =>
      refine Or.inr ⟨?_, rfl⟩
      cases rest with
      | nil => rwa [List.append_nil]
      | cons next others =>
        have hnot : fs.tree.kindAt? (base ++ [name]) ≠ some .directory := by
          rw [hkind]
          simp
        exact FileTree.kindAt?_append_cons hnot next others
    | some kind =>
      cases kind with
      | file bytes =>
        rw [FileTree.fileAt?_eq_some_iff.2 hkind] at hfile
        cases hfile
      | directory =>
        refine ih hrest hkind fun front hfront => ?_
        have := hfree (name :: front) (List.cons_prefix_cons.2 ⟨rfl, hfront⟩)
        rwa [List.append_assoc]

/-! ## The last step of a path below a directory -/

theorem start_join (hname : IsName name) (p : Path) : fs.start (p.join ⟨name⟩) = fs.start p := by
  unfold start
  rw [Path.isAbsolute_join hname.isAbsolute]

theorem lastStep_join (hname : IsName name) (p : Path) :
    (lastStep (p.join ⟨name⟩)).1.filter (· ≠ "") = p.names ∧
      (lastStep (p.join ⟨name⟩)).2 = (name, false) := by
  have hnames : (p.join ⟨name⟩).names = p.names ++ [name] := by
    rw [Path.names_join hname.isAbsolute, Path.names_of_not_mem hname.ne_empty hname.slash]
  obtain ⟨hbefore, hlast⟩ := lastStep_spec hnames
  refine ⟨hbefore, Prod.ext hlast ?_⟩
  obtain ⟨before, hpieces, -⟩ := Path.exists_pieces_opened hname.slash p.text.toList
  rw [← Path.toList_join (q := ⟨name⟩) hname.isAbsolute] at hpieces
  unfold lastStep steps
  simp [hpieces, hname.ne_empty]

theorem locateParent_join (hname : IsName name) (hissue : pathIssue? (p.join ⟨name⟩) = none)
    (fs : FileSystem) :
    fs.locateParent (p.join ⟨name⟩)
      = (fs.placeOf p).bind fun place => fs.follow place ["."] := by
  obtain ⟨hbefore, -⟩ := lastStep_join hname p
  unfold locateParent
  rw [hissue, start_join hname]
  simp only
  rw [follow_append, ← follow_filter, hbefore, ← placeOf_eq]

theorem placeOf_below (hnames : ∀ s ∈ names, IsName s) (h : LeadsTo fs p base) :
    fs.placeOf (p.below names) = fs.follow base names := by
  have hstart : fs.start (p.below names) = fs.start p := by
    unfold start
    rw [Path.isAbsolute_below hnames]
  rw [placeOf_eq, Path.names_below hnames, follow_append, hstart, ← placeOf_eq, h.placeOf]
  rfl

theorem leadsTo_below (hleads : LeadsTo fs output base) (hnames : ∀ s ∈ names, IsEntryName s)
    (hissue : pathIssue? (output.below names) = none)
    (hfree : ∀ front, front <+: names → fs.tree.fileAt? (base ++ front) = none)
    (hkind : fs.tree.kindAt? (base ++ names) = some .directory) :
    LeadsTo fs (output.below names) (base ++ names) := by
  refine ⟨hissue, ?_, hkind⟩
  rw [placeOf_below (fun s hs => (hnames s hs).toIsName) hleads]
  rcases follow_names_dichotomy hnames hleads.directory hfree with ⟨-, hfollow⟩ | ⟨hnone, -⟩
  · exact hfollow
  · rw [hkind] at hnone
    cases hnone

/-- The directory of the last of some names is there or missing, where no file is in the way. -/
theorem locateParent_below (hleads : LeadsTo fs output base)
    (hnames : ∀ s ∈ names ++ [name], IsEntryName s)
    (hissue : pathIssue? (output.below (names ++ [name])) = none)
    (hfree : ∀ front, front <+: names → fs.tree.fileAt? (base ++ front) = none) :
    (fs.tree.kindAt? (base ++ names) = some .directory ∧
        fs.locateParent (output.below (names ++ [name])) = .ok (base ++ names)) ∨
      (fs.tree.kindAt? (base ++ names) = none ∧
        fs.locateParent (output.below (names ++ [name])) = .error .notFound) := by
  have hbefore : ∀ s ∈ names, IsEntryName s := fun s hs => hnames s (List.mem_append_left _ hs)
  have hname : IsEntryName name := hnames name (List.mem_append_right _ List.mem_cons_self)
  have hparent : fs.locateParent (output.below (names ++ [name]))
      = (fs.follow base names).bind fun place => fs.follow place ["."] := by
    rw [Path.below_concat] at hissue ⊢
    rw [locateParent_join hname.toIsName hissue,
      placeOf_below (fun s hs => (hbefore s hs).toIsName) hleads]
  rw [hparent]
  rcases follow_names_dichotomy hbefore hleads.directory hfree with
    ⟨hkind, hfollow⟩ | ⟨hkind, hfollow⟩
  · rw [hfollow]
    exact Or.inl ⟨hkind, LeadsTo.follow_dot hkind⟩
  · rw [hfollow]
    exact Or.inr ⟨hkind, rfl⟩

theorem lastStep_below (hname : IsName name) :
    (lastStep (output.below (names ++ [name]))).2 = (name, false) := by
  rw [Path.below_concat]
  exact (lastStep_join hname _).2

/-! ## Making one directory -/

/-- A file system that differs from another one by a directory at a place at most. -/
structure Provides (fs next : FileSystem) (target : List String) : Prop where
  workingPlace : next.workingPlace = fs.workingPlace
  kindAt? : ∀ place, next.tree.kindAt? place
    = if place = target then some .directory else fs.tree.kindAt? place

theorem Provides.refl (h : fs.tree.kindAt? place = some .directory) : Provides fs fs place where
  workingPlace := rfl
  kindAt? other := by
    split
    · next hother => rw [hother, h]
    · rfl

/-- A file system that differs from another one by directories on the way from a place to one below
it at most. -/
structure Built (fs next : FileSystem) (base names : List String) : Prop where
  workingPlace : next.workingPlace = fs.workingPlace
  kindAt? : ∀ place, next.tree.kindAt? place
    = if base <+: place ∧ place <+: base ++ names then some .directory
      else fs.tree.kindAt? place

namespace Built

theorem grows (h : Built fs next base names) : Grows fs next where
  workingPlace := h.workingPlace
  directory place hplace := by
    rw [h.kindAt?]
    split
    · rfl
    · exact hplace
  present place hplace := by
    rw [h.kindAt?]
    split
    · rfl
    · exact hplace

/-- Where there is a directory already, all directories on the way are there. -/
theorem refl (h : fs.tree.kindAt? (base ++ names) = some .directory) : Built fs fs base names where
  workingPlace := rfl
  kindAt? place := by
    split
    · next hbetween =>
      obtain ⟨-, rest, hrest⟩ := hbetween
      cases rest with
      | nil => rw [← hrest, List.append_nil] at h; exact h
      | cons name rest =>
        by_contra hnot
        have hnone := FileTree.kindAt?_append_cons (Ne.symm hnot ·.symm) name rest
        rw [hrest, h] at hnone
        cases hnone
    · rfl

/-- One more directory at the end of the way. -/
theorem concat {last : FileSystem} (h : Built fs next base names)
    (hlast : Provides next last (base ++ (names ++ [name]))) :
    Built fs last base (names ++ [name]) where
  workingPlace := hlast.workingPlace.trans h.workingPlace
  kindAt? place := by
    rw [hlast.kindAt?, h.kindAt?, ← List.append_assoc]
    by_cases hplace : place = base ++ names ++ [name]
    · have hbase : base <+: base ++ names ++ [name] := by
        rw [List.append_assoc]
        exact List.prefix_append _ _
      rw [if_pos hplace, hplace, if_pos ⟨hbase, List.prefix_refl _⟩]
    · simp only [List.prefix_concat_iff, hplace, if_false, false_or]

/-- No directory on the way takes the place of a file. -/
theorem fileAt?_eq_none (h : Built fs next base names)
    (hplace : fs.tree.fileAt? place = none) : next.tree.fileAt? place = none := by
  rw [Option.eq_none_iff_forall_ne_some] at hplace ⊢
  intro bytes hbytes
  rw [FileTree.fileAt?_eq_some_iff, h.kindAt?] at hbytes
  split at hbytes
  · cases hbytes
  · exact hplace bytes (FileTree.fileAt?_eq_some_iff.2 hbytes)

end Built

/-- The directory of the last of some names: the one above it is missing, or it is made unless it is
there already. -/
theorem makeDirectory_below (hleads : LeadsTo fs output base)
    (hnames : ∀ s ∈ names ++ [name], IsEntryName s)
    (hissue : pathIssue? (output.below (names ++ [name])) = none)
    (hfree : ∀ front, front <+: names ++ [name] → fs.tree.fileAt? (base ++ front) = none) :
    (fs.tree.kindAt? (base ++ names) = none ∧
        fs.makeDirectory (output.below (names ++ [name])) = .error .notFound) ∨
      (fs.tree.kindAt? (base ++ names) = some .directory ∧
        ∃ last, Provides fs last (base ++ (names ++ [name])) ∧
          (fs.makeDirectory (output.below (names ++ [name])) = .ok last ∨
            last = fs ∧ fs.makeDirectory (output.below (names ++ [name])) = .error .alreadyExists ∧
              fs.isDirectory (output.below (names ++ [name])) = true)) := by
  have hname : IsEntryName name := hnames name (List.mem_append_right _ List.mem_cons_self)
  have hlast : (lastStep (output.below (names ++ [name]))).2.1 = name := by
    rw [lastStep_below hname.toIsName]
  have hsize : ¬ name.utf8ByteSize > maxNameSize := Nat.not_lt.2 hname.size
  rcases locateParent_below hleads hnames hissue
    fun front hfront => hfree front (hfront.trans (List.prefix_append _ _))
    with ⟨hdirectory, hparent⟩ | ⟨hnone, hparent⟩
  · have hsplit : base ++ names ++ [name] = base ++ (names ++ [name]) := List.append_assoc _ _ _
    refine Or.inr ⟨hdirectory, ?_⟩
    unfold makeDirectory
    rw [hparent, hlast]
    simp only [hname.proper, Bool.false_eq_true, if_false, if_neg hsize]
    cases hkind : fs.tree.kindAt? (base ++ names ++ [name]) with
    | none =>
      have hmissing : ¬ (fs.tree.get? (base ++ names ++ [name])).isSome = true := by
        rw [FileTree.isSome_get?, hkind]
        exact Bool.false_ne_true
      have hfree : fs.tree.kindAt? (base ++ names ++ [name]) ≠ some .directory := by
        rw [hkind]
        simp
      have hsets := Sets.put_leaf hdirectory hfree FileTree.kindAt?_empty
      rw [if_neg hmissing]
      exact ⟨_, ⟨hsets.workingPlace, hsplit ▸ hsets.kindAt?⟩, Or.inl rfl⟩
    | some kind =>
      have hsome : (fs.tree.get? (base ++ names ++ [name])).isSome = true := by
        rw [FileTree.isSome_get?, hkind]
        rfl
      rw [if_pos hsome]
      rw [hsplit] at hkind
      cases kind with
      | file bytes =>
        have hfile := hfree _ (List.prefix_refl _)
        rw [FileTree.fileAt?_eq_some_iff.2 hkind] at hfile
        cases hfile
      | directory =>
        have hthere := leadsTo_below hleads hnames hissue hfree hkind
        exact ⟨fs, Provides.refl hkind, Or.inr ⟨rfl, rfl, hthere.isDirectory⟩⟩
  · refine Or.inl ⟨hnone, ?_⟩
    unfold makeDirectory
    rw [hparent]

/-! ## Making directories and writing a file -/

theorem pathIssue?_below (hnames : ∀ s ∈ names ++ [name], IsName s) (hne : names ≠ [])
    (hissue : pathIssue? (output.below (names ++ [name])) = none) :
    pathIssue? (output.below names) = none := by
  obtain ⟨before, last, rfl⟩ := (List.eq_nil_or_concat names).resolve_left hne
  rw [List.concat_eq_append] at *
  have hname : IsName name := hnames name (by simp)
  have hlast : IsName last := hnames last (by simp)
  rw [Path.below_concat _ (before ++ [last])] at hissue
  refine pathIssue?_of_isPrefix hissue (Path.isPrefix_join hname.isAbsolute) ?_
  rw [Path.below_concat]
  exact Path.text_join_ne_empty hlast _

/-- Directories below one that exists are made, and all those above them that are missing. -/
theorem makeChain_below (hnames : ∀ s ∈ names, IsEntryName s) (hne : names ≠ []) (steps : Nat)
    (hsteps : names.length ≤ steps + 1) (hleads : LeadsTo fs output base)
    (hissue : pathIssue? (output.below names) = none)
    (hfree : ∀ front, front <+: names → fs.tree.fileAt? (base ++ front) = none) :
    ∃ next, fs.makeChain (output.below names
        :: Path.ancestorsWithin steps (output.below names)) = (next, .ok ()) ∧
      Built fs next base names := by
  induction names using List.reverseRecOn generalizing steps with
  | nil => exact absurd rfl hne
  | append_singleton before name ih =>
    have hname : IsEntryName name := hnames name (List.mem_append_right _ List.mem_cons_self)
    have hbefore : ∀ s ∈ before, IsEntryName s := fun s hs => hnames s (List.mem_append_left _ hs)
    have htext : (output.below (before ++ [name])).text ≠ "" :=
      (pathIssue?_eq_none_iff.1 hissue).2.1
    rw [makeChain, if_neg htext]
    rcases makeDirectory_below hleads hnames hissue hfree with
      ⟨hmissing, hmake⟩ | ⟨hthere, last, hlast, hmake | ⟨rfl, hmake, hdirectory⟩⟩
    · have hproper : before ≠ [] := by
        rintro rfl
        rw [List.append_nil, hleads.directory] at hmissing
        cases hmissing
      have hall : ∀ s ∈ before ++ [name], IsName s := fun s hs => (hnames s hs).toIsName
      rw [List.length_append, List.length_singleton] at hsteps
      obtain ⟨others, rfl⟩ : ∃ others, steps = others + 1 :=
        Nat.exists_eq_add_one.2 (Nat.lt_of_lt_of_le (List.length_pos_iff.2 hproper) (by omega))
      have habove : Path.ancestorsWithin (others + 1) (output.below (before ++ [name]))
          = output.below before :: Path.ancestorsWithin others (output.below before) := by
        rw [Path.ancestorsWithin, Path.parent?_below hall hproper]
      -- the directories above are made first, and then this one for the second time
      obtain ⟨grown, hchain, hbuilt⟩ := ih hbefore hproper others (by omega)
        (pathIssue?_below hall hproper hissue)
        fun front hfront => hfree front (hfront.trans (List.prefix_append _ _))
      have hgrown := makeDirectory_below (hleads.grows hbuilt.grows) hnames hissue
        fun front hfront => hbuilt.fileAt?_eq_none (hfree front hfront)
      rw [habove, hmake]
      simp only [hchain]
      rcases hgrown with ⟨hnone, -⟩ | ⟨-, last, hlast, hmake' | ⟨rfl, hmake', hdirectory⟩⟩
      · have hhere : grown.tree.kindAt? (base ++ before) = some .directory := by
          rw [hbuilt.kindAt?, if_pos ⟨List.prefix_append _ _, List.prefix_refl _⟩]
        rw [hhere] at hnone
        cases hnone
      · rw [hmake']
        exact ⟨last, rfl, hbuilt.concat hlast⟩
      · rw [hmake']
        refine ⟨last, ?_, hbuilt.concat hlast⟩
        simp only [orExisting, hdirectory, if_true]
    · rw [hmake]
      exact ⟨last, rfl, (Built.refl hthere).concat hlast⟩
    · rw [hmake]
      refine ⟨last, ?_, (Built.refl hthere).concat hlast⟩
      simp only [orExisting, hdirectory, if_true]

/-- A step that was taken can be taken as far as the directory that it leads out of. -/
theorem follow_concat {reached : List String} (hstep : name ≠ "")
    (h : fs.follow base (names ++ [name]) = .ok reached) :
    ∃ place, fs.follow base (names ++ ["."]) = .ok place ∧
      fs.follow place [name] = .ok reached := by
  rw [follow_append] at h
  cases hnames : fs.follow base names with
  | error issue => simp [hnames, Except.bind] at h
  | ok place =>
    rw [hnames] at h
    have hdirectory : fs.tree.kindAt? place = some .directory := by
      have hlast : fs.follow place [name] = .ok reached := h
      rw [follow_cons, if_neg hstep] at hlast
      split at hlast
      · next entries hentries => exact FileTree.get?_eq_directory_iff.2 ⟨entries, hentries⟩
      · simp at hlast
    refine ⟨place, ?_, h⟩
    rw [follow_append, hnames]
    exact LeadsTo.follow_dot hdirectory

/-- A name leads out of a directory that has an entry of that name. -/
theorem entry_of_follow_name {reached : List String} (hname : isFixedStep name = false)
    (h : fs.follow place [name] = .ok reached) :
    ¬ name.utf8ByteSize > maxNameSize ∧ (fs.tree.get? (place ++ [name])).isSome = true := by
  obtain ⟨hempty, hdot, hdots⟩ := isFixedStep_eq_false_iff.1 hname
  rw [follow_cons, if_neg hempty] at h
  split at h
  · next entries hentries =>
    rw [if_neg hdot, if_neg hdots] at h
    split at h
    · simp at h
    · next hsize =>
      split at h
      · next hentry =>
        refine ⟨hsize, ?_⟩
        rwa [FileTree.isSome_get?, FileTree.kindAt?_concat hentries, Option.isSome_map]
      · simp at h
  · simp at h

/-- A directory that is there is not made again. -/
theorem makeDirectory_of_leadsTo (h : LeadsTo fs p place) :
    fs.makeDirectory p = .error .alreadyExists := by
  have hfollow : fs.follow (fs.start p) p.names = .ok place := by
    rw [← placeOf_eq, h.placeOf]
  unfold makeDirectory locateParent
  rw [h.issue]
  rcases List.eq_nil_or_concat p.names with hnames | ⟨before, name, hnames⟩
  · have hempty : ∀ s ∈ (steps p).reverse, decide (s = "") = true := by
      intro s hs
      have hfilter := List.filter_eq_nil_iff.1 hnames s (List.mem_reverse.1 hs)
      simpa using hfilter
    have hlast : (lastStep p).1 = [] ∧ (lastStep p).2.1 = "" := by
      unfold lastStep
      simp only [List.dropWhile_eq_nil_iff.2 hempty]
      exact ⟨rfl, rfl⟩
    rw [hnames, follow_nil, Except.ok.injEq] at hfollow
    rw [hlast.1, hlast.2, hfollow, List.nil_append, LeadsTo.follow_dot h.directory]
    rfl
  · rw [List.concat_eq_append] at hnames
    obtain ⟨hbefore, hlast⟩ := lastStep_spec hnames
    have hname : name ≠ "" := by
      have hmem : name ∈ p.names := by
        rw [hnames]
        exact List.mem_append_right _ List.mem_cons_self
      simpa using (List.mem_filter.1 hmem).2
    rw [hnames] at hfollow
    obtain ⟨parent, hparent, hstep⟩ := follow_concat hname hfollow
    have hdot : fs.follow (fs.start p) ((lastStep p).1 ++ ["."]) = .ok parent := by
      rw [← follow_filter, List.filter_append, hbefore]
      exact hparent
    simp only [hdot, hlast]
    cases hfixed : isFixedStep name with
    | true => rfl
    | false =>
      obtain ⟨hsize, hentry⟩ := entry_of_follow_name hfixed hstep
      simp only [Bool.false_eq_true, if_false, if_neg hsize, hentry, if_true]

theorem makeDirectories_of_leadsTo (h : LeadsTo fs p place) :
    fs.makeDirectories p = (fs, .ok ()) := by
  have htext : p.text ≠ "" := (pathIssue?_eq_none_iff.1 h.issue).2.1
  unfold makeDirectories
  rw [makeChain, if_neg htext, makeDirectory_of_leadsTo h]
  simp only [orExisting, h.isDirectory, if_true]

/-- Dots lead nowhere. -/
theorem follow_dots {dots : List String} (hdots : ∀ s ∈ dots, s = ".") {reached : List String}
    (h : fs.follow place dots = .ok reached) : reached = place := by
  induction dots with
  | nil =>
    rw [follow_nil, Except.ok.injEq] at h
    exact h.symm
  | cons dot rest ih =>
    rw [hdots dot List.mem_cons_self] at h
    have hcons : "." :: rest = ["."] ++ rest := rfl
    rw [hcons, follow_append] at h
    cases hdot : fs.follow place ["."] with
    | error issue => simp [hdot, Except.bind] at h
    | ok here =>
      obtain ⟨-, rfl⟩ := follow_dot hdot
      rw [hdot] at h
      exact ih (fun s hs => hdots s (List.mem_cons_of_mem dot hs)) h

/-- The directory of a file right below a path is that path, whatever silent steps it ends in. -/
theorem makeDirectories_parent (hleads : LeadsTo fs output base) (hname : IsName name) :
    ∃ above, (output.join ⟨name⟩).parent? = some above ∧
      fs.makeDirectories above = (fs, .ok ()) := by
  obtain ⟨above, hparent, hbegin, hnames⟩ := Path.parent?_join_spec output hname
  refine ⟨above, hparent, ?_⟩
  by_cases hempty : above.text = ""
  · unfold makeDirectories
    rw [makeChain, if_pos hempty]
  · have habsolute : above.isAbsolute = output.isAbsolute := by
      have hne : above.text.toList ≠ [] := fun h => hempty (String.toList_eq_nil_iff.1 h)
      obtain ⟨rest, hrest⟩ := hbegin
      unfold Path.isAbsolute
      rw [← hrest, List.head?_append_of_ne_nil _ hne]
    have hstart : fs.start above = fs.start output := by
      unfold start
      rw [habsolute]
    obtain ⟨dots, hdots, hall⟩ := hnames hempty
    have hplace := hleads.placeOf
    rw [placeOf_eq, hdots, follow_append] at hplace
    cases hreached : fs.follow (fs.start output) above.names with
    | error issue => simp [hreached, Except.bind] at hplace
    | ok reached =>
      rw [hreached] at hplace
      have hbase : base = reached := follow_dots hall hplace
      have habove : LeadsTo fs above base := by
        refine ⟨pathIssue?_of_isPrefix hleads.issue hbegin hempty, ?_, hleads.directory⟩
        rw [placeOf_eq, hstart, hreached, hbase]
      exact makeDirectories_of_leadsTo habove

/-- What writing a text below a directory leaves: the file, and directories on the way to it. -/
structure Filed (fs next : FileSystem) (base names : List String) (name : String)
    (bytes : ByteArray) : Prop where
  grows : Grows fs next
  kindAt? : ∀ place, next.tree.kindAt? place
    = if place = base ++ (names ++ [name]) then some (.file bytes)
      else if base <+: place ∧ place <+: base ++ names then some .directory
      else fs.tree.kindAt? place

theorem writeFile_below_ok (hleads : LeadsTo fs output base)
    (hnames : ∀ s ∈ names ++ [name], IsEntryName s)
    (hissue : pathIssue? (output.below (names ++ [name])) = none)
    (hfree : ∀ front, front <+: names → fs.tree.fileAt? (base ++ front) = none)
    (hdirectory : fs.tree.kindAt? (base ++ names) = some .directory)
    (hplace : fs.tree.kindAt? (base ++ (names ++ [name])) ≠ some .directory) (bytes : ByteArray) :
    ∃ next, fs.writeFile (output.below (names ++ [name])) bytes = .ok next ∧
      Sets fs next (base ++ (names ++ [name])) (.file bytes) := by
  have hname : IsEntryName name := hnames name (List.mem_append_right _ List.mem_cons_self)
  have hsize : ¬ name.utf8ByteSize > maxNameSize := Nat.not_lt.2 hname.size
  have hparent : fs.locateParent (output.below (names ++ [name])) = .ok (base ++ names) := by
    rcases locateParent_below hleads hnames hissue hfree with ⟨-, hparent⟩ | ⟨hnone, -⟩
    · exact hparent
    · rw [hdirectory] at hnone
      cases hnone
  rw [← List.append_assoc] at hplace ⊢
  refine ⟨_, ?_, Sets.put_leaf hdirectory hplace (FileTree.kindAt?_file bytes)⟩
  have hlast : lastStep (output.below (names ++ [name]))
      = ((lastStep (output.below (names ++ [name]))).1, name, false) :=
    Prod.ext rfl (lastStep_below hname.toIsName)
  unfold writeFile
  rw [hparent, hlast]
  simp only [hname.proper, Bool.or_self, Bool.false_eq_true, if_false, if_neg hsize]
  split
  · next entries hentries =>
    exact absurd (FileTree.get?_eq_directory_iff.2 ⟨entries, hentries⟩) hplace
  · rfl

/-- A text is written below a directory if no file is in the way and no directory in its place. -/
theorem writeText_below (hleads : LeadsTo fs output base)
    (hnames : ∀ s ∈ names ++ [name], IsEntryName s)
    (hissue : pathIssue? (output.below (names ++ [name])) = none)
    (hfree : ∀ front, front <+: names → fs.tree.fileAt? (base ++ front) = none)
    (hplace : fs.tree.kindAt? (base ++ (names ++ [name])) ≠ some .directory) (text : String) :
    ∃ next, fs.writeText (output.below (names ++ [name])) text = (next, .ok ()) ∧
      Filed fs next base names name text.toUTF8 := by
  have hall : ∀ s ∈ names ++ [name], IsName s := fun s hs => (hnames s hs).toIsName
  have hname : IsEntryName name := hnames name (List.mem_append_right _ List.mem_cons_self)
  have hbefore : ∀ s ∈ names, IsEntryName s := fun s hs => hnames s (List.mem_append_left _ hs)
  obtain ⟨above, ready, hparent, hmade, hbuilt⟩ : ∃ above ready,
      (output.below (names ++ [name])).parent? = some above ∧
        fs.makeDirectories above = (ready, .ok ()) ∧ Built fs ready base names := by
    by_cases hnil : names = []
    · subst hnil
      obtain ⟨above, hparent, hmade⟩ := makeDirectories_parent hleads hname.toIsName
      refine ⟨above, fs, hparent, hmade, Built.refl ?_⟩
      rw [List.append_nil]
      exact hleads.directory
    · have hlength := Path.length_le_length_below (fun s hs => (hbefore s hs).toIsName) output
      obtain ⟨ready, hmade, hbuilt⟩ := makeChain_below hbefore hnil _ (Nat.le_succ_of_le hlength)
        hleads (pathIssue?_below hall hnil hissue) hfree
      exact ⟨_, ready, Path.parent?_below hall hnil output, hmade, hbuilt⟩
  have hdirectory : ready.tree.kindAt? (base ++ names) = some .directory := by
    rw [hbuilt.kindAt?, if_pos ⟨List.prefix_append _ _, List.prefix_refl _⟩]
  have hfile : ready.tree.kindAt? (base ++ (names ++ [name])) ≠ some .directory := by
    rw [hbuilt.kindAt?, if_neg]
    · exact hplace
    · rintro ⟨-, hlonger⟩
      have hlength := hlonger.length_le
      simp at hlength
  obtain ⟨next, hwrite, hsets⟩ := writeFile_below_ok (hleads.grows hbuilt.grows) hnames hissue
    (fun front hfront => hbuilt.fileAt?_eq_none (hfree front hfront)) hdirectory hfile text.toUTF8
  refine ⟨next, ?_, hbuilt.grows.trans hsets.grows, ?_⟩
  · unfold writeText
    simp only [hparent, hmade, Except.mapError, hwrite]
  · intro place
    rw [hsets.kindAt?, hbuilt.kindAt?]

end ApiDocs.FileSystem
