import ApiDocs.Proofs.Files.Building
import ApiDocs.Proofs.Output.Emission
import Mathlib.Data.List.Nodup
import Mathlib.Data.List.Pairwise

/-!
# The tree of JSON files

In an empty directory the files of a tree can only be in the way of each other: a group may need a
directory that has the place and the name of the file of the listing or of another group (`Fits`
excludes this). If none does, everything that stands below the directory while the files are written
is one of them or a directory on the way to one (`Accounted`), so each of them is written
(`forM_emitArtifact_ok`), and conversely two files of which one stands above the other cannot both be
there (`apart_of_wrote`).
-/

set_option autoImplicit false

namespace ApiDocs

open FileSystem (IsEntryName LeadsTo maxNameSize maxPathSize pathIssue?)

/-! ## Places of files -/

/-- Two places of which none is above the other. -/
def Beside (a b : List String) : Prop :=
  ¬ a <+: b ∧ ¬ b <+: a

instance : Std.Symm Beside :=
  ⟨fun _ _ h => ⟨h.2, h.1⟩⟩

/-- No file of a list stands above another one. -/
def Apart (cs : List Content) : Prop :=
  cs.Pairwise fun c d => Beside c.names d.names

/-- No group needs a directory in the place of the listing or of the file of a group. -/
def Groups.Fits (groups : Groups) : Prop :=
  ∀ key ∈ groups.keys, ∀ above ∈ [] :: groups.keys.map GroupKey.segments,
    ¬ above ++ [Artifact.treeFileName] <+: key.segments

instance (groups : Groups) : Decidable groups.Fits :=
  inferInstanceAs (Decidable (∀ key ∈ groups.keys, _))

theorem concat_isPrefix_concat_iff {name : String} {a b : List String} (hne : a ≠ b) :
    a ++ [name] <+: b ++ [name] ↔ a ++ [name] <+: b := by
  rw [List.prefix_concat_iff, List.append_left_inj]
  exact or_iff_right hne

theorem not_concat_isPrefix (a : List String) (name : String) : ¬ a ++ [name] <+: a := by
  intro h
  have hlength := h.length_le
  rw [List.length_append, List.length_singleton] at hlength
  omega

/-- The directories of the files of a tree. -/
def treeDirectories (groups : Groups) : List (List String) :=
  groups.keys.map GroupKey.segments ++ [[]]

theorem names_contents_swagger (doc : Documentation) :
    (contents .swagger doc).map Content.names
      = (treeDirectories doc.groups).map (· ++ [Artifact.treeFileName]) := by
  unfold contents treeDirectories SortedMap.keys
  simp only [List.map_append, List.map_map, List.map_cons, List.map_nil, List.nil_append]
  rfl

/-- The files of a tree stand apart exactly if its groups fit into it. -/
theorem apart_contents_iff (doc : Documentation) :
    Apart (contents .swagger doc) ↔ doc.groups.Fits := by
  have hnames := names_contents_swagger doc
  have hnodup := nodup_contents .swagger doc
  rw [hnames] at hnodup
  have happart : Apart (contents .swagger doc) ↔ ∀ a ∈ treeDirectories doc.groups,
      ∀ b ∈ treeDirectories doc.groups, a ≠ b →
        ¬ a ++ [Artifact.treeFileName] <+: b ++ [Artifact.treeFileName] := by
    unfold Apart
    rw [← List.pairwise_map, hnames]
    constructor
    · intro hpairs a ha b hb hne
      have hbeside := hpairs.forall (List.mem_map_of_mem ha) (List.mem_map_of_mem hb)
        fun hsame => hne (List.append_cancel_right hsame)
      exact hbeside.1
    · intro hall
      rw [List.pairwise_map]
      refine (List.Nodup.of_map _ hnodup).pairwise_of_forall_ne fun a ha b hb hne => ?_
      exact ⟨hall a ha b hb hne, hall b hb a ha hne.symm⟩
  rw [happart]
  constructor
  · intro h key hkey above habove
    have habove : above ∈ treeDirectories doc.groups := by
      unfold treeDirectories
      rw [List.mem_append, List.mem_singleton]
      exact (List.mem_cons.1 habove).symm
    have hsegments : key.segments ∈ treeDirectories doc.groups :=
      List.mem_append_left _ (List.mem_map_of_mem hkey)
    by_cases hsame : above = key.segments
    · rw [hsame]
      exact not_concat_isPrefix _ _
    · rw [← concat_isPrefix_concat_iff hsame]
      exact h above habove _ hsegments hsame
  · intro h a ha b hb hne
    rw [concat_isPrefix_concat_iff hne]
    unfold treeDirectories at ha hb
    rcases List.mem_append.1 hb with hb | hb
    · obtain ⟨key, hkey, rfl⟩ := List.mem_map.1 hb
      refine h key hkey a (List.mem_cons.2 ?_)
      exact (List.mem_append.1 ha).symm.imp_left List.mem_singleton.1
    · rw [List.mem_singleton.1 hb]
      intro hnil
      exact absurd (List.prefix_nil.1 hnil) (by simp)

/-! ## Files and directories below a place -/

namespace Run

/-- Everything that stands below a place is a file of a list or a directory on the way to one. -/
structure Accounted (fs : FileSystem) (base : List String) (cs : List Content) : Prop where
  file : ∀ rest bytes, fs.tree.kindAt? (base ++ rest) = some (.file bytes) →
    ∃ c ∈ cs, c.names = rest
  directory : ∀ rest, fs.tree.kindAt? (base ++ rest) = some .directory →
    rest = [] ∨ ∃ c ∈ cs, rest <+: c.names

/-- A file of a tree that the file system can take. -/
structure Fitting (output : Path) (a : Artifact) (c : Content) : Prop where
  path : a.path = output.below c.names
  text : a.text = c.text
  ne_nil : c.names ≠ []
  names : ∀ s ∈ c.names, IsEntryName s
  issue : pathIssue? (output.below c.names) = none

variable {output : Path} {base : List String} {done : List Content} {c : Content} {a : Artifact}

/-- One more file, with the directories on the way to it. -/
theorem Accounted.cons {fs next : FileSystem} {names : List String} {name : String}
    {bytes : ByteArray} (h : Accounted fs base done)
    (hfiled : FileSystem.Filed fs next base names name bytes) (hnames : c.names = names ++ [name]) :
    Accounted next base (c :: done) := by
  constructor
  · intro rest bytes hkind
    rw [hfiled.kindAt?] at hkind
    split at hkind
    · next hrest =>
      exact ⟨c, List.mem_cons_self, hnames.trans (List.append_cancel_left hrest).symm⟩
    · split at hkind
      · cases hkind
      · obtain ⟨d, hd, hrest⟩ := h.file rest bytes hkind
        exact ⟨d, List.mem_cons_of_mem c hd, hrest⟩
  · intro rest hkind
    rw [hfiled.kindAt?] at hkind
    split at hkind
    · cases hkind
    · split at hkind
      · next hbetween =>
        refine Or.inr ⟨c, List.mem_cons_self, ?_⟩
        rw [hnames]
        exact ((List.prefix_append_right_inj base).1 hbetween.2).trans (List.prefix_append _ _)
      · rcases h.directory rest hkind with hnil | ⟨d, hd, hfront⟩
        · exact Or.inl hnil
        · exact Or.inr ⟨d, List.mem_cons_of_mem c hd, hfront⟩

/-- A file that stands apart from those that were written before is written. -/
theorem emitArtifact_ok (ha : Fitting output a c) (w : Workspace)
    (hleads : LeadsTo w.files output base) (haccounted : Accounted w.files base done)
    (hapart : ∀ d ∈ done, Beside d.names c.names) :
    ∃ left, (emitArtifact a).run.run w = (.ok (), left) ∧
      LeadsTo left.files output base ∧ Accounted left.files base (c :: done) := by
  obtain ⟨names, name, hnames⟩ := (List.eq_nil_or_concat c.names).resolve_left ha.ne_nil
  rw [List.concat_eq_append] at hnames
  have hissue := ha.issue
  have hentries := ha.names
  rw [hnames] at hissue hentries
  -- a file on the way would be one that was written before, and stand above this one
  have hfree : ∀ front, front <+: names → w.files.tree.fileAt? (base ++ front) = none := by
    intro front hfront
    rw [Option.eq_none_iff_forall_ne_some]
    intro bytes hbytes
    obtain ⟨d, hd, rfl⟩ := haccounted.file _ _ (FileTree.fileAt?_eq_some_iff.1 hbytes)
    refine (hapart d hd).1 ?_
    rw [hnames]
    exact hfront.trans (List.prefix_append _ _)
  -- and a directory in its place would be on the way to one that was written before
  have hplace : w.files.tree.kindAt? (base ++ (names ++ [name])) ≠ some .directory := by
    intro hkind
    rcases haccounted.directory _ hkind with hnil | ⟨d, hd, hfront⟩
    · simp at hnil
    · rw [← hnames] at hfront
      exact (hapart d hd).2 hfront
  obtain ⟨next, hwrite, hfiled⟩ :=
    FileSystem.writeText_below hleads hentries hissue hfree hplace a.text
  refine ⟨⟨next, w.notices ++ a.notices⟩, ?_, hleads.grows hfiled.grows,
    haccounted.cons hfiled hnames⟩
  unfold emitArtifact
  rw [run_bind, write_run, ha.path, hnames, hwrite]
  rfl

/-- Files that stand apart from each other and from those that were written before are all
written. -/
theorem forM_emitArtifact_ok {as : List Artifact} {cs : List Content}
    (has : List.Forall₂ (Fitting output) as cs) (hapart : Apart cs)
    (hdone : ∀ d ∈ done, ∀ c ∈ cs, Beside d.names c.names) (w : Workspace)
    (hleads : LeadsTo w.files output base) (haccounted : Accounted w.files base done) :
    ((as.forM emitArtifact).run.run w).1 = .ok () := by
  induction has generalizing w done with
  | nil => rfl
  | @cons a c as cs ha _ ih =>
    obtain ⟨hc, hcs⟩ := List.pairwise_cons.1 hapart
    obtain ⟨left, hrun, hleads, haccounted⟩ := emitArtifact_ok ha w hleads haccounted
      fun d hd => hdone d hd c List.mem_cons_self
    simp only [List.forM_eq_forM] at ih ⊢
    rw [List.forM_cons, run_bind, hrun]
    refine ih hcs ?_ left hleads haccounted
    intro d hd e he
    rcases List.mem_cons.1 hd with rfl | hd
    · exact hc e he
    · exact hdone d hd e (List.mem_cons_of_mem c he)

/-- A file that was written stands above no other one. -/
theorem apart_of_wrote {cs : List Content} {before after : FileSystem}
    (hwrote : Wrote output base cs before after) (hnodup : (cs.map Content.names).Nodup) :
    Apart cs := by
  have habove : ∀ c ∈ cs, ∀ d ∈ cs, c.names ≠ d.names → ¬ c.names <+: d.names := by
    rintro c hc d hd hne ⟨rest, hrest⟩
    have hkind := FileTree.fileAt?_eq_some_iff.1 (hwrote.written c hc)
    have hkind' := FileTree.fileAt?_eq_some_iff.1 (hwrote.written d hd)
    cases rest with
    | nil => exact hne ((List.append_nil _).symm.trans hrest)
    | cons step rest =>
      -- the second would stand below the first, where nothing can be
      have hnot : after.tree.kindAt? (base ++ c.names) ≠ some .directory := by
        rw [hkind]
        simp
      have hnone := FileTree.kindAt?_append_cons hnot step rest
      rw [List.append_assoc, hrest, hkind'] at hnone
      cases hnone
  rw [List.Nodup, List.pairwise_map] at hnodup
  refine hnodup.imp_of_mem fun hc hd hne => ?_
  exact ⟨habove _ hc _ hd hne, habove _ hd _ hc hne.symm⟩

/-- What was written had a path that can be looked up. -/
theorem pathIssue?_of_forM_ok {as : List Artifact} {w : Workspace}
    (h : ((as.forM emitArtifact).run.run w).1 = .ok ()) : ∀ a ∈ as, pathIssue? a.path = none := by
  induction as generalizing w with
  | nil => exact fun _ ha => absurd ha List.not_mem_nil
  | cons a as ih =>
    simp only [List.forM_eq_forM] at ih h
    rw [List.forM_cons, run_bind] at h
    have hwrite := FileSystem.writeText_spec w.files a.path a.text
    unfold emitArtifact at h
    rw [run_bind, write_run] at h
    obtain ⟨ready, -, ⟨e, hfailed⟩ | ⟨next, hwritten, hdone⟩⟩ := hwrite
    · rw [hfailed] at h
      cases h
    · rw [hdone] at h
      intro b hb
      rcases List.mem_cons.1 hb with rfl | hb
      · unfold FileSystem.writeFile FileSystem.locateParent at hwritten
        cases hissue : pathIssue? b.path with
        | none => rfl
        | some issue => simp [hissue] at hwritten
      · exact ih h b hb

/-! ## Trees in empty directories -/

/-- The artifacts of a tree lie below the output directory, where names that a directory can hold
lead to them. -/
theorem fitting_artifacts {doc : Documentation} {fs : FileSystem}
    (hleads : LeadsTo fs output base)
    (hnames : ∀ key ∈ doc.groups.keys, ∀ s ∈ key.segments,
      '\x00' ∉ s.toList ∧ s.utf8ByteSize ≤ maxNameSize)
    (hsize : ∀ a ∈ artifacts .swagger doc output, a.path.text.utf8ByteSize ≤ maxPathSize) :
    List.Forall₂ (Fitting output) (artifacts .swagger doc output) (contents .swagger doc) := by
  have hfile : IsEntryName Artifact.treeFileName :=
    ⟨⟨by decide, by decide⟩, by decide⟩
  have hnull := (FileSystem.pathIssue?_eq_none_iff.1 hleads.issue).1
  have fitting : ∀ (a : Artifact) (c : Content) (names : List String),
      a ∈ artifacts .swagger doc output → a.path = output.below c.names → a.text = c.text →
      c.names = names ++ [Artifact.treeFileName] →
      (∀ s ∈ names, IsEntryName s ∧ '\x00' ∉ s.toList) → Fitting output a c := by
    intro a c names ha hpath htext hc hentries
    have hall : ∀ s ∈ c.names, IsEntryName s ∧ '\x00' ∉ s.toList := by
      intro s hs
      rw [hc] at hs
      rcases List.mem_append.1 hs with hs | hs
      · exact hentries s hs
      · rw [List.mem_singleton.1 hs]
        exact ⟨hfile, by decide⟩
    refine ⟨hpath, htext, by simp [hc], fun s hs => (hall s hs).1, ?_⟩
    rw [FileSystem.pathIssue?_eq_none_iff]
    refine ⟨?_, ?_, hpath ▸ hsize a ha⟩
    · exact FileSystem.null_not_mem_below hnull fun s hs => ⟨(hall s hs).1.toIsName, (hall s hs).2⟩
    · rw [hc, Path.below_concat]
      exact Path.text_join_ne_empty hfile.toIsName _
  refine List.rel_append ?_ (.cons ?_ .nil)
  · rw [List.forall₂_map_left_iff, List.forall₂_map_right_iff]
    refine List.forall₂_same.2 fun e he => ?_
    have hsegments : ∀ s ∈ e.1.segments, IsEntryName s ∧ '\x00' ∉ s.toList := by
      intro s hs
      obtain ⟨hnull, hsize⟩ := hnames e.1 (List.mem_map_of_mem he) s hs
      exact ⟨⟨⟨(GroupKey.segment_spec hs).1, isFixedStep_of_segment hs⟩, hsize⟩, hnull⟩
    have hmem : Artifact.ofGroup output e.1 e.2 ∈ artifacts .swagger doc output :=
      List.mem_append_left _ (List.mem_map_of_mem he)
    have hpath : (Artifact.ofGroup output e.1 e.2).path
        = output.below (e.1.segments ++ [Artifact.treeFileName]) := by
      rw [Path.below_concat, ← Path.join_directory fun s hs => (hsegments s hs).1.toIsName,
        Artifact.ofGroup]
    exact fitting _ _ e.1.segments hmem hpath rfl rfl hsegments
  · exact fitting _ _ [] (List.mem_append_right _ List.mem_cons_self) rfl rfl rfl
      fun _ hs => absurd hs List.not_mem_nil

theorem accounted_of_empty {fs : FileSystem} (h : fs.tree.get? base = some .empty) :
    Accounted fs base [] := by
  have hkind : ∀ rest, fs.tree.kindAt? (base ++ rest)
      = if rest = [] then some .directory else none := by
    intro rest
    rw [← FileTree.kindAt?_empty, FileTree.kindAt?, FileTree.get?_append h, FileTree.kindAt?]
  constructor
  · intro rest bytes hfile
    rw [hkind] at hfile
    split at hfile <;> cases hfile
  · intro rest hdirectory
    rw [hkind] at hdirectory
    split at hdirectory
    · next hrest => exact Or.inl hrest
    · cases hdirectory

theorem emit_ok_iff {format : OutputFormat} {doc : Documentation} {w : Workspace} :
    ((emit format doc output).run.run w).1 = .ok ()
      ↔ (((artifacts format doc output).forM emitArtifact).run.run w).1 = .ok () := by
  unfold emit
  rw [run_bind]
  cases hrun : ((artifacts format doc output).forM emitArtifact).run.run w with
  | mk outcome left =>
    cases outcome with
    | error e => exact Iff.rfl
    | ok _ => exact Iff.rfl

/-- The files that were written into an empty directory are all that it holds. -/
theorem fileAt?_of_wrote {cs : List Content} {before after : FileSystem}
    (hleads : LeadsTo before output base) (hempty : before.tree.get? base = some .empty)
    (hwrote : Wrote output base cs before after) :
    ∃ tree, after.find? output = some tree ∧ ∀ place bytes,
      tree.fileAt? place = some bytes ↔ ∃ c ∈ cs, place = c.names ∧ bytes = c.text.toUTF8 := by
  have hafter := hleads.grows hwrote.grows
  obtain ⟨entries, hentries⟩ := FileTree.get?_eq_directory_iff.1 hafter.directory
  refine ⟨.directory entries, ?_, fun place bytes => ?_⟩
  · unfold FileSystem.find?
    rw [hafter.locate]
    exact hentries
  · rw [← FileTree.fileAt?_append hentries]
    constructor
    · intro hfile
      by_contra hnone
      have hother : ∀ c ∈ cs, base ++ place ≠ base ++ c.names := by
        intro c hc hplace
        have hplace : place = c.names := List.append_cancel_left hplace
        rw [hplace, hwrote.written c hc, Option.some.injEq] at hfile
        exact hnone ⟨c, hc, hplace, hfile.symm⟩
      rw [hwrote.others _ hother, FileTree.fileAt?_append hempty, FileTree.fileAt?_eq_some_iff,
        FileTree.kindAt?_empty] at hfile
      split at hfile <;> cases hfile
    · rintro ⟨c, hc, rfl, rfl⟩
      exact hwrote.written c hc

theorem exists_mem_contents_swagger {doc : Documentation} {p : Content → Prop} :
    (∃ c ∈ contents .swagger doc, p c)
      ↔ (∃ e ∈ doc.groups.entries, p ⟨e.1.segments ++ ["index.json"], e.2.toJson.toIndented⟩)
        ∨ p ⟨["index.json"], doc.listing.toJson.toIndented⟩ := by
  unfold contents
  simp only [List.mem_append, List.mem_map, List.mem_singleton, or_and_right, exists_or,
    exists_eq_left, exists_exists_and_eq_and]

/-- In an empty directory a tree of JSON files is written exactly if no group needs a directory in
the place of another file of the tree and no path is too long. Then the files of the directory are
those of the groups and the listing, with their texts. -/
theorem emit_swagger_ok_iff {doc : Documentation} {w : Workspace}
    (hempty : w.files.find? output = some .empty)
    (hnames : ∀ key ∈ doc.groups.keys, ∀ s ∈ key.segments,
      '\x00' ∉ s.toList ∧ s.utf8ByteSize ≤ maxNameSize) :
    (((emit .swagger doc output).run.run w).1 = .ok ()
      ↔ doc.groups.Fits
        ∧ ∀ a ∈ artifacts .swagger doc output, a.path.text.utf8ByteSize ≤ maxPathSize)
    ∧ (((emit .swagger doc output).run.run w).1 = .ok () →
      ∃ tree, ((emit .swagger doc output).run.run w).2.files.find? output = some tree
        ∧ ∀ place bytes, tree.fileAt? place = some bytes
          ↔ (∃ e ∈ doc.groups.entries, place = e.1.segments ++ ["index.json"]
              ∧ bytes = e.2.toJson.toIndented.toUTF8)
            ∨ place = ["index.json"] ∧ bytes = doc.listing.toJson.toIndented.toUTF8) := by
  obtain ⟨base, hleads, hbase⟩ := LeadsTo.of_find? hempty
  obtain ⟨m, base', hm, hok, hwrote⟩ := emits_emit .swagger doc output w
  have hwrites : ((emit .swagger doc output).run.run w).1 = .ok () →
      Wrote output base (contents .swagger doc) w.files
        ((emit .swagger doc output).run.run w).2.files := by
    intro h
    rw [hok.1 h, List.take_length] at hwrote
    -- the directory was there before, so the files are where it was
    have hlocated := hwrote.located (by simp [contents])
    rw [(hleads.grows hwrote.grows).placeOf, Except.ok.injEq] at hlocated
    rwa [hlocated]
  constructor
  · constructor
    · intro h
      refine ⟨(apart_contents_iff doc).1 (apart_of_wrote (hwrites h) (nodup_contents _ doc)), ?_⟩
      intro a ha
      have hissue := pathIssue?_of_forM_ok (emit_ok_iff.1 h) a ha
      exact (FileSystem.pathIssue?_eq_none_iff.1 hissue).2.2
    · rintro ⟨hfits, hsize⟩
      rw [emit_ok_iff]
      exact forM_emitArtifact_ok (fitting_artifacts hleads hnames hsize)
        ((apart_contents_iff doc).2 hfits) (fun _ hd => absurd hd List.not_mem_nil) w hleads
        (accounted_of_empty hbase)
  · intro h
    obtain ⟨tree, htree, hfiles⟩ := fileAt?_of_wrote hleads hbase (hwrites h)
    refine ⟨tree, htree, fun place bytes => ?_⟩
    rw [hfiles, exists_mem_contents_swagger]

/-- Two groups of which one lies in the directory of the other. -/
theorem emit_swagger_ok_nested :
    let users : GroupKey := ⟨"users", by decide⟩
    let admin : GroupKey := ⟨"users/admin", by decide⟩
    let doc : Documentation := ⟨{}, (SortedMap.empty.insert admin default).insert users default⟩
    let w : Workspace := { files := ⟨.directory [("out", .empty)], []⟩ }
    w.files.find? ⟨"out"⟩ = some .empty
      ∧ (∀ key ∈ doc.groups.keys, ∀ s ∈ key.segments,
        '\x00' ∉ s.toList ∧ s.utf8ByteSize ≤ maxNameSize)
      ∧ ((emit .swagger doc ⟨"out"⟩).run.run w).1 = .ok ()
      ∧ ∃ tree, ((emit .swagger doc ⟨"out"⟩).run.run w).2.files.find? ⟨"out"⟩ = some tree
        ∧ tree.fileAt? ["users", "admin", "index.json"]
          = some (default : ApiDeclaration).toJson.toIndented.toUTF8 := by
  intro users admin doc w
  have hempty : w.files.find? ⟨"out"⟩ = some .empty := rfl
  have hnames : ∀ key ∈ doc.groups.keys, ∀ s ∈ key.segments,
      '\x00' ∉ s.toList ∧ s.utf8ByteSize ≤ maxNameSize := by decide
  obtain ⟨hok, hfiles⟩ := emit_swagger_ok_iff hempty hnames
  have hwritten := hok.2 ⟨by decide, by decide⟩
  obtain ⟨tree, htree, hall⟩ := hfiles hwritten
  refine ⟨hempty, hnames, hwritten, tree, htree, (hall _ _).2 (Or.inl ?_)⟩
  exact ⟨(admin, default), by decide, by decide, rfl⟩

/-- The directory of a group `index.json` is in the place of the file of the listing. -/
theorem group_in_place_of_listing :
    let key : GroupKey := ⟨"index.json", by decide⟩
    let doc : Documentation := ⟨{}, SortedMap.empty.insert key default⟩
    let w : Workspace := { files := ⟨.directory [("out", .empty)], []⟩ }
    GroupKey.parse "index.json" = .ok key
      ∧ w.files.find? ⟨"out"⟩ = some .empty
      ∧ (∀ s ∈ key.segments, '\x00' ∉ s.toList ∧ s.utf8ByteSize ≤ maxNameSize)
      ∧ ((emit .swagger doc ⟨"out"⟩).run.run w).1
        = .error (.io ⟨"out/index.json"⟩ .isADirectory) := by
  intro key doc w
  refine ⟨by decide, rfl, by decide, ?_⟩
  have hgroup : ∀ text, w.files.writeText ⟨"out/index.json/index.json"⟩ text
      = (⟨.directory [("out", .directory [("index.json", .directory
          [("index.json", .file text.toUTF8)])])], []⟩, .ok ()) := fun _ => rfl
  have hlisting : ∀ below text,
      FileSystem.writeText ⟨.directory [("out", .directory [("index.json", .directory below)])], []⟩
        ⟨"out/index.json"⟩ text
      = (⟨.directory [("out", .directory [("index.json", .directory below)])], []⟩,
        .error (.io ⟨"out/index.json"⟩ .isADirectory)) := fun _ _ => rfl
  have hartifacts : artifacts .swagger doc ⟨"out"⟩
      = [.ofGroup ⟨"out"⟩ key default, .ofListing ⟨"out"⟩ {}] := rfl
  have hfirst : (Artifact.ofGroup ⟨"out"⟩ key default).path = ⟨"out/index.json/index.json"⟩ := by
    decide
  have hsecond : (Artifact.ofListing ⟨"out"⟩ {}).path = ⟨"out/index.json"⟩ := by decide
  unfold emit
  rw [hartifacts, run_bind]
  simp only [List.forM_eq_forM, List.forM_cons, run_bind, emitArtifact, write_run, report_run,
    hfirst, hgroup, hsecond, hlisting]

end Run

end ApiDocs
