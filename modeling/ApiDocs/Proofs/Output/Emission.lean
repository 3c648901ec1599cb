import ApiDocs.Proofs.Files.Effects
import ApiDocs.Proofs.Run

/-!
# Emission touches its own files only

The files of a format lie at places below the output directory, all different from each other
(`contents`). Writing one of them changes its place or, when it fails, no file at all
(`emitArtifact_spec`). A run over all of them therefore writes the first few of them, all if it
succeeds, and leaves every other file as it was (`forM_emitArtifact`). In a tree of JSON files the
listing comes last, so it is not written unless all groups are.
-/

set_option autoImplicit false

namespace ApiDocs

open FileSystem (isFixedStep Grows KeepsFiles)

/-! ## The files of a format -/

/-- A file below the output directory: the names that lead to it, and its text. -/
structure Content where
  names : List String
  text : String

/-- The files of a format in the order in which they are written. -/
def contents (format : OutputFormat) (doc : Documentation) : List Content :=
  match format with
  | .go => [⟨["docs", "docs.go"], GoModule.source doc⟩]
  | .swagger =>
    (doc.groups.entries.map fun e => ⟨e.1.segments ++ ["index.json"], e.2.toJson.toIndented⟩)
      ++ [⟨["index.json"], doc.listing.toJson.toIndented⟩]
  | .asciidoc => [⟨["API.adoc"], Markup.document .asciidoc doc⟩]
  | .markdown => [⟨["API.md"], Markup.document .markdown doc⟩]
  | .confluence => [⟨["API.confluence"], Markup.document .confluence doc⟩]

/-- An artifact that has a content and lies where the names of the content lead from an output
directory. -/
structure Artifact.Holds (output : Path) (a : Artifact) (c : Content) : Prop where
  text : a.text = c.text
  names : a.path.names = output.names ++ c.names
  isAbsolute : a.path.isAbsolute = output.isAbsolute
  ne_nil : c.names ≠ []
  proper : ∀ s ∈ c.names, isFixedStep s = false

/-- A file right below a path whose names are known. -/
theorem holds_join {output dir : Path} {names : List String} {name : String} (text : String)
    (notices : List Notice) (hnames : dir.names = output.names ++ names)
    (habsolute : dir.isAbsolute = output.isAbsolute) (hslash : '/' ∉ name.toList)
    (hname : isFixedStep name = false) (hproper : ∀ s ∈ names, isFixedStep s = false) :
    Artifact.Holds output ⟨dir.join ⟨name⟩, text, notices⟩ ⟨names ++ [name], text⟩ where
  text := rfl
  names := by
    have hne : name ≠ "" := by
      rintro rfl
      exact absurd hname (by decide)
    rw [Path.names_join (Path.isAbsolute_of_not_mem hslash), hnames,
      Path.names_of_not_mem hne hslash, List.append_assoc]
  isAbsolute := (Path.isAbsolute_join (Path.isAbsolute_of_not_mem hslash)).trans habsolute
  ne_nil := by simp
  proper s hs := by
    rcases List.mem_append.1 hs with hs | hs
    · exact hproper s hs
    · rw [List.mem_singleton.1 hs]
      exact hname

theorem holds_ofMarkup (dialect : Markup.Dialect) (doc : Documentation) (output : Path)
    (hslash : '/' ∉ ("API" ++ dialect.extension).toList)
    (hname : isFixedStep ("API" ++ dialect.extension) = false) :
    Artifact.Holds output (.ofMarkup output dialect doc)
      ⟨["API" ++ dialect.extension], Markup.document dialect doc⟩ :=
  holds_join _ [] (List.append_nil _).symm rfl hslash hname fun _ hs => absurd hs List.not_mem_nil

theorem isFixedStep_of_segment {key : GroupKey} {segment : String} (h : segment ∈ key.segments) :
    isFixedStep segment = false := by
  obtain ⟨-, hsafe⟩ := GroupKey.segment_spec h
  simp only [isSafeSegment, Bool.and_eq_true, bne_iff_ne] at hsafe
  obtain ⟨⟨hempty, hdot⟩, hdots⟩ := hsafe
  refine FileSystem.isFixedStep_eq_false_iff.2 ⟨?_, ?_, ?_⟩
  · rintro rfl
    exact hempty rfl
  · rintro rfl
    exact hdot rfl
  · rintro rfl
    exact hdots rfl

theorem holds_ofGroup (output : Path) (key : GroupKey) (declaration : ApiDeclaration) :
    Artifact.Holds output (.ofGroup output key declaration)
      ⟨key.segments ++ ["index.json"], declaration.toJson.toIndented⟩ := by
  have hrelative := key.isAbsolute_directory
  refine holds_join _ _ ?_ (Path.isAbsolute_join hrelative) (by decide) (by decide)
    fun _ hs => isFixedStep_of_segment hs
  rw [Path.names_join hrelative, GroupKey.names_directory]

theorem holds_artifacts (format : OutputFormat) (doc : Documentation) (output : Path) :
    List.Forall₂ (Artifact.Holds output) (artifacts format doc output) (contents format doc) := by
  have hnone : ∀ s ∈ ([] : List String), isFixedStep s = false :=
    fun _ hs => absurd hs List.not_mem_nil
  cases format with
  | go =>
    have hdocs : (output.join ⟨"docs"⟩).names = output.names ++ ["docs"] :=
      (holds_join "" [] (List.append_nil _).symm rfl (by decide) (by decide) hnone).names
    exact .cons (holds_join _ [] hdocs (Path.isAbsolute_join (by decide)) (by decide) (by decide)
      (by decide)) .nil
  | swagger =>
    refine List.rel_append ?_ ?_
    · rw [List.forall₂_map_left_iff, List.forall₂_map_right_iff]
      exact List.forall₂_same.2 fun e _ => holds_ofGroup output e.1 e.2
    · exact .cons (holds_join _ _ (List.append_nil _).symm rfl (by decide) (by decide) hnone) .nil
  | asciidoc => exact .cons (holds_ofMarkup .asciidoc doc output (by decide) (by decide)) .nil
  | markdown => exact .cons (holds_ofMarkup .markdown doc output (by decide) (by decide)) .nil
  | confluence => exact .cons (holds_ofMarkup .confluence doc output (by decide) (by decide)) .nil

theorem nodup_contents (format : OutputFormat) (doc : Documentation) :
    ((contents format doc).map Content.names).Nodup := by
  cases format with
  | swagger =>
    rw [contents, List.map_append, List.map_map, List.nodup_append]
    refine ⟨?_, List.pairwise_singleton _ _, ?_⟩
    · refine List.pairwise_map.2 (doc.groups.ascending.imp ?_)
      intro a b hbefore hsame
      have hsegments : a.1.segments = b.1.segments := List.append_cancel_right hsame
      rw [GroupKey.segments_injective hsegments] at hbefore
      exact TextKey.before_irrefl _ hbefore
    · intro names hgroup root hroot hsame
      obtain ⟨e, -, rfl⟩ := List.mem_map.1 hgroup
      rw [List.map_singleton, List.mem_singleton] at hroot
      rw [hroot] at hsame
      exact e.1.segments_ne_nil (List.append_left_eq_self.1 hsame)
  | go => exact List.pairwise_singleton _ _
  | asciidoc => exact List.pairwise_singleton _ _
  | markdown => exact List.pairwise_singleton _ _
  | confluence => exact List.pairwise_singleton _ _

/-! ## Writing one file after the other -/

namespace Run

/-- What a run left that wrote some files below an output directory and changed no other file. -/
structure Wrote (output : Path) (base : List String) (files : List Content)
    (before after : FileSystem) : Prop where
  grows : Grows before after
  /-- The output directory is there once there is a file in it. -/
  located : files ≠ [] → after.placeOf output = .ok base
  written : ∀ f ∈ files, after.tree.fileAt? (base ++ f.names) = some f.text.toUTF8
  others : ∀ place, (∀ f ∈ files, place ≠ base ++ f.names) →
    after.tree.fileAt? place = before.tree.fileAt? place

namespace Wrote

variable {output : Path} {base : List String} {files : List Content}
  {before between after : FileSystem}

theorem nil (base : List String) (h : KeepsFiles before after) :
    Wrote output base [] before after where
  grows := h.toGrows
  located hne := absurd rfl hne
  written _ hf := absurd hf List.not_mem_nil
  others place _ := h.fileAt? place

/-- The file that is written first stays as it was written, since none of the others lies at its
place. -/
theorem cons {c : Content} {later : List String} (hgrows : Grows before between)
    (hbase : between.placeOf output = .ok base)
    (hfile : ∀ place, between.tree.fileAt? place
      = if place = base ++ c.names then some c.text.toUTF8 else before.tree.fileAt? place)
    (hlater : Wrote output later files between after) (hnew : c.names ∉ files.map Content.names) :
    Wrote output base (c :: files) before after := by
  have hlocated : after.placeOf output = .ok base := hlater.grows.placeOf hbase
  have hsame : ∀ f ∈ files, later ++ f.names = base ++ f.names := by
    intro f hf
    have hreached := hlater.located (List.ne_nil_of_mem hf)
    rw [hlocated, Except.ok.injEq] at hreached
    rw [hreached]
  have hothers : ∀ place, (∀ f ∈ files, place ≠ base ++ f.names) →
      after.tree.fileAt? place = between.tree.fileAt? place := by
    intro place hplace
    refine hlater.others place fun f hf => ?_
    rw [hsame f hf]
    exact hplace f hf
  refine ⟨hgrows.trans hlater.grows, fun _ => hlocated, ?_, ?_⟩
  · intro f hf
    rcases List.mem_cons.1 hf with rfl | hf
    · rw [hothers, hfile, if_pos rfl]
      intro g hg hplace
      exact hnew (List.mem_map.2 ⟨g, hg, (List.append_cancel_left hplace).symm⟩)
    · rw [← hsame f hf]
      exact hlater.written f hf
  · intro place hplace
    rw [hothers place fun f hf => hplace f (List.mem_cons_of_mem c hf), hfile,
      if_neg (hplace c List.mem_cons_self)]

end Wrote

theorem emitArtifact_spec {output : Path} {a : Artifact} {c : Content} (h : a.Holds output c)
    (w : Workspace) :
    ∃ outcome left, (emitArtifact a).run.run w = (outcome, left) ∧
      ((∃ e, outcome = .error e ∧ KeepsFiles w.files left.files) ∨
        outcome = .ok () ∧ ∃ base, Grows w.files left.files ∧
          left.files.placeOf output = .ok base ∧
          ∀ place, left.files.tree.fileAt? place
            = if place = base ++ c.names then some c.text.toUTF8
              else w.files.tree.fileAt? place) := by
  unfold emitArtifact
  rw [run_bind, write_run]
  obtain ⟨ready, hready, ⟨e, hfailed⟩ | ⟨next, hwrite, hdone⟩⟩ :=
    FileSystem.writeText_spec w.files a.path a.text
  · rw [hfailed]
    exact ⟨_, _, rfl, Or.inl ⟨e, rfl, hready⟩⟩
  · obtain ⟨base, hbase, hsets⟩ :=
      FileSystem.writeFile_below h.names h.isAbsolute h.ne_nil h.proper hwrite
    rw [hdone]
    refine ⟨_, _, rfl, Or.inr ⟨rfl, base, hready.toGrows.trans hsets.grows,
      hsets.grows.placeOf hbase, fun place => ?_⟩⟩
    change next.tree.fileAt? place = _
    rw [hsets.fileAt?_file, hready.fileAt?, h.text]

/-- Writing a list of files writes the first few of them, and all of them exactly if it succeeds. -/
theorem forM_emitArtifact {output : Path} {as : List Artifact} {cs : List Content}
    (hholds : List.Forall₂ (Artifact.Holds output) as cs)
    (hdistinct : (cs.map Content.names).Nodup) (w : Workspace) :
    ∃ outcome left m base, (as.forM emitArtifact).run.run w = (outcome, left) ∧
      m ≤ cs.length ∧ (outcome = .ok () ↔ m = cs.length) ∧
      Wrote output base (cs.take m) w.files left.files := by
  induction hholds generalizing w with
  | nil => exact ⟨.ok (), w, 0, [], rfl, Nat.le_refl 0, by simp, .nil [] (KeepsFiles.refl w.files)⟩
  | @cons a c as cs ha _ ih =>
    rw [List.map_cons, List.nodup_cons] at hdistinct
    obtain ⟨hnew, hrest⟩ := hdistinct
    obtain ⟨outcome, between, hrun, houtcome⟩ := emitArtifact_spec ha w
    simp only [List.forM_eq_forM] at ih ⊢
    rw [List.forM_cons, run_bind, hrun]
    rcases houtcome with ⟨e, rfl, hkeeps⟩ | ⟨rfl, base, hgrows, hbase, hfile⟩
    · exact ⟨.error e, between, 0, [], rfl, Nat.zero_le _, by simp, .nil [] hkeeps⟩
    · obtain ⟨outcome, left, m, later, hlater, hm, hok, hwrote⟩ := ih hrest between
      refine ⟨outcome, left, m + 1, base, hlater, by simpa using hm, by simpa using hok, ?_⟩
      rw [List.take_succ_cons]
      refine .cons hgrows hbase hfile hwrote fun hmem => hnew ?_
      exact List.map_subset _ (List.take_subset m cs) hmem

/-! ## Whole runs -/

/-- A run that ends in the writing of a format and changes no file besides. The files that it writes
are the first few of the format, and all of them exactly if it succeeds. -/
def Emits (format : OutputFormat) (doc : Documentation) (output : Path) (w : Workspace)
    (r : Result Unit) : Prop :=
  ∃ m base, m ≤ (contents format doc).length ∧
    (r.1 = .ok () ↔ m = (contents format doc).length) ∧
    Wrote output base ((contents format doc).take m) w.files r.2.files

theorem emits_emit (format : OutputFormat) (doc : Documentation) (output : Path)
    (w : Workspace) : Emits format doc output w ((emit format doc output).run.run w) := by
  obtain ⟨outcome, left, m, base, hrun, hm, hok, hwrote⟩ :=
    forM_emitArtifact (holds_artifacts format doc output) (nodup_contents format doc) w
  unfold emit
  rw [run_bind, hrun]
  cases outcome with
  | error e => exact ⟨m, base, hm, hok, hwrote⟩
  | ok _ => exact ⟨m, base, hm, hok, hwrote⟩

/-- Writing the documentation in the format of a name changes nothing unless the name, without
blanks at its ends and in lower case, is that of a format. Otherwise it writes the first files of
the format with their texts, all of them exactly if it succeeds, and changes no other file. A whole
run does the same once the survey succeeds, and changes no file if it does not. -/
theorem emission (name : String) (doc : Documentation) (output : Path) (settings : Settings)
    (w : Workspace) :
    ((Text.lowered (Text.trimmed name) ∉ OutputFormat.all.map OutputFormat.name ∧
        (emitNamed name doc output).run.run w
          = (.error (.configuration (.unknownFormat name)), w)) ∨
      ∃ format, format.name = Text.lowered (Text.trimmed name) ∧
        Emits format doc output w ((emitNamed name doc output).run.run w)) ∧
    ∃ outcome notices, (survey settings).run.run w = (outcome, ⟨w.files, notices⟩) ∧
      match outcome with
      | .error e => (generate settings).run.run w = (.error e, ⟨w.files, notices⟩)
      | .ok surveyed =>
        Emits settings.format surveyed settings.output w ((generate settings).run.run w) := by
  constructor
  · unfold emitNamed
    rcases OutputFormat.parse_spec name with ⟨hunknown, hparse⟩ | ⟨format, hname, hparse⟩
    · rw [hparse]
      exact Or.inl ⟨hunknown, rfl⟩
    · rw [hparse]
      exact Or.inr ⟨format, hname, emits_emit format doc output w⟩
  · obtain ⟨outcome, notices, hsurvey⟩ := survey_run settings w
    refine ⟨outcome, notices, hsurvey, ?_⟩
    unfold generate
    rw [run_bind, hsurvey]
    cases outcome with
    | error e => rfl
    | ok surveyed =>
      simp only
      rw [run_bind, report_run]
      exact emits_emit settings.format surveyed settings.output _

end Run

end ApiDocs
