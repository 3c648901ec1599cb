import ApiDocs.Proofs.Files.Components
import ApiDocs.Proofs.Output.Emission

/-!
# Where the files of groups lie

The segments of a key are names of entries, so the file of a group lies below the output directory at
exactly these entries, and no other file of the tree has the same components (`components_ofGroup`).
-/

set_option autoImplicit false

namespace ApiDocs

namespace GroupKey

theorem isName_of_segment {key : GroupKey} {segment : String} (h : segment ∈ key.segments) :
    Path.IsName segment :=
  ⟨(segment_spec h).1, isFixedStep_of_segment h⟩

theorem intercalate_segments (key : GroupKey) : "/".intercalate key.segments = key.text := by
  have hpieces : key.segments.map String.toList = Text.pieces '/' key.text.toList := by
    simp [segments, List.map_map, Function.comp_def]
  rw [← String.toList_inj, String.toList_intercalate, hpieces]
  exact Text.intercalate_pieces '/' key.text.toList

end GroupKey

namespace Artifact

variable (output : Path) (key : GroupKey) (declaration : ApiDeclaration)
  (listing : ResourceListing)

theorem isName_treeFileName : Path.IsName treeFileName :=
  ⟨by decide, by decide⟩

theorem path_ofGroup :
    (ofGroup output key declaration).path = output.below (key.segments ++ [treeFileName]) := by
  rw [Path.below_concat, ← Path.join_directory fun _ hs => GroupKey.isName_of_segment hs, ofGroup]

theorem path_ofListing : (ofListing output listing).path = output.below [treeFileName] := by
  rw [ofListing, Path.below_cons, Path.below, List.foldl_nil]

/-- The components of the file of a group are those of the output directory, then the segments of
the key, then the name of the file. -/
theorem components_path_ofGroup :
    (ofGroup output key declaration).path.components
      = output.components ++ key.segments.map .entry ++ [.entry treeFileName] := by
  have hnames : ∀ s ∈ key.segments ++ [treeFileName], Path.IsName s := by
    intro s hs
    rcases List.mem_append.1 hs with hs | hs
    · exact GroupKey.isName_of_segment hs
    · rw [List.mem_singleton.1 hs]
      exact isName_treeFileName
  rw [path_ofGroup, Path.components_below hnames, List.map_append, List.append_assoc]
  rfl

theorem components_path_ofListing :
    (ofListing output listing).path.components = output.components ++ [.entry treeFileName] := by
  have hnames : ∀ s ∈ [treeFileName], Path.IsName s := by
    intro s hs
    rw [List.mem_singleton.1 hs]
    exact isName_treeFileName
  rw [path_ofListing, Path.components_below hnames]
  rfl

theorem isPrefix_path_ofGroup :
    output.text.toList <+: (ofGroup output key declaration).path.text.toList := by
  have hdirectory : output.text.toList <+: (output.join key.directory).text.toList :=
    Path.isPrefix_join key.isAbsolute_directory
  have hfile : (output.join key.directory).text.toList
      <+: ((output.join key.directory).join ⟨treeFileName⟩).text.toList :=
    Path.isPrefix_join isName_treeFileName.isAbsolute
  rw [ofGroup]
  exact hdirectory.trans hfile

/-- A raw text that is accepted as a key gives a file below the output directory, at the segments of
the key, and no other key and no listing has its file there. -/
theorem components_ofGroup {raw : String} {key : GroupKey} (hkey : GroupKey.parse raw = .ok key) :
    (key.text = GroupKey.canonical raw ∧ "/".intercalate key.segments = key.text ∧
      key.segments ≠ [] ∧
      ∀ s ∈ key.segments, '/' ∉ s.toList ∧ s ≠ "" ∧ s ≠ "." ∧ s ≠ "..") ∧
    ∀ (output : Path) (declaration : ApiDeclaration) (listing : ResourceListing),
      (ofGroup output key declaration).path.components
        = output.components ++ key.segments.map .entry ++ [.entry "index.json"] ∧
      output.text.toList <+: (ofGroup output key declaration).path.text.toList ∧
      (ofListing output listing).path.components = output.components ++ [.entry "index.json"] ∧
      (ofGroup output key declaration).path.components
        ≠ (ofListing output listing).path.components ∧
      ∀ (other : GroupKey) (otherDeclaration : ApiDeclaration),
        (ofGroup output other otherDeclaration).path.components
            = (ofGroup output key declaration).path.components ↔ other = key := by
  refine ⟨⟨(GroupKey.parse_eq_ok_iff.1 hkey).symm, key.intercalate_segments,
    key.segments_ne_nil, ?_⟩, ?_⟩
  · intro s hs
    have hname := GroupKey.isName_of_segment hs
    exact ⟨hname.slash, FileSystem.isFixedStep_eq_false_iff.1 hname.proper⟩
  · intro output declaration listing
    refine ⟨components_path_ofGroup output key declaration,
      isPrefix_path_ofGroup output key declaration, components_path_ofListing output listing,
      ?_, ?_⟩
    · intro hsame
      rw [components_path_ofGroup, components_path_ofListing, List.append_assoc] at hsame
      have hnone : key.segments.map Path.Component.entry = [] :=
        List.append_left_eq_self.1 (List.append_cancel_left hsame)
      exact key.segments_ne_nil (List.map_eq_nil_iff.1 hnone)
    · intro other otherDeclaration
      constructor
      · intro hsame
        rw [components_path_ofGroup, components_path_ofGroup] at hsame
        have hsegments : other.segments.map Path.Component.entry
            = key.segments.map Path.Component.entry :=
          List.append_cancel_left (List.append_cancel_right hsame)
        exact GroupKey.segments_injective
          (List.map_injective_iff.2 Path.Component.entry_injective hsegments)
      · rintro rfl
        rw [components_path_ofGroup, components_path_ofGroup]

/-- The key `.../v1` of the text ` /.../v1/ `, whose first segment only looks like a way up. -/
theorem components_ofGroup_dots :
    ∃ key : GroupKey, GroupKey.parse " /.../v1/ " = .ok key ∧
      ∀ declaration : ApiDeclaration, (ofGroup ⟨"../out/."⟩ key declaration).path.components
        = [.parent, .entry "out", .entry "...", .entry "v1", .entry "index.json"] := by
  refine ⟨⟨".../v1", by decide⟩, by decide, fun declaration => ?_⟩
  have hkey : GroupKey.parse " /.../v1/ " = .ok ⟨".../v1", by decide⟩ := by decide
  exact ((components_ofGroup hkey).2 ⟨"../out/."⟩ declaration default).1.trans (by decide)

end Artifact

end ApiDocs
