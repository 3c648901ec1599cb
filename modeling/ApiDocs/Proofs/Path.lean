import ApiDocs.Files.Access
import ApiDocs.GroupKey
import ApiDocs.Proofs.GroupKey
import ApiDocs.Proofs.Text.Lines

/-!
# The names in a path

A path is followed by its steps, of which the empty ones lead nowhere. The others (`names`) are put
together when paths are joined (`names_join`), and those of the directory of a group are the
segments of its key (`names_directory`).
-/

set_option autoImplicit false

namespace ApiDocs

open Text (pieces pieces_append_cons pieces_of_not_mem not_mem_of_mem_pieces)

namespace FileSystem

/-- The steps that are not fixed are the names. -/
theorem isFixedStep_eq_false_iff {step : String} :
    isFixedStep step = false ↔ step ≠ "" ∧ step ≠ "." ∧ step ≠ ".." := by
  simp only [isFixedStep, Bool.or_eq_false_iff, beq_eq_false_iff_ne, and_assoc]

end FileSystem

namespace Path

/-- The steps in the text of a path that are not empty. -/
def namesOf (s : List Char) : List String :=
  ((pieces '/' s).map String.ofList).filter (· ≠ "")

/-- The steps of a path that are not empty. -/
def names (p : Path) : List String :=
  (FileSystem.steps p).filter (· ≠ "")

theorem names_eq_namesOf (p : Path) : p.names = namesOf p.text.toList := rfl

theorem namesOf_nil : namesOf [] = [] := rfl

theorem namesOf_append_cons (s rest : List Char) :
    namesOf (s ++ '/' :: rest) = namesOf s ++ namesOf rest := by
  rw [namesOf, pieces_append_cons, List.map_append, List.filter_append]
  rfl

/-- A text without a slash is a name of its own. -/
theorem names_of_not_mem {text : String} (hne : text ≠ "") (hslash : '/' ∉ text.toList) :
    names ⟨text⟩ = [text] := by
  rw [names_eq_namesOf, namesOf, pieces_of_not_mem hslash]
  simp [hne]

theorem isAbsolute_of_not_mem {text : String} (hslash : '/' ∉ text.toList) :
    isAbsolute ⟨text⟩ = false := by
  rw [isAbsolute, beq_eq_false_iff_ne]
  exact fun hhead => hslash (List.mem_of_mem_head? hhead)

variable {p q : Path}

/-- Joining paths puts their names together. -/
theorem names_join (hq : q.isAbsolute = false) : (p.join q).names = p.names ++ q.names := by
  rw [join, hq]
  simp only [Bool.false_eq_true, if_false, names_eq_namesOf]
  by_cases hend : p.text.toList = [] ∨ p.text.toList.getLast? = some '/'
  · rw [if_pos hend, String.toList_append]
    rcases hend with hempty | hslash
    · rw [hempty]
      rfl
    · obtain ⟨start, hstart⟩ := List.getLast?_eq_some_iff.1 hslash
      rw [hstart, List.append_assoc, List.singleton_append, namesOf_append_cons,
        namesOf_append_cons, namesOf_nil, List.append_nil]
  · rw [if_neg hend, String.toList_append, String.toList_append, List.append_assoc]
    exact namesOf_append_cons _ _

/-- Joining a relative path to a path leaves open or settles where it starts. -/
theorem isAbsolute_join (hq : q.isAbsolute = false) : (p.join q).isAbsolute = p.isAbsolute := by
  rw [join, hq]
  simp only [Bool.false_eq_true, if_false]
  by_cases hempty : p.text.toList = []
  · rw [if_pos (Or.inl hempty)]
    unfold isAbsolute at hq ⊢
    rw [String.toList_append, hempty, List.nil_append, hq]
    rfl
  · unfold isAbsolute
    split
    · rw [String.toList_append, List.head?_append_of_ne_nil _ hempty]
    · rw [String.toList_append, String.toList_append, List.append_assoc,
        List.head?_append_of_ne_nil _ hempty]

end Path

namespace GroupKey

/-- A segment of a key is a name for a directory entry. -/
theorem segment_spec {key : GroupKey} {segment : String} (h : segment ∈ key.segments) :
    '/' ∉ segment.toList ∧ isSafeSegment segment.toList = true := by
  obtain ⟨piece, hpiece, rfl⟩ := List.mem_map.1 h
  rw [String.toList_ofList]
  exact ⟨not_mem_of_mem_pieces hpiece, List.all_eq_true.1 key.safe piece hpiece⟩

theorem segments_ne_nil (key : GroupKey) : key.segments ≠ [] := by
  rw [segments, ne_eq, List.map_eq_nil_iff]
  exact Text.pieces_ne_nil '/' _

/-- A key is told by its segments. -/
theorem segments_injective {a b : GroupKey} (h : a.segments = b.segments) : a = b := by
  have hpieces : pieces '/' a.text.toList = pieces '/' b.text.toList :=
    List.map_injective_iff.2 (fun _ _ => String.ofList_injective) h
  refine eq_of_text_eq (String.toList_inj.1 ?_)
  rw [← Text.intercalate_pieces '/' a.text.toList, hpieces, Text.intercalate_pieces]

theorem foldl_join_segments (segments : List String) (start : Path)
    (h : ∀ s ∈ segments, '/' ∉ s.toList ∧ isSafeSegment s.toList = true) :
    (segments.foldl (fun path s => path.join ⟨s⟩) start).names = start.names ++ segments ∧
      (segments.foldl (fun path s => path.join ⟨s⟩) start).isAbsolute = start.isAbsolute := by
  induction segments generalizing start with
  | nil => simp
  | cons s segments ih =>
    obtain ⟨hslash, hsafe⟩ := h s List.mem_cons_self
    have hne : s ≠ "" := by
      rintro rfl
      exact absurd hsafe (by decide)
    have hrelative := Path.isAbsolute_of_not_mem hslash
    obtain ⟨hnames, habsolute⟩ :=
      ih (start.join ⟨s⟩) fun t ht => h t (List.mem_cons_of_mem s ht)
    rw [List.foldl_cons, hnames, habsolute, Path.names_join hrelative,
      Path.isAbsolute_join hrelative, Path.names_of_not_mem hne hslash]
    simp

/-- The directory of a group has the segments of the key as its names. -/
theorem names_directory (key : GroupKey) : key.directory.names = key.segments :=
  (foldl_join_segments key.segments ⟨""⟩ fun _ hs => segment_spec hs).1

theorem isAbsolute_directory (key : GroupKey) : key.directory.isAbsolute = false :=
  (foldl_join_segments key.segments ⟨""⟩ fun _ hs => segment_spec hs).2

end GroupKey

end ApiDocs
