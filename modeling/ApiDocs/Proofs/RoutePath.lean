import ApiDocs.Proofs.Text.Lines
import ApiDocs.RoutePath
import Mathlib.Data.List.Forall2

/-!
# Segments of route paths

The template of a route path is made segment by segment. What a segment turns into holds no slash if
the segment holds none, so splitting the template gives back the segments that were joined
(`segments_template`), empty ones included. The laws on whole paths follow from this, because a path
is determined by its segments (`segments_injective`): a template can be taken of the parts between
slashes, and taking it twice is taking it once, since a placeholder carries no marker whatever its
name starts with.
-/

set_option autoImplicit false

namespace ApiDocs.RoutePath

open Text

/-- How a segment is shown. The name behind a marker may be empty, and it may start with a marker
again. -/
inductive ShownAs : List Char → List Char → Prop
  | required (name : List Char) : ShownAs (':' :: name) ('{' :: (name ++ ['}']))
  | optional (name : List Char) : ShownAs ('?' :: ':' :: name) ('{' :: (name ++ ['}']))
  | unmarked {segment : List Char} (hrequired : ¬ [':'] <+: segment)
      (hoptional : ¬ ['?', ':'] <+: segment) : ShownAs segment segment

/-! ## One segment -/

theorem segmentTemplate_of_unmarked {segment : List Char} (hrequired : ¬ [':'] <+: segment)
    (hoptional : ¬ ['?', ':'] <+: segment) : segmentTemplate segment = segment := by
  unfold segmentTemplate
  split
  · next name => exact absurd ⟨name, rfl⟩ hrequired
  · next name => exact absurd ⟨name, rfl⟩ hoptional
  · rfl

theorem shownAs_segmentTemplate (segment : List Char) :
    ShownAs segment (segmentTemplate segment) := by
  unfold segmentTemplate
  split
  · next name => exact .required name
  · next name => exact .optional name
  · next hrequired hoptional =>
    refine .unmarked ?_ ?_
    · rintro ⟨name, rfl⟩
      exact hrequired name rfl
    · rintro ⟨name, rfl⟩
      exact hoptional name rfl

/-- Every segment is shown in exactly one way. -/
theorem segmentTemplate_eq_iff {segment shown : List Char} :
    segmentTemplate segment = shown ↔ ShownAs segment shown := by
  constructor
  · rintro rfl
    exact shownAs_segmentTemplate segment
  · intro h
    cases h with
    | required name => rfl
    | optional name => rfl
    | unmarked hrequired hoptional => exact segmentTemplate_of_unmarked hrequired hoptional

/-- Only braces are put in. -/
theorem slash_not_mem_segmentTemplate {segment : List Char} (h : '/' ∉ segment) :
    '/' ∉ segmentTemplate segment := by
  have hshown := shownAs_segmentTemplate segment
  generalize segmentTemplate segment = shown at hshown
  cases hshown with
  | required name => simpa using h
  | optional name => simpa using h
  | unmarked hrequired hoptional => exact h

/-- A placeholder carries no marker. -/
theorem segmentTemplate_segmentTemplate (segment : List Char) :
    segmentTemplate (segmentTemplate segment) = segmentTemplate segment := by
  have hshown := shownAs_segmentTemplate segment
  generalize segmentTemplate segment = shown at hshown
  cases hshown with
  | required name => rfl
  | optional name => rfl
  | unmarked hrequired hoptional => exact segmentTemplate_of_unmarked hrequired hoptional

/-! ## Whole paths -/

/-- The segments of a path. -/
def segments (path : String) : List (List Char) :=
  pieces '/' path.toList

/-- A path is determined by its segments. -/
theorem segments_injective {p q : String} (h : segments p = segments q) : p = q := by
  rw [← String.toList_inj, ← intercalate_pieces '/' p.toList, ← intercalate_pieces '/' q.toList]
  exact congrArg ['/'].intercalate h

/-- The segments of a template are the templates of the segments. -/
theorem segments_template (path : String) :
    segments (template path) = (segments path).map segmentTemplate := by
  unfold segments template
  rw [String.toList_ofList]
  apply pieces_intercalate
  · exact fun hnil => pieces_ne_nil _ _ (List.map_eq_nil_iff.1 hnil)
  · intro shown hshown
    obtain ⟨segment, hsegment, rfl⟩ := List.mem_map.1 hshown
    exact slash_not_mem_segmentTemplate (not_mem_of_mem_pieces hsegment)

theorem segments_append (p q : String) : segments (p ++ "/" ++ q) = segments p ++ segments q := by
  unfold segments
  rw [String.toList_append, String.toList_append, List.append_assoc]
  exact pieces_append_cons '/' p.toList q.toList

/-- **Templates segment by segment.** Splitting the template of a path at slashes gives exactly what
the segments of the path are shown as, one by one. So their number stays, a segment without a marker
stays as it is in its place, the template of two paths with a slash between them is made of their
templates, and a template is its own template. -/
theorem template_segmentwise (p q : String) :
    (∀ shown, segments (template p) = shown ↔ List.Forall₂ ShownAs (segments p) shown)
      ∧ (segments (template p)).length = (segments p).length
      ∧ (∀ (i : Nat) segment, (segments p)[i]? = some segment → ¬ [':'] <+: segment →
        ¬ ['?', ':'] <+: segment → (segments (template p))[i]? = some segment)
      ∧ template (p ++ "/" ++ q) = template p ++ "/" ++ template q
      ∧ template (template p) = template p := by
  refine ⟨fun shown => ?_, ?_, fun i segment hsegment hrequired hoptional => ?_, ?_, ?_⟩
  · have hrel : ShownAs = fun segment shown => segmentTemplate segment = shown := by
      funext segment shown
      exact propext segmentTemplate_eq_iff.symm
    rw [segments_template, hrel, ← List.forall₂_map_left_iff, List.forall₂_eq_eq_eq]
  · rw [segments_template, List.length_map]
  · rw [segments_template, List.getElem?_map, hsegment, Option.map_some,
      segmentTemplate_of_unmarked hrequired hoptional]
  · apply segments_injective
    rw [segments_append, segments_template, segments_template, segments_template, segments_append,
      List.map_append]
  · apply segments_injective
    rw [segments_template, segments_template, List.map_map]
    exact List.map_congr_left fun segment _ => segmentTemplate_segmentTemplate segment

end ApiDocs.RoutePath
