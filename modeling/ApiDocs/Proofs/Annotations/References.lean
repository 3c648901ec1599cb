import ApiDocs.Annotations.General
import ApiDocs.Proofs.Grouping.Additions

/-!
# References that general annotations leave

A reference takes the place of an earlier one with the same path and comes last otherwise. So
whatever lines are applied one after the other, no path comes twice, and the paths stand in the
order in which they first occur (`GeneralLine.firstOccurrences_foldl_apply`).
-/

set_option autoImplicit false

namespace ApiDocs.Annotations

theorem map_path_putReference (r : ResourceReference) (references : List ResourceReference) :
    (putReference r references).map ResourceReference.path
      = if r.path ∈ references.map ResourceReference.path
        then references.map ResourceReference.path
        else references.map ResourceReference.path ++ [r.path] := by
  induction references with
  | nil => rfl
  | cons first others ih =>
    unfold putReference
    by_cases hpath : first.path = r.path
    · simp [hpath]
    · have hmem : r.path ∈ (first :: others).map ResourceReference.path
          ↔ r.path ∈ others.map ResourceReference.path := by
        simp [Ne.symm hpath]
      rw [if_neg hpath, List.map_cons, ih]
      by_cases hothers : r.path ∈ others.map ResourceReference.path
      · rw [if_pos hothers, if_pos (hmem.2 hothers), List.map_cons]
      · rw [if_neg hothers, if_neg (mt hmem.1 hothers), List.map_cons, List.cons_append]

namespace GeneralLine

/-- The reference that a line is an annotation for. -/
def reference? : GeneralLine → Option ResourceReference
  | recognised (.subApi r) => some r
  | _ => none

/-- The paths that lines name, one for each line with a reference. -/
def paths (lines : List GeneralLine) : List String :=
  (lines.filterMap reference?).map ResourceReference.path

theorem apis_apply (listing : ResourceListing) (line : GeneralLine) :
    (line.apply listing).apis
      = match line.reference? with
        | some r => putReference r listing.apis
        | none => listing.apis := by
  cases line with
  | other => rfl
  | malformed value => rfl
  | recognised a => cases a <;> rfl

/-- The paths after some lines are those that were named before and those that the lines name, each
once and in the order in which they first occur. -/
theorem firstOccurrences_foldl_apply (lines : List GeneralLine) {named : List String}
    {listing : ResourceListing}
    (h : FirstOccurrences named (listing.apis.map ResourceReference.path)) :
    FirstOccurrences (named ++ paths lines)
      ((lines.foldl apply listing).apis.map ResourceReference.path) := by
  induction lines generalizing named listing with
  | nil =>
    rw [paths, List.filterMap_nil, List.map_nil, List.append_nil]
    exact h
  | cons line lines ih =>
    have happly := apis_apply listing line
    cases hline : line.reference? with
    | none =>
      rw [hline] at happly
      have hpaths : paths (line :: lines) = paths lines := by
        unfold paths
        rw [List.filterMap_cons_none hline]
      rw [hpaths, List.foldl_cons]
      exact ih (happly ▸ h)
    | some r =>
      rw [hline] at happly
      have hpaths : named ++ paths (line :: lines) = named ++ [r.path] ++ paths lines := by
        unfold paths
        rw [List.filterMap_cons_some hline, List.map_cons, List.append_assoc,
          List.singleton_append]
      rw [hpaths, List.foldl_cons]
      apply ih
      rw [happly, map_path_putReference]
      exact h.concat r.path

end GeneralLine

end ApiDocs.Annotations
