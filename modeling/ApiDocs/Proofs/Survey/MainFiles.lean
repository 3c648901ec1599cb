import ApiDocs.Proofs.Survey.Requests
import ApiDocs.Proofs.Text.Runs

/-!
# Visits of main files

Which main files are visited, in which order, and where that ends. The main file may be missing
under every root, the files that take part may all be visited, or a visit may fail (`Resolution`).
What is visited for the roots up to some point does not depend on the roots behind it, so a first
match and a failure end the search there (`resolution_iff`).
-/

set_option autoImplicit false

namespace ApiDocs.Survey

variable {σ : Type} {files : FileSystem} {policy : RootPolicy} {mainFile : String}
  {roots before behind : List Path} {root : Path}
  {visit : Path → ExceptT Error (StateM σ) Unit} {s t : σ} {calls : List Path}
  {outcome : Except Error (List Path)}

/-! ## Places of main files -/

/-- The place of the main file is the directory of sources under the root and the main file without
its leading slashes. A slash comes behind the root unless it is empty or ends in one. -/
theorem toList_mainFileUnder (mainFile : String) (root : Path) :
    (mainFileUnder mainFile root).text.toList
      = root.text.toList
        ++ (if root.text.toList = [] ∨ root.text.toList.getLast? = some '/' then [] else ['/'])
        ++ "src/".toList ++ mainFile.toList.dropWhile (· == '/') := by
  have hsources : (root.join ⟨"src"⟩).text.toList
      = root.text.toList
        ++ (if root.text.toList = [] ∨ root.text.toList.getLast? = some '/' then [] else ['/'])
        ++ "src".toList := by
    rw [Path.join, if_neg (by decide)]
    split <;> simp
  have hend : ¬ ((root.join ⟨"src"⟩).text.toList = [] ∨
      (root.join ⟨"src"⟩).text.toList.getLast? = some '/') := by
    rw [hsources]
    simp
  have hrelative : (Path.mk (String.ofList (mainFile.toList.dropWhile (· == '/')))).isAbsolute
      = false := by
    rw [Path.isAbsolute, String.toList_ofList, beq_eq_false_iff_ne]
    intro hslash
    exact absurd (Text.stops_dropWhile (· == '/') mainFile.toList '/' hslash) (by decide)
  rw [mainFileUnder, Path.join, hrelative, if_neg Bool.false_ne_true, if_neg hend]
  simp [hsources]

/-- What the error for a missing main file names: its place under the last root, or the file itself
without a root. -/
def lastAttempt (mainFile : String) (roots : List Path) : Path :=
  match roots.getLast? with
  | some root => mainFileUnder mainFile root
  | none => ⟨mainFile⟩

theorem foundUnder_append_cons (hfile : files.isFile (mainFileUnder mainFile root) = true)
    (before behind : List Path) :
    foundUnder files mainFile (before ++ root :: behind)
      = foundUnder files mainFile before
        ++ mainFileUnder mainFile root :: foundUnder files mainFile behind := by
  unfold foundUnder
  rw [List.map_append, List.filter_append, List.map_cons, List.filter_cons_of_pos hfile]

/-- The first file that is there takes part alone if one is enough. -/
theorem mainFiles_firstMatch (hfile : files.isFile (mainFileUnder mainFile root) = true)
    (hbefore : foundUnder files mainFile before = []) (behind : List Path) :
    mainFiles files .firstMatch mainFile (before ++ root :: behind)
      = [mainFileUnder mainFile root] := by
  have hfound := foundUnder_append_cons hfile before behind
  rw [hbefore] at hfound
  exact congrArg (List.take 1) hfound

/-- The file under a root takes part, behind those under the roots in front of it, unless one of
these is enough. -/
theorem exists_mainFiles_eq (hfile : files.isFile (mainFileUnder mainFile root) = true)
    (hpolicy : policy = .firstMatch → foundUnder files mainFile before = [])
    (behind : List Path) :
    ∃ rest, mainFiles files policy mainFile (before ++ root :: behind)
      = foundUnder files mainFile before ++ mainFileUnder mainFile root :: rest := by
  cases policy with
  | everyMatch => exact ⟨_, foundUnder_append_cons hfile before behind⟩
  | firstMatch =>
    have hbefore := hpolicy rfl
    rw [hbefore]
    exact ⟨[], mainFiles_firstMatch hfile hbefore behind⟩

/-! ## How the visits may end -/

/-- How the visits of the main files under some roots may end: the files that the visitor was
called on, the outcome, and the state it left. -/
inductive Resolution (files : FileSystem) (policy : RootPolicy) (mainFile : String)
    (visit : Path → ExceptT Error (StateM σ) Unit) (s : σ) :
    List Path → List Path → Except Error (List Path) → σ → Prop
  /-- There is no main file, and nothing is visited. -/
  | missing {roots : List Path} (hnone : foundUnder files mainFile roots = []) :
    Resolution files policy mainFile visit s roots []
      (.error (.resolution (lastAttempt mainFile roots))) s
  /-- Each main file is visited. -/
  | every {roots : List Path} {t : σ} (hpolicy : policy = .everyMatch)
    (hsome : foundUnder files mainFile roots ≠ [])
    (hall : AllSucceed visit s (foundUnder files mainFile roots) t) :
    Resolution files policy mainFile visit s roots (foundUnder files mainFile roots)
      (.ok (foundUnder files mainFile roots)) t
  /-- The first main file is visited, and it is enough. -/
  | first {before behind : List Path} {root : Path} {t : σ} (hpolicy : policy = .firstMatch)
    (hbefore : foundUnder files mainFile before = [])
    (hfile : files.isFile (mainFileUnder mainFile root) = true)
    (hvisit : (visit (mainFileUnder mainFile root)).run.run s = (.ok (), t)) :
    Resolution files policy mainFile visit s (before ++ root :: behind)
      [mainFileUnder mainFile root] (.ok [mainFileUnder mainFile root]) t
  /-- The visit for a root fails, behind those for the roots in front of it. -/
  | failed {before behind : List Path} {root : Path} {u t : σ} {e : Error}
    (hpolicy : policy = .firstMatch → foundUnder files mainFile before = [])
    (hbefore : AllSucceed visit s (foundUnder files mainFile before) u)
    (hfile : files.isFile (mainFileUnder mainFile root) = true)
    (hvisit : (visit (mainFileUnder mainFile root)).run.run u = (.error e, t)) :
    Resolution files policy mainFile visit s (before ++ root :: behind)
      (foundUnder files mainFile before ++ [mainFileUnder mainFile root]) (.error e) t

/-- The visits under some roots end in some way. -/
theorem exists_resolution (files : FileSystem) (policy : RootPolicy) (mainFile : String)
    (roots : List Path) (visit : Path → ExceptT Error (StateM σ) Unit) (s : σ) :
    ∃ calls outcome t, Resolution files policy mainFile visit s roots calls outcome t := by
  by_cases hnone : foundUnder files mainFile roots = []
  · exact ⟨_, _, _, .missing hnone⟩
  rcases allSucceed_or_fails visit (mainFiles files policy mainFile roots) s with
    ⟨t, hall⟩ | ⟨read, failing, rest, u, e, t, hread, hbefore, hvisit⟩
  · cases policy with
    | everyMatch => exact ⟨_, _, _, .every rfl hnone hall⟩
    | firstMatch =>
      cases hmain : mainFiles files .firstMatch mainFile roots with
      | nil => exact absurd (mainFiles_eq_nil_iff.1 hmain) hnone
      | cons file rest =>
        have hfirst : mainFiles files .firstMatch mainFile roots = [] ++ file :: rest := hmain
        obtain ⟨before, root, behind, rfl, rfl, hfile, hbefore⟩ := exists_root_of_mainFiles hfirst
        rw [hmain] at hall
        cases hall with
        | cons hvisit _ => exact ⟨_, _, _, .first rfl hbefore.symm hfile hvisit⟩
  · obtain ⟨before, root, behind, rfl, rfl, hfile, rfl⟩ := exists_root_of_mainFiles hread
    refine ⟨_, _, _, .failed ?_ hbefore hfile hvisit⟩
    rintro rfl
    have hlength : (mainFiles files .firstMatch mainFile (before ++ root :: behind)).length ≤ 1 :=
      List.length_take_le _ _
    rw [hread, List.length_append, List.length_cons] at hlength
    exact List.length_eq_zero_iff.1 (by omega)

/-- A visitor that notes its calls ends in the same way, with the calls noted. -/
theorem Resolution.noting (h : Resolution files policy mainFile visit s roots calls outcome t)
    (noted : List Path) :
    Resolution files policy mainFile (noting visit) (noted, s) roots calls outcome
      (noted ++ calls, t) := by
  cases h with
  | missing hnone =>
    rw [List.append_nil]
    exact .missing hnone
  | every hpolicy hsome hall => exact .every hpolicy hsome (hall.noting noted)
  | first hpolicy hbefore hfile hvisit =>
    refine .first hpolicy hbefore hfile ?_
    rw [noting_run, hvisit]
  | failed hpolicy hbefore hfile hvisit =>
    refine .failed hpolicy (hbefore.noting noted) hfile ?_
    rw [noting_run, hvisit, List.append_assoc]

/-- The visits end in a way in which they may end. -/
theorem Resolution.run (h : Resolution files policy mainFile visit s roots calls outcome t) :
    (visitMainFiles files policy mainFile roots visit).run.run s = (outcome, t) := by
  rw [visitMainFiles_run]
  cases h with
  | missing hnone =>
    have hattempt : ((roots.map (mainFileUnder mainFile)).getLast?).getD ⟨mainFile⟩
        = lastAttempt mainFile roots := by
      rw [List.getLast?_map, lastAttempt]
      cases roots.getLast? with
      | none => rfl
      | some root => rfl
    rw [if_pos (mainFiles_eq_nil_iff.2 hnone), hattempt]
  | every hpolicy hsome hall =>
    subst hpolicy
    have hmain : mainFiles files .everyMatch mainFile roots = foundUnder files mainFile roots := rfl
    rw [hmain, if_neg hsome, hall.forM_run]
  | first hpolicy hbefore hfile hvisit =>
    subst hpolicy
    rw [mainFiles_firstMatch hfile hbefore, if_neg (List.cons_ne_nil _ _),
      (AllSucceed.cons hvisit (.nil t)).forM_run]
  | failed hpolicy hbefore hfile hvisit =>
    obtain ⟨rest, hmain⟩ := exists_mainFiles_eq hfile hpolicy _
    rw [hmain, if_neg (by simp), hbefore.forM_run_of_error hvisit]

/-- The visits of main files end as follows, and only so. Without a main file in its place under a
root the visitor is not called, and the error names the place under the last root. Otherwise it is
called on the main files in the order of the roots, on the first one only if that is enough. If all
visits succeed, then just the files that were visited are given back; a visit that fails is the last
one, and its error is the outcome. -/
theorem resolution_iff (files : FileSystem) (policy : RootPolicy) (mainFile : String)
    (roots : List Path) (visit : Path → ExceptT Error (StateM σ) Unit) (s : σ) :
    (∀ root, (mainFileUnder mainFile root).text.toList
      = root.text.toList
        ++ (if root.text.toList = [] ∨ root.text.toList.getLast? = some '/' then [] else ['/'])
        ++ "src/".toList ++ mainFile.toList.dropWhile (· == '/')) ∧
      (∀ calls outcome t,
        (visitMainFiles files policy mainFile roots (noting visit)).run.run ([], s)
            = (outcome, calls, t)
          ↔ Resolution files policy mainFile visit s roots calls outcome t) ∧
      ∀ outcome t, (visitMainFiles files policy mainFile roots visit).run.run s = (outcome, t)
          ↔ ∃ calls, Resolution files policy mainFile visit s roots calls outcome t := by
  obtain ⟨calls, outcome, t, h⟩ := exists_resolution files policy mainFile roots visit s
  have hnoted := (h.noting []).run
  have hrun := h.run
  refine ⟨toList_mainFileUnder mainFile, fun calls' outcome' t' => ?_, fun outcome' t' => ?_⟩
  · constructor
    · intro hrun'
      cases hnoted.symm.trans hrun'
      exact h
    · exact fun h' => (h'.noting []).run
  · constructor
    · intro hrun'
      cases hrun.symm.trans hrun'
      exact ⟨calls, h⟩
    · exact fun ⟨calls', h'⟩ => h'.run

end ApiDocs.Survey
