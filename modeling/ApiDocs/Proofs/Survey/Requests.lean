import ApiDocs.Proofs.FailingSteps
import ApiDocs.Proofs.Survey
import Mathlib.Data.List.Basic

/-!
# Requests to a survey

A survey is asked, in any order and whether or not earlier requests were met, to read the general
annotations of a file, the main files under some roots, or the routes of a package. Reading one
file or a package changes nothing at all when it fails (`readGeneral_run`, `readPackage_run`). The
main files are read one after the other, so when one cannot be read, those before it have been read
(`visit_error`), and the survey is left as if it had been asked for just these
(`failed_request`).
-/

set_option autoImplicit false

namespace ApiDocs.Survey

open Annotations (GeneralLine)

/-- What a survey may be asked for. -/
inductive Request
  /-- The general annotations of a file. -/
  | general (file : Path)
  /-- The general annotations of the main files under some roots. -/
  | mainFiles (policy : RootPolicy) (mainFile : String) (roots : List Path)
  /-- The routes of a package. -/
  | package (name : String)

/-- The step that a request asks for. -/
def Request.step (files : FileSystem) : Request → SurveyStep Unit
  | general file => readGeneral files file
  | mainFiles policy mainFile roots => do
    let _ ← readMainFilesUnder files policy mainFile roots
  | package name => readPackage files name

/-- The survey after some requests, each with the files at the time, whether or not they are met. -/
def after (s : Survey) (requests : List (FileSystem × Request)) : Survey :=
  requests.foldl (fun s r => ((r.2.step r.1).run.run s).2) s

/-- The requests to read the general annotations of some files. -/
def generalRequests (files : FileSystem) (paths : List Path) : List (FileSystem × Request) :=
  paths.map fun file => (files, .general file)

variable {files : FileSystem} {file : Path} {paths : List Path} {s left : Survey} {e : Error}

/-! ## What the steps come to -/

/-- The survey with the general annotations of a source text. -/
def withGeneral (s : Survey) (source : String) : Survey :=
  { s with
    listing := (generalLines source).foldl GeneralLine.apply s.listing
    notices := s.notices ++ (generalLines source).flatMap GeneralLine.notices }

/-- Reading general annotations changes nothing, or reads a whole file. -/
theorem readGeneral_run (files : FileSystem) (file : Path) (s : Survey) :
    (readGeneral files file).run.run s
      = match files.readText file with
        | .error issue => (.error (.io file issue), s)
        | .ok source => (.ok (), s.withGeneral source) := by
  unfold readGeneral
  cases files.readText file with
  | error issue => rfl
  | ok source => rfl

/-- A visit of a main file. -/
def visit (files : FileSystem) (file : Path) : SurveyStep Unit := do
  report [.readingGeneral file]
  readGeneral files file

theorem visit_run (files : FileSystem) (file : Path) (s : Survey) :
    (visit files file).run.run s
      = (readGeneral files file).run.run
          { s with notices := s.notices ++ [.readingGeneral file] } := rfl

theorem readMainFilesUnder_eq (files : FileSystem) (policy : RootPolicy) (mainFile : String)
    (roots : List Path) :
    readMainFilesUnder files policy mainFile roots
      = visitMainFiles files policy mainFile roots (visit files) := rfl

/-! ## General annotations, one file after the other -/

/-- The listing with the general annotations of a file, if it can be read. -/
def listingWith (files : FileSystem) (listing : ResourceListing) (file : Path) : ResourceListing :=
  match files.readText file with
  | .ok source => (generalLines source).foldl GeneralLine.apply listing
  | .error _ => listing

theorem listing_after_generalRequests (s : Survey) (files : FileSystem) (paths : List Path) :
    (s.after (generalRequests files paths)).listing
      = paths.foldl (listingWith files) s.listing := by
  induction paths generalizing s with
  | nil => rfl
  | cons file rest ih =>
    have hfirst : ((readGeneral files file).run.run s).2.listing
        = listingWith files s.listing file := by
      rw [readGeneral_run, listingWith]
      cases files.readText file with
      | error issue => rfl
      | ok source => rfl
    exact (ih _).trans (congrArg (rest.foldl (listingWith files)) hfirst)

/-- Visits that succeed read one file after the other. -/
theorem allSucceed_visit (h : AllSucceed (visit files) s paths left) :
    (∀ f ∈ paths, ∃ source, files.readText f = .ok source) ∧ left.groups = s.groups ∧
      left.listing = paths.foldl (listingWith files) s.listing := by
  induction h with
  | nil s => exact ⟨fun _ hf => absurd hf List.not_mem_nil, rfl, rfl⟩
  | @cons file rest s u t hvisit _ ih =>
    obtain ⟨hall, hgroups, hlisting⟩ := ih
    rw [visit_run, readGeneral_run] at hvisit
    cases hread : files.readText file with
    | error issue =>
      rw [hread] at hvisit
      cases hvisit
    | ok source =>
      rw [hread] at hvisit
      cases hvisit
      refine ⟨List.forall_mem_cons.2 ⟨⟨source, hread⟩, hall⟩, hgroups, ?_⟩
      rw [hlisting, List.foldl_cons, listingWith, hread]
      rfl

/-- Main files that are not all read are read up to the first that cannot be. -/
theorem visit_error (h : (paths.forM (visit files)).run.run s = (.error e, left)) :
    ∃ read failing rest issue, paths = read ++ failing :: rest ∧
      (∀ f ∈ read, ∃ source, files.readText f = .ok source) ∧
      files.readText failing = .error issue ∧ e = .io failing issue ∧
      left.groups = s.groups ∧ left.listing = read.foldl (listingWith files) s.listing := by
  rcases allSucceed_or_fails (visit files) paths s with
    ⟨t, hall⟩ | ⟨read, failing, rest, u, e, t, rfl, hread, hfails⟩
  · rw [hall.forM_run] at h
    cases h
  · rw [hread.forM_run_of_error hfails] at h
    cases h
    obtain ⟨hall, hgroups, hlisting⟩ := allSucceed_visit hread
    rw [visit_run, readGeneral_run] at hfails
    cases hfailing : files.readText failing with
    | ok source =>
      rw [hfailing] at hfails
      cases hfails
    | error issue =>
      rw [hfailing] at hfails
      cases hfails
      exact ⟨read, failing, rest, issue, rfl, hall, hfailing, rfl, hgroups, hlisting⟩

/-! ## Main files under roots -/

/-- The main files under some roots that are there. -/
def foundUnder (files : FileSystem) (mainFile : String) (roots : List Path) : List Path :=
  (roots.map (mainFileUnder mainFile)).filter files.isFile

variable {policy : RootPolicy} {mainFile : String} {roots : List Path}

/-- The main files that take part are the first of those that are there. -/
theorem mainFiles_isPrefix (files : FileSystem) (policy : RootPolicy) (mainFile : String)
    (roots : List Path) :
    mainFiles files policy mainFile roots <+: foundUnder files mainFile roots := by
  cases policy with
  | everyMatch => exact List.prefix_refl _
  | firstMatch => exact List.take_prefix 1 _

theorem mainFiles_eq_nil_iff :
    mainFiles files policy mainFile roots = [] ↔ foundUnder files mainFile roots = [] := by
  cases policy with
  | everyMatch => rfl
  | firstMatch =>
    change (foundUnder files mainFile roots).take 1 = [] ↔ _
    rw [List.take_eq_nil_iff]
    simp

theorem foundUnder_eq_nil_iff :
    foundUnder files mainFile roots = []
      ↔ ∀ root ∈ roots, files.isFile (mainFileUnder mainFile root) = false := by
  simp [foundUnder]

/-- A main file that takes part lies under a root, behind the roots of those before it. -/
theorem exists_root_of_mainFiles {read rest : List Path} {failing : Path}
    (h : mainFiles files policy mainFile roots = read ++ failing :: rest) :
    ∃ before root behind, roots = before ++ root :: behind ∧
      failing = mainFileUnder mainFile root ∧ files.isFile failing = true ∧
      read = foundUnder files mainFile before := by
  obtain ⟨others, hothers⟩ := mainFiles_isPrefix files policy mainFile roots
  rw [h, List.append_assoc, List.cons_append] at hothers
  obtain ⟨first, last, hplaces, hfirst, hlast⟩ := List.filter_eq_append_iff.1 hothers.symm
  obtain ⟨skipped, later, rfl, hskipped, hfile, -⟩ := List.filter_eq_cons_iff.1 hlast
  rw [← List.append_assoc] at hplaces
  obtain ⟨before, tail, rfl, hbefore, htail⟩ := List.map_eq_append_iff.1 hplaces
  obtain ⟨root, behind, rfl, hroot, -⟩ := List.map_eq_cons_iff.1 htail
  have hnone : skipped.filter files.isFile = [] :=
    List.filter_eq_nil_iff.2 hskipped
  refine ⟨before, root, behind, rfl, hroot.symm, hfile, ?_⟩
  rw [foundUnder, hbefore, List.filter_append, hfirst, hnone, List.append_nil]

theorem visitMainFiles_run {σ : Type} (files : FileSystem) (policy : RootPolicy) (mainFile : String)
    (roots : List Path) (visit : Path → ExceptT Error (StateM σ) Unit) (s : σ) :
    (visitMainFiles files policy mainFile roots visit).run.run s
      = if mainFiles files policy mainFile roots = [] then
          (.error (.resolution
            (((roots.map (mainFileUnder mainFile)).getLast?).getD ⟨mainFile⟩)), s)
        else
          match ((mainFiles files policy mainFile roots).forM visit).run.run s with
          | (.ok (), t) => (.ok (mainFiles files policy mainFile roots), t)
          | (.error e, t) => (.error e, t) := by
  unfold visitMainFiles
  by_cases hnone : mainFiles files policy mainFile roots = []
  · rw [if_pos hnone]
    simp only [hnone, if_true]
    rfl
  · simp only [hnone, if_false]
    rw [run_bind]
    rcases ((mainFiles files policy mainFile roots).forM visit).run.run s with ⟨outcome, t⟩
    cases outcome with
    | error e => rfl
    | ok _ => rfl

/-! ## Requests that fail -/

/-- A request for main files that fails finds none, or reads those in front of one that cannot be
read. -/
theorem mainFiles_error
    (h : ((Request.mainFiles policy mainFile roots).step files).run.run s = (.error e, left)) :
    left.groups = s.groups ∧
      ((∀ root ∈ roots, files.isFile (mainFileUnder mainFile root) = false) ∧ left = s ∨
        ∃ before root behind issue, roots = before ++ root :: behind ∧
          files.isFile (mainFileUnder mainFile root) = true ∧
          files.readText (mainFileUnder mainFile root) = .error issue ∧
          e = .io (mainFileUnder mainFile root) issue ∧
          (∀ file ∈ foundUnder files mainFile before,
            ∃ source, files.readText file = .ok source) ∧
          left.listing
            = (s.after (generalRequests files (foundUnder files mainFile before))).listing) := by
  rw [Request.step, readMainFilesUnder_eq, run_bind, visitMainFiles_run] at h
  by_cases hnone : mainFiles files policy mainFile roots = []
  · rw [if_pos hnone] at h
    cases h
    exact ⟨rfl, Or.inl ⟨foundUnder_eq_nil_iff.1 (mainFiles_eq_nil_iff.1 hnone), rfl⟩⟩
  · rw [if_neg hnone] at h
    rcases hvisits : ((mainFiles files policy mainFile roots).forM (visit files)).run.run s
      with ⟨outcome, t⟩
    rw [hvisits] at h
    cases outcome with
    | ok _ => cases h
    | error issue =>
      cases h
      obtain ⟨read, failing, rest, issue, hread, hall, hfailing, he, hgroups, hlisting⟩ :=
        visit_error hvisits
      obtain ⟨before, root, behind, hroots, rfl, hfile, rfl⟩ := exists_root_of_mainFiles hread
      refine ⟨hgroups, Or.inr ⟨before, root, behind, issue, hroots, hfile, hfailing, he, hall, ?_⟩⟩
      rw [hlisting, listing_after_generalRequests]

/-- A request that fails leaves a survey as it was. Only the main files in front of one that cannot
be read are read into the listing, as if the survey had been asked for just these. -/
theorem failed_request (start : Survey) (earlier : List (FileSystem × Request))
    (files : FileSystem) (request : Request) {e : Error} {left : Survey}
    (h : (request.step files).run.run (start.after earlier) = (.error e, left)) :
    match request with
    | .general _ => left = start.after earlier
    | .package _ => left = start.after earlier
    | .mainFiles _ mainFile roots =>
      left.groups = (start.after earlier).groups ∧
        ((∀ root ∈ roots, files.isFile (mainFileUnder mainFile root) = false) ∧
            left = start.after earlier ∨
          ∃ before root behind issue, roots = before ++ root :: behind ∧
            files.isFile (mainFileUnder mainFile root) = true ∧
            files.readText (mainFileUnder mainFile root) = .error issue ∧
            e = .io (mainFileUnder mainFile root) issue ∧
            (∀ file ∈ foundUnder files mainFile before,
              ∃ source, files.readText file = .ok source) ∧
            left.listing = (start.after
              (earlier ++ generalRequests files (foundUnder files mainFile before))).listing) := by
  cases request with
  | general file =>
    rw [Request.step, readGeneral_run] at h
    cases hread : files.readText file with
    | error issue =>
      rw [hread] at h
      cases h
      rfl
    | ok source =>
      rw [hread] at h
      cases h
  | package name =>
    rw [Request.step, readPackage_run] at h
    cases hdirectory : packageDirectory files name (start.after earlier).roots with
    | error issue =>
      rw [hdirectory] at h
      cases h
      rfl
    | ok directory =>
      rw [hdirectory] at h
      simp only at h
      cases hscan : files.scan directory with
      | error issue =>
        rw [hscan] at h
        cases h
        rfl
      | ok found =>
        rw [hscan] at h
        cases h
  | mainFiles policy mainFile roots =>
    have hgeneral : ∀ requests, start.after (earlier ++ requests)
        = (start.after earlier).after requests := fun _ => List.foldl_append
    simp only [hgeneral]
    exact mainFiles_error h

/-- Two roots with a main file each, of which the second is no text. -/
def twoRoots : FileSystem where
  tree := .directory
    [("a", .directory [("src", .directory [("m.go", .file "// @APIVersion 1".toUTF8)])]),
      ("b", .directory [("src", .directory [("m.go", .file ⟨#[0xff]⟩)])])]

/-- After a package that does not exist, the main file of the first root is read and that of the
second is not. -/
theorem failed_request_twoRoots :
    let start : Survey := { roots := [⟨"a"⟩, ⟨"b"⟩] }
    let earlier : List (FileSystem × Request) := [(twoRoots, .package "none")]
    let request : Request := .mainFiles .everyMatch "m.go" start.roots
    ∃ left, (request.step twoRoots).run.run (start.after earlier)
        = (.error (.io ⟨"b/src/m.go"⟩ .notText), left) ∧
      left.groups = start.groups ∧
      left.listing
        = (start.after (earlier ++ generalRequests twoRoots [⟨"a/src/m.go"⟩])).listing ∧
      left.listing.apiVersion = "1" := by
  intro start earlier request
  have hfails : (request.step twoRoots).run.run (start.after earlier)
      = (.error (.io ⟨"b/src/m.go"⟩ .notText),
          ((request.step twoRoots).run.run (start.after earlier)).2) := Prod.ext rfl rfl
  refine ⟨_, hfails, ?_⟩
  obtain ⟨hgroups, hnone | hread⟩ := failed_request start earlier twoRoots request hfails
  · exact absurd (hnone.1 ⟨"a"⟩ (by decide)) (by decide)
  · obtain ⟨before, root, behind, issue, hroots, -, hissue, he, -, hlisting⟩ := hread
    have hmain : mainFileUnder "m.go" root = ⟨"b/src/m.go"⟩ := (Error.io.inj he).1.symm
    have hbefore : before = [⟨"a"⟩] := by
      cases before with
      | nil =>
        obtain ⟨rfl, -⟩ := List.cons.inj hroots
        exact absurd hmain (by decide)
      | cons first others =>
        obtain ⟨rfl, hrest⟩ := List.cons.inj hroots
        cases others with
        | nil => rfl
        | cons second more =>
          obtain ⟨-, hempty⟩ := List.cons.inj hrest
          simp at hempty
    rw [hbefore] at hlisting
    exact ⟨hgroups, hlisting, rfl⟩

end ApiDocs.Survey
