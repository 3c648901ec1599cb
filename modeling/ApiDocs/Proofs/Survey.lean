import ApiDocs.Survey

/-!
# Steps of a survey

What a step of a survey comes to, as a function of the state before it.
-/

set_option autoImplicit false

namespace ApiDocs.Survey

/-- What is gathered from source files. -/
def gathering (s : Survey) (sources : List GoSource.File) : Gathering :=
  .ofFiles s.filter (.ofFiles sources s.overrides) sources

/-- The survey after the routes of a package are read from source files, some of the package's
files. -/
def afterPackage (s : Survey) (files : FileSystem) (paths : List Path) : Survey :=
  let sources := readableSources files paths
  let groups := (s.gathering sources).groups.declarations s.listing
  { s with
    groups
    listing := s.listing.reconcile groups
    notices := s.notices ++ (.foundFiles paths.length :: unreadableNotices files paths)
      ++ ((s.gathering sources).notices ++ [.foundGroups (s.gathering sources).groups.size]
        ++ s.listing.reconcileNotices groups) }

/-- Reading a package fails before anything changes, or reads all of its files. -/
theorem readPackage_run (files : FileSystem) (package : String) (s : Survey) :
    (readPackage files package).run.run s
      = match packageDirectory files package s.roots with
        | .error e => (.error e, s)
        | .ok directory =>
          match files.scan directory with
          | .error e => (.error e, s)
          | .ok paths => (.ok (), s.afterPackage files paths) := by
  have hget : ∀ step : Survey → SurveyStep Unit,
      (do step (← get) : SurveyStep Unit).run.run s = (step s).run.run s := fun _ => rfl
  unfold readPackage
  refine (hget _).trans ?_
  cases packageDirectory files package s.roots with
  | error e => rfl
  | ok directory =>
    simp only
    cases files.scan directory with
    | error e => rfl
    | ok paths => rfl

end ApiDocs.Survey
