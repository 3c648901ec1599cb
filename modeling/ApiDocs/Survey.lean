import ApiDocs.Annotations.General
import ApiDocs.Files.GoFiles
import ApiDocs.GoSource.Reading
import ApiDocs.Grouping.Gathering
import ApiDocs.Grouping.Reconciliation
import ApiDocs.Settings

/-!
# Surveys of sources

A survey builds the documentation of an API from the files of its sources: the general annotations
of its main file, found under the source roots, and the routes of its package. Each step may fail;
what was found and reported before stays.
-/

set_option autoImplicit false

namespace ApiDocs

/-- The state of a survey. -/
structure Survey where
  /-- The source roots in the order of search. -/
  roots : List Path
  /-- The functions that take part. -/
  filter : RouteFilter := {}
  /-- The types that write themselves as primitives. -/
  overrides : TypeOverrides := .standard
  listing : ResourceListing := { swaggerVersion := swaggerVersion }
  groups : Groups := .empty
  /-- What was reported so far. -/
  notices : List Notice := []

/-- A step of a survey. -/
abbrev SurveyStep (α : Type) := ExceptT Error (StateM Survey) α

namespace Survey

/-- Report something. -/
def report (notices : List Notice) : SurveyStep Unit :=
  modify fun s => { s with notices := s.notices ++ notices }

/-- What the comment lines of a source text say on the API in general. -/
def generalLines (source : String) : List Annotations.GeneralLine :=
  (Text.lines source.toList).filterMap fun line =>
    (['/', '/'].isPrefixOf? (Text.trim line)).map fun comment =>
      .read (String.ofList comment)

/-- Read the general annotations of a file into the listing. -/
def readGeneral (files : FileSystem) (file : Path) : SurveyStep Unit := do
  match files.readText file with
  | .error issue => throw (.io file issue)
  | .ok source =>
    let lines := generalLines source
    modify fun s => { s with listing := lines.foldl Annotations.GeneralLine.apply s.listing }
    report (lines.flatMap Annotations.GeneralLine.notices)

/-- The place of the main file under a root. -/
def mainFileUnder (mainFile : String) (root : Path) : Path :=
  (root.join ⟨"src"⟩).join ⟨String.ofList (mainFile.toList.dropWhile (· == '/'))⟩

/-- The place of a package under a root. -/
def packageUnder (package : String) (root : Path) : Path :=
  (root.join ⟨"src"⟩).join ⟨package⟩

/-- The main files under the roots that take part. -/
def mainFiles (files : FileSystem) (policy : RootPolicy) (mainFile : String) (roots : List Path) :
    List Path :=
  let found := (roots.map (mainFileUnder mainFile)).filter files.isFile
  match policy with
  | .everyMatch => found
  | .firstMatch => found.take 1

/-- Visit the main files under the roots, one after the other. It is an error if there are none;
the error names the last place that was tried. -/
def visitMainFiles {σ : Type} (files : FileSystem) (policy : RootPolicy) (mainFile : String)
    (roots : List Path) (visit : Path → ExceptT Error (StateM σ) Unit) :
    ExceptT Error (StateM σ) (List Path) := do
  let found := mainFiles files policy mainFile roots
  if found = [] then
    throw (.resolution (((roots.map (mainFileUnder mainFile)).getLast?).getD ⟨mainFile⟩))
  found.forM visit
  return found

/-- Read the general annotations of the main files under some roots. -/
def readMainFilesUnder (files : FileSystem) (policy : RootPolicy) (mainFile : String)
    (roots : List Path) : SurveyStep (List Path) :=
  visitMainFiles files policy mainFile roots fun file => do
    report [.readingGeneral file]
    readGeneral files file

/-- Read the general annotations of the main files under the roots of the survey. -/
def readMainFiles (files : FileSystem) (policy : RootPolicy) (mainFile : String) :
    SurveyStep (List Path) := do
  readMainFilesUnder files policy mainFile (← get).roots

/-- The directory of a package: the first one under the roots. -/
def packageDirectory (files : FileSystem) (package : String) (roots : List Path) :
    Except Error Path :=
  let places := roots.map (packageUnder package)
  match places.find? files.isDirectory with
  | some place => .ok place
  | none => .error (.resolution (places.getLast?.getD ⟨package⟩))

/-- The declarations of a source file. -/
def readSource (files : FileSystem) (path : Path) : Except Error GoSource.File :=
  match files.readText path with
  | .ok source => .ok ⟨path, .ofSource source⟩
  | .error issue => .error (.io path issue)

/-- The source files that can be read. -/
def readableSources (files : FileSystem) (paths : List Path) : List GoSource.File :=
  paths.filterMap fun path => (readSource files path).toOption

/-- Reports on the source files that cannot be read. -/
def unreadableNotices (files : FileSystem) (paths : List Path) : List Notice :=
  paths.filterMap fun path =>
    match readSource files path with
    | .ok _ => none
    | .error e => some (.unreadable path e)

/-- Read the routes of a package. They take the place of all groups, and the listing is reconciled
with them. -/
def readPackage (files : FileSystem) (package : String) : SurveyStep Unit := do
  let s ← get
  match packageDirectory files package s.roots with
  | .error e => throw e
  | .ok directory =>
    match files.scan directory with
    | .error e => throw e
    | .ok paths =>
      report (.foundFiles paths.length :: unreadableNotices files paths)
      let sources := readableSources files paths
      let gathering := Gathering.ofFiles s.filter (.ofFiles sources s.overrides) sources
      let groups := gathering.groups.declarations s.listing
      report (gathering.notices ++ [.foundGroups gathering.groups.size]
        ++ s.listing.reconcileNotices groups)
      modify fun s => { s with groups, listing := s.listing.reconcile groups }

/-- The documentation that a survey has found. -/
def documentation (s : Survey) : Documentation :=
  ⟨s.listing, s.groups⟩

end Survey

end ApiDocs
