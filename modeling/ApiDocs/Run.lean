import ApiDocs.Files.Writing
import ApiDocs.Output.Artifacts
import ApiDocs.Pattern.Filter
import ApiDocs.Survey

/-!
# Runs

A run surveys the sources and writes the documentation in one format. Nothing is written unless the
survey succeeds; a run that fails while writing leaves the files that it has written.
-/

set_option autoImplicit false

namespace ApiDocs

/-- What a run works on: the files, and what was reported so far. -/
structure Workspace where
  files : FileSystem
  notices : List Notice := []
deriving Inhabited

/-- A part of a run. -/
abbrev Run (α : Type) := ExceptT Error (StateM Workspace) α

namespace Run

/-- Report something. -/
def report (notices : List Notice) : Run Unit :=
  modify fun w => { w with notices := w.notices ++ notices }

/-- Write a text to a file. -/
def write (path : Path) (text : String) : Run Unit := do
  let w ← get
  let (files, outcome) := w.files.writeText path text
  set { w with files }
  match outcome with
  | .ok () => return ()
  | .error e => throw e

/-- Write an artifact. -/
def emitArtifact (a : Artifact) : Run Unit := do
  write a.path a.text
  report a.notices

/-- Write the documentation in a format. -/
def emit (format : OutputFormat) (doc : Documentation) (output : Path) : Run Unit := do
  (artifacts format doc output).forM emitArtifact
  report [.confirmed format]

/-- Write the documentation in the format of a name. -/
def emitNamed (format : String) (doc : Documentation) (output : Path) : Run Unit := do
  match OutputFormat.parse format with
  | .error e => throw e
  | .ok format => emit format doc output

/-- The steps of a survey: the main files first, then the package. -/
def surveySteps (files : FileSystem) (settings : Settings) : SurveyStep Unit := do
  Survey.report [.started]
  let _ ← Survey.readMainFiles files settings.policy settings.mainFile
  Survey.readPackage files settings.apiPackage
  Survey.report [.finished]

/-- The documentation that the sources give. -/
def survey (settings : Settings) : Run Documentation := do
  match RouteFilter.ofPattern settings.controllerPattern with
  | .error e => throw e
  | .ok filter =>
    let (outcome, s) :=
      (surveySteps (← get).files settings).run.run { roots := settings.roots, filter }
    report s.notices
    match outcome with
    | .ok () => return s.documentation
    | .error e => throw e

/-- Survey the sources and write the documentation. -/
def generate (settings : Settings) : Run Unit := do
  let doc ← survey settings
  report [.documenting doc.groups.size settings.format]
  emit settings.format doc settings.output

end Run

end ApiDocs
