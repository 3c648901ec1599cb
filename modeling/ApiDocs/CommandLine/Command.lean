import ApiDocs.CommandLine.Arguments
import ApiDocs.Run

/-!
# Commands

What the program does with its arguments and its environment: it explains itself when no package is
given, and documents the package otherwise.
-/

set_option autoImplicit false

namespace ApiDocs.CommandLine

/-- The line of an option: its spelling, and what it does from the thirty-fourth column on. -/
def option (spelling what : String) : String :=
  (spelling.pushn ' ' (33 - spelling.length)) ++ what

/-- The lines of the help text. -/
def helpLines : List String :=
  ["Generates Swagger 1.2 documentation (embedded Go module, JSON tree or markup) from annotated"
      ++ " Go API sources",
   "",
   "Usage: swagger-docgen [OPTIONS]",
   "",
   "Options:",
   option "      --apiPackage <PKG>" ("Package that implements the API controllers, relative to "
      ++ "$GOPATH/src [alias: --api-package]"),
   option "      --mainApiFile <FILE>" ("File that contains the general API annotations, relative "
      ++ "to $GOPATH/src (default: <apiPackage>/main.go) [alias: --main-api-file]"),
   option "  -f, --format <FORMAT>" ("Output format: go, swagger, asciidoc, markdown or confluence "
      ++ "[default: go]"),
   option "  -o, --output <DIR>" "Output directory for the generated file(s) [default: .]",
   option "      --controllerClass <REGEX>" ("Only parse methods whose pointer receiver type "
      ++ "matches this regular expression [alias: --controller-class]"),
   option "      --first-match" "Parse the main API file from the first matching root only",
   option "  -v, --verbose" "Enable verbose output",
   option "  -h, --help" "Print help",
   option "  -V, --version" "Print version"]

/-- The help text. -/
def helpText : String :=
  String.join (helpLines.map fun line => line ++ "\n")

/-- An error and the causes below it, outermost first. -/
def chain (e : Error) : List String :=
  e.message :: e.source?.toList

/-- What a failed run is introduced with. -/
def failure (settings : Settings) : String :=
  s!"Failed to generate {settings.format.name} documentation for {settings.apiPackage}"

/-- The settings that the arguments and the search path of the environment give for a package. -/
def settings (arguments : Arguments) (searchPath : Option String) (package : String) :
    Except Error Settings :=
  let roots := searchRoots (searchPath.getD "")
  if roots = [] then .error (.configuration .searchPathUnset)
  else
    Settings.make package arguments.mainApiFile arguments.format ⟨arguments.output⟩
      arguments.controllerClass roots (if arguments.firstMatch then .firstMatch else .everyMatch)

/-- What is reported on the settings of a run. -/
def settingsNotices (s : Settings) : List Notice :=
  [.usingPackage s.apiPackage, .usingMainFile s.mainFile, .usingFormat s.format,
    .usingOutput s.output] ++ (s.controllerPattern.map Notice.usingPattern).toList

/-- What a command did. -/
structure Outcome where
  /-- The words of the error and its causes, if there was one. -/
  failure : Option (List String) := none
  /-- What was printed. -/
  printed : String := ""
deriving DecidableEq, Repr

/-- Carry out a command. -/
def run (arguments : Arguments) (searchPath : Option String) : StateM Workspace Outcome := do
  match Settings.nonempty? arguments.apiPackage with
  | none => return { printed := helpText }
  | some package =>
    match settings arguments searchPath package with
    | .error e => return { failure := some (chain e) }
    | .ok s =>
      modify fun w => { w with notices := w.notices ++ settingsNotices s }
      match ← (Run.generate s).run with
      | .ok () => return {}
      | .error e => return { failure := some (failure s :: chain e) }

end ApiDocs.CommandLine
