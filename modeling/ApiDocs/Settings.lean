import ApiDocs.OutputFormat
import ApiDocs.Path
import ApiDocs.Text.Pieces

/-!
# Settings

What one run documents, where it looks for the sources and what it writes.
-/

set_option autoImplicit false

namespace ApiDocs

/-- Which of the source roots that hold the main file take part. -/
inductive RootPolicy
  /-- All of them; a later file overwrites what an earlier one set. -/
  | everyMatch
  /-- Only the first. -/
  | firstMatch
deriving DecidableEq, Repr

/-- The settings of a run. -/
structure Settings where
  /-- The package of the controllers, relative to the `src` directory of a root. -/
  apiPackage : String
  /-- The file of the general annotations, relative to the `src` directory of a root. -/
  mainFile : String
  /-- The form of the output. -/
  format : OutputFormat
  /-- The directory that the output goes to. -/
  output : Path
  /-- The pattern that the receiver types of documented methods match. -/
  controllerPattern : Option String
  /-- The source roots in the order of search. -/
  roots : List Path
  /-- The roots that take part. -/
  policy : RootPolicy
deriving DecidableEq, Repr

namespace Settings

/-- The value of an option that counts as given only when it is not empty. -/
def nonempty? (value : Option String) : Option String :=
  value.filter (· ≠ "")

/-- Settings from the values of options. The format has to exist and there has to be a root; the
main file is `main.go` of the package unless another one is named. -/
def make (apiPackage : String) (mainFile : Option String) (format : String) (output : Path)
    (controllerPattern : Option String) (roots : List Path) (policy : RootPolicy) :
    Except Error Settings := do
  let format ← OutputFormat.parse format
  if roots = [] then throw (.configuration .noSearchPath)
  return {
    apiPackage
    mainFile := (nonempty? mainFile).getD (apiPackage ++ "/main.go")
    format
    output
    controllerPattern := nonempty? controllerPattern
    roots
    policy }

end Settings

/-- The source roots that a search path lists between colons; blanks around a root do not count,
and empty places are passed over. -/
def searchRoots (value : String) : List Path :=
  (((Text.pieces ':' value.toList).map Text.trim).filter (· ≠ [])).map fun r => ⟨String.ofList r⟩

end ApiDocs
