import ApiDocs.CommandLine.Command

/-!
# The program

Reads the command line and the environment, takes the sources that they name from the disk, carries
out the command, and writes to the disk what it has written.
-/

set_option autoImplicit false

namespace ApiDocs.Program

open CommandLine (Arguments)

/-- The version of the program. -/
def version : String := "swagger-docgen 0.1.0"

/-- The place of a path, seen from a working directory. -/
def placeOf (workingPlace : List String) (p : Path) : List String :=
  let start := if p.isAbsolute then [] else workingPlace
  (FileSystem.steps p).foldl (fun place step =>
    if step = "" ∨ step = "." then place
    else if step = ".." then place.dropLast
    else place ++ [step]) start

/-- The text of the path from the root to a place. -/
def textOf (place : List String) : String :=
  "/" ++ "/".intercalate place

/-- What the disk holds at a place, links apart. -/
partial def load (place : List String) : IO (Option FileTree) := do
  try
    let path ← IO.FS.realPath (textOf place)
    if ← path.isDir then
      let mut entries := []
      for entry in ← path.readDir do
        if (← entry.path.metadata).type matches .dir | .file then
          if let some node ← load (place ++ [entry.fileName]) then
            entries := (entry.fileName, node) :: entries
      return some (.directory entries)
    else return some (.file (← IO.FS.readBinFile path))
  catch _ => return none

/-- The file system with what the disk holds at a place. -/
def withDisk (fs : FileSystem) (place : List String) : IO FileSystem := do
  match ← load place with
  | some node => return fs.put place node
  | none => return fs

/-- The sources that a command can read. -/
def sources (arguments : Arguments) (searchPath : Option String) : List Path :=
  match Settings.nonempty? arguments.apiPackage with
  | none => []
  | some package =>
    match CommandLine.settings arguments searchPath package with
    | .ok s =>
      s.roots.flatMap fun root =>
        [Survey.packageUnder s.apiPackage root, Survey.mainFileUnder s.mainFile root]
    | .error _ => []

/-- Write to the disk every file that is not as it was before. -/
def save (before after : FileSystem) : IO Unit := do
  let old := before.tree.files
  for (place, bytes) in after.tree.files do
    if old.lookup place != some bytes then
      IO.FS.createDirAll (textOf place.dropLast)
      IO.FS.writeBinFile (textOf place) bytes

/-- Print the words of a failure with its causes. -/
def printFailure : List String → IO Unit
  | [] => return
  | error :: causes => do
    IO.eprintln s!"Error: {error}"
    unless causes.isEmpty do
      IO.eprintln "\nCaused by:"
      for cause in causes do
        IO.eprintln s!"    {cause}"

/-- Carry out a command on the disk. -/
def perform (arguments : Arguments) : IO UInt32 := do
  let searchPath ← IO.getEnv "GOPATH"
  let here := placeOf [] ⟨(← IO.currentDir).toString⟩
  let mut fs : FileSystem := { tree := FileTree.empty.put here .empty, workingPlace := here }
  for source in sources arguments searchPath do
    fs ← withDisk fs (placeOf here source)
  let (outcome, workspace) := (CommandLine.run arguments searchPath).run { files := fs }
  for notice in workspace.notices do
    IO.eprintln notice.message
  save fs workspace.files
  IO.print outcome.printed
  match outcome.failure with
  | none => return 0
  | some chain =>
    printFailure chain
    return 1

end ApiDocs.Program

/-- The program: the arguments come from the command line, the source roots from `GOPATH`. -/
def main (args : List String) : IO UInt32 := do
  match ApiDocs.CommandLine.Arguments.parse args with
  | .ok arguments => ApiDocs.Program.perform arguments
  | .error .displayHelp => do
    IO.print ApiDocs.CommandLine.helpText
    return 0
  | .error .displayVersion => do
    IO.println ApiDocs.Program.version
    return 0
  | .error _ => do
    IO.eprintln "error: the command line cannot be read, try --help"
    return 2
