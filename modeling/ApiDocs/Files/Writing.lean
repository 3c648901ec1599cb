import ApiDocs.Files.Access

/-!
# Writing files

A file is written together with the directories that lead to it. When a step fails, the directories
made before it stay.
-/

set_option autoImplicit false

namespace ApiDocs.FileSystem

/-- The outcome of an attempt to make a directory that may exist already. -/
def orExisting (fs : FileSystem) (p : Path) (issue : FileIssue) :
    FileSystem × Except FileIssue Unit :=
  (fs, if fs.isDirectory p then .ok () else .error issue)

/-- The file system with the first of a list of paths as a directory, and the reason if that fails.
Each path is followed by the directory that holds it; when a path cannot be made because that is
missing, the directory that holds it is made first. -/
def makeChain (fs : FileSystem) : List Path → FileSystem × Except FileIssue Unit
  | [] => (fs, .error (.other "failed to create whole tree"))
  | p :: above =>
    if p.text = "" then (fs, .ok ())
    else
      match fs.makeDirectory p with
      | .ok made => (made, .ok ())
      | .error .notFound =>
        match fs.makeChain above with
        | (grown, .error issue) => (grown, .error issue)
        | (grown, .ok ()) =>
          match grown.makeDirectory p with
          | .ok made => (made, .ok ())
          | .error issue => grown.orExisting p issue
      | .error issue => fs.orExisting p issue

/-- The file system with a directory at a path, and with all directories above it. -/
def makeDirectories (fs : FileSystem) (p : Path) : FileSystem × Except FileIssue Unit :=
  fs.makeChain (p :: p.ancestors)

/-- The file system with a text written to a file, after the directory of the file is made. -/
def writeText (fs : FileSystem) (p : Path) (text : String) : FileSystem × Except Error Unit :=
  let (fs, made) :=
    match p.parent? with
    | some above =>
      let (fs, made) := fs.makeDirectories above
      (fs, made.mapError (Error.io above))
    | none => (fs, .ok ())
  match made with
  | .error e => (fs, .error e)
  | .ok () =>
    match fs.writeFile p text.toUTF8 with
    | .ok written => (written, .ok ())
    | .error issue => (fs, .error (.io p issue))

end ApiDocs.FileSystem
