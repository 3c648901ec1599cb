import ApiDocs.Error
import ApiDocs.Files.Tree

/-!
# Access to files

A file system is a file tree with a working directory in it. Paths are looked up in it, files are
read and written, and directories are made; each refusal comes with its reason.
-/

set_option autoImplicit false

namespace ApiDocs

open Text (pieces)

/-- A file tree, and the place in it where relative paths start. -/
structure FileSystem where
  tree : FileTree
  workingPlace : List String := []
deriving Inhabited

namespace FileSystem

/-- The longest name that a file or directory may have, in bytes. -/
def maxNameSize : Nat := 255

/-- The longest path that is looked up, in bytes. -/
def maxPathSize : Nat := 4095

/-- The place where a path starts. -/
def start (fs : FileSystem) (p : Path) : List String :=
  if p.isAbsolute then [] else fs.workingPlace

/-- The place reached from a place by steps. A step leads out of a directory: an empty one and a
dot stay, two dots lead to the directory above, and a name leads to the entry of that name. -/
def follow (fs : FileSystem) (place : List String) : List String → Except FileIssue (List String)
  | [] => .ok place
  | step :: rest =>
    if step = "" then fs.follow place rest
    else
      match fs.tree.get? place with
      | some (.directory entries) =>
        if step = "." then fs.follow place rest
        else if step = ".." then fs.follow place.dropLast rest
        else if step.utf8ByteSize > maxNameSize then .error .nameTooLong
        else if (entries.lookup step).isSome then fs.follow (place ++ [step]) rest
        else .error .notFound
      | _ => .error .notADirectory

/-- The steps of a path. -/
def steps (p : Path) : List String :=
  (pieces '/' p.text.toList).map String.ofList

/-- The steps that look a path up. A slash at the end asks for a directory, like a dot behind
it. -/
def lookupSteps (p : Path) : List String :=
  if p.text.toList.getLast? = some '/' then steps p ++ ["."] else steps p

/-- What no path may be: with a null character, empty, or too long. -/
def pathIssue? (p : Path) : Option FileIssue :=
  if '\x00' ∈ p.text.toList then some .nullCharacter
  else if p.text = "" then some .notFound
  else if p.text.utf8ByteSize > maxPathSize then some .nameTooLong
  else none

/-- The place that a path names. -/
def locate (fs : FileSystem) (p : Path) : Except FileIssue (List String) :=
  match pathIssue? p with
  | some issue => .error issue
  | none => fs.follow (fs.start p) (lookupSteps p)

/-- What a path names. -/
def find? (fs : FileSystem) (p : Path) : Option FileTree :=
  match fs.locate p with
  | .ok place => fs.tree.get? place
  | .error _ => none

/-- Whether a path names a file. -/
def isFile (fs : FileSystem) (p : Path) : Bool :=
  match fs.find? p with
  | some (.file _) => true
  | _ => false

/-- Whether a path names a directory. -/
def isDirectory (fs : FileSystem) (p : Path) : Bool :=
  match fs.find? p with
  | some (.directory _) => true
  | _ => false

/-- The text of the file that a path names. -/
def readText (fs : FileSystem) (p : Path) : Except FileIssue String :=
  match fs.locate p with
  | .error issue => .error issue
  | .ok place =>
    match fs.tree.get? place with
    | some (.file bytes) =>
      match String.fromUTF8? bytes with
      | some text => .ok text
      | none => .error .notText
    | some (.directory _) => .error .isADirectory
    | none => .error .notFound

/-- The last step of a path that is not empty, the steps before it, and whether slashes follow it.
The last step is empty when the path has no other. -/
def lastStep (p : Path) : List String × String × Bool :=
  let fromEnd := (steps p).reverse
  let body := fromEnd.dropWhile (· = "")
  (body.tail.reverse, body.headD "", fromEnd.head? == some "")

/-- Whether a step leads to a directory that is there in any case. -/
def isFixedStep (step : String) : Bool :=
  step == "" || step == "." || step == ".."

/-- The place of the directory in which the last step of a path makes an entry. -/
def locateParent (fs : FileSystem) (p : Path) : Except FileIssue (List String) :=
  match pathIssue? p with
  | some issue => .error issue
  | none => fs.follow (fs.start p) ((lastStep p).1 ++ ["."])

/-- The file system with a tree put at a place. -/
def put (fs : FileSystem) (place : List String) (node : FileTree) : FileSystem :=
  { fs with tree := fs.tree.put place node }

/-- The file system with a new directory at a path, of which all but the last step exists. -/
def makeDirectory (fs : FileSystem) (p : Path) : Except FileIssue FileSystem :=
  match fs.locateParent p with
  | .error issue => .error issue
  | .ok place =>
    let name := (lastStep p).2.1
    if isFixedStep name then .error .alreadyExists
    else if name.utf8ByteSize > maxNameSize then .error .nameTooLong
    else if (fs.tree.get? (place ++ [name])).isSome then .error .alreadyExists
    else .ok (fs.put (place ++ [name]) .empty)

/-- The file system with a file of some bytes at a path. The file is made or overwritten; the
directory that it lies in has to exist. -/
def writeFile (fs : FileSystem) (p : Path) (bytes : ByteArray) : Except FileIssue FileSystem :=
  match fs.locateParent p with
  | .error issue => .error issue
  | .ok place =>
    let (_, name, slashes) := lastStep p
    if slashes || isFixedStep name then .error .isADirectory
    else if name.utf8ByteSize > maxNameSize then .error .nameTooLong
    else
      match fs.tree.get? (place ++ [name]) with
      | some (.directory _) => .error .isADirectory
      | _ => .ok (fs.put (place ++ [name]) (.file bytes))

end FileSystem

end ApiDocs
