import ApiDocs.Files.Access

/-!
# Go files of a directory

The source files of a package: all Go files at any depth below its directory, without tests, hidden
directories and directories for vendored code and test data. They come in the order of their names,
with the content of a directory at the place of its name.
-/

set_option autoImplicit false

namespace ApiDocs

namespace FileTree

/-- Whether a file of this name is a Go source that is not a test. -/
def isGoSource (name : String) : Bool :=
  Path.extension? name == some "go" && !"_test.go".toList.isSuffixOf name.toList

/-- Whether a directory of this name is passed over. -/
def isPassedOver (name : String) : Bool :=
  name.toList.head? == some '.' || name == "vendor" || name == "testdata"

/-- Groups of files in the order of the names of their directory entries. -/
def inNameOrder (groups : List (String × List Path)) : List Path :=
  (groups.mergeSort fun a b => decide (a.1 ≤ b.1)).flatMap Prod.snd

mutual

/-- The Go files below a directory with this path. -/
def goFiles (base : Path) : FileTree → List Path
  | file _ => []
  | directory entries => inNameOrder (goFilesOf base entries)

/-- The Go files that each entry of a directory stands for. -/
def goFilesOf (base : Path) : List (String × FileTree) → List (String × List Path)
  | [] => []
  | (name, file _) :: rest =>
    (name, if isGoSource name then [base.join ⟨name⟩] else []) :: goFilesOf base rest
  | (name, directory entries) :: rest =>
    (name, if isPassedOver name then []
      else (directory entries).goFiles (base.join ⟨name⟩)) :: goFilesOf base rest

end

end FileTree

namespace FileSystem

/-- The Go files of the directory that a path names. -/
def scan (fs : FileSystem) (root : Path) : Except Error (List Path) :=
  match fs.find? root with
  | some (.directory entries) => .ok ((FileTree.directory entries).goFiles root)
  | _ => .error (.io root .noPackageDirectory)

end FileSystem

end ApiDocs
