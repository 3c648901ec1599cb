/-!
# File trees

Directories and files as a value. A place in a tree is the list of names that leads to it; the
empty list is the top.
-/

set_option autoImplicit false

namespace ApiDocs

/-- A file with its bytes, or a directory with its named entries. -/
inductive FileTree
  | file (bytes : ByteArray)
  | directory (entries : List (String × FileTree))
deriving Inhabited

namespace FileTree

/-- A directory without entries. -/
def empty : FileTree :=
  directory []

/-- The entries of a directory with a new or another entry under a name. -/
def setEntry (name : String) (node : FileTree) :
    List (String × FileTree) → List (String × FileTree)
  | [] => [(name, node)]
  | e :: rest => if e.1 = name then (name, node) :: rest else e :: setEntry name node rest

/-- What stands at a place. -/
def get? (tree : FileTree) : List String → Option FileTree
  | [] => some tree
  | name :: rest =>
    match tree with
    | file _ => none
    | directory entries =>
      match entries.lookup name with
      | some node => node.get? rest
      | none => none

/-- The tree with something put at a place. Directories that lead there are made; a file on the
way stays, and then nothing is put. -/
def put : FileTree → List String → FileTree → FileTree
  | _, [], node => node
  | file bytes, _ :: _, _ => file bytes
  | directory entries, name :: rest, node =>
    directory (setEntry name (((entries.lookup name).getD empty).put rest node) entries)

mutual

/-- The files of a tree with the places where they stand. -/
def files : FileTree → List (List String × ByteArray)
  | file bytes => [([], bytes)]
  | directory entries => filesOf entries

/-- The files below the entries of a directory. -/
def filesOf : List (String × FileTree) → List (List String × ByteArray)
  | [] => []
  | (name, node) :: rest => node.files.map (fun f => (name :: f.1, f.2)) ++ filesOf rest

end

end FileTree

end ApiDocs
