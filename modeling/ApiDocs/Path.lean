import ApiDocs.Text.Pieces

/-!
# Paths of files and directories

A path is a text in which slashes separate the steps. Joining and taking the parent work on the
text: nothing is normalised that is not at the end of the path.
-/

set_option autoImplicit false

namespace ApiDocs

open Text (pieces)

/-- The path of a file or directory as it was written. -/
structure Path where
  /-- The text of the path. -/
  text : String
deriving DecidableEq, Repr, Inhabited

namespace Path

/-- Whether a path starts at the root of the file system. -/
def isAbsolute (p : Path) : Bool :=
  p.text.toList.head? == some '/'

/-- A path below another one. One slash comes between the two unless the first is empty or ends in
a slash; an absolute second path stands alone. -/
def join (p q : Path) : Path :=
  if q.isAbsolute then q
  else if p.text.toList = [] ∨ p.text.toList.getLast? = some '/' then ⟨p.text ++ q.text⟩
  else ⟨p.text ++ "/" ++ q.text⟩

/-- A step that names nothing: empty, or the dot that stands for the directory itself. -/
def isSilent (step : List Char) : Bool :=
  step == [] || step == ['.']

/-- The steps of a path, last one first, without the silent ones it ends in. The first step of a
relative path counts even when it is a dot. -/
def dropSilent (absolute : Bool) : List (List Char) → List (List Char)
  | [] => []
  | [first] => if first == [] || (absolute && isSilent first) then [] else [first]
  | step :: next :: others =>
    if isSilent step then dropSilent absolute (next :: others) else step :: next :: others

/-- The directory that holds the file or directory a path names; none for the root and for the
empty path. -/
def parent? (p : Path) : Option Path :=
  match p.text.toList with
  | '/' :: body =>
    match dropSilent true (pieces '/' body).reverse with
    | [] => none
    | _ :: before =>
      some ⟨String.ofList ('/' :: ['/'].intercalate (dropSilent true before).reverse)⟩
  | body =>
    match dropSilent false (pieces '/' body).reverse with
    | [] => none
    | _ :: before => some ⟨String.ofList (['/'].intercalate (dropSilent false before).reverse)⟩

/-- The directories above a path, innermost first, as far as a number of steps goes. -/
def ancestorsWithin : Nat → Path → List Path
  | 0, _ => []
  | n + 1, p =>
    match p.parent? with
    | some q => q :: ancestorsWithin n q
    | none => []

/-- The directories above a path, innermost first. There are fewer of them than the path has
characters, because each parent is shorter. -/
def ancestors (p : Path) : List Path :=
  ancestorsWithin p.text.length p

/-- The extension of a file name: what follows its last dot, if something precedes that dot. -/
def extension? (name : String) : Option String :=
  let chars := name.toList
  let ext := Text.lastPiece '.' chars
  let stem := chars.take (chars.length - ext.length - 1)
  if chars = ['.', '.'] ∨ stem = [] then none else some (String.ofList ext)

end Path

end ApiDocs
