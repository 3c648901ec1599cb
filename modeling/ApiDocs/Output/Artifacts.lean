import ApiDocs.Markup.Document
import ApiDocs.Notice
import ApiDocs.Output.GoModule

/-!
# Artifacts

The files that each format consists of, in the order in which they are written. In a JSON tree the
listing comes last, so that a listing never refers to a file that is not there yet.
-/

set_option autoImplicit false

namespace ApiDocs

/-- A file to write. -/
structure Artifact where
  path : Path
  text : String
  /-- What is reported once the file is written. -/
  notices : List Notice := []
deriving DecidableEq, Repr

namespace Artifact

/-- The name of the files of a JSON tree. -/
def treeFileName : String := "index.json"

/-- The file of a group in a JSON tree. -/
def ofGroup (output : Path) (key : GroupKey) (declaration : ApiDeclaration) : Artifact where
  path := (output.join key.directory).join ⟨treeFileName⟩
  text := declaration.toJson.toIndented
  notices := [.wrote (key.text ++ "/" ++ treeFileName)]

/-- The file of the listing in a JSON tree. -/
def ofListing (output : Path) (listing : ResourceListing) : Artifact where
  path := output.join ⟨treeFileName⟩
  text := listing.toJson.toIndented
  notices := [.wrote treeFileName]

/-- The file of a markup document. -/
def ofMarkup (output : Path) (dialect : Markup.Dialect) (doc : Documentation) : Artifact where
  path := dialect.fileIn output
  text := Markup.document dialect doc

end Artifact

/-- The files of a format in the order in which they are written. -/
def artifacts (format : OutputFormat) (doc : Documentation) (output : Path) : List Artifact :=
  match format with
  | .go => [{ path := GoModule.path output, text := GoModule.source doc }]
  | .swagger =>
    (doc.groups.entries.map fun e => .ofGroup output e.1 e.2) ++ [.ofListing output doc.listing]
  | .asciidoc => [.ofMarkup output .asciidoc doc]
  | .markdown => [.ofMarkup output .markdown doc]
  | .confluence => [.ofMarkup output .confluence doc]

end ApiDocs
