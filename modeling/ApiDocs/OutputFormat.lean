import ApiDocs.Error
import ApiDocs.Text.Blank
import ApiDocs.Text.Letters

/-!
# Output formats

The forms in which documentation can be written.
-/

set_option autoImplicit false

namespace ApiDocs

/-- A form of the documentation. -/
inductive OutputFormat
  /-- A Go module that carries the documentation as constants. -/
  | go
  /-- A tree of JSON files. -/
  | swagger
  /-- One AsciiDoc document. -/
  | asciidoc
  /-- One Markdown document. -/
  | markdown
  /-- One document of Confluence markup. -/
  | confluence
deriving DecidableEq, Repr

namespace OutputFormat

/-- The formats in the order in which they are listed to the user. -/
def all : List OutputFormat :=
  [go, swagger, asciidoc, markdown, confluence]

/-- The name of a format. -/
def name : OutputFormat → String
  | go => "go"
  | swagger => "swagger"
  | asciidoc => "asciidoc"
  | markdown => "markdown"
  | confluence => "confluence"

/-- What is reported once the files of a format are written. -/
def confirmation : OutputFormat → String
  | go => "Doc file generated"
  | swagger => "Swagger UI files generated"
  | asciidoc => "AsciiDoc file generated"
  | markdown => "MarkDown file generated"
  | confluence => "Confluence file generated"

/-- The format of a name; blanks at the ends and the case of ASCII letters do not matter. -/
def parse (text : String) : Except Error OutputFormat :=
  match all.find? fun f => f.name == Text.lowered (Text.trimmed text) with
  | some f => .ok f
  | none => .error (.configuration (.unknownFormat text))

end OutputFormat

end ApiDocs
