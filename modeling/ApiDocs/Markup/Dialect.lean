import ApiDocs.Path
import ApiDocs.Text.Blank

/-!
# Markup dialects

How headings, links, paragraphs and tables are written in AsciiDoc, Markdown and Confluence markup.
-/

set_option autoImplicit false

namespace ApiDocs.Markup

/-- A markup language. -/
inductive Dialect
  | asciidoc
  | markdown
  | confluence
deriving DecidableEq, Repr

/-- A character in the text of a table cell. A bar is escaped, and a line break becomes a space. -/
def cellChar (c : Char) : List Char :=
  if c = '|' then ['\\', '|'] else if c = '\n' ∨ c = '\r' then [' '] else [c]

/-- The text of a table cell. -/
def cellText (cell : String) : String :=
  String.ofList (cell.toList.flatMap cellChar)

/-- A text repeated. -/
def repeated (n : Nat) (text : String) : String :=
  String.join (List.replicate n text)

/-- A paragraph, without the blanks around its text. -/
def paragraph (text : String) : String :=
  Text.trimmed text ++ "\n\n"

namespace Dialect

/-- The extension of the document, with its dot. -/
def extension : Dialect → String
  | asciidoc => ".adoc"
  | markdown => ".md"
  | confluence => ".confluence"

/-- The place of the document in an output directory. -/
def fileIn (d : Dialect) (output : Path) : Path :=
  output.join ⟨"API" ++ d.extension⟩

/-- What puts an anchor at a heading. -/
def anchorMark (d : Dialect) (anchor : Option String) : String :=
  match d, anchor with
  | _, none => ""
  | asciidoc, some a => "[[" ++ a ++ "]]\n"
  | markdown, some a => "<a name=\"" ++ a ++ "\"></a>\n"
  | confluence, some a => "\x7banchor:" ++ a ++ "\x7d"

/-- A heading; the title of the document has level one. -/
def heading (d : Dialect) (level : Nat) (text : String) (anchor : Option String) : String :=
  match d with
  | asciidoc => d.anchorMark anchor ++ repeated level "=" ++ " " ++ text ++ "\n\n"
  | markdown => d.anchorMark anchor ++ repeated level "#" ++ " " ++ text ++ "\n\n"
  | confluence => "h" ++ toString level ++ ". " ++ d.anchorMark anchor ++ text ++ "\n\n"

/-- An item of a list that links to an anchor in the document. -/
def anchorItem (d : Dialect) (anchor text : String) : String :=
  match d with
  | asciidoc => "* <<" ++ anchor ++ "," ++ text ++ ">>\n"
  | markdown => "* [" ++ text ++ "](#" ++ anchor ++ ")\n"
  | confluence => "* [" ++ text ++ "|#" ++ anchor ++ "]\n"

/-- The line of a table that names its columns. -/
def headerRow (d : Dialect) (columns : List String) : String :=
  match d with
  | asciidoc => String.join (columns.map fun c => "|" ++ cellText c) ++ "\n"
  | markdown => "| " ++ " | ".intercalate (columns.map cellText) ++ " |\n"
  | confluence => String.join (columns.map fun c => "||" ++ cellText c) ++ "||\n"

/-- A cell as Confluence shows it: an empty one holds a space. -/
def filledCell (cell : String) : String :=
  if cell = "" then " " else cell

/-- A line of a table. -/
def row (d : Dialect) (cells : List String) : String :=
  match d with
  | asciidoc => String.join (cells.map fun c => "|" ++ cellText c) ++ "\n"
  | markdown => "| " ++ " | ".intercalate (cells.map cellText) ++ " |\n"
  | confluence => String.join (cells.map fun c => "|" ++ cellText (filledCell c)) ++ "|\n"

/-- What comes before the lines of a table. -/
def tableStart (d : Dialect) (columns : List String) : String :=
  match d with
  | asciidoc => "[options=\"header\"]\n|===\n" ++ d.headerRow columns
  | markdown => d.headerRow columns ++ "|" ++ repeated columns.length " --- |" ++ "\n"
  | confluence => d.headerRow columns

/-- What comes after the lines of a table. -/
def tableEnd : Dialect → String
  | asciidoc => "|===\n\n"
  | _ => "\n"

/-- A table. -/
def table (d : Dialect) (columns : List String) (rows : List (List String)) : String :=
  d.tableStart columns ++ String.join (rows.map d.row) ++ d.tableEnd

end Dialect

end ApiDocs.Markup
