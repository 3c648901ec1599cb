import ApiDocs.Grouping.Reconciliation
import ApiDocs.Markup.Dialect
import ApiDocs.RoutePath
import ApiDocs.Text.Letters

/-!
# Markup documents

The whole documentation as one document: what the listing says on the API, a list of contents that
links every group, and a section for each group with its operations and models.
-/

set_option autoImplicit false

namespace ApiDocs.Markup

/-- The anchor of a group: its key with a dash for everything but ASCII letters and digits. -/
def anchor (key : GroupKey) : String :=
  String.ofList (key.text.toList.map fun c => if Text.isAsciiAlphanumeric c then c else '-')

/-- A truth value in a table. -/
def truthWord (b : Bool) : String :=
  if b then "yes" else "no"

/-- A text where it is not empty. -/
def paragraphUnlessEmpty (text : String) : String :=
  if text = "" then "" else paragraph text

/-- A text behind a label, where it is not empty. -/
def labelled (label text : String) : String :=
  if text = "" then "" else paragraph (label ++ text)

/-- The name of a type, or else of the model that is referred to. -/
def typeOrReference (type reference : Option String) : String :=
  (type.or reference).getD ""

/-- The type of a property in words. -/
def typeInWords (p : Property) : String :=
  match p.type, p.items with
  | some "array", some items => "array of " ++ typeOrReference items.type items.reference
  | type, _ => typeOrReference type p.reference

/-- The line of a property in the table of its model. -/
def propertyRow (m : Model) (e : String × Property) : List String :=
  [e.1, typeInWords e.2, e.2.format.getD "", truthWord (m.required.contains e.1), e.2.description]

/-- A model with the table of its properties. -/
def model (d : Dialect) (m : Model) : String :=
  d.heading 4 m.id none ++
    d.table ["Property", "Type", "Format", "Required", "Description"]
      (m.properties.entries.map (propertyRow m))

/-- The models of a group. -/
def models (d : Dialect) (models : SortedMap String Model) : String :=
  if models.isEmpty then ""
  else d.heading 3 "Models" none ++ String.join (models.values.map (model d))

/-- The line of a parameter in the table of its operation. -/
def parameterRow (p : Parameter) : List String :=
  [p.name, p.location, p.dataType, truthWord p.required, p.description]

/-- The table of the parameters of an operation. -/
def parameters (d : Dialect) (ps : List Parameter) : String :=
  if ps.isEmpty then ""
  else d.heading 4 "Parameters" none ++
    d.table ["Name", "Located in", "Type", "Required", "Description"] (ps.map parameterRow)

/-- The line of an answer in the table of its operation. -/
def responseRow (r : ResponseMessage) : List String :=
  [toString r.code.toNat, r.message, r.responseModel]

/-- The table of the answers of an operation. -/
def responses (d : Dialect) (rs : List ResponseMessage) : String :=
  if rs.isEmpty then ""
  else d.heading 4 "Responses" none ++
    d.table ["Code", "Message", "Model"] (rs.map responseRow)

/-- An operation on a path. -/
def operation (d : Dialect) (path : String) (o : Operation) : String :=
  d.heading 3 (o.httpMethod ++ " " ++ path) none ++ paragraphUnlessEmpty o.summary
    ++ paragraphUnlessEmpty o.notes ++ parameters d o.parameters ++ responses d o.responseMessages

/-- The operations of routes, each with its path as documents show it. -/
def operations (routes : List Route) : List (String × Operation) :=
  routes.flatMap fun r => r.operations.map fun o => (RoutePath.template r.path, o)

/-- The line of an operation in the table of its group. -/
def summaryRow (e : String × Operation) : List String :=
  [e.2.httpMethod, e.1, e.2.summary]

/-- The description of a group: that of the first reference which is for it. -/
def groupDescription (listing : ResourceListing) (key : GroupKey) : String :=
  ((listing.apis.find? fun r => r.key? == some key).map ResourceReference.description).getD ""

/-- The section of a group with a description. -/
def groupSection (d : Dialect) (description : String) (key : GroupKey)
    (declaration : ApiDeclaration) : String :=
  d.heading 2 key.resourcePath (some (anchor key)) ++ paragraphUnlessEmpty description
    ++ d.table ["Method", "Path", "Summary"] ((operations declaration.apis).map summaryRow)
    ++ String.join ((operations declaration.apis).map fun e => operation d e.1 e.2)
    ++ models d declaration.models

/-- The title of a document. -/
def title (listing : ResourceListing) : String :=
  if listing.info.title = "" then "API Documentation" else listing.info.title

/-- What the listing says on the API. -/
def preamble (d : Dialect) (listing : ResourceListing) : String :=
  d.heading 1 (title listing) none ++ paragraphUnlessEmpty listing.info.description
    ++ labelled "Version: " listing.apiVersion ++ labelled "Base path: " listing.basePath

/-- The link to the section of a group. -/
def contentsItem (d : Dialect) (key : GroupKey) : String :=
  d.anchorItem (anchor key) key.resourcePath

/-- The list of contents. -/
def contents (d : Dialect) (groups : Groups) : String :=
  d.heading 2 "Contents" none ++ String.join (groups.keys.map (contentsItem d)) ++ "\n"

/-- The documentation as one document. -/
def document (d : Dialect) (doc : Documentation) : String :=
  preamble d doc.listing ++ contents d doc.groups
    ++ String.join (doc.groups.entries.map fun e =>
      groupSection d (groupDescription doc.listing e.1) e.1 e.2)

end ApiDocs.Markup
