import ApiDocs.Annotations.Tag
import ApiDocs.Notice
import ApiDocs.Swagger.Listing

/-!
# General annotations

The annotations of the main file: scalar fields of the listing, and references to groups, one for
each path.
-/

set_option autoImplicit false

namespace ApiDocs.Annotations

open Text (isBlank trim)

/-- A text in brackets that ends the whole text; what stands in the brackets is not empty and
holds no closing bracket. -/
def bracketedEnd? (s : List Char) : Option (List Char) :=
  let inner := s.takeWhile (· ≠ ']')
  match s.dropWhile (· ≠ ']') with
  | ']' :: rest => if inner ≠ [] ∧ rest.all isBlank then some inner else none
  | _ => none

/-- The description and the path of a value `description [path]`. The first bracket that can open
the path does; no line break may precede it inside the description. `before` is what was passed
over already. -/
def splitReference? (before : List Char) : List Char → Option (List Char × List Char)
  | [] => none
  | c :: rest =>
    match if c = '[' then bracketedEnd? rest else none with
    | some path =>
      let description := Text.dropEndWhile isBlank before
      if '\n' ∈ description then none else some (description, trim path)
    | none => splitReference? (before ++ [c]) rest

/-- The reference of a value `description [path]`. -/
def reference? (value : List Char) : Option ResourceReference :=
  (splitReference? [] value).map fun r => ⟨String.ofList r.2, String.ofList r.1⟩

/-- What a general annotation says. -/
inductive General
  | apiVersion (value : String)
  | apiTitle (value : String)
  | apiDescription (value : String)
  | contact (value : String)
  | termsOfServiceUrl (value : String)
  | license (value : String)
  | licenseUrl (value : String)
  | basePath (value : String)
  | subApi (reference : ResourceReference)
deriving DecidableEq, Repr

/-- What a line says on the API in general. -/
inductive GeneralLine
  /-- The line is no general annotation. -/
  | other
  /-- The line is a reference without a path. -/
  | malformed (value : String)
  /-- The line is an annotation. -/
  | recognised (a : General)
deriving DecidableEq, Repr

/-- What a tag and a value say on the API in general. -/
def Tagged.general (t : Tagged) : GeneralLine :=
  let value := String.ofList t.value
  match t.tag with
  | "apiversion" => .recognised (.apiVersion value)
  | "apititle" => .recognised (.apiTitle value)
  | "apidescription" => .recognised (.apiDescription value)
  | "contact" => .recognised (.contact value)
  | "termsofserviceurl" => .recognised (.termsOfServiceUrl value)
  | "license" => .recognised (.license value)
  | "licenseurl" => .recognised (.licenseUrl value)
  | "basepath" => .recognised (.basePath value)
  | "subapi" =>
    match reference? t.value with
    | some r => .recognised (.subApi r)
    | none => .malformed value
  | _ => .other

/-- What a comment line says on the API in general. -/
def GeneralLine.read (line : String) : GeneralLine :=
  match Tagged.ofLine? line with
  | some t => t.general
  | none => .other

/-- The references with one more. It takes the place of the first one with the same path, and the
last place if there is none. -/
def putReference (r : ResourceReference) : List ResourceReference → List ResourceReference
  | [] => [r]
  | first :: others => if first.path = r.path then r :: others else first :: putReference r others

/-- The listing after an annotation. -/
def General.apply (listing : ResourceListing) : General → ResourceListing
  | apiVersion value => { listing with apiVersion := value }
  | apiTitle value => { listing with info.title := value }
  | apiDescription value => { listing with info.description := value }
  | contact value => { listing with info.contact := value }
  | termsOfServiceUrl value => { listing with info.termsOfServiceUrl := value }
  | license value => { listing with info.license := value }
  | licenseUrl value => { listing with info.licenseUrl := value }
  | basePath value => { listing with basePath := value }
  | subApi r => { listing with apis := putReference r listing.apis }

namespace GeneralLine

/-- Whether a line changes the listing. -/
def applied : GeneralLine → Bool
  | recognised _ => true
  | _ => false

/-- The listing after a line. -/
def apply (listing : ResourceListing) : GeneralLine → ResourceListing
  | recognised a => a.apply listing
  | _ => listing

/-- What a line gives reason to report. -/
def notices : GeneralLine → List Notice
  | malformed value => [.malformedSubApi value]
  | _ => []

end GeneralLine

end ApiDocs.Annotations
