import ApiDocs.Json.Decoding
import ApiDocs.Json.Printer
import ApiDocs.Swagger.Declaration

/-!
# The JSON form of the documents

How each part of the documentation is written as a JSON value and read from one. Fields come in
the order of their declaration; the ones that may be left out are left out when they are empty.
-/

set_option autoImplicit false

namespace ApiDocs

open Json (Value Decoded DecodingIssue)

namespace Json

/-- A member that is always written. -/
def member (name : String) (value : Value) : List (String × Value) :=
  [(name, value)]

/-- A text that is left out when it is empty. -/
def memberUnlessEmpty (name text : String) : List (String × Value) :=
  if text = "" then [] else [(name, .string text)]

/-- A list that is left out when it is empty. -/
def memberUnlessNil (name : String) (items : List Value) : List (String × Value) :=
  match items with
  | [] => []
  | _ => [(name, .array items)]

/-- A value that is left out when it is absent. -/
def memberIfSome (name : String) (value : Option Value) : List (String × Value) :=
  match value with
  | some v => [(name, v)]
  | none => []

/-- A list of texts. -/
def strings (texts : List String) : List Value :=
  texts.map .string

/-- A map as an object, with its keys as names. -/
def ofMap {κ ν : Type} [TextKey κ] (toJson : ν → Value) (map : SortedMap κ ν) : Value :=
  .object (map.entries.map fun e => (TextKey.text e.1, toJson e.2))

end Json

open Json

namespace ResourceReference

/-- The JSON form of a reference. -/
def toJson (r : ResourceReference) : Value :=
  .object (member "path" (.string r.path) ++ member "description" (.string r.description))

/-- The reference of a JSON form. -/
def ofJson (v : Value) : Decoded ResourceReference := do
  let f ← v.fields ["path", "description"]
  return {
    path := ← f.required "path" Value.asString
    description := ← f.optional "description" Value.asString "" }

end ResourceReference

namespace Info

/-- The JSON form of general information. -/
def toJson (i : Info) : Value :=
  .object (member "title" (.string i.title) ++ member "description" (.string i.description)
    ++ memberUnlessEmpty "contact" i.contact
    ++ memberUnlessEmpty "termsOfServiceUrl" i.termsOfServiceUrl
    ++ memberUnlessEmpty "license" i.license ++ memberUnlessEmpty "licenseUrl" i.licenseUrl)

/-- The general information of a JSON form. -/
def ofJson (v : Value) : Decoded Info := do
  let f ← v.fields
    ["title", "description", "contact", "termsOfServiceUrl", "license", "licenseUrl"]
  return {
    title := ← f.optional "title" Value.asString ""
    description := ← f.optional "description" Value.asString ""
    contact := ← f.optional "contact" Value.asString ""
    termsOfServiceUrl := ← f.optional "termsOfServiceUrl" Value.asString ""
    license := ← f.optional "license" Value.asString ""
    licenseUrl := ← f.optional "licenseUrl" Value.asString "" }

end Info

namespace ResourceListing

/-- The JSON form of a listing. -/
def toJson (l : ResourceListing) : Value :=
  .object (member "apiVersion" (.string l.apiVersion)
    ++ member "swaggerVersion" (.string l.swaggerVersion)
    ++ memberUnlessEmpty "basePath" l.basePath
    ++ member "apis" (.array (l.apis.map ResourceReference.toJson))
    ++ member "info" l.info.toJson)

/-- The listing of a JSON form. -/
def ofJson (v : Value) : Decoded ResourceListing := do
  let f ← v.fields ["apiVersion", "swaggerVersion", "basePath", "apis", "info"]
  return {
    apiVersion := ← f.required "apiVersion" Value.asString
    swaggerVersion := ← f.required "swaggerVersion" Value.asString
    basePath := ← f.optional "basePath" Value.asString ""
    apis := ← f.optional "apis" (Value.asList ResourceReference.ofJson) []
    info := ← f.optional "info" Info.ofJson {} }

end ResourceListing

namespace Items

/-- The JSON form of an element type. -/
def toJson (i : Items) : Value :=
  .object (memberIfSome "type" (i.type.map .string)
    ++ memberIfSome "$ref" (i.reference.map .string))

/-- The element type of a JSON form. -/
def ofJson (v : Value) : Decoded Items := do
  let f ← v.fields ["type", "$ref"]
  return {
    type := ← f.nullable "type" Value.asString
    reference := ← f.nullable "$ref" Value.asString }

end Items

namespace Property

/-- The JSON form of a property. -/
def toJson (p : Property) : Value :=
  .object (memberIfSome "type" (p.type.map .string)
    ++ memberIfSome "$ref" (p.reference.map .string)
    ++ memberIfSome "format" (p.format.map .string)
    ++ memberIfSome "items" (p.items.map Items.toJson)
    ++ memberUnlessEmpty "description" p.description)

/-- The property of a JSON form. -/
def ofJson (v : Value) : Decoded Property := do
  let f ← v.fields ["type", "$ref", "format", "items", "description"]
  return {
    type := ← f.nullable "type" Value.asString
    reference := ← f.nullable "$ref" Value.asString
    format := ← f.nullable "format" Value.asString
    items := ← f.nullable "items" Items.ofJson
    description := ← f.optional "description" Value.asString "" }

end Property

namespace Model

/-- The JSON form of a model. -/
def toJson (m : Model) : Value :=
  .object (member "id" (.string m.id) ++ memberUnlessNil "required" (strings m.required)
    ++ member "properties" (ofMap Property.toJson m.properties))

/-- The model of a JSON form. -/
def ofJson (v : Value) : Decoded Model := do
  let f ← v.fields ["id", "required", "properties"]
  return {
    id := ← f.required "id" Value.asString
    required := ← f.optional "required" (Value.asList Value.asString) []
    properties := ← f.optional "properties" (Value.asMap Property.ofJson) .empty }

/-- The JSON form of a map of models. -/
def mapToJson (models : SortedMap String Model) : Value :=
  ofMap toJson models

/-- The map of models of a JSON form. -/
def mapOfJson (v : Value) : Decoded (SortedMap String Model) :=
  v.asMap ofJson

end Model

namespace Parameter

/-- The JSON form of a parameter. -/
def toJson (p : Parameter) : Value :=
  .object (member "paramType" (.string p.location) ++ member "name" (.string p.name)
    ++ member "description" (.string p.description) ++ member "dataType" (.string p.dataType)
    ++ member "type" (.string p.type) ++ memberUnlessEmpty "format" p.format
    ++ member "allowMultiple" (.bool p.allowMultiple) ++ member "required" (.bool p.required))

/-- The parameter of a JSON form. -/
def ofJson (v : Value) : Decoded Parameter := do
  let f ← v.fields ["paramType", "name", "description", "dataType", "type", "format",
    "allowMultiple", "required"]
  return {
    location := ← f.required "paramType" Value.asString
    name := ← f.required "name" Value.asString
    description := ← f.optional "description" Value.asString ""
    dataType := ← f.optional "dataType" Value.asString ""
    type := ← f.optional "type" Value.asString ""
    format := ← f.optional "format" Value.asString ""
    allowMultiple := ← f.optional "allowMultiple" Value.asBool false
    required := ← f.optional "required" Value.asBool false }

end Parameter

namespace ResponseMessage

/-- The JSON form of an answer. -/
def toJson (r : ResponseMessage) : Value :=
  .object (member "code" (.natural r.code.toNat) ++ member "message" (.string r.message)
    ++ memberUnlessEmpty "responseModel" r.responseModel)

/-- The answer of a JSON form. -/
def ofJson (v : Value) : Decoded ResponseMessage := do
  let f ← v.fields ["code", "message", "responseModel"]
  return {
    code := ← f.required "code" Value.asCode
    message := ← f.optional "message" Value.asString ""
    responseModel := ← f.optional "responseModel" Value.asString "" }

end ResponseMessage

namespace Operation

/-- The JSON form of an operation. -/
def toJson (o : Operation) : Value :=
  .object (member "httpMethod" (.string o.httpMethod) ++ member "nickname" (.string o.nickname)
    ++ member "type" (.string o.type) ++ memberIfSome "items" (o.items.map Items.toJson)
    ++ memberUnlessEmpty "summary" o.summary ++ memberUnlessEmpty "notes" o.notes
    ++ member "parameters" (.array (o.parameters.map Parameter.toJson))
    ++ memberUnlessNil "responseMessages" (o.responseMessages.map ResponseMessage.toJson)
    ++ memberUnlessNil "consumes" (strings o.consumes)
    ++ memberUnlessNil "produces" (strings o.produces))

/-- The operation of a JSON form. -/
def ofJson (v : Value) : Decoded Operation := do
  let f ← v.fields ["httpMethod", "nickname", "type", "items", "summary", "notes", "parameters",
    "responseMessages", "consumes", "produces"]
  return {
    httpMethod := ← f.required "httpMethod" Value.asString
    nickname := ← f.required "nickname" Value.asString
    type := ← f.optional "type" Value.asString ""
    items := ← f.nullable "items" Items.ofJson
    summary := ← f.optional "summary" Value.asString ""
    notes := ← f.optional "notes" Value.asString ""
    parameters := ← f.optional "parameters" (Value.asList Parameter.ofJson) []
    responseMessages := ← f.optional "responseMessages" (Value.asList ResponseMessage.ofJson) []
    consumes := ← f.optional "consumes" (Value.asList Value.asString) []
    produces := ← f.optional "produces" (Value.asList Value.asString) [] }

end Operation

namespace Route

/-- The JSON form of a route. -/
def toJson (r : Route) : Value :=
  .object (member "path" (.string r.path) ++ memberUnlessEmpty "description" r.description
    ++ member "operations" (.array (r.operations.map Operation.toJson)))

/-- The route of a JSON form. -/
def ofJson (v : Value) : Decoded Route := do
  let f ← v.fields ["path", "description", "operations"]
  return {
    path := ← f.required "path" Value.asString
    description := ← f.optional "description" Value.asString ""
    operations := ← f.optional "operations" (Value.asList Operation.ofJson) [] }

end Route

namespace ApiDeclaration

/-- The models of a declaration, left out when there are none. -/
def modelsMember (models : SortedMap String Model) : List (String × Value) :=
  if models.isEmpty then [] else [("models", Model.mapToJson models)]

/-- The JSON form of a declaration. -/
def toJson (d : ApiDeclaration) : Value :=
  .object (member "apiVersion" (.string d.apiVersion)
    ++ member "swaggerVersion" (.string d.swaggerVersion)
    ++ member "basePath" (.string d.basePath) ++ member "resourcePath" (.string d.resourcePath)
    ++ memberUnlessNil "produces" (strings d.produces)
    ++ memberUnlessNil "consumes" (strings d.consumes)
    ++ member "apis" (.array (d.apis.map Route.toJson)) ++ modelsMember d.models)

/-- The declaration of a JSON form. -/
def ofJson (v : Value) : Decoded ApiDeclaration := do
  let f ← v.fields ["apiVersion", "swaggerVersion", "basePath", "resourcePath", "produces",
    "consumes", "apis", "models"]
  return {
    apiVersion := ← f.required "apiVersion" Value.asString
    swaggerVersion := ← f.required "swaggerVersion" Value.asString
    basePath := ← f.optional "basePath" Value.asString ""
    resourcePath := ← f.required "resourcePath" Value.asString
    produces := ← f.optional "produces" (Value.asList Value.asString) []
    consumes := ← f.optional "consumes" (Value.asList Value.asString) []
    apis := ← f.optional "apis" (Value.asList Route.ofJson) []
    models := ← f.optional "models" Model.mapOfJson .empty }

end ApiDeclaration

namespace GroupKey

/-- The JSON form of a key. -/
def toJson (key : GroupKey) : Value :=
  .string key.text

/-- The key that a text in a JSON form stands for. -/
def decode (text : String) : Decoded GroupKey :=
  match parse text with
  | .ok key => .ok key
  | .error e => .error (.badGroupKey e)

/-- The key of a JSON form. -/
def ofJson (v : Value) : Decoded GroupKey := do
  decode (← v.asString)

end GroupKey

namespace Groups

/-- The JSON form of the groups. -/
def toJson (groups : Groups) : Value :=
  ofMap ApiDeclaration.toJson groups

/-- The entries of a map of groups, each with its key and its declaration decoded. -/
def decodeEntries : List (String × Value) → Decoded (List (GroupKey × ApiDeclaration))
  | [] => .ok []
  | (name, value) :: rest => do
    let key ← GroupKey.decode name
    let declaration ← ApiDeclaration.ofJson value
    return (key, declaration) :: (← decodeEntries rest)

/-- The groups of a JSON form. The members are taken in the order of their names; of names that
stand for the same key the last one counts. -/
def ofJson : Value → Decoded Groups
  | .object members => (decodeEntries (SortedMap.ofList members).entries).map SortedMap.ofList
  | _ => .error .malformed

end Groups

end ApiDocs
