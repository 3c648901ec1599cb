import ApiDocs.Annotations.Handler
import ApiDocs.GroupKey
import ApiDocs.Swagger.Operation
import ApiDocs.Types.Collection

/-!
# Operations of handlers

What the annotations of a handler amount to: an operation, the type expressions whose models it
needs, and the group it belongs to.
-/

set_option autoImplicit false

namespace ApiDocs

open Annotations (Handler Param Response)

/-- The content type that a short name stands for; other names stand for themselves. -/
def contentType (short : String) : String :=
  match Text.lowered short with
  | "json" => "application/json"
  | "xml" => "application/xml"
  | "plain" | "text" => "text/plain"
  | "html" => "text/html"
  | "form" => "application/x-www-form-urlencoded"
  | _ => short

namespace Annotations

/-- The parameter of an operation that an annotation declares. -/
def Param.parameter (scope : TypeScope) (p : Param) : Parameter :=
  let type := scope.resolve p.type
  { location := p.location
    name := p.name
    description := p.description
    dataType := type.name
    type := type.name
    format := type.formatName
    required := p.required }

/-- The answer of an operation that an annotation declares. -/
def Response.responseMessage (scope : TypeScope) (r : Response) : ResponseMessage where
  code := r.code
  message := r.message
  responseModel := (r.type.map fun t => (scope.resolve t).name).getD ""

namespace Handler

/-- The type of the answer of an operation, with the type of its elements when the annotation
declares an array. Without a typed success there is no answer. -/
def answer (h : Handler) (scope : TypeScope) : String × Option Items :=
  match h.firstTypedSuccess? with
  | none => ("void", none)
  | some (r, type) =>
    match r.shape with
    | .array => ("array", some (scope.resolve type).items)
    | .object => ((scope.resolve type).name, none)

/-- The summary and the notes of an operation. A description without a summary is the summary. -/
def texts (h : Handler) : String × String :=
  match h.summary with
  | some summary => (summary, h.description.getD "")
  | none => (h.description.getD "", "")

/-- The operation that a handler implements with an HTTP method. The title names it, or else the
name of the function. -/
def operation (h : Handler) (scope : TypeScope) (function : String) (method : HttpMethod) :
    Operation where
  httpMethod := method.name
  nickname := h.title.getD function
  type := (h.answer scope).1
  items := (h.answer scope).2
  summary := h.texts.1
  notes := h.texts.2
  parameters := h.params.map (Param.parameter scope)
  responseMessages := h.responses.map (Response.responseMessage scope)
  consumes := h.accept.map contentType
  produces := h.produce.map contentType

/-- The type expressions that a handler mentions, in the order in which their models are
collected. -/
def mentionedTypes (h : Handler) : List String :=
  (h.firstTypedSuccess?.map Prod.snd).toList ++ h.params.map Param.type
    ++ h.responses.filterMap Response.type

/-- The first segment of a route. -/
def firstSegment (route : String) : List Char :=
  (route.toList.dropWhile (· == '/')).takeWhile (· ≠ '/')

/-- Whether a segment of a route is a fixed text: neither empty nor a parameter. -/
def isStatic (segment : List Char) : Bool :=
  match segment with
  | [] => false
  | c :: _ => c != ':' && c != '?' && c != '{'

/-- The group of a handler: its resource, or else the first segment of its route if that is a fixed
text, or else the type of its receiver. -/
def groupKey? (h : Handler) (receiver : Option GoSource.Receiver) (route : String) :
    Option GroupKey :=
  match h.resource with
  | some resource => GroupKey.parse? resource
  | none =>
    if isStatic (firstSegment route) then GroupKey.parse? (String.ofList (firstSegment route))
    else receiver.bind fun r => GroupKey.parse? r.type

end Handler

end Annotations

end ApiDocs
