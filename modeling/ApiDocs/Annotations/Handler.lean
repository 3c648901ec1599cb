import ApiDocs.Annotations.Tag
import ApiDocs.HttpMethod
import ApiDocs.Notice
import ApiDocs.Text.Runs
import ApiDocs.Text.Word

/-!
# Handler annotations

The annotations above the function that handles a request: what the operation is called, what it
takes and gives, and the route it serves.
-/

set_option autoImplicit false

namespace ApiDocs.Annotations

open Text (dropBlanks1? isBlank isDigit isWord takeWhile1? takeWord? trim)

/-- A parameter as annotated: `@Param name location type required "description"`. -/
structure Param where
  name : String
  location : String
  type : String
  required : Bool
  description : String
deriving DecidableEq, Repr

/-- Whether an answer holds one value of its type or an array of them. -/
inductive ResponseShape
  | object
  | array
deriving DecidableEq, Repr

/-- An answer as annotated: `@Success code {shape} type message` or the same with `@Failure`. -/
structure Response where
  code : UInt16
  isSuccess : Bool
  shape : ResponseShape
  type : Option String
  message : String
deriving DecidableEq, Repr

/-- A route as annotated: `@Router path [method]`. -/
structure Router where
  path : String
  method : HttpMethod
deriving DecidableEq, Repr

/-- A text in quotes after blanks; empty if there is none. -/
def quotedAfterBlanks (s : List Char) : List Char :=
  match dropBlanks1? s with
  | some ('"' :: rest) => if '"' ∈ rest then rest.takeWhile (· ≠ '"') else []
  | _ => []

/-- The truth value that a word stands for. -/
def truth? (word : List Char) : Option Bool :=
  if Text.lower word = "true".toList then some true
  else if Text.lower word = "false".toList then some false
  else none

/-- The parameter of a value: four words, the last one a truth value, and a description in quotes
if one follows. -/
def Param.read? (value : List Char) : Option Param := do
  let (name, rest) ← takeWord? value
  let (location, rest) ← takeWord? (← dropBlanks1? rest)
  let (type, rest) ← takeWord? (← dropBlanks1? rest)
  let (required, rest) ← takeWord? (← dropBlanks1? rest)
  let required ← truth? required
  return {
    name := String.ofList name
    location := String.ofList location
    type := String.ofList type
    required
    description := String.ofList (quotedAfterBlanks rest) }

/-- The number of three decimal digits; digits outside ASCII denote none. -/
def codeOfDigits? (a b c : Char) : Option UInt16 :=
  if '0' ≤ a ∧ a ≤ '9' ∧ '0' ≤ b ∧ b ≤ '9' ∧ '0' ≤ c ∧ c ≤ '9' then
    some (UInt16.ofNat ((a.toNat - 48) * 100 + (b.toNat - 48) * 10 + (c.toNat - 48)))
  else none

/-- The shape in braces and the type after it at the start of a text, and what follows. -/
def takeType? (s : List Char) : Option (List Char × List Char × List Char) := do
  let rest ← ['{'].isPrefixOf? s
  let (shape, rest) ← takeWhile1? isWord rest
  let rest ← ['}'].isPrefixOf? rest
  let (type, rest) ← takeWhile1? (fun c => !isBlank c && c != '"') (rest.dropWhile isBlank)
  return (shape, type, rest)

/-- The shape that a word stands for; every word but `array` stands for a single value. -/
def ResponseShape.ofWord (word : List Char) : ResponseShape :=
  if Text.lower word = "array".toList then .array else .object

/-- The message at the end of an answer, without the blanks and then the quotes around it. -/
def messageText (s : List Char) : String :=
  String.ofList (Text.trimWhile (· == '"') (trim s))

/-- The answer of a value: three digits, a shape and a type if they follow, and a message on one
line. -/
def Response.read? (value : List Char) (isSuccess : Bool) : Option Response :=
  match value with
  | a :: b :: c :: rest =>
    if isDigit a && isDigit b && isDigit c then
      let rest := rest.dropWhile isBlank
      let (shape, type, rest) :=
        match takeType? rest with
        | some (word, type, rest) => (ResponseShape.ofWord word, some (String.ofList type), rest)
        | none => (.object, none, rest)
      let message := rest.dropWhile isBlank
      if '\n' ∈ message then none
      else
        (codeOfDigits? a b c).map fun code =>
          { code, isSuccess, shape, type, message := messageText message }
    else none
  | _ => none

/-- The name of a method in brackets after blanks. -/
def bracketedMethod? (s : List Char) : Option (List Char) := do
  let rest ← ['['].isPrefixOf? (← dropBlanks1? s)
  let (name, rest) ← takeWhile1? isWord rest
  let _ ← [']'].isPrefixOf? rest
  return name

/-- The route of a value: a path, and a method in brackets if one follows; without it the method
is GET. -/
def Router.read? (value : List Char) : Option Router := do
  let (path, rest) ← takeWord? value
  match bracketedMethod? rest with
  | none => return ⟨String.ofList path, .get⟩
  | some name =>
    let method ← (HttpMethod.parse (String.ofList name)).toOption
    return ⟨String.ofList path, method⟩

/-- All annotations of a handler. -/
structure Handler where
  title : Option String := none
  description : Option String := none
  summary : Option String := none
  accept : List String := []
  produce : List String := []
  params : List Param := []
  responses : List Response := []
  resource : Option String := none
  router : Option Router := none
deriving DecidableEq, Repr, Inhabited

/-- What one line says on a handler. -/
inductive HandlerLine
  /-- The line is no annotation of a handler. -/
  | other
  /-- The line is an annotation that cannot be read. -/
  | malformed (notice : Notice)
  | title (value : String)
  | description (value : String)
  | summary (value : String)
  | accept (items : List String)
  | produce (items : List String)
  | resource (value : String)
  | param (p : Param)
  | response (r : Response)
  | router (r : Router)
deriving DecidableEq, Repr

namespace HandlerLine

/-- The annotation that was read, or the notice that it was not. -/
def orMalformed {α : Type} (line : α → HandlerLine) (notice : Notice) : Option α → HandlerLine
  | some a => line a
  | none => malformed notice

end HandlerLine

/-- What a tag and a value say on a handler. -/
def Tagged.handler (t : Tagged) : HandlerLine :=
  let value := String.ofList t.value
  match t.tag with
  | "title" => .title value
  | "description" => .description value
  | "summary" => .summary value
  | "accept" => .accept (listItems t.value)
  | "produce" | "produces" => .produce (listItems t.value)
  | "resource" => .resource value
  | "param" => .orMalformed .param (.malformedParam value) (Param.read? t.value)
  | "success" =>
    .orMalformed .response (.malformedResponse t.tag value) (Response.read? t.value true)
  | "failure" =>
    .orMalformed .response (.malformedResponse t.tag value) (Response.read? t.value false)
  | "router" => .orMalformed .router (.malformedRouter value) (Router.read? t.value)
  | _ => .other

namespace HandlerLine

/-- What a comment line says on a handler. -/
def read (line : String) : HandlerLine :=
  match Tagged.ofLine? line with
  | some t => t.handler
  | none => .other

/-- The annotations of a handler after one more line. A later text or route replaces an earlier
one; lists grow at their end. -/
def apply (h : Handler) : HandlerLine → Handler
  | other => h
  | malformed _ => h
  | title value => { h with title := some value }
  | description value => { h with description := some value }
  | summary value => { h with summary := some value }
  | accept items => { h with accept := h.accept ++ items }
  | produce items => { h with produce := h.produce ++ items }
  | resource value => { h with resource := some value }
  | param p => { h with params := h.params ++ [p] }
  | response r => { h with responses := h.responses ++ [r] }
  | router r => { h with router := some r }

/-- What a line gives reason to report. -/
def notices : HandlerLine → List Notice
  | malformed notice => [notice]
  | _ => []

end HandlerLine

namespace Handler

/-- The annotations in the comment lines above a handler. -/
def ofDoc (doc : List String) : Handler :=
  doc.foldl (fun h line => (HandlerLine.read line).apply h) {}

/-- What the comment lines above a handler give reason to report. -/
def notices (doc : List String) : List Notice :=
  doc.flatMap fun line => (HandlerLine.read line).notices

/-- The first success that names a type. -/
def firstTypedSuccess? (h : Handler) : Option (Response × String) :=
  h.responses.findSome? fun r => if r.isSuccess then r.type.map fun t => (r, t) else none

end Handler

end ApiDocs.Annotations
