import ApiDocs.Swagger.Model

/-!
# Types as documented

What a type of the sources is in the documentation: a primitive with a format, an array, or a
model known by its name.
-/

set_option autoImplicit false

namespace ApiDocs

/-- A type as it is documented. -/
inductive SwaggerType
  | primitive (type : String) (format : Option String)
  | array (element : SwaggerType)
  | model (name : String)
deriving DecidableEq, Repr

namespace SwaggerType

/-- The name under which a type is mentioned. -/
def name : SwaggerType → String
  | primitive type _ => type
  | array _ => "array"
  | model name => name

/-- The format of a primitive, empty if it has none. -/
def formatName : SwaggerType → String
  | primitive _ (some format) => format
  | _ => ""

/-- The model that a type leads to when the array layers around it are taken off. -/
def modelName? : SwaggerType → Option String
  | primitive _ _ => none
  | array element => element.modelName?
  | model name => some name

/-- A type as the element of an array: a reference to a model, the name of any other type. -/
def items : SwaggerType → Items
  | model name => { reference := some name }
  | other => { type := some other.name }

/-- A type as the type of a property. -/
def property : SwaggerType → Property
  | primitive type format => { type := some type, format }
  | array element => { type := some "array", items := some element.items }
  | model name => { reference := some name }

end SwaggerType

end ApiDocs
