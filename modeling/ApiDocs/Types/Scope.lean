import ApiDocs.GoSource.Declarations
import ApiDocs.Types.Resolution

/-!
# Scopes of types

The struct types that a package declares, together with the overrides: what is needed to say what
a type expression means.
-/

set_option autoImplicit false

namespace ApiDocs

/-- What type expressions are resolved against. -/
structure TypeScope where
  /-- The structs of all files in order. -/
  structs : List GoSource.Struct
  /-- The types that write themselves as primitives. -/
  overrides : TypeOverrides

namespace TypeScope

/-- The scope of source files. -/
def ofFiles (files : List GoSource.File) (overrides : TypeOverrides) : TypeScope :=
  ⟨files.flatMap fun f => f.declarations.structs, overrides⟩

/-- What a type expression is documented as. -/
def resolve (scope : TypeScope) (expr : String) : SwaggerType :=
  documentedType scope.overrides expr.toList

/-- The struct that a name stands for: the first one declared with the bare name. -/
def struct? (scope : TypeScope) (name : String) : Option GoSource.Struct :=
  scope.structs.find? fun s => s.name == String.ofList (unqualifiedName name.toList)

/-- The fields of a struct that appear in JSON, each with its documented type. -/
def fields (scope : TypeScope) (s : GoSource.Struct) : List (GoSource.Field × SwaggerType) :=
  (s.fields.filter fun f => !f.skip).map fun f => (f, scope.resolve f.type)

/-- The names of the models that the fields of a struct lead to. -/
def references (scope : TypeScope) (s : GoSource.Struct) : List String :=
  (scope.fields s).filterMap fun f => f.2.modelName?

end TypeScope

namespace GoSource.Field

/-- Whether a field has to be there: it is not left out when empty, and it is no pointer. -/
def isRequired (f : Field) : Bool :=
  !f.omitEmpty && f.type.toList.head? != some '*'

end GoSource.Field

namespace Model

/-- The model of a struct under a name. Of two fields with one name in JSON the later one
counts. -/
def ofStruct (scope : TypeScope) (name : String) (s : GoSource.Struct) : Model where
  id := name
  required := ((scope.fields s).filter fun f => f.1.isRequired).map fun f => f.1.jsonKey
  properties := .ofList ((scope.fields s).map fun f =>
    (f.1.jsonKey, { f.2.property with description := f.1.description }))

end Model

end ApiDocs
