import ApiDocs.Text.Blank
import ApiDocs.Types.Overrides

/-!
# Resolution of type expressions

What a type expression such as `[]*models.Pet` is documented as.
-/

set_option autoImplicit false

namespace ApiDocs

/-- The name of a type without the stars of a pointer and without its package. -/
def unqualifiedName (name : List Char) : List Char :=
  Text.lastPiece '.' (name.dropWhile (· == '*'))

/-- The documented types of the types that are built in. -/
def builtinType? : String → Option SwaggerType
  | "string" => some (.primitive "string" none)
  | "int" | "int64" | "uint" | "uint64" => some (.primitive "integer" (some "int64"))
  | "int8" | "int16" | "int32" | "uint8" | "uint16" | "uint32" | "rune" =>
    some (.primitive "integer" (some "int32"))
  | "byte" => some (.primitive "string" (some "byte"))
  | "float32" => some (.primitive "number" (some "float"))
  | "float64" => some (.primitive "number" (some "double"))
  | "bool" => some (.primitive "boolean" none)
  | "time.Time" => some (.primitive "string" (some "date-time"))
  | "interface\x7b\x7d" | "any" => some (.primitive "object" none)
  | _ => none

/-- What a type expression that is no array is documented as: a map is an object, overridden and
built-in types are primitives, and any other name stands for a model. -/
def resolveNamed (overrides : TypeOverrides) (expr : List Char) : SwaggerType :=
  if "map[".toList.isPrefixOf expr then .primitive "object" none
  else
    match overrides.lookup expr with
    | some kind => kind.type
    | none =>
      match builtinType? (String.ofList expr) with
      | some type => type
      | none => .model (String.ofList (unqualifiedName expr))

/-- A type expression without the blanks around it and the stars before it. -/
def pointee (expr : List Char) : List Char :=
  (Text.trim expr).dropWhile (· == '*')

/-- Trimming makes no text longer. -/
theorem length_pointee_le (expr : List Char) : (pointee expr).length ≤ expr.length := by
  have drop (p : Char → Bool) (l : List Char) : (l.dropWhile p).length ≤ l.length :=
    (List.dropWhile_sublist p).length_le
  unfold pointee Text.trim Text.trimWhile Text.dropEndWhile
  calc _ ≤ _ := drop _ _
    _ = _ := List.length_reverse
    _ ≤ _ := drop _ _
    _ = _ := List.length_reverse
    _ ≤ _ := drop _ _

/-- What a type expression is documented as. A pointer is what it points to; an expression that
starts with brackets is an array of what follows them, except that a slice of bytes is a text. -/
def documentedType (overrides : TypeOverrides) (expr : List Char) : SwaggerType :=
  match _h : pointee expr with
  | '[' :: rest =>
    match _h' : rest.dropWhile (· ≠ ']') with
    | _ :: element =>
      if rest = "]byte".toList then .primitive "string" (some "byte")
      else .array (documentedType overrides element)
    | [] => resolveNamed overrides ('[' :: rest)
  | other => resolveNamed overrides other
termination_by expr.length
decreasing_by
  have h₁ := length_pointee_le expr
  have h₂ := (List.dropWhile_sublist (fun c : Char => decide (c ≠ ']')) (l := rest)).length_le
  rw [_h] at h₁
  rw [_h'] at h₂
  simp only [List.length_cons] at h₁ h₂
  omega

end ApiDocs
