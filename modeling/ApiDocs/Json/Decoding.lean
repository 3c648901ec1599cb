import ApiDocs.Error
import ApiDocs.Json.Value
import ApiDocs.SortedMap

/-!
# Decoding JSON values

Readers for the parts that documents are made of. A record is an object with its fields as members,
or an array with its fields in order; members that are no fields are passed over. A field that has
a default may be missing, and only a field that may be absent takes `null`.
-/

set_option autoImplicit false

namespace ApiDocs.Json

/-- Why a value is not the JSON form of anything. -/
inductive DecodingIssue
  /-- The value has the wrong shape. -/
  | malformed
  /-- The name of a group is no group key. -/
  | badGroupKey (error : Error)
deriving DecidableEq, Repr

/-- The outcome of decoding a value. -/
abbrev Decoded (α : Type) := Except DecodingIssue α

/-- The values of a record by the names of its fields. -/
abbrev Fields := String → Option Value

namespace Value

/-- The fields of a record. An array gives its items to the names in order and may not hold more
items than there are names. -/
def fields (names : List String) : Value → Decoded Fields
  | object members => .ok fun name => lastMember? name members
  | array items =>
    if items.length ≤ names.length then .ok fun name => lastMember? name (names.zip items)
    else .error .malformed
  | _ => .error .malformed

/-- The text of a value. -/
def asString : Value → Decoded String
  | string s => .ok s
  | _ => .error .malformed

/-- The truth of a value. -/
def asBool : Value → Decoded Bool
  | bool b => .ok b
  | _ => .error .malformed

/-- The number of sixteen bits that a value is. -/
def asCode : Value → Decoded UInt16
  | natural n => if n < 65536 then .ok (UInt16.ofNat n) else .error .malformed
  | _ => .error .malformed

/-- The items of a value, each decoded. -/
def asList {α : Type} (decode : Value → Decoded α) : Value → Decoded (List α)
  | array items => items.mapM decode
  | _ => .error .malformed

/-- The members of an object, each with its value decoded. -/
def decodeMembers {α : Type} (decode : Value → Decoded α) :
    List (String × Value) → Decoded (List (String × α))
  | [] => .ok []
  | (name, value) :: rest => do
    let x ← decode value
    return (name, x) :: (← decodeMembers decode rest)

/-- The map that a value is. -/
def asMap {α : Type} (decode : Value → Decoded α) : Value → Decoded (SortedMap String α)
  | object members => (decodeMembers decode members).map SortedMap.ofList
  | _ => .error .malformed

end Value

namespace Fields

/-- A field that has to be there. -/
def required {α : Type} (fields : Fields) (name : String) (decode : Value → Decoded α) :
    Decoded α :=
  match fields name with
  | some value => decode value
  | none => .error .malformed

/-- A field with a default. -/
def optional {α : Type} (fields : Fields) (name : String) (decode : Value → Decoded α)
    (default : α) : Decoded α :=
  match fields name with
  | some value => decode value
  | none => .ok default

/-- A field that may be absent or `null`. -/
def nullable {α : Type} (fields : Fields) (name : String) (decode : Value → Decoded α) :
    Decoded (Option α) :=
  match fields name with
  | none => .ok none
  | some .null => .ok none
  | some value => (decode value).map some

end Fields

end ApiDocs.Json
