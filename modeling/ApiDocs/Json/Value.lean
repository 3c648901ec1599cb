/-!
# JSON values

Values as in RFC 8259. Natural numbers stand by themselves; every other numeral is kept as it is
written, because no field of the documentation holds one.
-/

set_option autoImplicit false

namespace ApiDocs.Json

/-- A JSON value. An object is the list of its members in the order in which they are written. -/
inductive Value
  | null
  | bool (b : Bool)
  /-- A numeral without sign, fraction and exponent. -/
  | natural (n : Nat)
  /-- Any other numeral, as written. -/
  | numeral (text : String)
  | string (s : String)
  | array (items : List Value)
  | object (members : List (String × Value))
deriving Inhabited

/-- The last value that a list of members gives to a name. -/
def lastMember? (name : String) : List (String × Value) → Option Value
  | [] => none
  | (key, value) :: rest =>
    match lastMember? name rest with
    | some later => some later
    | none => if key = name then some value else none

namespace Value

/-- The member of an object at a name. -/
def get? (v : Value) (name : String) : Option Value :=
  match v with
  | .object members => lastMember? name members
  | _ => none

end Value

end ApiDocs.Json
