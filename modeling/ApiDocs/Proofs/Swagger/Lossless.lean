import ApiDocs.Proofs.Swagger.JsonForm

/-!
# The text of the documents is lossless

A faithful JSON form is read back from its indented text, because its numerals are natural numbers.
So the text of each part of the documentation says all there is to say about it: it is decoded to
what was written, and different values have different texts (`Lossless`).
-/

set_option autoImplicit false

namespace ApiDocs

open Json

namespace Json

variable {α : Type} {toJson : α → Value} {decode : Value → Decoded α}

/-- A form whose indented text is read and decoded to what was written, so that no two values have
the same text. -/
structure Lossless (toJson : α → Value) (decode : Value → Decoded α) : Prop where
  decode_read : ∀ x, (read? (toJson x).toIndented).map decode = some (.ok x)
  injective : Function.Injective fun x => (toJson x).toIndented

theorem Faithful.lossless (h : Faithful toJson decode) : Lossless toJson decode := by
  have hread : ∀ x, (read? (toJson x).toIndented).map decode = some (.ok x) := by
    intro x
    rw [read?_toIndented (h.plain x), Option.map_some, h.decode_toJson]
  refine ⟨hread, fun x y hsame => ?_⟩
  have hx := hread x
  have htext : (toJson x).toIndented = (toJson y).toIndented := hsame
  rw [htext, hread y] at hx
  exact (Except.ok.inj (Option.some.inj hx)).symm

end Json

/-- Every part of the documentation is lossless as text: the listing with its references and general
information, and the declarations with their routes, operations, parameters, answers and models. -/
theorem lossless_documents :
    Lossless ResourceListing.toJson ResourceListing.ofJson
      ∧ Lossless ResourceReference.toJson ResourceReference.ofJson
      ∧ Lossless Info.toJson Info.ofJson
      ∧ Lossless ApiDeclaration.toJson ApiDeclaration.ofJson
      ∧ Lossless Route.toJson Route.ofJson
      ∧ Lossless Operation.toJson Operation.ofJson
      ∧ Lossless Parameter.toJson Parameter.ofJson
      ∧ Lossless ResponseMessage.toJson ResponseMessage.ofJson
      ∧ Lossless Model.toJson Model.ofJson
      ∧ Lossless Property.toJson Property.ofJson
      ∧ Lossless Items.toJson Items.ofJson :=
  ⟨Faithful.lossless ResourceListing.faithful, Faithful.lossless ResourceReference.faithful,
    Faithful.lossless Info.faithful, Faithful.lossless ApiDeclaration.faithful,
    Faithful.lossless Route.faithful, Faithful.lossless Operation.faithful,
    Faithful.lossless Parameter.faithful, Faithful.lossless ResponseMessage.faithful,
    Faithful.lossless Model.faithful, Faithful.lossless Property.faithful,
    Faithful.lossless Items.faithful⟩

end ApiDocs
