import ApiDocs.Proofs.Json.Faithful

/-!
# The JSON form of the documents is faithful

Every part of the documentation is decoded from its JSON form to what was written.
-/

set_option autoImplicit false

namespace ApiDocs

open Json

/-! ## The listing -/

theorem ResourceReference.faithful : Faithful toJson ofJson where
  decode_toJson r := by
    simp [toJson, ofJson]
  plain r := by
    simp [toJson, Plain.string]
  ne_null _ := nofun

theorem Info.faithful : Faithful toJson ofJson where
  decode_toJson i := by
    simp [toJson, ofJson]
  plain i := by
    simp [toJson, Plain.string]
  ne_null _ := nofun

theorem ResourceListing.faithful : Faithful toJson ofJson where
  decode_toJson l := by
    simp [toJson, ofJson, Faithful.decode_toJson (Faithful.list ResourceReference.faithful),
      Faithful.decode_toJson Info.faithful]
  plain l := by
    simp [toJson, Plain.string, Faithful.plain (Faithful.list ResourceReference.faithful),
      Faithful.plain Info.faithful]
  ne_null _ := nofun

/-! ## Models -/

theorem Items.faithful : Faithful toJson ofJson where
  decode_toJson i := by
    simp [toJson, ofJson, Faithful.decodeOption_map faithful_string]
  plain i := by
    simp [toJson, Faithful.plainIfSome_map faithful_string]
  ne_null _ := nofun

theorem Property.faithful : Faithful toJson ofJson where
  decode_toJson p := by
    simp [toJson, ofJson, Faithful.decodeOption_map faithful_string,
      Faithful.decodeOption_map Items.faithful]
  plain p := by
    simp [toJson, Faithful.plainIfSome_map faithful_string, Faithful.plainIfSome_map Items.faithful]
  ne_null _ := nofun

theorem Model.faithful : Faithful toJson ofJson where
  decode_toJson m := by
    simp [toJson, ofJson, strings, Faithful.decode_listValue? faithful_string,
      Faithful.decode_toJson (Faithful.map Property.faithful)]
  plain m := by
    simp [toJson, Plain.string, strings, Faithful.plainIfSome_listValue? faithful_string,
      Faithful.plain (Faithful.map Property.faithful)]
  ne_null _ := nofun

/-! ## Operations -/

theorem Parameter.faithful : Faithful toJson ofJson where
  decode_toJson p := by
    simp [toJson, ofJson]
  plain p := by
    simp [toJson, Plain.string, Plain.bool]
  ne_null _ := nofun

theorem ResponseMessage.faithful : Faithful toJson ofJson where
  decode_toJson r := by
    simp [toJson, ofJson, Faithful.decode_toJson faithful_code]
  plain r := by
    simp [toJson, Plain.string, Plain.natural]
  ne_null _ := nofun

theorem Operation.faithful : Faithful toJson ofJson where
  decode_toJson o := by
    simp [toJson, ofJson, strings, Faithful.decodeOption_map Items.faithful,
      Faithful.decode_toJson (Faithful.list Parameter.faithful),
      Faithful.decode_listValue? ResponseMessage.faithful,
      Faithful.decode_listValue? faithful_string]
  plain o := by
    simp [toJson, Plain.string, strings, Faithful.plainIfSome_map Items.faithful,
      Faithful.plain (Faithful.list Parameter.faithful),
      Faithful.plainIfSome_listValue? ResponseMessage.faithful,
      Faithful.plainIfSome_listValue? faithful_string]
  ne_null _ := nofun

/-! ## Declarations -/

theorem Route.faithful : Faithful toJson ofJson where
  decode_toJson r := by
    simp [toJson, ofJson, Faithful.decode_toJson (Faithful.list Operation.faithful)]
  plain r := by
    simp [toJson, Plain.string, Faithful.plain (Faithful.list Operation.faithful)]
  ne_null _ := nofun

namespace ApiDeclaration

/-- The value of the models of a declaration, which may be left out. -/
def modelsValue? (models : SortedMap String Model) : Option Value :=
  if models.isEmpty then none else some (Model.mapToJson models)

theorem modelsMember_eq (models : SortedMap String Model) :
    modelsMember models = memberIfSome "models" (modelsValue? models) := by
  unfold modelsMember modelsValue?
  split
  · rfl
  · rfl

theorem decode_modelsValue? (models : SortedMap String Model) :
    (modelsValue? models).elim (.ok .empty) Model.mapOfJson = .ok models := by
  unfold modelsValue?
  split
  · next hempty =>
    have hentries : models.entries = [] := List.isEmpty_iff.1 hempty
    exact congrArg Except.ok (SortedMap.ext hentries.symm)
  · exact Faithful.decode_toJson (Faithful.map Model.faithful) models

theorem plainIfSome_modelsValue? (models : SortedMap String Model) :
    PlainIfSome (modelsValue? models) := by
  unfold modelsValue?
  split
  · exact nofun
  · exact plainIfSome_some.2 (Faithful.plain (Faithful.map Model.faithful) models)

theorem faithful : Faithful toJson ofJson where
  decode_toJson d := by
    simp [toJson, ofJson, strings, modelsMember_eq, Faithful.decode_listValue? faithful_string,
      Faithful.decode_toJson (Faithful.list Route.faithful), decode_modelsValue?]
  plain d := by
    simp [toJson, Plain.string, strings, modelsMember_eq,
      Faithful.plainIfSome_listValue? faithful_string,
      Faithful.plain (Faithful.list Route.faithful), plainIfSome_modelsValue?]
  ne_null _ := nofun

end ApiDeclaration

end ApiDocs
