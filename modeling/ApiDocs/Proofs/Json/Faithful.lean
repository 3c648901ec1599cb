import ApiDocs.Proofs.Json.Reading
import ApiDocs.Proofs.SortedMap
import ApiDocs.Swagger.JsonForm

/-!
# Faithful JSON forms

A form is faithful if its decoder gives every value back and its numerals are natural numbers, so
that its text is read back as well. Lists and maps of faithful forms are faithful. For records a
member is a name with a value that may be absent (`memberIfSome`); the lemmas tagged for `simp` look
such a member up and decode it, so that a record is faithful by evaluation of its two definitions.
-/

set_option autoImplicit false

namespace ApiDocs.Json

variable {α : Type} {toJson : α → Value} {decode : Value → Decoded α}

/-- A form that is decoded to what was written, and never `null`. -/
structure Faithful (toJson : α → Value) (decode : Value → Decoded α) : Prop where
  decode_toJson : ∀ x, decode (toJson x) = .ok x
  plain : ∀ x, Plain (toJson x)
  ne_null : ∀ x, toJson x ≠ .null

/-! ## Atoms, lists and maps -/

theorem faithful_string : Faithful Value.string Value.asString where
  decode_toJson _ := rfl
  plain := Plain.string
  ne_null _ := nofun

theorem faithful_code : Faithful (fun code : UInt16 => .natural code.toNat) Value.asCode where
  decode_toJson code := by
    have hlt : code.toNat < 65536 := code.toNat_lt
    rw [Value.asCode, if_pos hlt, UInt16.ofNat_toNat]
  plain _ := Plain.natural _
  ne_null _ := nofun

namespace Faithful

theorem list (h : Faithful toJson decode) :
    Faithful (fun xs => .array (xs.map toJson)) (Value.asList decode) where
  decode_toJson xs := by
    rw [Value.asList]
    induction xs with
    | nil => rfl
    | cons x xs ih =>
      rw [List.map_cons, List.mapM_cons, h.decode_toJson, ih]
      rfl
  plain xs := by
    refine Plain.array fun v hv => ?_
    obtain ⟨x, -, rfl⟩ := List.mem_map.1 hv
    exact h.plain x
  ne_null _ := nofun

theorem map (h : Faithful toJson decode) :
    Faithful (fun m : SortedMap String α => ofMap toJson m) (Value.asMap decode) where
  decode_toJson m := by
    have hmembers : ∀ entries : List (String × α),
        Value.decodeMembers decode (entries.map fun e => (TextKey.text e.1, toJson e.2))
          = .ok entries := by
      intro entries
      induction entries with
      | nil => rfl
      | cons e entries ih =>
        rw [List.map_cons, Value.decodeMembers, h.decode_toJson, ih]
        rfl
    rw [ofMap, Value.asMap, hmembers]
    exact congrArg Except.ok m.ofList_entries
  plain m := by
    refine Plain.object fun e he => ?_
    obtain ⟨x, -, rfl⟩ := List.mem_map.1 he
    exact h.plain x.2
  ne_null _ := nofun

end Faithful

/-! ## Members and where they are found -/

/-- The value of a text that may be left out. -/
def textValue? (text : String) : Option Value :=
  if text = "" then none else some (.string text)

/-- The value of a list that may be left out. -/
def listValue? (items : List Value) : Option Value :=
  if items.isEmpty then none else some (.array items)

@[simp]
theorem member_eq (name : String) (value : Value) :
    member name value = memberIfSome name (some value) :=
  rfl

@[simp]
theorem memberUnlessEmpty_eq (name text : String) :
    memberUnlessEmpty name text = memberIfSome name (textValue? text) := by
  unfold memberUnlessEmpty textValue?
  split
  · rfl
  · rfl

@[simp]
theorem memberUnlessNil_eq (name : String) (items : List Value) :
    memberUnlessNil name items = memberIfSome name (listValue? items) := by
  cases items with
  | nil => rfl
  | cons item items => rfl

@[simp]
theorem lastMember?_memberIfSome (key name : String) (value : Option Value) :
    lastMember? key (memberIfSome name value) = if name = key then value else none := by
  cases value with
  | none => simp [memberIfSome, lastMember?]
  | some v => rfl

@[simp]
theorem lastMember?_append (key : String) (a b : List (String × Value)) :
    lastMember? key (a ++ b) = (lastMember? key b).or (lastMember? key a) := by
  induction a with
  | nil => simp [lastMember?]
  | cons m a ih =>
    rw [List.cons_append, lastMember?, lastMember?, ih]
    cases lastMember? key b with
    | some v => rfl
    | none => rfl

/-! ## Decoding members -/

@[simp]
theorem ok_bind {β : Type} (x : α) (f : α → Decoded β) : ((.ok x : Decoded α) >>= f) = f x :=
  rfl

@[simp]
theorem map_ok {β : Type} (f : α → β) (x : α) : (f <$> (.ok x : Decoded α)) = .ok (f x) :=
  rfl

@[simp]
theorem fields_object (names : List String) (members : List (String × Value)) :
    Value.fields names (.object members) = .ok fun name => lastMember? name members :=
  rfl

@[simp]
theorem asString_string (text : String) : Value.asString (.string text) = .ok text :=
  rfl

@[simp]
theorem asBool_bool (b : Bool) : Value.asBool (.bool b) = .ok b :=
  rfl

/-- What a value that may be absent or `null` is decoded to. -/
def decodeOption (decode : Value → Decoded α) : Option Value → Decoded (Option α)
  | none => .ok none
  | some .null => .ok none
  | some value => (decode value).map some

/-- A sequence of two decodings gives a value exactly if both parts do. -/
theorem bind_eq_ok_iff {β : Type} {x : Decoded α} {f : α → Decoded β} {b : β} :
    (x >>= f) = .ok b ↔ ∃ a, x = .ok a ∧ f a = .ok b := by
  cases x with
  | error issue =>
    constructor
    · intro h
      cases h
    · rintro ⟨a, ha, -⟩
      cases ha
  | ok a =>
    rw [ok_bind]
    constructor
    · intro h
      exact ⟨a, rfl, h⟩
    · rintro ⟨_, hsame, h⟩
      rwa [Except.ok.inj hsame]

@[simp]
theorem Fields.required_eq (fields : Fields) (name : String) :
    fields.required name decode = (fields name).elim (.error .malformed) decode := by
  unfold Fields.required
  cases fields name with
  | none => rfl
  | some v => rfl

@[simp]
theorem Fields.optional_eq (fields : Fields) (name : String) (default : α) :
    fields.optional name decode default = (fields name).elim (.ok default) decode := by
  unfold Fields.optional
  cases fields name with
  | none => rfl
  | some v => rfl

@[simp]
theorem Fields.nullable_eq (fields : Fields) (name : String) :
    fields.nullable name decode = decodeOption decode (fields name) := by
  unfold Fields.nullable decodeOption
  cases fields name with
  | none => rfl
  | some v => cases v <;> rfl

@[simp]
theorem decode_textValue? (text : String) :
    (textValue? text).elim (.ok "") Value.asString = .ok text := by
  unfold textValue?
  split
  · next h => rw [h]; rfl
  · rfl

theorem Faithful.decode_listValue? (h : Faithful toJson decode) (xs : List α) :
    (listValue? (xs.map toJson)).elim (.ok []) (Value.asList decode) = .ok xs := by
  cases xs with
  | nil => rfl
  | cons x xs => exact h.list.decode_toJson (x :: xs)

theorem Faithful.decodeOption_map (h : Faithful toJson decode) (x : Option α) :
    decodeOption decode (x.map toJson) = .ok x := by
  cases x with
  | none => rfl
  | some x =>
    have hnull := h.ne_null x
    rw [Option.map_some, decodeOption, h.decode_toJson]
    · rfl
    · exact hnull

/-! ## Members are plain -/

/-- Members whose values are all plain. -/
def PlainMembers (members : List (String × Value)) : Prop :=
  ∀ m ∈ members, Plain m.2

@[simp]
theorem plain_object_iff {members : List (String × Value)} :
    Plain (.object members) ↔ PlainMembers members := by
  constructor
  · intro h
    cases h with
    | object hmembers => exact hmembers
  · exact Plain.object

@[simp]
theorem plainMembers_append {a b : List (String × Value)} :
    PlainMembers (a ++ b) ↔ PlainMembers a ∧ PlainMembers b :=
  List.forall_mem_append

/-- A value that may be absent, plain if it is there. -/
def PlainIfSome (value : Option Value) : Prop :=
  ∀ v ∈ value, Plain v

@[simp]
theorem plainMembers_memberIfSome {name : String} {value : Option Value} :
    PlainMembers (memberIfSome name value) ↔ PlainIfSome value := by
  cases value with
  | none => simp [PlainMembers, PlainIfSome, memberIfSome]
  | some v => simp [PlainMembers, PlainIfSome, memberIfSome]

@[simp]
theorem plainIfSome_some {value : Value} : PlainIfSome (some value) ↔ Plain value := by
  simp [PlainIfSome]

@[simp]
theorem plainIfSome_textValue? (text : String) : PlainIfSome (textValue? text) := by
  intro v hv
  unfold textValue? at hv
  split at hv
  · cases hv
  · cases hv
    exact Plain.string text

theorem Faithful.plainIfSome_listValue? (h : Faithful toJson decode) (xs : List α) :
    PlainIfSome (listValue? (xs.map toJson)) := by
  intro v hv
  unfold listValue? at hv
  split at hv
  · cases hv
  · cases hv
    exact h.list.plain xs

theorem Faithful.plainIfSome_map (h : Faithful toJson decode) (x : Option α) :
    PlainIfSome (x.map toJson) := by
  intro v hv
  obtain ⟨y, -, rfl⟩ := Option.map_eq_some_iff.1 hv
  exact h.plain y

end ApiDocs.Json
