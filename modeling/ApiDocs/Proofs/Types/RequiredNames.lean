import ApiDocs.Proofs.Grouping.ArrayElements

/-!
# Required names of models

A model lists the names in JSON that have to be there, and it has a property for every name in JSON.
The list grows by one name for each mandatory field, while a field under a name that was met before
takes the property over. The two are in step as long as no mandatory field loses its property to a
later field (`Model.requires_iff`): if the later field is mandatory, too, the name is listed twice,
and if it is not, the name is listed although its property may be missing.
-/

set_option autoImplicit false

namespace ApiDocs

open GoSource (Field Struct)

namespace GoSource

/-- A field has to be there: its tag does not leave it out when it is empty, and its type is written
without a star in front. -/
def Field.IsMandatory (f : Field) : Prop :=
  f.omitEmpty = false ∧ ¬ ['*'] <+: f.type.toList

theorem Field.isRequired_iff {f : Field} : f.isRequired = true ↔ f.IsMandatory := by
  unfold isRequired IsMandatory
  rw [Bool.and_eq_true, Bool.not_eq_true', bne_iff_ne]
  refine and_congr_right fun _ => not_congr ?_
  cases f.type.toList with
  | nil => simp
  | cons c rest => simp [eq_comm]

/-- A mandatory field loses its property: a field behind it appears under the same name in JSON. -/
def Struct.ReplacesMandatory (s : Struct) : Prop :=
  ∃ earlier f later, s.fields = earlier ++ f :: later ∧ f.skip = false ∧ f.IsMandatory
    ∧ ∃ g ∈ later, g.skip = false ∧ g.jsonKey = f.jsonKey

/-- A name that some field has is the name of a last one. -/
theorem Struct.exists_shows {s : Struct} {f : Field} (hf : f ∈ s.fields) (hskip : f.skip = false) :
    ∃ g, s.Shows f.jsonKey g := by
  have hsome : (s.fields.reverse.find? fun g =>
      decide (g.skip = false ∧ g.jsonKey = f.jsonKey)).isSome = true := by
    rw [List.find?_isSome]
    exact ⟨f, List.mem_reverse.2 hf, decide_eq_true ⟨hskip, rfl⟩⟩
  obtain ⟨g, hg⟩ := Option.isSome_iff_exists.1 hsome
  exact ⟨g, shows_iff.2 hg⟩

end GoSource

namespace Model

variable (scope : TypeScope) (name : String) (s : Struct)

/-- The required names of a model are right for a struct: each comes once and has a property, and
the name of a property is required exactly when the field behind the property is mandatory. -/
structure Requires (m : Model) (s : Struct) : Prop where
  nodup : m.required.Nodup
  isProperty : ∀ key ∈ m.required, m.properties.contains key = true
  mandatory : ∀ key f, s.Shows key f → (key ∈ m.required ↔ f.IsMandatory)

theorem required_ofStruct : (ofStruct scope name s).required
    = (s.fields.filter fun f => decide (f.skip = false) && f.isRequired).map Field.jsonKey := by
  simp only [ofStruct, TypeScope.fields, List.filter_map, List.map_map, List.filter_filter,
    Function.comp_def]
  refine congrArg (List.map Field.jsonKey) (List.filter_congr fun f _ => ?_)
  cases f.skip <;> simp

theorem mem_required_iff {key : String} : key ∈ (ofStruct scope name s).required
    ↔ ∃ f ∈ s.fields, f.skip = false ∧ f.IsMandatory ∧ f.jsonKey = key := by
  simp only [required_ofStruct, List.mem_map, List.mem_filter, Bool.and_eq_true, decide_eq_true_eq,
    Field.isRequired_iff, and_assoc]

/-- A name is required twice exactly when two mandatory fields have it. -/
theorem nodup_required_iff : (ofStruct scope name s).required.Nodup
    ↔ s.fields.Pairwise fun f g => f.skip = false ∧ f.IsMandatory → g.skip = false ∧ g.IsMandatory →
      f.jsonKey ≠ g.jsonKey := by
  rw [required_ofStruct, List.Nodup, List.pairwise_map, List.pairwise_filter]
  simp only [Bool.and_eq_true, decide_eq_true_eq, Field.isRequired_iff]

theorem contains_properties_iff {key : String} :
    (ofStruct scope name s).properties.contains key = true ↔ ∃ f, s.Shows key f := by
  rw [SortedMap.contains_iff]
  constructor
  · rintro ⟨p, hp⟩
    obtain ⟨f, hf, -⟩ := (get?_properties_ofStruct scope name s key p).1 hp
    exact ⟨f, hf⟩
  · rintro ⟨f, hf⟩
    have hp := (get?_properties_ofStruct scope name s key
      { (scope.resolve f.type).property with description := f.description }).2
      ⟨f, hf, rfl, Property.depicts_iff.2 rfl⟩
    exact ⟨_, hp⟩

/-- Every required name has a property, whatever the fields are. -/
theorem contains_of_mem_required {key : String} (h : key ∈ (ofStruct scope name s).required) :
    (ofStruct scope name s).properties.contains key = true := by
  obtain ⟨f, hf, hskip, -, rfl⟩ := (mem_required_iff scope name s).1 h
  exact (contains_properties_iff scope name s).2 (Struct.exists_shows hf hskip)

/-- A mandatory field that keeps its property accounts for its name alone. -/
theorem requires_of_not_replaces (h : ¬ s.ReplacesMandatory) :
    (ofStruct scope name s).Requires s where
  nodup := by
    rw [nodup_required_iff, List.pairwise_iff_forall_sublist]
    rintro f g hfg ⟨hskip, hmandatory⟩ ⟨hskip', -⟩ hkey
    obtain ⟨before, behind, hfields, hf, hg⟩ := List.cons_sublist_iff.1 hfg
    obtain ⟨earlier, between, rfl⟩ := List.append_of_mem hf
    refine h ⟨earlier, f, between ++ behind, by simpa using hfields, hskip, hmandatory, g, ?_,
      hskip', hkey.symm⟩
    exact List.mem_append_right _ (List.singleton_sublist.1 hg)
  isProperty key := contains_of_mem_required scope name s
  mandatory key f hshows := by
    obtain ⟨earlier, later, hfields, hskip, hkey, hlater⟩ := hshows
    rw [mem_required_iff]
    constructor
    · rintro ⟨g, hg, hskip', hmandatory, hkey'⟩
      rw [hfields, List.mem_append, List.mem_cons] at hg
      rcases hg with hg | rfl | hg
      · -- In front of the field a mandatory one would have lost its property to it.
        obtain ⟨start, between, rfl⟩ := List.append_of_mem hg
        refine absurd ⟨start, g, between ++ f :: later, by simpa using hfields, hskip', hmandatory,
          f, ?_, hskip, hkey.trans hkey'.symm⟩ h
        exact List.mem_append_right _ List.mem_cons_self
      · exact hmandatory
      · exact absurd hkey' (hlater g hg hskip')
    · intro hmandatory
      exact ⟨f, by simp [hfields], hskip, hmandatory, hkey⟩

/-- Where a mandatory field loses its property, the name of the field is required twice, or it is
required for a field that is not mandatory. -/
theorem not_requires_of_replaces (h : s.ReplacesMandatory) :
    ¬ (ofStruct scope name s).Requires s := by
  obtain ⟨earlier, f, later, hfields, hskip, hmandatory, g, hg, hskip', hkey⟩ := h
  intro hrequires
  obtain ⟨last, between, behind, hbehind, hlast, hkey', hnone⟩ :=
    Struct.exists_shows (s := { s with fields := later }) hg hskip'
  change later = between ++ last :: behind at hbehind
  have hshows : s.Shows f.jsonKey last := by
    refine ⟨earlier ++ f :: between, behind, by simp [hfields, hbehind], hlast, by rw [hkey', hkey],
      fun x hx hx' => ?_⟩
    rw [← hkey]
    exact hnone x hx hx'
  have hrequired : f.jsonKey ∈ (ofStruct scope name s).required :=
    (mem_required_iff scope name s).2 ⟨f, by simp [hfields], hskip, hmandatory, rfl⟩
  have hlastMandatory := (hrequires.mandatory _ _ hshows).1 hrequired
  have hpairs := (nodup_required_iff scope name s).1 hrequires.nodup
  rw [hfields] at hpairs
  have hbehindf := (List.pairwise_cons.1 (List.pairwise_append.1 hpairs).2.1).1 last (by
    simp [hbehind])
  exact hbehindf ⟨hskip, hmandatory⟩ ⟨hlast, hlastMandatory⟩ (hkey'.trans hkey).symm

/-- **Required names.** In the model of a struct each property is that of the last field of its name
in JSON, the required names are those of the mandatory fields, and each of them has a property. They
come once each, and tell the properties of mandatory fields from the others, exactly when no
mandatory field loses its property to a later one. -/
theorem requires_iff (scope : TypeScope) (name : String) (s : Struct) :
    let m := ofStruct scope name s
    (∀ key p, m.properties.get? key = some p
        ↔ ∃ f, s.Shows key f ∧ p.description = f.description
          ∧ p.Depicts (scope.resolve f.type))
      ∧ (∀ key, key ∈ m.required
        ↔ ∃ f ∈ s.fields, f.skip = false ∧ f.IsMandatory ∧ f.jsonKey = key)
      ∧ (∀ key ∈ m.required, m.properties.contains key = true)
      ∧ (m.Requires s ↔ ¬ s.ReplacesMandatory) := by
  intro m
  refine ⟨get?_properties_ofStruct scope name s, fun key => mem_required_iff scope name s,
    fun key => contains_of_mem_required scope name s, ?_, requires_of_not_replaces scope name s⟩
  exact fun hrequires hreplaces => not_requires_of_replaces scope name s hreplaces hrequires

/-- Of two mandatory fields with one name the name is listed twice, and a name stays listed when a
field that is left out when empty takes over the property. -/
theorem replaced_fields_required :
    let keeper : Field := ⟨"Keeper", "string", some "owner", true, false, ""⟩
    let pet : Struct := ⟨"Pet", [⟨"Name", "string", some "name", false, false, ""⟩,
      ⟨"Title", "string", some "name", false, false, ""⟩,
      ⟨"Owner", "string", some "owner", false, false, ""⟩, keeper]⟩
    let scope := TypeScope.ofFiles [⟨⟨"p.go"⟩, { package := "p", structs := [pet] }⟩] .standard
    let m := ofStruct scope "Pet" pet
    ¬ m.required.Nodup ∧ pet.Shows "owner" keeper ∧ "owner" ∈ m.required ∧ ¬ keeper.IsMandatory
      ∧ ¬ m.Requires pet := by
  intro keeper pet scope m
  have hrequired : m.required = ["name", "name", "owner"] := by
    rw [required_ofStruct]
    decide
  have hshows : pet.Shows "owner" keeper :=
    ⟨pet.fields.dropLast, [], by decide, by decide, by decide, by simp⟩
  have hkeeper : ¬ keeper.IsMandatory := fun h => absurd h.1 (by decide)
  have hlisted : "owner" ∈ m.required := by
    rw [hrequired]
    decide
  refine ⟨by rw [hrequired]; decide, hshows, hlisted, hkeeper, fun h => ?_⟩
  exact hkeeper ((h.mandatory "owner" keeper hshows).1 hlisted)

end Model

end ApiDocs
