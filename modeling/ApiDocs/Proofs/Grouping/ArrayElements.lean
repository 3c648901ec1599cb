import ApiDocs.Grouping.Operations
import ApiDocs.Proofs.Types.Meaning
import ApiDocs.Proofs.Types.Reachability

/-!
# Elements of arrays

An array turns up in the answer of an operation and in the properties of models. An answer is an
array because the annotation declares one, or because the type that it names is one; a property is
an array when the type of its field is.

Properties always say what their arrays hold (`Model.get?_properties_ofStruct`). Operations do so
for declared arrays only: an answer of one value whose type is an array has the type `array` and no
elements, and this is the one case in which elements are missing
(`Handler.elements_of_arrays`).
-/

set_option autoImplicit false

namespace ApiDocs

open Annotations (Handler Response ResponseShape)
open Text (stops_of_not_mem)

/-! ## Properties -/

/-- A field stands for a name in JSON: it appears there under the name, and no field behind it
does. -/
def GoSource.Struct.Shows (s : GoSource.Struct) (key : String) (f : GoSource.Field) : Prop :=
  ∃ earlier later, s.fields = earlier ++ f :: later ∧ f.skip = false ∧ f.jsonKey = key
    ∧ ∀ g ∈ later, g.skip = false → g.jsonKey ≠ key

/-- A property says of a type what there is to say, and nothing else: of an array its elements, of
a model its name, and of a primitive its type and format. -/
def Property.Depicts (p : Property) : SwaggerType → Prop
  | .array element =>
    p.type = some "array" ∧ p.items = some element.items ∧ p.reference = none ∧ p.format = none
  | .model name => p.reference = some name ∧ p.type = none ∧ p.format = none ∧ p.items = none
  | .primitive type format =>
    p.type = some type ∧ p.format = format ∧ p.reference = none ∧ p.items = none

/-- Besides the description, a property is what its type makes it. -/
theorem Property.depicts_iff {p : Property} {type : SwaggerType} :
    p.Depicts type ↔ p = { type.property with description := p.description } := by
  obtain ⟨_, _, _, _, _⟩ := p
  cases type <;> simp only [Depicts, SwaggerType.property, mk.injEq] <;> tauto

theorem GoSource.Struct.shows_iff {s : GoSource.Struct} {key : String} {f : GoSource.Field} :
    s.Shows key f
      ↔ s.fields.reverse.find? (fun f => decide (f.skip = false ∧ f.jsonKey = key)) = some f := by
  simp only [List.find?_eq_some_iff_append, decide_eq_true_eq, Bool.not_eq_true',
    decide_eq_false_iff_not, not_and]
  constructor
  · rintro ⟨earlier, later, hfields, hskip, hkey, hlater⟩
    refine ⟨⟨hskip, hkey⟩, later.reverse, earlier.reverse, by simp [hfields], fun g hg => ?_⟩
    exact hlater g (List.mem_reverse.1 hg)
  · rintro ⟨⟨hskip, hkey⟩, later, earlier, hfields, hlater⟩
    refine ⟨earlier.reverse, later.reverse, ?_, hskip, hkey, fun g hg => ?_⟩
    · rw [List.reverse_eq_iff] at hfields
      simp [hfields]
    · exact hlater g (List.mem_reverse.1 hg)

/-- The property under a name is the one of the field that stands for the name. -/
theorem Model.get?_properties_ofStruct (scope : TypeScope) (name : String) (s : GoSource.Struct)
    (key : String) (p : Property) :
    (ofStruct scope name s).properties.get? key = some p
      ↔ ∃ f, s.Shows key f ∧ p.description = f.description
        ∧ p.Depicts (scope.resolve f.type) := by
  have hproperties : (ofStruct scope name s).properties.get? key
      = (s.fields.reverse.find? fun f => decide (f.skip = false ∧ f.jsonKey = key)).map fun f =>
          { (scope.resolve f.type).property with description := f.description } := by
    simp only [ofStruct, TypeScope.fields, SortedMap.get?_ofList, ← List.map_reverse,
      ← List.filter_reverse, List.find?_map, List.find?_filter, Option.map_map, Function.comp_def,
      SortedMap.text_beq_iff, Bool.not_eq_true']
  rw [hproperties, Option.map_eq_some_iff]
  refine exists_congr fun f => ?_
  rw [GoSource.Struct.shows_iff, Property.depicts_iff]
  refine and_congr_right fun _ => ⟨?_, ?_⟩
  · rintro rfl
    exact ⟨rfl, rfl⟩
  · rintro ⟨hdescription, hp⟩
    rw [hp, hdescription]

/-! ## Answers -/

namespace Annotations.Handler

/-- The first success that names a type has a shape and names the type: no success in front of it
names one. -/
def Answers (h : Handler) (shape : ResponseShape) (expr : String) : Prop :=
  ∃ earlier r later, h.responses = earlier ++ r :: later
    ∧ r.isSuccess = true ∧ r.shape = shape ∧ r.type = some expr
    ∧ ∀ r' ∈ earlier, r'.isSuccess = true → r'.type = none

theorem answers_iff {h : Handler} {shape : ResponseShape} {expr : String} :
    h.Answers shape expr ↔ ∃ r, h.firstTypedSuccess? = some (r, expr) ∧ r.shape = shape := by
  have hchosen : ∀ r r' : Response,
      (if r.isSuccess = true then r.type.map fun t => (r, t) else none) = some (r', expr)
        ↔ r = r' ∧ r.isSuccess = true ∧ r.type = some expr := by
    intro r r'
    split <;> simp [*, and_comm]
  have hpassed : ∀ r : Response,
      (if r.isSuccess = true then r.type.map fun t => (r, t) else none) = none
        ↔ (r.isSuccess = true → r.type = none) := by
    intro r
    split <;> simp [*]
  simp only [firstTypedSuccess?, List.findSome?_eq_some_iff, hchosen, hpassed]
  constructor
  · rintro ⟨earlier, r, later, hresponses, hsuccess, hshape, htype, hearlier⟩
    exact ⟨r, ⟨earlier, r, later, hresponses, ⟨rfl, hsuccess, htype⟩, hearlier⟩, hshape⟩
  · rintro ⟨_, ⟨earlier, r, later, hresponses, ⟨rfl, hsuccess, htype⟩, hearlier⟩, hshape⟩
    exact ⟨earlier, r, later, hresponses, hsuccess, hshape, htype, hearlier⟩

/-- At most one success is the first one. -/
theorem Answers.unique {h : Handler} {shape shape' : ResponseShape} {expr expr' : String}
    (hexpr : h.Answers shape expr) (hexpr' : h.Answers shape' expr') :
    shape = shape' ∧ expr = expr' := by
  obtain ⟨r, hr, rfl⟩ := answers_iff.1 hexpr
  obtain ⟨r', hr', rfl⟩ := answers_iff.1 hexpr'
  obtain ⟨rfl, rfl⟩ := Prod.mk.inj (Option.some.inj (hr.symm.trans hr'))
  exact ⟨rfl, rfl⟩

/-- A declared array is answered with its elements. -/
theorem Answers.answer_array {h : Handler} {expr : String} (hexpr : h.Answers .array expr)
    (scope : TypeScope) : h.answer scope = ("array", some (scope.resolve expr).items) := by
  obtain ⟨r, hr, hshape⟩ := answers_iff.1 hexpr
  simp [answer, hr, hshape]

/-- One value is answered by its type alone. -/
theorem Answers.answer_object {h : Handler} {expr : String} (hexpr : h.Answers .object expr)
    (scope : TypeScope) : h.answer scope = ((scope.resolve expr).name, none) := by
  obtain ⟨r, hr, hshape⟩ := answers_iff.1 hexpr
  simp [answer, hr, hshape]

/-- There is an answer with a type, or the operation has no type and no elements. -/
theorem exists_answers_or (h : Handler) (scope : TypeScope) :
    (∃ shape expr, h.Answers shape expr) ∨ h.answer scope = ("void", none) := by
  cases hfirst : h.firstTypedSuccess? with
  | none => exact Or.inr (by simp [answer, hfirst])
  | some first => exact Or.inl ⟨first.1.shape, first.2, answers_iff.2 ⟨first.1, hfirst, rfl⟩⟩

/-- The answer is an array with elements of a type: it is declared as an array of the type, or as
one value whose type is such an array. -/
inductive AnswersArrayOf (h : Handler) (scope : TypeScope) : SwaggerType → Prop
  | declared {expr : String} (hexpr : h.Answers .array expr) :
      AnswersArrayOf h scope (scope.resolve expr)
  | resolved {expr : String} {element : SwaggerType} (hexpr : h.Answers .object expr)
      (harray : scope.resolve expr = .array element) : AnswersArrayOf h scope element

theorem AnswersArrayOf.type_answer {h : Handler} {scope : TypeScope} {element : SwaggerType}
    (helement : h.AnswersArrayOf scope element) : (h.answer scope).1 = "array" := by
  cases helement with
  | declared hexpr => rw [hexpr.answer_array]
  | resolved hexpr harray =>
    rw [hexpr.answer_object, harray]
    rfl

/-- Elements are documented for declared arrays. -/
theorem items_answer_iff {h : Handler} {scope : TypeScope} {items : Items} :
    (h.answer scope).2 = some items
      ↔ ∃ expr, h.Answers .array expr ∧ (scope.resolve expr).items = items := by
  constructor
  · intro hitems
    rcases h.exists_answers_or scope with ⟨shape, expr, hexpr⟩ | hvoid
    · cases shape with
      | object =>
        rw [hexpr.answer_object] at hitems
        cases hitems
      | array =>
        rw [hexpr.answer_array] at hitems
        exact ⟨expr, hexpr, Option.some.inj hitems⟩
    · rw [hvoid] at hitems
      cases hitems
  · rintro ⟨expr, hexpr, rfl⟩
    rw [hexpr.answer_array]

/-- The answer is declared as one value, and its type is an array. -/
def AnswersArrayAsValue (h : Handler) (scope : TypeScope) : Prop :=
  ∃ expr element, h.Answers .object expr ∧ scope.resolve expr = .array element

/-- The elements that are documented are those of all arrays, unless an array is declared as one
value. -/
theorem items_answer_iff_array_iff {h : Handler} {scope : TypeScope} :
    (∀ items, (h.answer scope).2 = some items
        ↔ ∃ element, h.AnswersArrayOf scope element ∧ element.items = items)
      ↔ ¬ h.AnswersArrayAsValue scope := by
  simp only [items_answer_iff]
  constructor
  -- The elements of an array that is one value would have to be those of a declared array.
  · rintro hall ⟨expr, element, hexpr, harray⟩
    obtain ⟨expr', hexpr', -⟩ := (hall element.items).2 ⟨element, .resolved hexpr harray, rfl⟩
    cases (hexpr.unique hexpr').1
  · intro hvalue items
    constructor
    · rintro ⟨expr, hexpr, hitems⟩
      exact ⟨_, .declared hexpr, hitems⟩
    · rintro ⟨element, helement, hitems⟩
      cases helement with
      | declared hexpr => exact ⟨_, hexpr, hitems⟩
      | resolved hexpr harray => exact absurd ⟨_, _, hexpr, harray⟩ hvalue

/-- **Elements of arrays.** Whenever an answer is an array, the operation has the type `array`. It
says what the elements are exactly when the array is declared; so it does for all arrays, and for
nothing else, unless an answer is declared as one value and its type is an array. In a collected
model each property is that of the last field of its name in JSON: for an array it has the type
`array` and the elements, for a model only the reference, and for a primitive only type and format,
besides the description. -/
theorem elements_of_arrays (files : List GoSource.File) (overrides : TypeOverrides)
    (doc : List String) (function : String) (method : HttpMethod) (noted exprs : List String) :
    let scope := TypeScope.ofFiles files overrides
    let h := Handler.ofDoc doc
    let operation := h.operation scope function method
    (∀ element, h.AnswersArrayOf scope element → operation.type = "array")
      ∧ (∀ items, operation.items = some items
        ↔ ∃ expr, h.Answers .array expr ∧ (scope.resolve expr).items = items)
      ∧ ((∀ items, operation.items = some items
          ↔ ∃ element, h.AnswersArrayOf scope element ∧ element.items = items)
        ↔ ¬ h.AnswersArrayAsValue scope)
      ∧ ∀ name m, (Collection.collectAll { unresolved := noted } scope exprs).models.get? name
          = some m →
        ∃ s, scope.struct? name = some s ∧ ∀ key p, m.properties.get? key = some p
          ↔ ∃ f, s.Shows key f ∧ p.description = f.description
            ∧ p.Depicts (scope.resolve f.type) := by
  intro scope h operation
  refine ⟨fun element helement => helement.type_answer, fun items => items_answer_iff,
    items_answer_iff_array_iff, fun name m hm => ?_⟩
  obtain ⟨_, s, hs, rfl⟩ := (Collection.get?_models_collectAll scope noted exprs name m).1 hm
  exact ⟨s, hs, fun key p => Model.get?_properties_ofStruct scope name s key p⟩

/-- An answer of one value whose type is an array of models has no elements. -/
theorem array_as_value :
    let pet : GoSource.Struct := ⟨"Pet", [⟨"Name", "string", none, false, false, ""⟩]⟩
    let doc := ["@Success 200 \x7bobject\x7d []Pet", "@Router /pets [get]"]
    let scope := TypeScope.ofFiles
      [⟨⟨"r/src/p/a.go"⟩, { package := "p", functions := [⟨"List", none, doc⟩], structs := [pet] }⟩]
      .standard
    let h := Handler.ofDoc doc
    let operation := h.operation scope "List" .get
    h.AnswersArrayOf scope (.model "Pet") ∧ operation.type = "array" ∧
      operation.items ≠ some (SwaggerType.model "Pet").items := by
  intro pet doc scope h operation
  have hanswers : h.Answers .object "[]Pet" :=
    answers_iff.2 ⟨⟨200, true, .object, some "[]Pet", ""⟩, by decide, rfl⟩
  have hpet : documentedType .standard "Pet".toList = .model "Pet" := by
    rw [documentedType_of_stops (stops_of_not_mem (by decide))]
    decide
  have hbracket : pointee "[]Pet".toList = '[' :: ([] ++ ']' :: "Pet".toList) := by decide
  have harray : scope.resolve "[]Pet" = .array (.model "Pet") := by
    show documentedType .standard "[]Pet".toList = _
    rw [documentedType_of_bracket hbracket (by decide), hpet]
    decide
  have helement : h.AnswersArrayOf scope (.model "Pet") := .resolved hanswers harray
  refine ⟨helement, helement.type_answer, ?_⟩
  show (h.answer scope).2 ≠ _
  rw [hanswers.answer_object]
  exact Option.some_ne_none _ ∘ Eq.symm

end Annotations.Handler

end ApiDocs
