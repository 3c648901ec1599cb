import ApiDocs.Proofs.GoSource.Heads
import ApiDocs.Proofs.SortedMap
import ApiDocs.Proofs.Text.Lines
import ApiDocs.Proofs.Text.Trimming
import ApiDocs.Types.Scope

/-!
# What types mean

A type expression is resolved from its front: stars, brackets and the start of a map are looked for
in a fixed order, and what is left counts as a name. Here a type is a syntax tree (`GoType`) with a
text and a meaning, both by recursion on the tree, and resolving the text gives the meaning
(`resolve_text`).

The induction is on the tree. Its claim is about every expression that leads to the same text once
blanks and stars are taken off (`documentedType_of_pointee`), so that a pointer needs no case of its
own in the resolution. What a tree is written as neither starts nor ends with a blank (`bare_text`),
and a name holds none of the characters that brackets, maps and pointers are recognised by.
-/

set_option autoImplicit false

namespace ApiDocs

open GoSource (Name)

/-! ## Registered kinds -/

namespace TypeOverrides

/-- The overrides after registering names one after the other. -/
def ofRegistered (registered : List (Name × OverrideKind)) : TypeOverrides :=
  .ofList (registered.map fun r => (r.1.text, r.2))

/-- The kind that a name is registered with; of several registrations the latest one counts. -/
def latest? (registered : List (Name × OverrideKind)) (name : List Char) : Option OverrideKind :=
  (registered.reverse.find? fun r => r.1.chars == name).map Prod.snd

variable (registered : List (Name × OverrideKind))

theorem lookup_ofRegistered (expr : List Char) :
    (ofRegistered registered).lookup expr = latest? registered (Text.lastPiece '.' expr) := by
  have hkey : ∀ r : Name × OverrideKind,
      (TextKey.text r.1.text == TextKey.text (String.ofList (Text.lastPiece '.' expr)))
        = (r.1.chars == Text.lastPiece '.' expr) := by
    intro r
    rw [Bool.eq_iff_iff, SortedMap.text_beq_iff, beq_iff_eq, Name.text, String.ofList_inj]
  simp only [lookup, ofRegistered, latest?, SortedMap.get?_ofList, ← List.map_reverse,
    List.find?_map, Function.comp_def, hkey, Option.map_map]

/-- Only names are registered. -/
theorem latest?_eq_none {text : List Char} {c : Char} (hc : c ∈ text)
    (hword : Text.isWord c = false) : latest? registered text = none := by
  rw [latest?, Option.map_eq_none_iff, List.find?_eq_none]
  intro r _ h
  rw [beq_iff_eq] at h
  exact r.1.not_mem hword (h ▸ hc)

end TypeOverrides

/-! ## Types as trees -/

/-- A type as it is written in fields and annotations. -/
inductive GoType
  /-- A type of the package at hand, or a built-in one. -/
  | named (name : Name)
  /-- A type of another package. -/
  | qualified (package name : Name)
  | pointer (target : GoType)
  /-- An array, whose length may be any text in brackets; a slice has none. -/
  | array (length : List Char) (closed : ']' ∉ length) (element : GoType)
  /-- A map, whose keys may be written in any way. -/
  | map (key : List Char) (value : GoType)
  | emptyInterface

namespace GoType

/-- How the interface without methods is written. -/
def emptyInterfaceText : List Char :=
  "interface\x7b\x7d".toList

/-- How a type is written. -/
def text : GoType → List Char
  | named name => name.chars
  | qualified package name => package.chars ++ '.' :: name.chars
  | pointer target => '*' :: target.text
  | array length _ element => '[' :: (length ++ ']' :: element.text)
  | map key value => "map[".toList ++ (key ++ ']' :: value.text)
  | emptyInterface => emptyInterfaceText

/-- What a name means that is written in full as `text`: the primitive it is registered as, else
the built-in type of the full text, else a model. -/
def nameMeaning (registered : List (Name × OverrideKind)) (text : List Char) (name : Name) :
    SwaggerType :=
  match TypeOverrides.latest? registered name.chars with
  | some kind => kind.type
  | none => (builtinType? (String.ofList text)).getD (.model name.text)

/-- What a type means, given the types that are registered as primitives. -/
def meaning (registered : List (Name × OverrideKind)) : GoType → SwaggerType
  | named name => nameMeaning registered name.chars name
  | qualified package name =>
    nameMeaning registered (package.chars ++ '.' :: name.chars) name
  | pointer target => target.meaning registered
  | array length _ element =>
    if length = [] ∧ element.text = "byte".toList then .primitive "string" (some "byte")
    else .array (element.meaning registered)
  | map _ _ => .primitive "object" none
  | emptyInterface => .primitive "object" none

theorem text_ne_nil (t : GoType) : t.text ≠ [] := by
  cases t with
  | named name => exact name.ne_nil
  | qualified package name => simp [text]
  | pointer target => exact List.cons_ne_nil _ _
  | array length closed element => exact List.cons_ne_nil _ _
  | map key value => exact List.cons_ne_nil _ _
  | emptyInterface =>
    show "interface\x7b\x7d".toList ≠ []
    decide

end GoType

open Text

/-- A name has no blank at either end. -/
theorem GoSource.Name.bare (name : Name) : Bare isBlank name.chars := by
  constructor <;> intro c hc
  · exact isBlank_of_isWord (name.isWord c (List.mem_of_head? hc))
  · exact isBlank_of_isWord (name.isWord c (List.mem_reverse.1 (List.mem_of_head? hc)))

namespace GoType

/-- What a type is written as has no blank at either end. -/
theorem bare_text (t : GoType) : Bare isBlank t.text := by
  induction t with
  | named name => exact name.bare
  | qualified package name =>
    have h := package.bare.append name.bare package.ne_nil name.ne_nil ['.']
    simpa [text] using h
  | pointer target ih =>
    have hstar : Bare isBlank ['*'] := ⟨stops_cons.2 (by decide), stops_cons.2 (by decide)⟩
    exact hstar.append ih (List.cons_ne_nil _ _) target.text_ne_nil []
  | array length closed element ih =>
    have hbracket : Bare isBlank ['['] := ⟨stops_cons.2 (by decide), stops_cons.2 (by decide)⟩
    have h := hbracket.append ih (List.cons_ne_nil _ _) element.text_ne_nil (length ++ [']'])
    simpa [text] using h
  | map key value ih =>
    have hmap : Bare isBlank "map[".toList := ⟨stops_cons.2 (by decide), stops_cons.2 (by decide)⟩
    have h := hmap.append ih (by decide) value.text_ne_nil (key ++ [']'])
    simpa [text] using h
  | emptyInterface =>
    show Bare isBlank "interface\x7b\x7d".toList
    exact ⟨stops_cons.2 (by decide), stops_cons.2 (by decide)⟩

end GoType

/-! ## One step of the resolution -/

section Steps

variable {overrides : TypeOverrides} {expr : List Char}

theorem pointee_of_bare (h : Bare isBlank expr) : pointee expr = expr.dropWhile (· == '*') := by
  rw [pointee, trim, trimWhile_eq_self_iff.2 h]

/-- An expression in brackets is an array, unless it is a slice of bytes. -/
theorem documentedType_of_bracket {length element : List Char}
    (h : pointee expr = '[' :: (length ++ ']' :: element)) (closed : ']' ∉ length) :
    documentedType overrides expr
      = if length = [] ∧ element = "byte".toList then .primitive "string" (some "byte")
        else .array (documentedType overrides element) := by
  have hdrop : (length ++ ']' :: element).dropWhile (· ≠ ']') = ']' :: element :=
    dropWhile_run_append (fun c hc => decide_eq_true (ne_of_mem_of_not_mem hc closed))
      (stops_cons.2 (by decide))
  have hbyte : length ++ ']' :: element = "]byte".toList
      ↔ length = [] ∧ element = "byte".toList := by
    cases length with
    | nil => simp
    | cons c length =>
      have hc : c ≠ ']' := fun h => closed (h ▸ List.mem_cons_self)
      simp [hc]
  rw [documentedType]
  split
  · next rest hrest =>
    obtain rfl : length ++ ']' :: element = rest := by
      rw [h] at hrest
      exact (List.cons.inj hrest).2
    split
    · next head tail hclose =>
      obtain rfl : element = tail := by
        rw [hdrop] at hclose
        exact (List.cons.inj hclose).2
      exact if_congr hbyte rfl rfl
    · next hclose =>
      rw [hdrop] at hclose
      cases hclose
  · next hother => exact absurd h (hother _)

/-- An expression without brackets at its start is a map or a name. -/
theorem documentedType_of_stops (h : Stops (· == '[') (pointee expr)) :
    documentedType overrides expr = resolveNamed overrides (pointee expr) := by
  rw [documentedType]
  split
  · next rest hrest =>
    rw [hrest] at h
    cases stops_cons.1 h
  · rfl

end Steps

variable (registered : List (Name × OverrideKind)) {expr : List Char}

/-- A name is looked up among the registered ones by its last component, and among the built-in
ones in full. -/
theorem documentedType_of_name {text : List Char} {name : Name} (hbracket : '[' ∉ text)
    (hstar : '*' ∉ text) (hlast : lastPiece '.' text = name.chars)
    (h : pointee expr = text.dropWhile (· == '*')) :
    documentedType (.ofRegistered registered) expr = GoType.nameMeaning registered text name := by
  have hdrop : text.dropWhile (· == '*') = text := dropWhile_of_stops (stops_of_not_mem hstar)
  have hmap : "map[".toList.isPrefixOf text = false := by
    rw [Bool.eq_false_iff, ne_eq, List.isPrefixOf_iff_prefix]
    exact fun hstart => hbracket (hstart.subset (by decide))
  rw [hdrop] at h
  rw [documentedType_of_stops (h ▸ stops_of_not_mem hbracket), h]
  simp only [resolveNamed, hmap, TypeOverrides.lookup_ofRegistered, unqualifiedName, hdrop, hlast,
    GoType.nameMeaning, GoSource.Name.ofList_chars]
  cases TypeOverrides.latest? registered name.chars with
  | some kind => rfl
  | none => cases builtinType? (String.ofList text) <;> rfl

/-- The interface without methods is a built-in type: no name is written like it. -/
theorem resolveNamed_emptyInterfaceText :
    resolveNamed (.ofRegistered registered) GoType.emptyInterfaceText
      = .primitive "object" none := by
  have hbrace : '\x7b' ∈ lastPiece '.' GoType.emptyInterfaceText := by decide
  have hmap : "map[".toList.isPrefixOf GoType.emptyInterfaceText = false := by decide
  simp only [resolveNamed, hmap, TypeOverrides.lookup_ofRegistered,
    TypeOverrides.latest?_eq_none registered hbrace (by decide)]
  rfl

namespace GoType

/-- Every expression that leads to the text of a type once blanks and stars are taken off is
documented as the type means. -/
theorem documentedType_of_pointee (t : GoType)
    (h : pointee expr = t.text.dropWhile (· == '*')) :
    documentedType (.ofRegistered registered) expr = t.meaning registered := by
  induction t generalizing expr with
  | named name =>
    exact documentedType_of_name registered (name.not_mem (by decide)) (name.not_mem (by decide))
      (lastPiece_of_not_mem (name.not_mem (by decide))) h
  | qualified package name =>
    have hmark : ∀ c, Text.isWord c = false → c ≠ '.' → c ∉ package.chars ++ '.' :: name.chars := by
      intro c hc hdot
      simp [package.not_mem hc, name.not_mem hc, hdot]
    exact documentedType_of_name registered (hmark _ (by decide) (by decide))
      (hmark _ (by decide) (by decide)) (lastPiece_append_sep (name.not_mem (by decide)) _) h
  | pointer target ih =>
    apply ih
    rw [h, text, List.dropWhile_cons_of_pos (by decide)]
  | array length closed element ih =>
    rw [text, List.dropWhile_cons_of_neg (by decide)] at h
    rw [documentedType_of_bracket h closed, meaning, ih (pointee_of_bare element.bare_text)]
  | map key value ih =>
    have hdrop : (map key value).text.dropWhile (· == '*') = (map key value).text :=
      dropWhile_of_stops (stops_cons.2 (by decide))
    rw [hdrop] at h
    have hstop : Stops (· == '[') (pointee expr) := h ▸ stops_cons.2 (by decide)
    have hmap : "map[".toList.isPrefixOf (map key value).text = true :=
      List.isPrefixOf_iff_prefix.2 (List.prefix_append _ _)
    rw [documentedType_of_stops hstop, h, resolveNamed, if_pos hmap, meaning]
  | emptyInterface =>
    have hdrop : emptyInterface.text.dropWhile (· == '*') = emptyInterfaceText :=
      dropWhile_of_stops (stops_cons.2 (by decide))
    rw [hdrop] at h
    have hstop : Stops (· == '[') (pointee expr) := h ▸ stops_cons.2 (by decide)
    rw [documentedType_of_stops hstop, h, resolveNamed_emptyInterfaceText, meaning]

end GoType

end ApiDocs
