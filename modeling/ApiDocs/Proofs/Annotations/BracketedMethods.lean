import ApiDocs.Proofs.Annotations.TaggedLines
import ApiDocs.Proofs.Annotations.WrittenLines

/-!
# Methods in brackets

What a route annotation with a text in brackets behind its path comes to. The reader takes the
brackets for a method only if they hold a word, that is one or more word characters and nothing
else (`bracketedMethod?_eq_some_iff`). A word that names a method, in letters of any case, gives
that method, and any other word is refused with a warning. Brackets around anything else are passed
over as if they were not there, and then the method is GET without a report (`bracketed_methods`).
-/

set_option autoImplicit false

namespace ApiDocs

open Text (Stops isBlank isWord stops_cons)

/-! ## Names of methods -/

namespace HttpMethod

variable {m m' : HttpMethod} {text : List Char}

/-- A text that is the name of a method, in letters of any case. -/
def IsNamed (m : HttpMethod) (text : List Char) : Prop :=
  Text.lower text = Text.lower m.name.toList

instance (m : HttpMethod) (text : List Char) : Decidable (m.IsNamed text) :=
  inferInstanceAs (Decidable (_ = _))

theorem mem_all (m : HttpMethod) : m ∈ all := by
  cases m <;> decide

theorem IsNamed.unique (h : m.IsNamed text) (h' : m'.IsNamed text) : m = m' := by
  have hnames : ∀ a ∈ all, ∀ b ∈ all,
      Text.lower a.name.toList = Text.lower b.name.toList → a = b := by decide
  exact hnames m m.mem_all m' m'.mem_all (h.symm.trans h')

theorem parse_eq_ok_iff : parse (String.ofList text) = .ok m ↔ m.IsNamed text := by
  have hlowered : ∀ a : HttpMethod,
      (Text.lowered a.name == Text.lowered (String.ofList text)) = true ↔ a.IsNamed text := by
    intro a
    rw [beq_iff_eq, Text.lowered, Text.lowered, String.ofList_inj, String.toList_ofList]
    exact eq_comm
  unfold parse
  cases hfind : all.find? fun a => Text.lowered a.name == Text.lowered (String.ofList text) with
  | none =>
    constructor
    · intro h
      cases h
    · intro h
      exact absurd ((hlowered m).2 h) (List.find?_eq_none.1 hfind m m.mem_all)
  | some found =>
    have hsome := List.find?_some hfind
    have hfound : found.IsNamed text := (hlowered found).1 hsome
    simp only [Except.ok.injEq]
    constructor
    · rintro rfl
      exact hfound
    · exact hfound.unique

/-- Lower case leaves every character but the capital letters as it is, so nothing but word
characters turns into word characters. -/
theorem isWord_of_toLower {c : Char} (h : isWord c.toLower = true) : isWord c = true := by
  by_cases hupper : 'A' ≤ c ∧ c ≤ 'Z'
  · simp [isWord, hupper.1, hupper.2]
  · have hself : c.toLower = c := by
      unfold Char.toLower
      exact dif_neg hupper
    rwa [hself] at h

end HttpMethod

namespace Annotations

open HttpMethod (IsNamed)

/-- One or more word characters and nothing else. -/
def IsIdentifier (s : List Char) : Prop :=
  s ≠ [] ∧ ∀ c ∈ s, isWord c = true

instance (s : List Char) : Decidable (IsIdentifier s) :=
  decidable_of_iff (s ≠ [] ∧ s.all isWord = true) (and_congr_right fun _ => List.all_eq_true)

theorem isIdentifier_of_isNamed {m : HttpMethod} {text : List Char} (h : m.IsNamed text) :
    IsIdentifier text := by
  have hname : ∀ m ∈ HttpMethod.all, IsIdentifier (Text.lower m.name.toList) := by decide
  obtain ⟨hne, hword⟩ := hname m m.mem_all
  rw [← h] at hne hword
  refine ⟨fun hnil => hne (by rw [hnil]; rfl), fun c hc => ?_⟩
  exact HttpMethod.isWord_of_toLower (hword _ (List.mem_map_of_mem hc))

/-! ## The reader of brackets -/

/-- A method in brackets is found behind blanks, and only if the brackets hold a word. -/
theorem bracketedMethod?_eq_some_iff {s name : List Char} :
    bracketedMethod? s = some name
      ↔ ∃ gap rest, s = gap ++ '[' :: (name ++ ']' :: rest) ∧ gap ≠ [] ∧
          (∀ c ∈ gap, isBlank c = true) ∧ IsIdentifier name := by
  have hmark : ∀ (mark : Char) {s rest : List Char},
      [mark].isPrefixOf? s = some rest ↔ s = mark :: rest := fun mark s rest => by
    rw [List.isPrefixOf?_eq_some_iff_append_eq, List.singleton_append, eq_comm]
  unfold bracketedMethod?
  simp only [Option.bind_eq_bind, Option.bind_eq_some_iff, Text.dropBlanks1?_eq_some_iff, hmark,
    Text.takeWhile1?_eq_some_iff, Prod.exists, Option.pure_def, Option.some.injEq]
  constructor
  · rintro ⟨opened, ⟨gap, hgap, hne, hblank, -⟩, inside, rfl, run, closed,
      ⟨rfl, hrun, hword, -⟩, rest, rfl, rfl⟩
    exact ⟨gap, rest, hgap, hne, hblank, hrun, hword⟩
  · rintro ⟨gap, rest, hgap, hne, hblank, hrun, hword⟩
    exact ⟨_, ⟨gap, hgap, hne, hblank, stops_cons.2 (by decide)⟩, _, rfl, name, _,
      ⟨rfl, hrun, hword, stops_cons.2 (by decide)⟩, rest, rfl, rfl⟩

/-! ## Routes -/

/-- What can be written for a route with a text in brackets: a path, blanks, any text without a
closing bracket between brackets, and anything behind it. -/
structure BracketedRoute where
  path : String
  gap : List Char
  inner : List Char
  rest : List Char
  isWordText_path : IsWordText path
  gap_ne_nil : gap ≠ []
  isBlank_gap : ∀ c ∈ gap, isBlank c = true
  not_mem_inner : ']' ∉ inner

namespace BracketedRoute

/-- What is written behind the path. -/
def tail (b : BracketedRoute) : List Char :=
  b.gap ++ '[' :: (b.inner ++ ']' :: b.rest)

/-- The whole value of the annotation. -/
def value (b : BracketedRoute) : List Char :=
  b.path.toList ++ b.tail

theorem stops_tail (b : BracketedRoute) : Stops (fun c => !isBlank c) b.tail := by
  refine Text.stops_append b.gap_ne_nil (fun c hc => ?_) _
  rw [b.isBlank_gap c hc]
  rfl

/-- The parts behind the path can be told from each other. -/
theorem tail_inj {b : BracketedRoute} {gap name rest : List Char}
    (htail : b.tail = gap ++ '[' :: (name ++ ']' :: rest)) (hgap : ∀ c ∈ gap, isBlank c = true)
    (hname : ']' ∉ name) : b.inner = name := by
  have hopen : ∀ s, Stops isBlank ('[' :: s) := fun s => stops_cons.2 (by decide)
  have hinside : b.inner ++ ']' :: b.rest = name ++ ']' :: rest := by
    have hdrop := congrArg (List.dropWhile isBlank) htail
    rw [tail, Text.dropWhile_run_append b.isBlank_gap (hopen _),
      Text.dropWhile_run_append hgap (hopen _)] at hdrop
    exact List.tail_eq_of_cons_eq hdrop
  have htake := congrArg (List.takeWhile (· ≠ ']')) hinside
  rwa [Text.takeWhile_ne_append b.not_mem_inner, Text.takeWhile_ne_append hname] at htake

/-- The brackets count if and only if they hold a word. -/
theorem bracketedMethod?_tail (b : BracketedRoute) :
    bracketedMethod? b.tail = if IsIdentifier b.inner then some b.inner else none := by
  split
  · next hword =>
    exact bracketedMethod?_eq_some_iff.2 ⟨b.gap, b.rest, rfl, b.gap_ne_nil, b.isBlank_gap, hword⟩
  · next hword =>
    rw [Option.eq_none_iff_forall_ne_some]
    intro name hsome
    obtain ⟨gap, rest, htail, -, hblank, hne, hname⟩ := bracketedMethod?_eq_some_iff.1 hsome
    have hclosed : ']' ∉ name := fun hmem => absurd (hname _ hmem) (by decide)
    exact hword (tail_inj htail hblank hclosed ▸ ⟨hne, hname⟩)

end BracketedRoute

namespace Router

/-- The route of a value that starts with a path. -/
theorem read?_append {path : String} (hpath : IsWordText path) {rest : List Char}
    (hrest : Stops (fun c => !isBlank c) rest) :
    read? (path.toList ++ rest) = match bracketedMethod? rest with
      | none => some ⟨path, .get⟩
      | some name => (HttpMethod.parse (String.ofList name)).toOption.map fun m => ⟨path, m⟩ := by
  have hword : ∀ c ∈ path.toList, (!isBlank c) = true := fun c hc => by rw [hpath.2 c hc]; rfl
  have htake : Text.takeWord? (path.toList ++ rest) = some (path.toList, rest) :=
    Text.takeWhile1?_run_append hpath.ne_nil hword hrest
  unfold read?
  simp only [htake, Option.bind_eq_bind, Option.bind_some, String.ofList_toList]
  cases bracketedMethod? rest with
  | none => rfl
  | some name =>
    cases hparse : HttpMethod.parse (String.ofList name) with
    | error e =>
      simp only [hparse]
      rfl
    | ok m =>
      simp only [hparse]
      rfl

/-- Brackets with the name of a method give that method, and with another word no route. With
anything else in them they are passed over. -/
theorem read?_bracketed (b : BracketedRoute) :
    read? b.value
      = if IsIdentifier b.inner then
          (HttpMethod.parse (String.ofList b.inner)).toOption.map fun m => ⟨b.path, m⟩
        else some ⟨b.path, .get⟩ := by
  unfold BracketedRoute.value
  rw [read?_append b.isWordText_path b.stops_tail, b.bracketedMethod?_tail]
  by_cases hword : IsIdentifier b.inner
  · rw [if_pos hword, if_pos hword]
  · rw [if_neg hword, if_neg hword]

theorem read?_of_isNamed {b : BracketedRoute} {m : HttpMethod} (h : m.IsNamed b.inner) :
    read? b.value = some ⟨b.path, m⟩ := by
  rw [read?_bracketed, if_pos (isIdentifier_of_isNamed h), HttpMethod.parse_eq_ok_iff.2 h]
  rfl

theorem read?_of_not_isNamed {b : BracketedRoute} (h : ∀ m : HttpMethod, ¬ m.IsNamed b.inner) :
    read? b.value = if IsIdentifier b.inner then none else some ⟨b.path, .get⟩ := by
  rw [read?_bracketed]
  cases hparse : HttpMethod.parse (String.ofList b.inner) with
  | error e => rfl
  | ok m => exact absurd (HttpMethod.parse_eq_ok_iff.1 hparse) (h m)

/-- What is read as a route has a word in brackets behind its path, or the method GET. -/
theorem exists_bracketed {value : List Char} {r : Router} (h : read? value = some r) :
    (∃ b : BracketedRoute, b.value = value ∧ IsIdentifier b.inner) ∨ r.method = .get := by
  unfold read? at h
  simp only [Option.bind_eq_bind, Option.bind_eq_some_iff, Prod.exists] at h
  obtain ⟨path, rest, htake, hroute⟩ := h
  obtain ⟨rfl, hne, hword, -⟩ := Text.takeWhile1?_eq_some_iff.1 htake
  cases hmethod : bracketedMethod? rest with
  | none =>
    rw [hmethod] at hroute
    cases hroute
    exact Or.inr rfl
  | some name =>
    obtain ⟨gap, behind, rfl, hgap, hblank, hname⟩ := bracketedMethod?_eq_some_iff.1 hmethod
    refine Or.inl ⟨{
      path := String.ofList path
      gap
      inner := name
      rest := behind
      isWordText_path := ⟨?_, ?_⟩
      gap_ne_nil := hgap
      isBlank_gap := hblank
      not_mem_inner := fun hmem => absurd (hname.2 _ hmem) (by decide) }, ?_, hname⟩
    · simpa using hne
    · simpa using hword
    · simp [BracketedRoute.value, BracketedRoute.tail]

/-- The method of a route is named in brackets, or it is GET and no word in brackets is there. -/
theorem method_of_read? {value : List Char} {r : Router} (h : read? value = some r) :
    (∃ b : BracketedRoute, b.value = value ∧ b.path = r.path ∧ r.method.IsNamed b.inner) ∨
      (r.method = .get ∧ ∀ b : BracketedRoute, b.value = value → ¬ IsIdentifier b.inner) := by
  by_cases hword : ∃ b : BracketedRoute, b.value = value ∧ IsIdentifier b.inner
  · obtain ⟨b, rfl, hb⟩ := hword
    left
    rw [read?_bracketed, if_pos hb] at h
    cases hparse : HttpMethod.parse (String.ofList b.inner) with
    | error e =>
      rw [hparse] at h
      cases h
    | ok m =>
      rw [hparse] at h
      cases h
      exact ⟨b, rfl, rfl, HttpMethod.parse_eq_ok_iff.1 hparse⟩
  · right
    rcases exists_bracketed h with hb | hget
    · exact absurd hb hword
    · exact ⟨hget, fun b hb hinner => hword ⟨b, hb, hinner⟩⟩

end Router

open Handler (Accepts Refuses ofDoc)

/-- A text in brackets behind the path of a route is the method of the route if it is the name of a
method, in letters of any case. Another text is refused with a warning, so that the route of an
earlier line stays, if and only if it is a word; if it is not, the method is GET and nothing is
reported. Whatever the value, a route that owes its method to no name in brackets has the method
GET, and then no word in brackets stands behind its path. -/
theorem bracketed_methods (earlier : List String) {line : String} {value : List Char}
    (hline : Bears "router" value line) :
    (∀ b : BracketedRoute, b.value = value →
      (∀ m : HttpMethod, m.IsNamed b.inner →
        Accepts earlier line { ofDoc earlier with router := some ⟨b.path, m⟩ }) ∧
      ((∀ m : HttpMethod, ¬ m.IsNamed b.inner) →
        (Refuses earlier line (.malformedRouter (String.ofList value)) ↔ IsIdentifier b.inner) ∧
        (¬ IsIdentifier b.inner →
          Accepts earlier line { ofDoc earlier with router := some ⟨b.path, .get⟩ }))) ∧
    ∀ r : Router, Router.read? value = some r →
      (∃ b : BracketedRoute, b.value = value ∧ b.path = r.path ∧ r.method.IsNamed b.inner) ∨
      (r.method = .get ∧ ∀ b : BracketedRoute, b.value = value → ¬ IsIdentifier b.inner) := by
  have hread := HandlerLine.read_router (Tagged.ofLine?_eq_some_iff.2 hline) rfl
  refine ⟨?_, fun r hr => Router.method_of_read? hr⟩
  rintro b rfl
  constructor
  · intro m hm
    rw [Router.read?_of_isNamed hm] at hread
    exact Handler.accepts_of_read hread rfl earlier
  · intro hnone
    have hrefuses := Handler.refuses_iff hread (fun _ => rfl) rfl earlier
    rw [Router.read?_of_not_isNamed hnone] at hread hrefuses
    by_cases hword : IsIdentifier b.inner
    · rw [if_pos hword] at hrefuses
      exact ⟨iff_of_true (hrefuses.2 rfl) hword, fun h => absurd hword h⟩
    · rw [if_neg hword] at hread hrefuses
      exact ⟨iff_of_false (fun h => Option.some_ne_none _ (hrefuses.1 h)) hword,
        fun _ => Handler.accepts_of_read hread rfl earlier⟩

/-- A text in brackets behind the path `/pets` and one blank. -/
def behindPets (inner : List Char) (not_mem_inner : ']' ∉ inner) : BracketedRoute where
  path := "/pets"
  gap := [' ']
  inner
  rest := []
  isWordText_path := by decide
  gap_ne_nil := by decide
  isBlank_gap := List.forall_mem_singleton.2 (by decide)
  not_mem_inner

/-- A word that names no method is refused, and the route of the line above stays. -/
theorem bracketed_methods_teleport :
    let b := behindPets "teleport".toList (by decide)
    let line := "@Router /pets [teleport]"
    Bears "router" b.value line ∧ (∀ m : HttpMethod, ¬ m.IsNamed b.inner) ∧ IsIdentifier b.inner ∧
      Refuses ["@router /cats [Post]"] line (.malformedRouter "/pets [teleport]") := by
  intro b line
  have hline : Bears "router" b.value line := Tagged.ofLine?_eq_some_iff.1 (by decide)
  have hnone : ∀ m : HttpMethod, ¬ m.IsNamed b.inner := by intro m; cases m <;> decide
  have hword : IsIdentifier b.inner := by decide
  have hvalue : String.ofList b.value = "/pets [teleport]" := by decide
  refine ⟨hline, hnone, hword, ?_⟩
  rw [← hvalue]
  exact (((bracketed_methods _ hline).1 b rfl).2 hnone).1.2 hword

/-- Two methods in brackets are no word: the route gets the method GET and takes the place of the
one of the line above, and nothing is reported. -/
theorem two_methods_in_brackets :
    let b := behindPets "get post".toList (by decide)
    let line := "@Router /pets [get post]"
    Bears "router" b.value line ∧ (∀ m : HttpMethod, ¬ m.IsNamed b.inner) ∧
      (ofDoc ["@router /cats [Post]", line]).router = some ⟨"/pets", .get⟩ ∧
      Handler.notices ["@router /cats [Post]", line] = [] := by
  intro b line
  have hline : Bears "router" b.value line := Tagged.ofLine?_eq_some_iff.1 (by decide)
  have hnone : ∀ m : HttpMethod, ¬ m.IsNamed b.inner := by intro m; cases m <;> decide
  exact ⟨hline, hnone, by decide, by decide⟩

end Annotations

end ApiDocs
