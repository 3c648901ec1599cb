import ApiDocs.Proofs.Annotations.WrittenLines
import Mathlib.Data.List.Basic
import Mathlib.Data.List.Forall2

/-!
# Handlers written as doc comments

What is said on a handler falls into nine kinds, and lines of different kinds change different parts
of it (`HandlerLine.apply_comm`). So the order of the lines matters only within each kind
(`foldl_eq_of_filter_eq`), which leaves the parameters and the answers, since nothing else is said
twice. A doc comment that says all there is to say on a handler, with lines without a tag of a
handler in between, is therefore read back as that handler.
-/

set_option autoImplicit false

namespace ApiDocs.Annotations

open Text (Trimmed)

/-! ## Steps of different kinds -/

section Kinds

variable {α β κ : Type} {f : β → α → β} {kind : α → κ}

/-- A step may be made before steps of other kinds. -/
theorem foldl_append_cons_of_ne (hcomm : ∀ a b, kind a ≠ kind b → ∀ x, f (f x a) b = f (f x b) a)
    {first : List α} {a : α} (hfirst : ∀ b ∈ first, kind b ≠ kind a) (others : List α) (x : β) :
    (first ++ a :: others).foldl f x = (first ++ others).foldl f (f x a) := by
  induction first generalizing x with
  | nil => rfl
  | cons b first ih =>
    rw [List.cons_append, List.foldl_cons, ih fun c hc => hfirst c (List.mem_cons_of_mem b hc),
      hcomm b a (hfirst b List.mem_cons_self), List.cons_append, List.foldl_cons]

/-- If steps of different kinds may change places, only the order within each kind matters. -/
theorem foldl_eq_of_filter_eq [DecidableEq κ]
    (hcomm : ∀ a b, kind a ≠ kind b → ∀ x, f (f x a) b = f (f x b) a)
    {as bs : List α} (hsame : ∀ k, as.filter (kind · = k) = bs.filter (kind · = k)) (x : β) :
    as.foldl f x = bs.foldl f x := by
  induction as generalizing bs x with
  | nil =>
    have hbs : bs = [] := by
      rw [List.eq_nil_iff_forall_not_mem]
      intro b hb
      have hmem : b ∈ bs.filter (kind · = kind b) := List.mem_filter.2 ⟨hb, decide_eq_true rfl⟩
      rw [← hsame] at hmem
      exact List.not_mem_nil hmem
    rw [hbs]
  | cons a as ih =>
    -- in the other list only steps of other kinds stand before this one
    have hown : bs.filter (kind · = kind a) = a :: as.filter (kind · = kind a) := by
      rw [← hsame, List.filter_cons_of_pos (by simp)]
    obtain ⟨first, others, rfl, hfirst, -, hothers⟩ := List.filter_eq_cons_iff.1 hown
    have hother : ∀ b ∈ first, kind b ≠ kind a := fun b hb h => hfirst b hb (decide_eq_true h)
    rw [List.foldl_cons, foldl_append_cons_of_ne hcomm hother]
    refine ih (fun k => ?_) (f x a)
    by_cases hk : kind a = k
    · subst hk
      rw [List.filter_append, List.filter_eq_nil_iff.2 hfirst, List.nil_append, hothers]
    · have hrest := hsame k
      rw [List.filter_append] at hrest ⊢
      rwa [List.filter_cons_of_neg (by simpa using hk),
        List.filter_cons_of_neg (by simpa using hk)] at hrest

end Kinds

/-! ## Kinds of lines -/

namespace HandlerLine

/-- What a line can be about. -/
inductive Kind
  | title
  | description
  | summary
  | accept
  | produce
  | resource
  | param
  | response
  | router
deriving DecidableEq

/-- All kinds. -/
def Kind.all : List Kind :=
  [title, description, summary, accept, produce, resource, param, response, router]

/-- What a line is about, if it says something on a handler. -/
def kind? : HandlerLine → Option Kind
  | other => none
  | malformed _ => none
  | title _ => some .title
  | description _ => some .description
  | summary _ => some .summary
  | accept _ => some .accept
  | produce _ => some .produce
  | resource _ => some .resource
  | param _ => some .param
  | response _ => some .response
  | router _ => some .router

/-- Lines about different things may change places. -/
theorem apply_comm (l m : HandlerLine) (h : l.kind? ≠ m.kind?) (x : Handler) :
    m.apply (l.apply x) = l.apply (m.apply x) := by
  cases l <;> cases m <;> first | rfl | exact absurd rfl h

/-- A line that is read as something on a handler, or as nothing if it has no tag of a handler. -/
def Writes (l : HandlerLine) (line : String) : Prop :=
  (l = other ∧ Untagged line) ∨ ∃ tag ∈ l.tags, Carries tag l.value line

theorem read_of_writes {l : HandlerLine} {line : String} (hl : l.Writable) (h : l.Writes line) :
    read line = l := by
  rcases h with ⟨rfl, huntagged⟩ | ⟨tag, htag, hcarries⟩
  · exact read_of_untagged huntagged
  · exact read_of_carries htag hl hcarries

end HandlerLine

/-! ## What there is to say on a handler -/

namespace Handler

open HandlerLine (Kind kind? Writes)

/-- What there is to say of a kind. An empty list is not mentioned. -/
def linesOf (h : Handler) : Kind → List HandlerLine
  | .title => (h.title.map .title).toList
  | .description => (h.description.map .description).toList
  | .summary => (h.summary.map .summary).toList
  | .accept => if h.accept = [] then [] else [.accept h.accept]
  | .produce => if h.produce = [] then [] else [.produce h.produce]
  | .resource => (h.resource.map .resource).toList
  | .param => h.params.map .param
  | .response => h.responses.map .response
  | .router => (h.router.map .router).toList

/-- All there is to say on a handler. -/
def lines (h : Handler) : List HandlerLine :=
  Kind.all.flatMap h.linesOf

/-- A handler whose parts can be told from the marks around them when they are written. Only in a
message a line break would be in the way. -/
structure Writable (h : Handler) : Prop where
  title : ∀ text ∈ h.title, Trimmed text.toList
  description : ∀ text ∈ h.description, Trimmed text.toList
  summary : ∀ text ∈ h.summary, Trimmed text.toList
  accept : ∀ item ∈ h.accept, IsItem item
  produce : ∀ item ∈ h.produce, IsItem item
  resource : ∀ text ∈ h.resource, Trimmed text.toList
  params : ∀ p ∈ h.params, p.Writable
  responses : ∀ r ∈ h.responses, r.Writable
  router : ∀ r ∈ h.router, IsWordText r.path

/-- All there is to say on a handler, each thing once and in any order, except that the parameters
and the answers stand in their own order. -/
structure Says (h : Handler) (said : List HandlerLine) : Prop where
  perm : (said.filter (· ≠ .other)).Perm h.lines
  params : (h.params.map .param).Sublist said
  responses : (h.responses.map .response).Sublist said

/-- A doc comment that says all there is to say on a handler. -/
def WrittenIn (h : Handler) (doc : List String) : Prop :=
  ∃ said, h.Says said ∧ List.Forall₂ Writes said doc

variable {h : Handler} {said : List HandlerLine} {l : HandlerLine} {doc : List String}

theorem kind?_of_mem_linesOf {k : Kind} (hl : l ∈ h.linesOf k) : l.kind? = some k := by
  cases k with
  | title | description | summary | resource | router =>
    simp only [linesOf, Option.mem_toList, Option.map_eq_some_iff] at hl
    obtain ⟨_, -, rfl⟩ := hl
    rfl
  | accept | produce =>
    simp only [linesOf] at hl
    split at hl
    · exact absurd hl List.not_mem_nil
    · obtain rfl := List.mem_singleton.1 hl
      rfl
  | param | response =>
    obtain ⟨_, -, rfl⟩ := List.mem_map.1 hl
    rfl

theorem filter_linesOf (h : Handler) (k k' : Kind) :
    (h.linesOf k).filter (·.kind? = some k') = if k = k' then h.linesOf k else [] := by
  split
  · next hk =>
    rw [List.filter_eq_self]
    intro l hl
    exact decide_eq_true (hk ▸ kind?_of_mem_linesOf hl)
  · next hk =>
    rw [List.filter_eq_nil_iff]
    intro l hl hkind
    exact hk (Option.some.inj ((kind?_of_mem_linesOf hl).symm.trans (of_decide_eq_true hkind)))

theorem filter_lines (h : Handler) (k : Kind) :
    h.lines.filter (·.kind? = some k) = h.linesOf k := by
  unfold lines
  rw [List.filter_flatMap]
  simp only [filter_linesOf]
  cases k <;> simp [Kind.all]

theorem mem_lines_iff : l ∈ h.lines ↔ ∃ k, l ∈ h.linesOf k := by
  unfold lines
  rw [List.mem_flatMap]
  constructor
  · rintro ⟨k, -, hl⟩
    exact ⟨k, hl⟩
  · rintro ⟨k, hl⟩
    exact ⟨k, by cases k <;> decide, hl⟩

theorem Writable.of_mem_lines (hw : h.Writable) (hl : l ∈ h.lines) : l.Writable := by
  obtain ⟨k, hl⟩ := mem_lines_iff.1 hl
  have hlist : ∀ {items : List String} {line : List String → HandlerLine},
      l ∈ (if items = [] then [] else [line items]) → l = line items := by
    intro items line hl
    split at hl
    · exact absurd hl List.not_mem_nil
    · exact List.mem_singleton.1 hl
  cases k with
  | title =>
    obtain ⟨text, htext, rfl⟩ := Option.map_eq_some_iff.1 (Option.mem_toList.1 hl)
    exact hw.title text htext
  | description =>
    obtain ⟨text, htext, rfl⟩ := Option.map_eq_some_iff.1 (Option.mem_toList.1 hl)
    exact hw.description text htext
  | summary =>
    obtain ⟨text, htext, rfl⟩ := Option.map_eq_some_iff.1 (Option.mem_toList.1 hl)
    exact hw.summary text htext
  | resource =>
    obtain ⟨text, htext, rfl⟩ := Option.map_eq_some_iff.1 (Option.mem_toList.1 hl)
    exact hw.resource text htext
  | router =>
    obtain ⟨r, hr, rfl⟩ := Option.map_eq_some_iff.1 (Option.mem_toList.1 hl)
    exact hw.router r hr
  | accept =>
    rw [hlist hl]
    exact hw.accept
  | produce =>
    rw [hlist hl]
    exact hw.produce
  | param =>
    obtain ⟨p, hp, rfl⟩ := List.mem_map.1 hl
    exact hw.params p hp
  | response =>
    obtain ⟨r, hr, rfl⟩ := List.mem_map.1 hl
    exact hw.responses r hr

/-! ## Saying it in order -/

/-- A handler with what another one says of a kind. -/
def takeOver (h x : Handler) : Kind → Handler
  | .title => { x with title := h.title <|> x.title }
  | .description => { x with description := h.description <|> x.description }
  | .summary => { x with summary := h.summary <|> x.summary }
  | .accept => { x with accept := x.accept ++ h.accept }
  | .produce => { x with produce := x.produce ++ h.produce }
  | .resource => { x with resource := h.resource <|> x.resource }
  | .param => { x with params := x.params ++ h.params }
  | .response => { x with responses := x.responses ++ h.responses }
  | .router => { x with router := h.router <|> x.router }

theorem foldl_map_param (params : List Param) (x : Handler) :
    (params.map .param).foldl HandlerLine.apply x = { x with params := x.params ++ params } := by
  induction params generalizing x with
  | nil => simp
  | cons p params ih =>
    rw [List.map_cons, List.foldl_cons, ih]
    simp [HandlerLine.apply]

theorem foldl_map_response (responses : List Response) (x : Handler) :
    (responses.map .response).foldl HandlerLine.apply x
      = { x with responses := x.responses ++ responses } := by
  induction responses generalizing x with
  | nil => simp
  | cons r responses ih =>
    rw [List.map_cons, List.foldl_cons, ih]
    simp [HandlerLine.apply]

theorem foldl_linesOf (h x : Handler) (k : Kind) :
    (h.linesOf k).foldl HandlerLine.apply x = h.takeOver x k := by
  cases k with
  | title => cases htitle : h.title <;> simp [linesOf, takeOver, HandlerLine.apply, htitle]
  | description =>
    cases htext : h.description <;> simp [linesOf, takeOver, HandlerLine.apply, htext]
  | summary => cases htext : h.summary <;> simp [linesOf, takeOver, HandlerLine.apply, htext]
  | resource => cases htext : h.resource <;> simp [linesOf, takeOver, HandlerLine.apply, htext]
  | router => cases hrouter : h.router <;> simp [linesOf, takeOver, HandlerLine.apply, hrouter]
  | accept => by_cases hnil : h.accept = [] <;> simp [linesOf, takeOver, HandlerLine.apply, hnil]
  | produce => by_cases hnil : h.produce = [] <;> simp [linesOf, takeOver, HandlerLine.apply, hnil]
  | param => exact foldl_map_param h.params x
  | response => exact foldl_map_response h.responses x

theorem foldl_lines (h : Handler) : h.lines.foldl HandlerLine.apply {} = h := by
  unfold lines
  rw [List.foldl_flatMap]
  simp [foldl_linesOf, Kind.all, takeOver]

/-! ## Saying it in any order -/

namespace Says

theorem linesOf_sublist (hs : h.Says said) (k : Kind) : (h.linesOf k).Sublist said := by
  have hmem : ∀ l ∈ h.linesOf k, l ∈ said := fun l hl =>
    (List.mem_filter.1 (hs.perm.mem_iff.2 (mem_lines_iff.2 ⟨k, hl⟩))).1
  have hshort : (h.linesOf k).length ≤ 1 → (h.linesOf k).Sublist said := by
    intro hlength
    match hlines : h.linesOf k, hlength with
    | [], _ => exact List.nil_sublist said
    | [l], _ => exact List.singleton_sublist.2 (hmem l (by simp [hlines]))
  cases k with
  | param => exact hs.params
  | response => exact hs.responses
  | accept | produce =>
    apply hshort
    simp only [linesOf]
    split
    · exact Nat.zero_le 1
    · exact Nat.le_refl 1
  | title | description | summary | resource | router => exact hshort (Option.length_toList_le)

theorem filter_eq (hs : h.Says said) (k : Option Kind) :
    (said.filter (· ≠ .other)).filter (·.kind? = k) = h.lines.filter (·.kind? = k) := by
  have hperm := hs.perm.filter (·.kind? = k)
  cases k with
  | none =>
    have hnil : h.lines.filter (·.kind? = none) = [] := by
      rw [List.filter_eq_nil_iff]
      intro l hl
      obtain ⟨k, hl⟩ := mem_lines_iff.1 hl
      simp [kind?_of_mem_linesOf hl]
    rw [hnil] at hperm ⊢
    exact hperm.eq_nil
  | some k =>
    -- the lines of this kind are there in their order, and as many as there should be
    have hsublist := ((hs.linesOf_sublist k).filter (· ≠ .other)).filter (·.kind? = some k)
    have hother : (h.linesOf k).filter (· ≠ .other) = h.linesOf k := by
      rw [List.filter_eq_self]
      intro l hl
      refine decide_eq_true ?_
      rintro rfl
      cases kind?_of_mem_linesOf hl
    rw [hother, filter_linesOf, if_pos rfl] at hsublist
    rw [filter_lines] at hperm ⊢
    exact (hsublist.eq_of_length hperm.length_eq.symm).symm

/-- However it is said, it comes to the same. -/
theorem foldl_apply (hs : h.Says said) : said.foldl HandlerLine.apply {} = h := by
  have hother : ∀ (x : Handler) (l : HandlerLine),
      (if decide (l ≠ .other) = true then HandlerLine.apply x l else x) = HandlerLine.apply x l := by
    intro x l
    split
    · rfl
    · next hl =>
      obtain rfl : l = .other := by simpa using hl
      rfl
  calc said.foldl HandlerLine.apply {}
      = (said.filter (· ≠ .other)).foldl HandlerLine.apply {} := by
        rw [List.foldl_filter]
        simp only [hother]
    _ = h.lines.foldl HandlerLine.apply {} :=
        foldl_eq_of_filter_eq HandlerLine.apply_comm hs.filter_eq {}
    _ = h := h.foldl_lines

end Says

/-! ## Reading it back -/

theorem map_read_of_writes (hw : ∀ l ∈ said, l.Writable) (h : List.Forall₂ Writes said doc) :
    doc.map HandlerLine.read = said := by
  induction h with
  | nil => rfl
  | cons hline _ ih =>
    rw [List.map_cons, HandlerLine.read_of_writes (hw _ List.mem_cons_self) hline,
      ih fun l hl => hw l (List.mem_cons_of_mem _ hl)]

theorem notices_of_mem_lines (hl : l ∈ h.lines) : l.notices = [] := by
  obtain ⟨k, hl⟩ := mem_lines_iff.1 hl
  cases l with
  | malformed notice => cases kind?_of_mem_linesOf hl
  | _ => rfl

/-- A doc comment that says all there is to say on a handler is read back as that handler, without
anything to report. -/
theorem ofDoc_of_writtenIn (hw : h.Writable) (hd : h.WrittenIn doc) :
    ofDoc doc = h ∧ notices doc = [] := by
  obtain ⟨said, hwhole, hwrites⟩ := hd
  have hsaid : ∀ l ∈ said, l = .other ∨ l ∈ h.lines := by
    intro l hl
    by_cases hother : l = .other
    · exact Or.inl hother
    · exact Or.inr (hwhole.perm.mem_iff.1 (List.mem_filter.2 ⟨hl, decide_eq_true hother⟩))
  have hwritable : ∀ l ∈ said, l.Writable := by
    intro l hl
    rcases hsaid l hl with rfl | hline
    · trivial
    · exact hw.of_mem_lines hline
  have hofDoc : ofDoc doc = (doc.map HandlerLine.read).foldl HandlerLine.apply {} :=
    List.foldl_map.symm
  have hnotices : notices doc = (doc.map HandlerLine.read).flatMap HandlerLine.notices := by
    rw [List.flatMap_map]
    rfl
  rw [hofDoc, hnotices, map_read_of_writes hwritable hwrites, List.flatMap_eq_nil_iff]
  refine ⟨hwhole.foldl_apply, fun l hl => ?_⟩
  rcases hsaid l hl with rfl | hline
  · rfl
  · exact notices_of_mem_lines hline

/-- Lines in an order of their own, with tags in letters of any case and other lines in between. -/
theorem ofDoc_of_writtenIn_users :
    let h : Handler :=
      { title := some "Users", accept := ["json", "xml"],
        params := [⟨"id", "path", "int", true, "The id"⟩, ⟨"x", "query", "[]string", false, ""⟩],
        responses := [⟨200, true, .array, some "User", "All of them"⟩,
          ⟨404, false, .object, none, "no such user"⟩],
        router := some ⟨"/users/:id", .get⟩ }
    let doc := ["@router /users/:id [GET]", "Users lists users.",
      "@Param id path int true \"The id\"", "@SUCCESS 200 \x7barray\x7d User \"All of them\"", "",
      "@param x query []string false \"\"", "@Accept json,xml", "@Deprecated since 2",
      "@Failure 404 \"no such user\"", "@Title Users"]
    h.Writable ∧ h.WrittenIn doc ∧ ofDoc doc = h ∧ notices doc = [] := by
  intro h doc
  have hw : h.Writable := by
    constructor <;> decide
  have hd : h.WrittenIn doc := by
    refine ⟨[.router ⟨"/users/:id", .get⟩, .other, .param ⟨"id", "path", "int", true, "The id"⟩,
      .response ⟨200, true, .array, some "User", "All of them"⟩, .other,
      .param ⟨"x", "query", "[]string", false, ""⟩, .accept ["json", "xml"], .other,
      .response ⟨404, false, .object, none, "no such user"⟩, .title "Users"],
      ⟨by decide, by decide, by decide⟩, ?_⟩
    refine .cons (.inr ⟨"router", by decide, "router".toList, by decide, by decide⟩) ?_
    refine .cons (.inl ⟨rfl, by decide⟩) ?_
    refine .cons (.inr ⟨"param", by decide, "Param".toList, by decide, by decide⟩) ?_
    refine .cons (.inr ⟨"success", by decide, "SUCCESS".toList, by decide, by decide⟩) ?_
    refine .cons (.inl ⟨rfl, by decide⟩) ?_
    refine .cons (.inr ⟨"param", by decide, "param".toList, by decide, by decide⟩) ?_
    refine .cons (.inr ⟨"accept", by decide, "Accept".toList, by decide, by decide⟩) ?_
    refine .cons (.inl ⟨rfl, by decide⟩) ?_
    refine .cons (.inr ⟨"failure", by decide, "Failure".toList, by decide, by decide⟩) ?_
    exact .cons (.inr ⟨"title", by decide, "Title".toList, by decide, by decide⟩) .nil
  exact ⟨hw, hd, ofDoc_of_writtenIn hw hd⟩

end Handler

end ApiDocs.Annotations
