import ApiDocs.Proofs.GoSource.OneLineStructs
import Mathlib.Data.List.Forall2

/-!
# Doc comments

The comment lines that gather above a reader outside of structs are always the longest run of
comment lines directly above the next line (`standing_before`): a comment goes on with the run,
every other line ends it, and the line that closes a struct body is never a comment. A function
takes this run as its doc, so its doc is the block of comments directly above it, no comment line
is in two docs, and no line of a struct body is in any (`docs_directly_above`).

Lines are counted from zero. What is said of line `i` is said of the reading of the lines in front
of it (`before`).
-/

set_option autoImplicit false

namespace ApiDocs.GoSource

open Text

variable {ls : List (List Char)} {l : List Char} {i k : Nat}

/-- What was read when the reader comes to a line. -/
def before (ls : List (List Char)) (i : Nat) : Reading :=
  (ls.take i).foldl Reading.line {}

/-- The reader reports a function for a line. -/
def DeclaredAt (ls : List (List Char)) (i : Nat) (f : Function) : Prop :=
  (before ls (i + 1)).declarations.functions = (before ls i).declarations.functions ++ [f]

/-- A line is taken for a line of a struct body. -/
def InBody (ls : List (List Char)) (i : Nat) : Prop :=
  ∃ name fields depth, (before ls i).place = .body name fields depth

/-- The lines from `first` on are the longest run of comment lines that ends directly above line
`i`, and these are their texts. -/
structure CommentsAbove (ls : List (List Char)) (i first : Nat) (texts : List String) : Prop where
  le : first ≤ i
  comments : List.Forall₂ IsComment ((ls.take i).drop first) texts
  /-- The line above the first one is no comment. -/
  longest : ∀ l, (ls.take first).getLast? = some l → ∀ text, ¬ IsComment l text

/-- A line is one of the comments that make up the doc of the function of another line. -/
def Documents (ls : List (List Char)) (k i : Nat) : Prop :=
  ∃ f first, DeclaredAt ls i f ∧ CommentsAbove ls i first f.doc ∧ first ≤ k ∧ k < i

/-! ## Comment lines -/

theorem not_isComment_of_eq_none (h : comment? l = none) (text : String) :
    ¬ IsComment l text := by
  intro htext
  rw [comment?_eq_some_iff.2 htext] at h
  cases h

theorem before_succ (hl : ls[i]? = some l) : before ls (i + 1) = (before ls i).line l := by
  unfold before
  rw [List.take_add_one, hl, Option.toList_some, List.foldl_append]
  rfl

/-- Behind the last line the reading stays as it is. -/
theorem before_succ_of_none (hl : ls[i]? = none) : before ls (i + 1) = before ls i := by
  unfold before
  rw [List.take_add_one, hl, Option.toList_none, List.append_nil]

/-- A line that is no comment stands directly above the next line with no comment in between. -/
theorem CommentsAbove.of_comment?_eq_none (hl : ls[i]? = some l) (h : comment? l = none) :
    CommentsAbove ls (i + 1) (i + 1) [] where
  le := Nat.le_refl _
  comments := by simp
  longest := by
    intro m hm
    rw [List.take_add_one, hl, Option.toList_some, List.getLast?_concat, Option.some.injEq] at hm
    rw [← hm]
    exact not_isComment_of_eq_none h

/-- A comment line goes on with the run above it. -/
theorem CommentsAbove.concat {first : Nat} {texts : List String} {text : String}
    (h : CommentsAbove ls i first texts) (hl : ls[i]? = some l) (htext : IsComment l text) :
    CommentsAbove ls (i + 1) first (texts ++ [text]) where
  le := Nat.le_succ_of_le h.le
  comments := by
    have hlen : first ≤ (ls.take i).length := by
      obtain ⟨hi, -⟩ := List.getElem?_eq_some_iff.1 hl
      rw [List.length_take, Nat.min_eq_left (Nat.le_of_lt hi)]
      exact h.le
    rw [List.take_add_one, hl, Option.toList_some, List.drop_append_of_le_length hlen]
    exact List.rel_append h.comments (.cons htext .nil)
  longest := h.longest

/-- Every line of a run is a comment. -/
theorem CommentsAbove.isComment {first : Nat} {texts : List String}
    (h : CommentsAbove ls i first texts) (hfirst : first ≤ k) (hk : k < i)
    (hl : ls[k]? = some l) : ∃ text, IsComment l text := by
  obtain ⟨hlength, hget⟩ := List.forall₂_iff_get.1 h.comments
  obtain ⟨hkls, rfl⟩ := List.getElem?_eq_some_iff.1 hl
  have hpos : k - first < ((ls.take i).drop first).length := by
    rw [List.length_drop, List.length_take]
    omega
  have htext := hget (k - first) hpos (hlength ▸ hpos)
  simp only [List.get_eq_getElem, List.getElem_drop, List.getElem_take,
    Nat.add_sub_cancel' hfirst] at htext
  exact ⟨_, htext⟩

/-! ## Where the reader stands -/

/-- Where the reader can stand when it comes to a line: outside of structs with the comments above
it, or in a struct body inside of at least one open brace. -/
inductive Standing (ls : List (List Char)) (i : Nat) : Place → Prop
  | top {first : Nat} {doc : List String} (h : CommentsAbove ls i first doc) :
      Standing ls i (.top doc)
  | body {name : String} {fields : List Field} {depth : Nat} (h : depth ≠ 0) :
      Standing ls i (.body name fields depth)

theorem place_topLine (d : Declarations) (doc : List String) (l : List Char) :
    (Reading.topLine d doc l).place = .top [] ∨
      ∃ name, (Reading.topLine d doc l).place = .body name [] 1 := by
  unfold Reading.topLine
  split
  · exact Or.inl rfl
  · split
    · exact Or.inl rfl
    · split
      · exact Or.inl rfl
      · exact Or.inr ⟨_, rfl⟩
      · exact Or.inl rfl

/-- The line that closes a struct body is no comment. -/
theorem comment?_of_depthAfter {depth : Nat} (hdepth : depth ≠ 0) (h : depthAfter depth l = 0) :
    comment? l = none := by
  cases hcomment : comment? l with
  | none => rfl
  | some text => exact absurd (depthAfter_of_comment hcomment depth ▸ h) hdepth

/-- What a line does to where the reader stands. -/
theorem Standing.line {r : Reading} (h : Standing ls i r.place) (hl : ls[i]? = some l) :
    Standing ls (i + 1) (r.line l).place := by
  obtain ⟨place, d⟩ := r
  cases h with
  | @top first doc h =>
    cases hcomment : comment? l with
    | some text =>
      simp only [Reading.line, hcomment]
      exact .top (h.concat hl (comment?_eq_some_iff.1 hcomment))
    | none =>
      simp only [Reading.line, hcomment]
      rcases place_topLine d doc l with hplace | ⟨name, hplace⟩
      · rw [hplace]
        exact .top (.of_comment?_eq_none hl hcomment)
      · rw [hplace]
        exact .body Nat.one_ne_zero
  | @body name fields depth h =>
    simp only [Reading.line]
    cases hafter : depthAfter depth l with
    | zero => exact .top (.of_comment?_eq_none hl (comment?_of_depthAfter h hafter))
    | succ depth' => exact .body (Nat.succ_ne_zero depth')

theorem standing_before (hi : i ≤ ls.length) : Standing ls i (before ls i).place := by
  induction i with
  | zero => exact .top ⟨Nat.le_refl 0, by simp, by simp⟩
  | succ i ih =>
    have hl : ls[i]? = some ls[i] := List.getElem?_eq_getElem hi
    rw [before_succ hl]
    exact (ih (Nat.le_of_succ_le hi)).line hl

/-- A comment line leaves the reader in the struct body. -/
theorem InBody.succ_of_isComment {text : String} (h : InBody ls i) (hl : ls[i]? = some l)
    (htext : IsComment l text) : InBody ls (i + 1) := by
  obtain ⟨name, fields, depth, hplace⟩ := h
  obtain ⟨hi, -⟩ := List.getElem?_eq_some_iff.1 hl
  have hdepth : depth ≠ 0 := by
    have hstanding := standing_before (Nat.le_of_lt hi)
    rw [hplace] at hstanding
    cases hstanding with
    | body h => exact h
  rw [InBody, before_succ hl]
  rcases hread : before ls i with ⟨place, d⟩
  rw [hread] at hplace
  obtain rfl : place = .body name fields depth := hplace
  simp only [Reading.line, depthAfter_of_comment (comment?_eq_some_iff.2 htext)]
  cases depth with
  | zero => exact absurd rfl hdepth
  | succ depth => exact ⟨_, _, _, rfl⟩

/-- A run of comment lines that starts in a struct body ends in it. -/
theorem InBody.of_commentsAbove {first : Nat} {texts : List String} (h : InBody ls k)
    (hrun : CommentsAbove ls i first texts) (hfirst : first ≤ k) (hk : k ≤ i)
    (hi : i ≤ ls.length) : InBody ls i := by
  have hevery : ∀ j, k ≤ j → j ≤ i → InBody ls j := by
    intro j hj
    induction j, hj using Nat.le_induction with
    | base => exact fun _ => h
    | succ j hj ih =>
      intro hji
      have hl : ls[j]? = some ls[j] := List.getElem?_eq_getElem (by omega)
      obtain ⟨text, htext⟩ := hrun.isComment (Nat.le_trans hfirst hj) hji hl
      exact (ih (Nat.le_of_lt hji)).succ_of_isComment hl htext
  exact hevery i hk (Nat.le_refl i)

/-! ## Functions and their lines -/

/-- The function that a line declares. -/
def functionAt? (r : Reading) (l : List Char) : Option Function :=
  match r.place with
  | .body _ _ _ => none
  | .top doc =>
    if comment? l = none ∧ package? (trim l) = none then
      (functionHead? l).map fun head => ⟨head.1, head.2, doc⟩
    else none

theorem functions_line (r : Reading) (l : List Char) :
    (r.line l).declarations.functions
      = r.declarations.functions ++ (functionAt? r l).toList := by
  obtain ⟨place, d⟩ := r
  cases place with
  | body name fields depth =>
    simp only [Reading.line, functionAt?]
    cases depthAfter depth l <;> simp [Declarations.addStruct]
  | top doc =>
    simp only [Reading.line, functionAt?]
    cases hcomment : comment? l with
    | some text => simp
    | none =>
      simp only [Reading.topLine]
      cases hpackage : package? (trim l) with
      | some name => simp
      | none =>
        cases hfunction : functionHead? l with
        | some head => simp [Declarations.addFunction]
        | none =>
          cases structHead? l with
          | none => simp
          | some head =>
            obtain ⟨name, closed⟩ := head
            cases closed <;> simp [Declarations.addStruct]

/-- The line of a function is one of the text, the reader stands outside of structs there, and the
function has its name and its receiver from the line and its doc from the comments gathered. -/
theorem DeclaredAt.line {f : Function} (h : DeclaredAt ls i f) :
    ∃ l, ls[i]? = some l ∧ comment? l = none ∧ functionHead? l = some (f.name, f.receiver) ∧
      (before ls i).place = .top f.doc := by
  unfold DeclaredAt at h
  cases hl : ls[i]? with
  | none =>
    rw [before_succ_of_none hl] at h
    simp at h
  | some l =>
    rw [before_succ hl, functions_line, List.append_cancel_left_eq] at h
    cases hf : functionAt? (before ls i) l with
    | none => simp [hf] at h
    | some g =>
      obtain rfl : g = f := by simpa [hf] using h
      unfold functionAt? at hf
      split at hf
      · cases hf
      · next doc hplace =>
        split at hf
        · next hline =>
          obtain ⟨⟨name, receiver⟩, hhead, rfl⟩ := Option.map_eq_some_iff.1 hf
          exact ⟨l, rfl, hline.1, hhead, hplace⟩
        · cases hf

/-- Every function that was reported has a line, and the functions stand in the order of their
lines. -/
theorem exists_sites (ls : List (List Char)) (i : Nat) :
    ∃ sites : List Nat, sites.Pairwise (· < ·) ∧ (∀ site ∈ sites, site < i) ∧
      List.Forall₂ (DeclaredAt ls) sites (before ls i).declarations.functions := by
  induction i with
  | zero => exact ⟨[], .nil, by simp, .nil⟩
  | succ i ih =>
    obtain ⟨sites, hascending, hbound, hsites⟩ := ih
    have hbound' : ∀ site ∈ sites, site < i + 1 := fun site hsite =>
      Nat.lt_succ_of_lt (hbound site hsite)
    cases hl : ls[i]? with
    | none =>
      rw [before_succ_of_none hl]
      exact ⟨sites, hascending, hbound', hsites⟩
    | some l =>
      cases hf : functionAt? (before ls i) l with
      | none =>
        refine ⟨sites, hascending, hbound', ?_⟩
        rw [before_succ hl, functions_line, hf, Option.toList_none, List.append_nil]
        exact hsites
      | some f =>
        have hdeclared : DeclaredAt ls i f := by
          rw [DeclaredAt, before_succ hl, functions_line, hf, Option.toList_some]
        refine ⟨sites ++ [i], ?_, ?_, ?_⟩
        · refine List.pairwise_append.2 ⟨hascending, List.pairwise_singleton _ i, ?_⟩
          intro site hsite last hlast
          rw [List.mem_singleton.1 hlast]
          exact hbound site hsite
        · intro site hsite
          rcases List.mem_append.1 hsite with hsite | hsite
          · exact hbound' site hsite
          · rw [List.mem_singleton.1 hsite]
            exact Nat.lt_succ_self i
        · rw [hdeclared]
          exact List.rel_append hsites (.cons hdeclared .nil)

theorem functions_finish (r : Reading) : r.finish.functions = r.declarations.functions := by
  obtain ⟨place, d⟩ := r
  cases place <;> rfl

theorem DeclaredAt.lt_length {f : Function} (h : DeclaredAt ls i f) : i < ls.length := by
  obtain ⟨l, hl, -⟩ := h.line
  exact (List.getElem?_eq_some_iff.1 hl).1

/-- The comments of a function stand behind the line of every function above it. -/
theorem Documents.lt_of_declaredAt {j : Nat} {f : Function} (h : Documents ls k j)
    (hf : DeclaredAt ls i f) (hij : i < j) : i < k := by
  obtain ⟨g, first, -, hrun, hfirst, hk⟩ := h
  obtain ⟨l, hl, hcomment, -⟩ := hf.line
  refine Nat.lt_of_not_le fun hki => ?_
  obtain ⟨text, htext⟩ := hrun.isComment (Nat.le_trans hfirst hki) hij hl
  exact not_isComment_of_eq_none hcomment text htext

/-- **Docs are the comments directly above.** Every function that is read from a text has a line of
the text, from which it has its name and its receiver, and the functions stand in the order of their
lines. The doc of a function is made of the texts, in order, of the longest run of comment lines that
ends directly above its line. No comment line is in the docs of two functions, and no line of a
struct body is in a doc. -/
theorem docs_directly_above (source : String) :
    let ls := lines source.toList
    (∃ sites : List Nat, sites.Pairwise (· < ·) ∧
      List.Forall₂ (DeclaredAt ls) sites (Declarations.ofSource source).functions) ∧
    (∀ i f, DeclaredAt ls i f →
      (∃ l, ls[i]? = some l ∧ functionHead? l = some (f.name, f.receiver)) ∧
        ∃ first, CommentsAbove ls i first f.doc) ∧
    (∀ k i j, Documents ls k i → Documents ls k j → i = j) ∧
    (∀ k i, Documents ls k i → ¬ InBody ls k) := by
  intro ls
  refine ⟨?_, ?_, ?_, ?_⟩
  · obtain ⟨sites, hascending, -, hsites⟩ := exists_sites ls ls.length
    refine ⟨sites, hascending, ?_⟩
    rw [before, List.take_length] at hsites
    rw [Declarations.ofSource, Declarations.ofLines, functions_finish]
    exact hsites
  · intro i f hf
    obtain ⟨l, hl, -, hhead, hplace⟩ := hf.line
    refine ⟨⟨l, hl, hhead⟩, ?_⟩
    have hstanding := standing_before (Nat.le_of_lt hf.lt_length)
    rw [hplace] at hstanding
    cases hstanding with
    | top h => exact ⟨_, h⟩
  · intro k i j hi hj
    obtain ⟨f, first, hf, -, -, hki⟩ := id hi
    obtain ⟨g, first', hg, -, -, hkj⟩ := id hj
    rcases Nat.lt_trichotomy i j with hij | hij | hji
    · exact absurd (hj.lt_of_declaredAt hf hij) (Nat.lt_asymm hki)
    · exact hij
    · exact absurd (hi.lt_of_declaredAt hg hji) (Nat.lt_asymm hkj)
  · rintro k i ⟨f, first, hf, hrun, hfirst, hk⟩ hbody
    -- The run would lead from the body to the line of the function.
    have hi := hbody.of_commentsAbove hrun hfirst (Nat.le_of_lt hk) (Nat.le_of_lt hf.lt_length)
    obtain ⟨name, fields, depth, hplace⟩ := hi
    obtain ⟨l, -, -, -, houtside⟩ := hf.line
    rw [houtside] at hplace
    cases hplace

example :
    (Declarations.ofSource "// a\n\n// b\n\t// c\nfunc F() \x7b\x7d\nfunc G() \x7b\x7d\n").functions
      = [⟨"F", none, ["b", "c"]⟩, ⟨"G", none, []⟩] := by
  decide

end ApiDocs.GoSource
