import ApiDocs.Annotations.Handler
import ApiDocs.Proofs.Text.Trimming

/-!
# Lines with a tag

Which lines carry a tag and a value (`Bears`), as a shape of the text and not as a way to read it
(`Tagged.ofLine?_eq_some_iff`), and what becomes of a doc comment when one more line stands under
it: the line is accepted without a report, or it is refused with a warning and nothing else changes.
-/

set_option autoImplicit false

namespace ApiDocs.Annotations

open Text (Stops isBlank)

/-! ## Tags and values -/

/-- A line with a tag, in letters of any case, and a value. Without the blanks at its ends the line
is an at sign with a word right behind it; the value is the rest without the blanks at its ends. -/
def Bears (tag : String) (value : List Char) (line : String) : Prop :=
  ∃ name rest, Text.trim line.toList = '@' :: (name ++ rest) ∧ name ≠ [] ∧
    (∀ c ∈ name, isBlank c = false) ∧ Stops (fun c => !isBlank c) rest ∧
    Text.lower name = tag.toList ∧ Text.trim rest = value

theorem Tagged.ofLine?_eq_some_iff {line tag : String} {value : List Char} :
    Tagged.ofLine? line = some ⟨tag, value⟩ ↔ Bears tag value line := by
  constructor
  · intro h
    unfold Tagged.ofLine? at h
    split at h
    · next body hline =>
      simp only at h
      split at h
      · cases h
      · next hne =>
        cases h
        refine ⟨_, _, ?_, hne, fun c hc => ?_, Text.stops_dropWhile _ body,
          String.toList_ofList.symm, rfl⟩
        · rw [List.takeWhile_append_dropWhile]
          exact hline
        · simpa using List.mem_takeWhile_imp hc
    · cases h
  · rintro ⟨name, rest, hline, hne, hname, hrest, htag, hvalue⟩
    have hrun : ∀ c ∈ name, (!isBlank c) = true := fun c hc => by rw [hname c hc]; rfl
    unfold Tagged.ofLine?
    rw [hline]
    simp only [Text.takeWhile_run_append hrun hrest, Text.dropWhile_run_append hrun hrest,
      if_neg hne, htag, hvalue, String.ofList_toList]

/-- A line bears one tag and one value at most. -/
theorem Bears.unique {tag tag' line : String} {value value' : List Char}
    (h : Bears tag value line) (h' : Bears tag' value' line) : tag = tag' ∧ value = value' := by
  have heq := (Tagged.ofLine?_eq_some_iff.2 h).symm.trans (Tagged.ofLine?_eq_some_iff.2 h')
  exact Tagged.mk.inj (Option.some.inj heq)

/-! ## Lines that may be malformed -/

namespace HandlerLine

/-- A tagged line with a route is read as that route, and as malformed without one. -/
theorem read_router {line : String} {t : Tagged} (htagged : Tagged.ofLine? line = some t)
    (htag : t.tag = "router") :
    read line = .orMalformed .router (.malformedRouter (String.ofList t.value))
      (Router.read? t.value) := by
  unfold read
  rw [htagged]
  simp [Tagged.handler, htag]

/-- A tagged line with an answer is read as that answer, and as malformed without one. -/
theorem read_response {line : String} {t : Tagged} (htagged : Tagged.ofLine? line = some t)
    (htag : t.tag = "success" ∨ t.tag = "failure") :
    read line = .orMalformed .response (.malformedResponse t.tag (String.ofList t.value))
      (Response.read? t.value (t.tag = "success")) := by
  unfold read
  rw [htagged]
  rcases htag with htag | htag
  · simp [Tagged.handler, htag]
  · simp [Tagged.handler, htag]

end HandlerLine

/-! ## One more line of a doc comment -/

namespace Handler

/-- The line makes the handler of a doc comment another one, and nothing is reported. -/
structure Accepts (doc : List String) (line : String) (h : Handler) : Prop where
  ofDoc_eq : ofDoc (doc ++ [line]) = h
  notices_eq : notices (doc ++ [line]) = notices doc

/-- The line gives a warning, and the handler of the doc comment stays as it is. -/
structure Refuses (doc : List String) (line : String) (notice : Notice) : Prop where
  ofDoc_eq : ofDoc (doc ++ [line]) = ofDoc doc
  notices_eq : notices (doc ++ [line]) = notices doc ++ [notice]
  level_eq : notice.level = .warning

variable {doc : List String} {line : String} {l : HandlerLine} {notice : Notice}

theorem ofDoc_concat (doc : List String) (line : String) :
    ofDoc (doc ++ [line]) = (HandlerLine.read line).apply (ofDoc doc) :=
  List.foldl_concat _ _ _ _

theorem notices_concat (doc : List String) (line : String) :
    notices (doc ++ [line]) = notices doc ++ (HandlerLine.read line).notices := by
  unfold notices
  rw [List.flatMap_append, List.flatMap_singleton]

theorem accepts_of_read (hread : HandlerLine.read line = l) (hsilent : l.notices = [])
    (doc : List String) : Accepts doc line (l.apply (ofDoc doc)) where
  ofDoc_eq := by rw [ofDoc_concat, hread]
  notices_eq := by rw [notices_concat, hread, hsilent, List.append_nil]

theorem refuses_of_read (hread : HandlerLine.read line = .malformed notice)
    (hlevel : notice.level = .warning) (doc : List String) : Refuses doc line notice where
  ofDoc_eq := by rw [ofDoc_concat, hread]; rfl
  notices_eq := by rw [notices_concat, hread]; rfl
  level_eq := hlevel

/-- A line that is accepted is not refused as well. -/
theorem Accepts.not_refuses {h : Handler} (haccepts : Accepts doc line h) :
    ¬ Refuses doc line notice := by
  intro hrefuses
  have hsame : notices doc = notices doc ++ [notice] :=
    haccepts.notices_eq.symm.trans hrefuses.notices_eq
  exact List.cons_ne_nil notice [] (List.self_eq_append_right.1 hsame)

/-- A line that may be malformed is refused exactly if nothing is read from it. -/
theorem refuses_iff {α : Type} {say : α → HandlerLine} {found : Option α}
    (hread : HandlerLine.read line = .orMalformed say notice found)
    (hsilent : ∀ a, (say a).notices = []) (hlevel : notice.level = .warning) (doc : List String) :
    Refuses doc line notice ↔ found = none := by
  cases found with
  | none => exact iff_of_true (refuses_of_read hread hlevel doc) rfl
  | some a =>
    have haccepts := accepts_of_read hread (hsilent a) doc
    exact iff_of_false haccepts.not_refuses (Option.some_ne_none a)

end Handler

end ApiDocs.Annotations
