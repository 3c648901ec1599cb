import ApiDocs.Proofs.Text.Runs
import ApiDocs.Text.Pieces

/-!
# Lines of a text

Splitting a text into lines and putting lines together. A line that holds no line feed comes off the
start of a text whatever follows (`lines_append_newline`), so lines that can stand in a text as they
are (`IsLine`) are read back from the text they make up (`lines_unlines`).
-/

set_option autoImplicit false

namespace ApiDocs.Text

/-- A line that is read back as it stands: it holds no line feed, and no carriage return at its end
that would belong to the line feed behind it. -/
def IsLine (l : List Char) : Prop :=
  '\n' ∉ l ∧ l.getLast? ≠ some '\r'

instance (l : List Char) : Decidable (IsLine l) :=
  inferInstanceAs (Decidable (_ ∧ _))

/-- The text of lines, each ended by a line feed. -/
def unlines : List (List Char) → List Char
  | [] => []
  | l :: ls => l ++ '\n' :: unlines ls

@[simp] theorem unlines_append (ls ms : List (List Char)) :
    unlines (ls ++ ms) = unlines ls ++ unlines ms := by
  induction ls with
  | nil => rfl
  | cons l ls ih => simp [unlines, ih]

/-- The end of a line decides whether it is read back as it stands. -/
theorem IsLine.append {start last : List Char} (hstart : '\n' ∉ start) (hlast : IsLine last)
    (hne : last ≠ []) : IsLine (start ++ last) := by
  obtain ⟨hfeed, hreturn⟩ := hlast
  constructor
  · simp [hstart, hfeed]
  · rw [List.getLast?_append]
    cases hd : last.getLast? with
    | none => exact absurd (List.getLast?_eq_none_iff.1 hd) hne
    | some d => simpa [hd] using hreturn

theorem isLine_of_forall {s : List Char} (h : ∀ c ∈ s, isBlank c = false) : IsLine s := by
  constructor
  · intro hfeed
    exact absurd (h _ hfeed) (by decide)
  · intro hreturn
    exact absurd (h _ (List.mem_of_getLast? hreturn)) (by decide)

theorem Trimmed.isLine {s : List Char} (h : Trimmed s) (hfeed : '\n' ∉ s) : IsLine s := by
  refine ⟨hfeed, fun hreturn => ?_⟩
  have hlast := h.isBlank_getLast hreturn
  revert hlast
  decide

theorem pieces_nil (sep : Char) : pieces sep [] = [[]] :=
  rfl

theorem pieces_cons (sep c : Char) (rest : List Char) :
    pieces sep (c :: rest)
      = if c = sep then [] :: pieces sep rest
        else
          match pieces sep rest with
          | [] => [[c]]
          | first :: others => (c :: first) :: others :=
  rfl

theorem pieces_ne_nil (sep : Char) (s : List Char) : pieces sep s ≠ [] := by
  cases s with
  | nil => exact List.cons_ne_nil _ _
  | cons c rest =>
    rw [pieces_cons]
    split
    · simp
    · split <;> simp

/-- The pieces of two texts with a separator between them are those of the one, then those of the
other. -/
theorem pieces_append_cons (sep : Char) (s rest : List Char) :
    pieces sep (s ++ sep :: rest) = pieces sep s ++ pieces sep rest := by
  induction s with
  | nil => rw [List.nil_append, pieces_cons, if_pos rfl, pieces_nil, List.singleton_append]
  | cons c s ih =>
    rw [List.cons_append, pieces_cons, pieces_cons, ih]
    by_cases hc : c = sep
    · rw [if_pos hc, if_pos hc]
      rfl
    · rw [if_neg hc, if_neg hc]
      cases hs : pieces sep s with
      | nil => exact absurd hs (pieces_ne_nil sep s)
      | cons first others => rfl

theorem pieces_of_not_mem {sep : Char} {s : List Char} (h : sep ∉ s) : pieces sep s = [s] := by
  induction s with
  | nil => rfl
  | cons c s ih =>
    have hc : c ≠ sep := fun e => h (by simp [e])
    have hs : sep ∉ s := fun hm => h (List.mem_cons_of_mem c hm)
    rw [pieces_cons, if_neg hc, ih hs]

/-- Joining the pieces of a text with the separator gives the text back. -/
theorem intercalate_pieces (sep : Char) (s : List Char) : [sep].intercalate (pieces sep s) = s := by
  induction s with
  | nil => rfl
  | cons c s ih =>
    obtain ⟨first, others, hs⟩ := List.exists_cons_of_ne_nil (pieces_ne_nil sep s)
    rw [pieces_cons]
    by_cases hc : c = sep
    · rw [if_pos hc, hs, List.intercalate_cons_cons, ← hs, ih, hc]
      rfl
    · rw [if_neg hc, hs]
      rw [hs] at ih
      cases others with
      | nil => simpa using ih
      | cons next rest =>
        rw [List.intercalate_cons_cons] at ih ⊢
        simpa using ih

/-- A piece that is ended by the separator comes off the start of a text. -/
theorem pieces_append_sep {sep : Char} {piece : List Char} (h : sep ∉ piece) (rest : List Char) :
    pieces sep (piece ++ sep :: rest) = piece :: pieces sep rest := by
  rw [pieces_append_cons, pieces_of_not_mem h, List.singleton_append]

theorem pieces_intercalate {sep : Char} {items : List (List Char)} (hne : items ≠ [])
    (hitems : ∀ s ∈ items, sep ∉ s) : pieces sep ([sep].intercalate items) = items := by
  induction items with
  | nil => exact absurd rfl hne
  | cons first others ih =>
    have hfirst := hitems first List.mem_cons_self
    cases others with
    | nil => rw [List.intercalate_singleton, pieces_of_not_mem hfirst]
    | cons second others =>
      have hothers : ∀ s ∈ second :: others, sep ∉ s := fun s hs =>
        hitems s (List.mem_cons_of_mem first hs)
      rw [List.intercalate_cons_cons, List.append_assoc, List.singleton_append,
        pieces_append_sep hfirst, ih (List.cons_ne_nil _ _) hothers]

theorem not_mem_of_mem_pieces {sep : Char} {s piece : List Char} (h : piece ∈ pieces sep s) :
    sep ∉ piece := by
  induction s generalizing piece with
  | nil =>
    rw [List.mem_singleton.1 h]
    exact List.not_mem_nil
  | cons c s ih =>
    rw [pieces_cons] at h
    by_cases hc : c = sep
    · rw [if_pos hc] at h
      rcases List.mem_cons.1 h with rfl | h
      · exact List.not_mem_nil
      · exact ih h
    · rw [if_neg hc] at h
      cases hs : pieces sep s with
      | nil => exact absurd hs (pieces_ne_nil sep s)
      | cons first others =>
        rw [hs] at h
        rcases List.mem_cons.1 h with rfl | h
        · have hfirst : sep ∉ first := ih (by rw [hs]; exact List.mem_cons_self)
          simpa [Ne.symm hc] using hfirst
        · exact ih (by rw [hs]; exact List.mem_cons_of_mem first h)

theorem lastPiece_of_not_mem {sep : Char} {s : List Char} (h : sep ∉ s) : lastPiece sep s = s := by
  have hall : ∀ c ∈ s.reverse, decide (c ≠ sep) = true := fun c hc =>
    decide_eq_true fun hsep => h (hsep ▸ List.mem_reverse.1 hc)
  rw [lastPiece, List.takeWhile_eq_self_iff.2 hall, List.reverse_reverse]

/-- The last piece is what follows the last separator. -/
theorem lastPiece_append_sep {sep : Char} {piece : List Char} (h : sep ∉ piece) (s : List Char) :
    lastPiece sep (s ++ sep :: piece) = piece := by
  have hall : ∀ c ∈ piece.reverse, decide (c ≠ sep) = true := fun c hc =>
    decide_eq_true fun hsep => h (hsep ▸ List.mem_reverse.1 hc)
  rw [lastPiece, List.reverse_append, List.reverse_cons, List.append_assoc,
    List.takeWhile_append_of_pos hall, List.singleton_append,
    List.takeWhile_cons_of_neg (by simp), List.append_nil, List.reverse_reverse]

theorem lines_append_newline {l : List Char} (h : '\n' ∉ l) (rest : List Char) :
    lines (l ++ '\n' :: rest) = dropReturn l :: lines rest := by
  unfold lines
  rw [pieces_append_sep h]
  cases hp : pieces '\n' rest with
  | nil => exact absurd hp (pieces_ne_nil _ _)
  | cons next others => rfl

theorem linesOfPieces_append (first : List (List Char)) {others : List (List Char)}
    (hne : others ≠ []) :
    linesOfPieces (first ++ others) = first.map dropReturn ++ linesOfPieces others := by
  induction first with
  | nil => rfl
  | cons piece rest ih =>
    obtain ⟨next, later, hrest⟩ :=
      List.exists_cons_of_ne_nil (List.append_ne_nil_of_right_ne_nil rest hne)
    rw [List.cons_append, List.map_cons, List.cons_append, ← ih, hrest]
    rfl

/-- The lines of a text that goes on behind a line feed are those before it and those behind it. -/
theorem lines_append_line_feed (s rest : List Char) :
    lines (s ++ '\n' :: rest) = lines (s ++ ['\n']) ++ lines rest := by
  have hone : pieces '\n' (s ++ ['\n']) = pieces '\n' s ++ [[]] := pieces_append_cons '\n' s []
  unfold lines
  rw [hone, pieces_append_cons, linesOfPieces_append _ (pieces_ne_nil _ _),
    linesOfPieces_append _ (List.cons_ne_nil _ _)]
  simp [linesOfPieces]

theorem IsLine.dropReturn_eq {l : List Char} (h : IsLine l) : dropReturn l = l :=
  if_neg h.2

/-- The lines of a text made of lines are these lines. -/
theorem lines_unlines {ls : List (List Char)} (h : ∀ l ∈ ls, IsLine l) :
    lines (unlines ls) = ls := by
  induction ls with
  | nil => rfl
  | cons l ls ih =>
    have hl : IsLine l := h l List.mem_cons_self
    have hls : ∀ l ∈ ls, IsLine l := fun m hm => h m (List.mem_cons_of_mem l hm)
    rw [unlines, lines_append_newline hl.1, hl.dropReturn_eq, ih hls]

end ApiDocs.Text
