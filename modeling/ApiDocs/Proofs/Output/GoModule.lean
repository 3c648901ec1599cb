import ApiDocs.Proofs.Json.Characters
import ApiDocs.Proofs.Output.GoLiteral
import ApiDocs.Proofs.Text.Lines

/-!
# What a generated module carries

A module is put together from lines that are the same for every documentation and from two literals
(`frame`). Both literals stay on the line they begin on, whatever they stand for, so the lines of a
module are those of the frame (`lines_source`). The two constants are found again by the start of
their lines, and their literals stand for the documents they were made from.
-/

set_option autoImplicit false

namespace ApiDocs.GoModule

open Json (escapeChar)
open Text (IsLine isBlank lines unlines lines_unlines unlines_append)

/-! ## Literals stay on their line -/

/-- What stands between the quotes of the literal of a text. -/
def literalBody (text : String) : List Char :=
  text.toList.flatMap escapeChar

theorem toList_literal (text : String) :
    (literal text).toList = '"' :: (literalBody text ++ ['"']) := by
  rw [literal, Json.quote, String.toList_ofList]
  rfl

/-- No control character is left in a literal. -/
theorem not_mem_literalBody {c : Char} (hc : c.toNat < 32) (text : String) :
    c ∉ literalBody text := by
  intro h
  obtain ⟨d, -, hd⟩ := List.mem_flatMap.1 h
  exact Nat.not_lt_of_le (Json.le_toNat_of_mem_escapeChar hd) hc

theorem not_mem_literal {c : Char} (hc : c.toNat < 32) (text : String) :
    c ∉ (literal text).toList := by
  have hquote : c ≠ '"' := by
    rintro rfl
    exact absurd hc (by decide)
  rw [toList_literal]
  simp [hquote, not_mem_literalBody hc text]

theorem isLine_literal (text : String) : IsLine (literal text).toList := by
  refine ⟨not_mem_literal (by decide) text, ?_⟩
  rw [toList_literal, ← List.cons_append, List.getLast?_concat]
  decide

theorem literal_ne_nil (text : String) : (literal text).toList ≠ [] := by
  rw [toList_literal]
  exact List.cons_ne_nil _ _

/-! ## The lines of a module -/

/-- The lines in front of the constants. -/
def linesBefore : List (List Char) :=
  headerLines.dropLast.map String.toList

/-- The line of the constant for the resource listing, up to its literal. -/
def listingStart : List Char :=
  "\tRootinfo string = ".toList

/-- The line of the constant for the groups, up to its literal. -/
def groupsStart : List Char :=
  "\tSubapi   string = ".toList

/-- The lines behind the constants. -/
def linesAfter : List (List Char) :=
  footerLines.tail.dropLast.map String.toList

/-- The lines of a module with two given literals. -/
def frame (listing groups : List Char) : List (List Char) :=
  linesBefore ++ [listingStart ++ listing, groupsStart ++ groups] ++ linesAfter

/-- Whether a line goes on with a name after the blanks at its start. -/
def beginsWith (name : String) (line : List Char) : Bool :=
  name.toList.isPrefixOf (line.dropWhile isBlank)

/-- What the literal at the first quote of a line stands for, and what follows it on the line. -/
def payload? (line : List Char) : Option (ByteArray × List Char) :=
  readLiteral (line.dropWhile (· ≠ '"'))

/-! ## The fixed lines -/

/-- A line that is read back as it stands and that is the line of no constant. -/
def IsFixed (line : List Char) : Prop :=
  IsLine line ∧ beginsWith "Rootinfo" line = false ∧ beginsWith "Subapi" line = false

instance (line : List Char) : Decidable (IsFixed line) :=
  inferInstanceAs (Decidable (_ ∧ _ ∧ _))

/-- What holds of lines of characters holds of a list of texts, one after the other. -/
theorem forall_lines_cons {p : List Char → Prop} {line : List Char} {ls : List String}
    (hline : p line) (hls : ∀ l ∈ ls, p l.toList) : ∀ l ∈ String.ofList line :: ls, p l.toList := by
  intro l hl
  rcases List.mem_cons.1 hl with rfl | hl
  · rwa [String.toList_ofList]
  · exact hls l hl

theorem isFixed_headerLines : ∀ l ∈ headerLines.dropLast, IsFixed l.toList := by
  simp only [headerLines, List.dropLast_cons_cons, List.dropLast_singleton]
  -- One line after the other, since a literal is evaluated quickly only as a list of characters.
  repeat refine forall_lines_cons (by decide) ?_
  exact List.forall_mem_nil _

theorem isFixed_footerLines : ∀ l ∈ footerLines, IsFixed l.toList := by
  unfold footerLines
  repeat refine forall_lines_cons (by decide) ?_
  exact List.forall_mem_nil _

theorem forall_linesBefore {p : List Char → Prop} (h : ∀ l ∈ headerLines.dropLast, p l.toList)
    {line : List Char} (hline : line ∈ linesBefore) : p line := by
  obtain ⟨l, hl, rfl⟩ := List.mem_map.1 hline
  exact h l hl

theorem forall_linesAfter {p : List Char → Prop} (h : ∀ l ∈ footerLines, p l.toList)
    {line : List Char} (hline : line ∈ linesAfter) : p line := by
  obtain ⟨l, hl, rfl⟩ := List.mem_map.1 hline
  exact h l (List.mem_of_mem_tail ((List.dropLast_sublist _).mem hl))

theorem isFixed_linesBefore {line : List Char} (hline : line ∈ linesBefore) : IsFixed line :=
  forall_linesBefore isFixed_headerLines hline

theorem isFixed_linesAfter {line : List Char} (hline : line ∈ linesAfter) : IsFixed line :=
  forall_linesAfter isFixed_footerLines hline

/-! ## Modules are made of their lines -/

/-- Joining lines ends each of them but the last. -/
theorem toList_intercalate_newline (ls : List String) (last : String) :
    ("\n".intercalate (ls ++ [last])).toList = unlines (ls.map String.toList) ++ last.toList := by
  rw [String.toList_intercalate]
  induction ls with
  | nil => simp [unlines]
  | cons l ls ih =>
    have hne : (ls ++ [last]).map String.toList ≠ [] := by simp
    obtain ⟨next, others, hrest⟩ := List.exists_cons_of_ne_nil hne
    rw [List.cons_append, List.map_cons, hrest, List.intercalate_cons_cons, ← hrest, ih]
    simp [unlines]

theorem toList_headerLines :
    ("\n".intercalate headerLines).toList = unlines linesBefore ++ listingStart :=
  toList_intercalate_newline headerLines.dropLast "\tRootinfo string = "

theorem toList_betweenLines :
    ("\n".intercalate betweenLines).toList = '\n' :: groupsStart :=
  toList_intercalate_newline [""] "\tSubapi   string = "

theorem toList_footerLines :
    ("\n".intercalate footerLines).toList = '\n' :: unlines linesAfter := by
  have hsplit := toList_intercalate_newline ("" :: footerLines.tail.dropLast) ""
  rw [String.toList_empty, List.append_nil] at hsplit
  exact hsplit

theorem toList_source (doc : Documentation) :
    (source doc).toList
      = unlines (frame (literal doc.listing.toJson.toIndented).toList
          (literal (Groups.toJson doc.groups).toIndented).toList) := by
  rw [source, frame, unlines_append, unlines_append]
  simp only [String.toList_append, toList_headerLines, toList_betweenLines, toList_footerLines,
    unlines, List.append_assoc, List.cons_append, List.nil_append]

theorem isLine_of_mem_frame (listing groups : String) {line : List Char}
    (hline : line ∈ frame (literal listing).toList (literal groups).toList) : IsLine line := by
  rw [frame, List.mem_append, List.mem_append] at hline
  rcases hline with (hbefore | hconstant) | hafter
  · exact (isFixed_linesBefore hbefore).1
  · rcases List.mem_cons.1 hconstant with rfl | hsecond
    · exact IsLine.append (by decide) (isLine_literal listing) (literal_ne_nil listing)
    · rw [List.mem_singleton.1 hsecond]
      exact IsLine.append (by decide) (isLine_literal groups) (literal_ne_nil groups)
  · exact (isFixed_linesAfter hafter).1

/-- The literals open no line and close none: the lines of a module are the lines it was made of. -/
theorem lines_source (doc : Documentation) :
    lines (source doc).toList
      = frame (literal doc.listing.toJson.toIndented).toList
          (literal (Groups.toJson doc.groups).toIndented).toList := by
  rw [toList_source]
  exact lines_unlines fun line hline => isLine_of_mem_frame _ _ hline

/-! ## The constants are found again -/

/-- A choice of lines that takes no fixed line takes from the two constants only. -/
theorem filter_frame {p : List Char → Bool} (hfixed : ∀ line, IsFixed line → p line = false)
    (listing groups : List Char) :
    (frame listing groups).filter p
      = [listingStart ++ listing, groupsStart ++ groups].filter p := by
  have hbefore : linesBefore.filter p = [] := by
    rw [List.filter_eq_nil_iff]
    intro line hline
    simp [hfixed line (isFixed_linesBefore hline)]
  have hafter : linesAfter.filter p = [] := by
    rw [List.filter_eq_nil_iff]
    intro line hline
    simp [hfixed line (isFixed_linesAfter hline)]
  rw [frame, List.filter_append, List.filter_append, hbefore, hafter, List.nil_append,
    List.append_nil]

theorem filter_frame_listing (listing groups : List Char) :
    (frame listing groups).filter (beginsWith "Rootinfo") = [listingStart ++ listing] := by
  rw [filter_frame fun _ hline => hline.2.1]
  rfl

theorem filter_frame_groups (listing groups : List Char) :
    (frame listing groups).filter (beginsWith "Subapi") = [groupsStart ++ groups] := by
  rw [filter_frame fun _ hline => hline.2.2]
  rfl

theorem payload?_append_literal {start : List Char} (hstart : '"' ∉ start) (text : String) :
    payload? (start ++ (literal text).toList) = some (text.toUTF8, []) := by
  have hdrop : (start ++ (literal text).toList).dropWhile (· ≠ '"') = (literal text).toList := by
    refine Text.dropWhile_run_append ?_ ?_
    · intro c hc
      simpa using fun h : c = '"' => hstart (h ▸ hc)
    · rw [literal, Json.quote, String.toList_ofList]
      exact Text.stops_cons.2 (by simp)
  have hread := readLiteral_literal text []
  rw [List.append_nil] at hread
  rw [payload?, hdrop, hread]

/-- Whatever is documented, the text of a module is that of its frame around two literals, so
nothing but the literals differs between modules and none of them holds a line break. One line
begins with each constant; its literal, the only one on it, ends at the end of the line and stands
for the document that the constant carries, byte for byte. -/
theorem embedded_payloads (doc : Documentation) :
    (source doc).toList
        = unlines (frame (literal doc.listing.toJson.toIndented).toList
            (literal (Groups.toJson doc.groups).toIndented).toList) ∧
      (lines (source doc).toList).length = linesBefore.length + 2 + linesAfter.length ∧
      ((lines (source doc).toList).filter (beginsWith "Rootinfo")).map payload?
        = [some (doc.listing.toJson.toIndented.toUTF8, [])] ∧
      ((lines (source doc).toList).filter (beginsWith "Subapi")).map payload?
        = [some ((Groups.toJson doc.groups).toIndented.toUTF8, [])] := by
  refine ⟨toList_source doc, ?_, ?_, ?_⟩
  · rw [lines_source, frame, List.length_append, List.length_append]
    rfl
  · rw [lines_source, filter_frame_listing, List.map_singleton]
    rw [payload?_append_literal (by decide)]
  · rw [lines_source, filter_frame_groups, List.map_singleton]
    rw [payload?_append_literal (by decide)]

end ApiDocs.GoModule
