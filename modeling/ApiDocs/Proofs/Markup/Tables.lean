import ApiDocs.Markup.Dialect
import ApiDocs.Proofs.Text.Lines
import Mathlib.Data.List.Basic

/-!
# Lines and bars of a table

A row of a table is one line of it (`lines_table`). The cells of the row are told apart by the bars
that have no backslash in front of them (`separators`). The bars of a cell all have one, but a
backslash at the end of a cell also takes the bar behind it. So a row has as many separators as the
dialect puts there less the cells that end in a backslash and have a bar right behind them
(`separators_line_add`), which in Markdown is no cell at all.
-/

set_option autoImplicit false

namespace ApiDocs.Markup

open Text (pieces lines linesOfPieces dropReturn IsLine)

/-! ## Bars that separate cells -/

/-- The number of bars in a text without a backslash in front of them, given the character in front
of the text. -/
def barsBehind : Char → List Char → Nat
  | _, [] => 0
  | before, c :: rest => (if c = '|' ∧ before ≠ '\\' then 1 else 0) + barsBehind c rest

/-- The number of bars that separate the cells of a line. -/
def separators (line : List Char) : Nat :=
  barsBehind '\n' line

/-- Whether a cell ends in a backslash. -/
def endsInBackslash (cell : String) : Bool :=
  cell.toList.getLast? == some '\\'

/-- The characters of a cell as they are written. -/
def cellChars (cell : String) : List Char :=
  cell.toList.flatMap cellChar

theorem toList_cellText (cell : String) : (cellText cell).toList = cellChars cell :=
  String.toList_ofList

theorem getLastD_append (before : Char) (s t : List Char) :
    (s ++ t).getLastD before = t.getLastD (s.getLastD before) := by
  rw [List.getLastD_eq_getLast?, List.getLast?_append, Option.getD_or, List.getLastD_eq_getLast?,
    List.getLastD_eq_getLast?]

theorem barsBehind_append (before : Char) (s t : List Char) :
    barsBehind before (s ++ t) = barsBehind before s + barsBehind (s.getLastD before) t := by
  induction s generalizing before with
  | nil => simp [barsBehind]
  | cons c s ih =>
    rw [List.cons_append, barsBehind, barsBehind, ih, List.getLastD_cons, Nat.add_assoc]

/-- What is written for a character separates nothing, and it ends in a backslash only for a
backslash. -/
theorem cellChar_spec (before c : Char) :
    barsBehind before (cellChar c) = 0 ∧ ((cellChar c).getLastD before = '\\' ↔ c = '\\') := by
  unfold cellChar
  split
  · next hbar => simp [hbar, barsBehind]
  · next hbar =>
    split
    · next hbreak =>
      rcases hbreak with rfl | rfl
      · simp [barsBehind]
      · simp [barsBehind]
    · simp [barsBehind, hbar]

/-- No bar of a cell separates. -/
theorem barsBehind_cellChars (before : Char) (s : List Char) :
    barsBehind before (s.flatMap cellChar) = 0 := by
  induction s generalizing before with
  | nil => rfl
  | cons c s ih => rw [List.flatMap_cons, barsBehind_append, (cellChar_spec before c).1, ih]

/-- A cell ends in a backslash as it is written exactly if it does as it is. -/
theorem getLastD_flatMap_cellChar {before other : Char} (h : before = '\\' ↔ other = '\\')
    (s : List Char) :
    (s.flatMap cellChar).getLastD before = '\\' ↔ s.getLastD other = '\\' := by
  induction s generalizing before other with
  | nil => simpa using h
  | cons c s ih =>
    rw [List.flatMap_cons, getLastD_append, List.getLastD_cons]
    exact ih (cellChar_spec before c).2

theorem getLastD_cellChars_bar (cell : String) :
    (cellChars cell).getLastD '|' = '\\' ↔ endsInBackslash cell = true := by
  unfold cellChars endsInBackslash
  rw [getLastD_flatMap_cellChar Iff.rfl, beq_iff_eq]
  cases hlast : cell.toList.getLast? with
  | none => simp [List.getLastD_eq_getLast?, hlast]
  | some c => simp [List.getLastD_eq_getLast?, hlast]

/-- Each cell has a bar in front of it, which separates unless it is behind a backslash. -/
theorem barsBehind_cells_add (before : Char) (cells : List String) :
    barsBehind before ((cells.flatMap fun c => '|' :: cellChars c) ++ ['|'])
        + cells.countP endsInBackslash + (if before = '\\' then 1 else 0)
      = cells.length + 1 := by
  induction cells generalizing before with
  | nil =>
    by_cases h : before = '\\'
    · simp [barsBehind, h]
    · simp [barsBehind, h]
  | cons cell rest ih =>
    have hrest := ih ((cellChars cell).getLastD '|')
    simp only [getLastD_cellChars_bar] at hrest
    rw [List.flatMap_cons, List.append_assoc, List.cons_append, barsBehind, barsBehind_append,
      cellChars, barsBehind_cellChars, ← cellChars, List.countP_cons, List.length_cons]
    by_cases h : before = '\\'
    · simp only [h, ne_eq, not_true_eq_false, and_false, if_false, if_true]
      omega
    · simp only [h, ne_eq, not_false_eq_true, and_true, if_true, if_false]
      omega

/-- Between blanks every bar separates. -/
theorem barsBehind_intercalate (before : Char) {cells : List String} (hne : cells ≠ []) :
    barsBehind before ([' ', '|', ' '].intercalate (cells.map cellChars) ++ [' ', '|'])
      = cells.length := by
  induction cells generalizing before with
  | nil => exact absurd rfl hne
  | cons cell rest ih =>
    cases rest with
    | nil =>
      rw [List.map_singleton, List.intercalate_singleton, barsBehind_append, cellChars,
        barsBehind_cellChars]
      simp [barsBehind]
    | cons next others =>
      have hrest := ih ' ' (List.cons_ne_nil next others)
      rw [List.map_cons] at hrest
      rw [List.map_cons, List.map_cons, List.intercalate_cons_cons, List.append_assoc,
        List.append_assoc, barsBehind_append, cellChars, barsBehind_cellChars, barsBehind_append]
      simp only [List.getLastD_cons, List.getLastD_nil]
      rw [hrest]
      simp [barsBehind, Nat.add_comm]

/-! ## The line of a row -/

namespace Dialect

variable (d : Dialect) {cells columns : List String}

/-- The line that a row of a table is, without its line feed. -/
def line : Dialect → List String → List Char
  | asciidoc, cells => cells.flatMap fun c => '|' :: cellChars c
  | markdown, cells =>
    '|' :: ' ' :: ([' ', '|', ' '].intercalate (cells.map cellChars) ++ [' ', '|'])
  | confluence, cells => ((cells.map filledCell).flatMap fun c => '|' :: cellChars c) ++ ['|']

/-- The number of bars that a dialect puts into a row. -/
def bars : Dialect → Nat → Nat
  | asciidoc, columns => columns
  | _, columns => columns + 1

/-- The cells of a row that have a bar right behind them. -/
def exposed : Dialect → List String → List String
  | asciidoc, cells => cells.dropLast
  | markdown, _ => []
  | confluence, cells => cells

theorem toList_row (cells : List String) : (d.row cells).toList = d.line cells ++ ['\n'] := by
  cases d with
  | asciidoc =>
    simp [row, line, String.toList_join, List.flatMap_map, toList_cellText]
  | markdown =>
    simp [row, line, String.toList_intercalate, Function.comp_def, toList_cellText]
  | confluence =>
    simp [row, line, String.toList_join, List.flatMap_map, toList_cellText]

theorem endsInBackslash_filledCell (cell : String) :
    endsInBackslash (filledCell cell) = endsInBackslash cell := by
  unfold filledCell
  split
  · next hempty =>
    rw [hempty]
    decide
  · rfl

/-- A row has the bars of its dialect as separators, but for those that a backslash at the end of a
cell takes. -/
theorem separators_line_add (hne : cells ≠ []) :
    separators (d.line cells) + (d.exposed cells).countP endsInBackslash
      = d.bars cells.length := by
  unfold separators
  cases d with
  | asciidoc =>
    obtain ⟨before, last, rfl⟩ := (List.eq_nil_or_concat cells).resolve_left hne
    have hbefore := barsBehind_cells_add '\n' before
    rw [if_neg (by decide)] at hbefore
    simp only [line, bars, exposed, List.concat_eq_append, List.flatMap_append,
      List.flatMap_singleton, List.dropLast_concat, List.length_append, List.length_singleton]
    rw [← List.singleton_append, ← List.append_assoc, barsBehind_append, cellChars,
      barsBehind_cellChars]
    omega
  | markdown =>
    have hcells := barsBehind_intercalate ' ' hne
    simp only [line, bars, exposed, List.countP_nil, barsBehind, hcells]
    simp [Nat.add_comm]
  | confluence =>
    have hcells := barsBehind_cells_add '\n' (cells.map filledCell)
    rw [if_neg (by decide), List.countP_map, List.length_map] at hcells
    have hends : endsInBackslash ∘ filledCell = endsInBackslash :=
      funext endsInBackslash_filledCell
    rw [hends] at hcells
    simpa [line, bars, exposed] using hcells

theorem forall_mem_intercalate {p : Char → Prop} {sep : List Char} {items : List (List Char)}
    (hsep : ∀ c ∈ sep, p c) (hitems : ∀ s ∈ items, ∀ c ∈ s, p c) :
    ∀ c ∈ sep.intercalate items, p c := by
  induction items with
  | nil => simp
  | cons first others ih =>
    have hfirst := hitems first List.mem_cons_self
    have hothers := ih fun s hs => hitems s (List.mem_cons_of_mem first hs)
    cases others with
    | nil => simpa using hfirst
    | cons next rest =>
      rw [List.intercalate_cons_cons]
      intro c hc
      rcases List.mem_append.1 hc with hc | hc
      · rcases List.mem_append.1 hc with hc | hc
        · exact hfirst c hc
        · exact hsep c hc
      · exact hothers c hc

/-- No cell breaks a line. -/
theorem not_break_of_mem_cellChars {cell : String} {c : Char} (h : c ∈ cellChars cell) :
    c ≠ '\n' ∧ c ≠ '\r' := by
  obtain ⟨b, -, hc⟩ := List.mem_flatMap.1 h
  unfold cellChar at hc
  split at hc
  · rcases List.mem_pair.1 hc with rfl | rfl
    · decide
    · decide
  · split at hc
    · rw [List.mem_singleton.1 hc]
      decide
    · next hbreak =>
      rw [List.mem_singleton.1 hc]
      exact not_or.1 hbreak

theorem not_break_of_mem_line {c : Char} (h : c ∈ d.line cells) : c ≠ '\n' ∧ c ≠ '\r' := by
  have hcells : ∀ cells : List String, ∀ c ∈ cells.flatMap fun c => '|' :: cellChars c,
      c ≠ '\n' ∧ c ≠ '\r' := by
    intro cells c hc
    obtain ⟨cell, -, hc⟩ := List.mem_flatMap.1 hc
    rcases List.mem_cons.1 hc with rfl | hc
    · decide
    · exact not_break_of_mem_cellChars hc
  cases d with
  | asciidoc => exact hcells cells c h
  | markdown =>
    have hjoined : ∀ c ∈ [' ', '|', ' '].intercalate (cells.map cellChars), c ≠ '\n' ∧ c ≠ '\r' := by
      refine forall_mem_intercalate (by simp) fun s hs c hc => ?_
      obtain ⟨cell, -, rfl⟩ := List.mem_map.1 hs
      exact not_break_of_mem_cellChars hc
    simp only [line, List.mem_cons, List.mem_append, List.not_mem_nil, or_false] at h
    rcases h with rfl | rfl | hc | rfl | rfl
    · decide
    · decide
    · exact hjoined c hc
    · decide
    · decide
  | confluence =>
    rcases List.mem_append.1 h with h | h
    · exact hcells _ c h
    · rw [List.mem_singleton.1 h]
      decide

theorem isLine_line (cells : List String) : IsLine (d.line cells) := by
  refine ⟨fun hfeed => (d.not_break_of_mem_line hfeed).1 rfl, fun hreturn => ?_⟩
  exact (d.not_break_of_mem_line (List.mem_of_getLast? hreturn)).2 rfl

/-! ## The lines of a table -/

theorem lines_rows (rows : List (List String)) (rest : List Char) :
    lines ((rows.flatMap fun cells => (d.row cells).toList) ++ rest)
      = rows.map d.line ++ lines rest := by
  induction rows with
  | nil => rfl
  | cons cells rows ih =>
    have hline := d.isLine_line cells
    rw [List.flatMap_cons, toList_row, List.append_assoc, List.append_assoc, List.singleton_append,
      Text.lines_append_newline hline.1, hline.dropReturn_eq, ih]
    rfl

theorem exists_tableStart_eq (columns : List String) :
    ∃ s : List Char, (d.tableStart columns).toList = s ++ ['\n'] := by
  have hend : ∀ s : String, ∃ t : List Char, (s ++ "\n").toList = t ++ ['\n'] := fun s =>
    ⟨s.toList, String.toList_append⟩
  -- The start is compared as a whole, since the equations of the definition split a long literal.
  cases d with
  | asciidoc =>
    have hstart : asciidoc.tableStart columns = "[options=\"header\"]\n|===\n"
        ++ String.join (columns.map fun c => "|" ++ cellText c) ++ "\n" := by
      rw [String.append_assoc]
      rfl
    rw [hstart]
    exact hend _
  | markdown => exact hend _
  | confluence =>
    have hstart : confluence.tableStart columns
        = String.join (columns.map fun c => "||" ++ cellText c) ++ "||" ++ "\n" := by
      rw [String.append_assoc]
      rfl
    rw [hstart]
    exact hend _

/-- Each row of a table is one of its lines. -/
theorem lines_table (columns : List String) (rows : List (List String)) :
    lines (d.table columns rows).toList
      = lines (d.tableStart columns).toList ++ rows.map d.line ++ lines d.tableEnd.toList := by
  obtain ⟨s, hs⟩ := d.exists_tableStart_eq columns
  rw [table, String.toList_append, String.toList_append, hs, String.toList_join, List.flatMap_map,
    List.append_assoc, List.append_assoc, List.singleton_append, Text.lines_append_line_feed,
    lines_rows, List.append_assoc]

/-- Every row of a table is one line, and it has the separators that the dialect puts there exactly
if no cell with a bar right behind it ends in a backslash; each cell that does takes one away. -/
theorem separators_table (d : Dialect) {columns : List String} {rows : List (List String)}
    (hcolumns : columns ≠ []) (hrows : ∀ cells ∈ rows, cells.length = columns.length) :
    lines (d.table columns rows).toList
        = lines (d.tableStart columns).toList ++ rows.map d.line ++ lines d.tableEnd.toList ∧
      ∀ cells ∈ rows, (d.row cells).toList = d.line cells ++ ['\n'] ∧ '\n' ∉ d.line cells ∧
        separators (d.line cells) + (d.exposed cells).countP endsInBackslash
          = d.bars columns.length ∧
        (separators (d.line cells) = d.bars columns.length
          ↔ ∀ cell ∈ d.exposed cells, endsInBackslash cell = false) := by
  refine ⟨d.lines_table columns rows, fun cells hcells => ?_⟩
  have hlength := hrows cells hcells
  have hne : cells ≠ [] := by
    rintro rfl
    exact hcolumns (List.length_eq_zero_iff.1 hlength.symm)
  have hcount := d.separators_line_add hne
  rw [hlength] at hcount
  refine ⟨d.toList_row cells, (d.isLine_line cells).1, hcount, ?_⟩
  have hnone : (d.exposed cells).countP endsInBackslash = 0
      ↔ ∀ cell ∈ d.exposed cells, endsInBackslash cell = false := by
    rw [List.countP_eq_zero]
    simp only [Bool.not_eq_true]
  rw [← hnone]
  omega

/-- In a table of drives the first of two rows keeps its bars, and the second one loses the bar
behind its first cell. -/
theorem separators_table_drives :
    let columns := ["Path", "Use"]
    let rows := [["D:\\a|b", "\\"], ["C:\\", "line\nbreak"]]
    columns ≠ [] ∧ (∀ cells ∈ rows, cells.length = columns.length) ∧
      lines (asciidoc.table columns rows).toList
        = ["[options=\"header\"]".toList, "|===".toList, "|Path|Use".toList,
          "|D:\\a\\|b|\\".toList, "|C:\\|line break".toList, "|===".toList, []] ∧
      separators (asciidoc.line ["D:\\a|b", "\\"]) = 2 ∧
      separators (asciidoc.line ["C:\\", "line\nbreak"]) + 1 = 2 := by
  intro columns rows
  have hcolumns : columns ≠ [] := by decide
  have hrows : ∀ cells ∈ rows, cells.length = columns.length := by decide
  obtain ⟨hlines, hcells⟩ := separators_table asciidoc hcolumns hrows
  obtain ⟨-, -, -, hkept⟩ := hcells ["D:\\a|b", "\\"] (by decide)
  obtain ⟨-, -, hlost, -⟩ := hcells ["C:\\", "line\nbreak"] (by decide)
  exact ⟨hcolumns, hrows, hlines.trans (by decide), hkept.2 (by decide), hlost⟩

/-- A backslash at the end of a cell takes the bar that separates it from the next one, or that
ends the row. -/
theorem backslash_takes_bar :
    asciidoc.row ["C:\\", "drive"] = "|C:\\|drive\n" ∧
      separators (asciidoc.line ["C:\\", "drive"]) ≠ asciidoc.bars 2 ∧
      confluence.row ["C:\\", "drive"] = "|C:\\|drive|\n" ∧
      separators (confluence.line ["C:\\", "drive"]) ≠ confluence.bars 2 := by
  decide

end Dialect

end ApiDocs.Markup
