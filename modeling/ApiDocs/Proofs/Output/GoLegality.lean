import ApiDocs.Proofs.Output.GoModule

/-!
# Whether a module is legal source text

Go allows no null character in a source text and no byte order mark behind its start. In a literal
between double quotes it allows no line feed, and a backslash only at the start of an escape sequence
(`LegalBody`). The literals of a module keep to these rules whatever they stand for, and no null
character is left in a module, since control characters are escaped. Byte order marks are not: a
module holds one exactly if a text of the documentation does (`legal_but_for_byte_order_marks`).
-/

set_option autoImplicit false

namespace ApiDocs.GoModule

open Json (escapeChar)
open Text (unlines)

/-! ## The rules of Go -/

/-- An escape sequence of a literal between double quotes: a letter, a byte in octal or hexadecimal
digits, or a code point of four or eight digits that is no surrogate. -/
inductive IsEscape : List Char → Prop
  | letter {c x : Char} (h : escapedChar? c = some x) : IsEscape ['\\', c]
  | octal {a b c : Char} {byte : List UInt8} (h : octalByte? a b c = some byte) :
    IsEscape ['\\', a, b, c]
  | hexadecimal {a b : Char} {byte : List UInt8} (h : hexByte? a b = some byte) :
    IsEscape ['\\', 'x', a, b]
  | short {a b c d : Char} {n : Nat} {bytes : List UInt8} (hn : Json.hexUnit? a b c d = some n)
      (h : codeBytes? n = some bytes) : IsEscape ['\\', 'u', a, b, c, d]
  | long {a b c d e f g h : Char} {high low : Nat} {bytes : List UInt8}
      (hhigh : Json.hexUnit? a b c d = some high) (hlow : Json.hexUnit? e f g h = some low)
      (hcode : codeBytes? (high * 65536 + low) = some bytes) :
      IsEscape ['\\', 'U', a, b, c, d, e, f, g, h]

/-- What may stand between the double quotes of a literal. -/
inductive LegalBody : List Char → Prop
  | nil : LegalBody []
  | plain {c : Char} {rest : List Char} (hquote : c ≠ '"') (hbackslash : c ≠ '\\')
      (hfeed : c ≠ '\n') (h : LegalBody rest) : LegalBody (c :: rest)
  | escape {sequence rest : List Char} (hsequence : IsEscape sequence) (h : LegalBody rest) :
      LegalBody (sequence ++ rest)

/-- A character that the compiler rejects inside of a source text. -/
def nullCharacter : Char := '\x00'

/-- A character that the compiler rejects behind the start of a source text. -/
def byteOrderMark : Char := '\uFEFF'

/-! ## Literals -/

/-- Whatever is written for a character keeps to the rules. -/
theorem LegalBody.escapeChar_append (c : Char) {rest : List Char} (h : LegalBody rest) :
    LegalBody (escapeChar c ++ rest) := by
  rcases Json.escapeChar_cases c with ⟨letter, hletter, hchar, hc⟩ | ⟨hcontrol, hc⟩
    | ⟨hquote, hbackslash, hcontrol, hc⟩
  · rw [hc]
    exact .escape (.letter ((escapedChar?_eq hletter).trans hchar)) h
  · rw [hc]
    exact .escape (.short (Json.hexUnit?_hexDigit c.toNat hcontrol) (codeBytes?_toNat c)) h
  · have hfeed : c ≠ '\n' := by
      rintro rfl
      exact hcontrol (by decide)
    rw [hc]
    exact .plain hquote hbackslash hfeed h

theorem legalBody_literalBody (text : String) : LegalBody (literalBody text) := by
  unfold literalBody
  induction text.toList with
  | nil => exact .nil
  | cons c s ih =>
    rw [List.flatMap_cons]
    exact ih.escapeChar_append c

theorem mem_literal_iff {c : Char} (hc : 128 ≤ c.toNat) (text : String) :
    c ∈ (literal text).toList ↔ c ∈ text.toList := by
  rw [literal, Json.quote, String.toList_ofList]
  exact Json.mem_quoted_iff hc

/-! ## Whole modules -/

/-- Visible characters of ASCII, spaces and tabs. -/
def isVisible (c : Char) : Bool :=
  c == '\t' || Json.isPlain c

/-- A line of visible characters. -/
def IsVisibleLine (line : List Char) : Prop :=
  line.all isVisible = true

instance (line : List Char) : Decidable (IsVisibleLine line) :=
  inferInstanceAs (Decidable (_ = true))

theorem isVisibleLine_headerLines : ∀ l ∈ headerLines.dropLast, IsVisibleLine l.toList := by
  simp only [headerLines, List.dropLast_cons_cons, List.dropLast_singleton]
  repeat refine forall_lines_cons (by decide) ?_
  exact List.forall_mem_nil _

theorem isVisibleLine_footerLines : ∀ l ∈ footerLines, IsVisibleLine l.toList := by
  unfold footerLines
  repeat refine forall_lines_cons (by decide) ?_
  exact List.forall_mem_nil _

theorem mem_unlines_iff {c : Char} (hc : c ≠ '\n') {ls : List (List Char)} :
    c ∈ unlines ls ↔ ∃ l ∈ ls, c ∈ l := by
  induction ls with
  | nil => simp [unlines]
  | cons l ls ih => simp [unlines, hc, ih]

/-- A character that is neither visible nor a line feed can only be in the literals of a module. -/
theorem mem_source_iff {c : Char} (hvisible : isVisible c = false) (hfeed : c ≠ '\n')
    (doc : Documentation) :
    c ∈ (source doc).toList ↔ c ∈ (literal doc.listing.toJson.toIndented).toList ∨
      c ∈ (literal (Groups.toJson doc.groups).toIndented).toList := by
  have not_mem : ∀ {line : List Char}, IsVisibleLine line → c ∉ line := by
    intro line hline h
    rw [List.all_eq_true.1 hline c h] at hvisible
    cases hvisible
  have hbefore : ∀ line ∈ linesBefore, c ∉ line := fun _ h => not_mem (forall_linesBefore isVisibleLine_headerLines h)
  have hafter : ∀ line ∈ linesAfter, c ∉ line := fun _ h => not_mem (forall_linesAfter isVisibleLine_footerLines h)
  have hlisting : c ∉ listingStart := not_mem (by decide)
  have hgroups : c ∉ groupsStart := not_mem (by decide)
  rw [toList_source, mem_unlines_iff hfeed]
  constructor
  · rintro ⟨line, hline, hc⟩
    rw [frame, List.mem_append, List.mem_append] at hline
    rcases hline with (hline | hline) | hline
    · exact absurd hc (hbefore line hline)
    · rcases List.mem_cons.1 hline with rfl | hline
      · exact Or.inl ((List.mem_append.1 hc).resolve_left hlisting)
      · rw [List.mem_singleton.1 hline] at hc
        exact Or.inr ((List.mem_append.1 hc).resolve_left hgroups)
    · exact absurd hc (hafter line hline)
  · rintro (hc | hc)
    · exact ⟨listingStart ++ _, by simp [frame], List.mem_append_right _ hc⟩
    · exact ⟨groupsStart ++ _, by simp [frame], List.mem_append_right _ hc⟩

theorem nullCharacter_not_mem_source (doc : Documentation) :
    nullCharacter ∉ (source doc).toList := by
  rw [mem_source_iff (by decide) (by decide)]
  rintro (h | h)
  · exact not_mem_literal (by decide) _ h
  · exact not_mem_literal (by decide) _ h

/-- The texts of a documentation, as they are in its two documents. -/
def documentTexts (doc : Documentation) : List String :=
  doc.listing.toJson.texts ++ (Groups.toJson doc.groups).texts

theorem byteOrderMark_mem_source_iff (doc : Documentation) :
    byteOrderMark ∈ (source doc).toList
      ↔ ∃ text ∈ documentTexts doc, byteOrderMark ∈ text.toList := by
  have hwide : 128 ≤ byteOrderMark.toNat := by decide
  rw [mem_source_iff (by decide) (by decide), mem_literal_iff hwide, mem_literal_iff hwide,
    Json.Value.mem_toIndented_iff hwide, Json.Value.mem_toIndented_iff hwide, documentTexts]
  simp only [List.mem_append, or_and_right, exists_or]

/-- **Legal source text, but for byte order marks.** Whatever is documented, there is no null
character in a module, and its two literals stand between quotes with no line feed in between and
with no backslash that does not start an escape sequence. There is a byte order mark in a module,
which makes it illegal, exactly if there is one in a text of the documentation. -/
theorem legal_but_for_byte_order_marks (doc : Documentation) :
    nullCharacter ∉ (source doc).toList ∧
      (byteOrderMark ∈ (source doc).toList
        ↔ ∃ text ∈ documentTexts doc, byteOrderMark ∈ text.toList) ∧
      ∃ listing groups : List Char,
        (source doc).toList
            = unlines (frame ('"' :: (listing ++ ['"'])) ('"' :: (groups ++ ['"']))) ∧
          (LegalBody listing ∧ '\n' ∉ listing) ∧ LegalBody groups ∧ '\n' ∉ groups := by
  refine ⟨nullCharacter_not_mem_source doc, byteOrderMark_mem_source_iff doc,
    literalBody doc.listing.toJson.toIndented, literalBody (Groups.toJson doc.groups).toIndented,
    ?_, ⟨legalBody_literalBody _, not_mem_literalBody (by decide) _⟩,
    legalBody_literalBody _, not_mem_literalBody (by decide) _⟩
  rw [toList_source, toList_literal, toList_literal]

/-- A title that starts with a byte order mark. -/
def markedTitle : Documentation where
  listing := { apiVersion := "1.0", swaggerVersion := "1.2", info := { title := "\uFEFFPets" } }

/-- The mark gets into the module. -/
theorem byte_order_mark_of_title : byteOrderMark ∈ (source markedTitle).toList := by
  rw [byteOrderMark_mem_source_iff]
  exact ⟨"\uFEFFPets", by decide, by decide⟩

end ApiDocs.GoModule
