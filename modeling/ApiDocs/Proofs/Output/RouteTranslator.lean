import ApiDocs.Proofs.Output.GoModule
import ApiDocs.Proofs.Output.GoProgram
import ApiDocs.Proofs.RoutePath

/-!
# The translator of route paths in a generated module

A module turns the markers of the routes it carries into placeholders itself, when a program starts.
Its translator `urlReplace` works on bytes: it looks at the first two of a segment and cuts off one
or two. Here it is a function of the fragment of Go, and its lines are the last ones of every module
(`lines_urlReplace`).

One iteration of its loop puts what the segment is rewritten to in the place of the segment
(`exec_segmentBody`), so the loop rewrites all of them (`exec_segments`), whatever the bytes of the
path are, and no index or bound is out of range (`run_urlReplace`). The markers and the slash are
characters of ASCII, which no other character shares a byte with. So for the bytes of a text the
segments are those of the text, and they are rewritten to what the text shows them as.
-/

set_option autoImplicit false

namespace ApiDocs.GoModule

open GoProgram
open RoutePath (ShownAs segmentTemplate shownAs_segmentTemplate template)
open Text (byteOf bytes encode lines pieces)

/-! ## The function -/

/-- The segment without the bytes of its marker is put in braces. -/
def storePlaceholder (marker : Nat) : Block :=
  .store "pt" "i" [.literal "\x7b", .suffix "p" marker, .literal "\x7d"] .done

/-- What is done for a segment that starts with a marker. -/
def markerChoice : Choice :=
  .whenElse [.byteIs "p" 0 ':'] (storePlaceholder 1) <|
  .when [.isLonger "p" 1, .byteIs "p" 0 '?', .byteIs "p" 1 ':'] (storePlaceholder 2)

/-- What is done for each segment. -/
def segmentBody : Block :=
  .choose (.when [.lengthIs "p" 0] .next) <| .choose markerChoice .done

/-- The translator. -/
def urlReplace : Function where
  name := "urlReplace"
  parameter := "src"
  body := .split "pt" "src" '/' <| .forEach "i" "p" "pt" segmentBody <| .join "pt" '/'

theorem lines_urlReplace : urlReplace.lines <:+ footerLines.tail.dropLast := by
  decide

/-! ## What the function does to bytes -/

def braced (name : List UInt8) : List UInt8 :=
  bytes "\x7b" ++ name ++ bytes "\x7d"

/-- What the bytes of a segment are rewritten to. -/
def rewritten : List UInt8 → List UInt8
  | [] => []
  | b :: rest =>
    if b = byteOf ':' then braced rest
    else if b = byteOf '?' ∧ rest.head? = some (byteOf ':') then braced rest.tail
    else b :: rest

section Execution

variable (source segment rest : List UInt8) (items : List (List UInt8)) (b : UInt8)

/-- The names between two iterations. -/
def pathScope : Scope :=
  [("pt", .texts items), ("src", .text source)]

/-- The names at the start of the iteration for a segment. -/
def segmentScope (k : Nat) : Scope :=
  ("p", .text segment) :: ("i", .number k) :: pathScope source items

theorem textOf_segmentScope (k : Nat) :
    textOf "p" (segmentScope source segment items k) = .ok segment := by
  rfl

variable {items} {k : Nat}

theorem exec_storePlaceholder (hk : k < items.length) {marker : Nat}
    (hmarker : marker ≤ segment.length) :
    (storePlaceholder marker).exec (segmentScope source segment items k)
      = .ok (.finished
          (segmentScope source segment (items.set k (braced (segment.drop marker))) k)) := by
  have hpart : itemsFrom segment marker = .ok (segment.drop marker) := if_pos hmarker
  have hconcatenation : concatenation (segmentScope source segment items k)
      [.literal "\x7b", .suffix "p" marker, .literal "\x7d"] = .ok (braced (segment.drop marker)) := by
    simp [concatenation, Part.value, textOf_segmentScope, hpart, braced, bind, Except.bind, pure,
      Except.pure]
  rw [storePlaceholder, Block.exec_store rfl rfl hk hconcatenation]
  rfl

/-- The second byte is looked at only if there is one. -/
theorem allHold_optional {σ : Scope} (hp : textOf "p" σ = .ok (b :: rest)) :
    allHold σ [.isLonger "p" 1, .byteIs "p" 0 '?', .byteIs "p" 1 ':']
      = .ok (decide (b = byteOf '?' ∧ rest.head? = some (byteOf ':'))) := by
  rw [allHold_cons (Test.holds_isLonger hp 1)]
  cases rest with
  | nil => simp
  | cons c rest =>
    rw [allHold_cons (Test.holds_byteIs hp rfl '?'), allHold_singleton,
      Test.holds_byteIs hp rfl ':']
    by_cases hb : b = byteOf '?' <;> by_cases hc : c = byteOf ':' <;> simp [hb, hc]

theorem exec_markerChoice (hk : k < items.length) (hsegment : items[k] = b :: rest) :
    markerChoice.exec (segmentScope source (b :: rest) items k)
      = .ok (.finished (segmentScope source (b :: rest) (items.set k (rewritten (b :: rest))) k)) := by
  have hp := textOf_segmentScope source (b :: rest) items k
  have hfirst : (b :: rest)[0]? = some b := rfl
  have hrequired := (allHold_singleton _ _).trans (Test.holds_byteIs hp hfirst ':')
  have hoptional := allHold_optional rest b hp
  rw [markerChoice, rewritten]
  by_cases hcolon : b = byteOf ':'
  · rw [beq_iff_eq.2 hcolon] at hrequired
    have hstore := exec_storePlaceholder source (b :: rest) hk (Nat.le_add_left 1 _)
    rw [if_pos hcolon]
    exact Choice.exec_whenElse hrequired hstore rfl
  rw [beq_eq_false_iff_ne.2 hcolon] at hrequired
  rw [if_neg hcolon, Choice.exec_whenElse_of_not hrequired]
  by_cases hmarked : b = byteOf '?' ∧ rest.head? = some (byteOf ':')
  · rw [decide_eq_true hmarked] at hoptional
    obtain ⟨name, rfl⟩ := List.head?_eq_some_iff.1 hmarked.2
    have hstore := exec_storePlaceholder source (b :: byteOf ':' :: name) hk (Nat.le_add_left 2 _)
    rw [if_pos hmarked]
    exact Choice.exec_when hoptional hstore rfl
  · rw [decide_eq_false hmarked] at hoptional
    rw [if_neg hmarked, ← hsegment, List.set_getElem_self, hsegment]
    exact Choice.exec_when_of_not hoptional

/-- One iteration puts what a segment is rewritten to in its place. -/
theorem iterate_segmentBody (hk : k < items.length) :
    iterate segmentBody.exec "i" "p" "pt" k (pathScope source items)
      = .ok (.finished (pathScope source (items.set k (rewritten items[k])))) := by
  have hempty := (allHold_singleton _ _).trans
    (Test.holds_lengthIs (textOf_segmentScope source items[k] items k) 0)
  rw [iterate_eq rfl (List.getElem?_eq_getElem hk), segmentBody]
  change (Block.exec _ (segmentScope source items[k] items k)).map _ = _
  cases hsegment : items[k] with
  | nil =>
    rw [hsegment] at hempty
    rw [Block.exec_choose_of_continued (Choice.exec_when hempty rfl rfl), rewritten, ← hsegment,
      List.set_getElem_self]
    rfl
  | cons b rest =>
    rw [hsegment] at hempty
    rw [Block.exec_choose_of_finished (Choice.exec_when_of_not hempty),
      Block.exec_choose_of_finished (exec_markerChoice source rest b hk hsegment)]
    rfl

end Execution

/-- No index and no bound is out of range, whatever the bytes of a path are. -/
theorem run_urlReplace (path : List UInt8) :
    urlReplace.run path
      = .ok ([byteOf '/'].intercalate ((path.splitOn (byteOf '/')).map rewritten)) := by
  have hloop := loop_range_set (fun items k hk => iterate_segmentBody path hk)
    (path.splitOn (byteOf '/'))
  apply Function.run_of_returned
  change (Block.forEach "i" "p" "pt" segmentBody (.join "pt" '/')).exec (pathScope path _) = _
  rw [Block.exec_forEach rfl hloop]
  rfl

/-! ## What the function does to texts -/

theorem braced_encode (name : List Char) :
    braced (encode name) = encode (RoutePath.placeholder name) := by
  have hopen : bytes "\x7b" = encode ['{'] := Text.bytes_eq_encode _
  have hclose : bytes "\x7d" = encode ['}'] := Text.bytes_eq_encode _
  rw [braced, hopen, hclose, ← Text.encode_append, ← Text.encode_append]
  rfl

/-- The bytes of a segment are rewritten to those of what it is shown as. -/
theorem rewritten_encode (segment : List Char) :
    rewritten (encode segment) = encode (segmentTemplate segment) := by
  have hcolon : ':'.toNat < 128 := by decide
  have hmark : '?'.toNat < 128 := by decide
  have hshown := shownAs_segmentTemplate segment
  generalize segmentTemplate segment = shown at hshown
  cases hshown with
  | required name =>
    rw [Text.encode_cons_of_ascii hcolon, rewritten, if_pos rfl]
    exact braced_encode name
  | optional name =>
    have hdifferent : ¬ byteOf '?' = byteOf ':' := by decide
    rw [Text.encode_cons_of_ascii hmark, Text.encode_cons_of_ascii hcolon, rewritten,
      if_neg hdifferent, if_pos ⟨rfl, rfl⟩]
    exact braced_encode name
  | unmarked hrequired hoptional =>
    cases hbytes : encode segment with
    | nil => rfl
    | cons b rest =>
      rw [rewritten, if_neg, if_neg]
      · rintro ⟨rfl, hrest⟩
        obtain ⟨t, rfl, rfl⟩ := Text.encode_eq_byteOf_cons hmark hbytes
        obtain ⟨name, hname⟩ := List.head?_eq_some_iff.1 hrest
        obtain ⟨name, rfl, -⟩ := Text.encode_eq_byteOf_cons hcolon hname
        exact hoptional ⟨name, rfl⟩
      · rintro rfl
        obtain ⟨name, rfl, -⟩ := Text.encode_eq_byteOf_cons hcolon hbytes
        exact hrequired ⟨name, rfl⟩

theorem run_urlReplace_bytes (path : String) :
    urlReplace.run (bytes path) = .ok (bytes (template path)) := by
  have hslash : '/'.toNat < 128 := by decide
  rw [run_urlReplace, Text.bytes_eq_encode, Text.bytes_eq_encode, template, String.toList_ofList,
    Text.encode_intercalate hslash, Text.splitOn_byteOf hslash, List.map_map, List.map_map]
  congr 2
  exact List.map_congr_left fun segment _ => rewritten_encode segment

/-- **The translators agree.** Every module ends in the function `urlReplace`, and for the bytes of
a route path this function runs without a fault and returns the bytes of the template of the
path. -/
theorem translator_agrees (doc : Documentation) (path : String) :
    urlReplace.lines.map String.toList <:+ lines (source doc).toList
      ∧ urlReplace.run (bytes path) = .ok (bytes (template path)) := by
  refine ⟨?_, run_urlReplace_bytes path⟩
  rw [lines_source, frame, linesAfter]
  obtain ⟨front, hfront⟩ := lines_urlReplace
  rw [← hfront, List.map_append, ← List.append_assoc]
  exact List.suffix_append _ _

example : urlReplace.run (bytes "/é/:id/?:/?") = .ok (bytes "/é/\x7bid\x7d/\x7b\x7d/?") := by
  rfl

end ApiDocs.GoModule
