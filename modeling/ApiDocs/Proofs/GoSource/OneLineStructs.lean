import ApiDocs.Proofs.GoSource.Heads
import ApiDocs.Proofs.GoSource.Reading
import ApiDocs.Proofs.Text.Lines

/-!
# Structs declared on one line

A struct that is declared with its members on one line, as in `type Pair struct { A, B int }`, opens
a body that its own closing brace does not close. The lines that follow are read as fields until one
of them closes a brace more than was opened, so declarations among them are lost
(`oneLineStruct_hides_function`). `oneLineStruct_effect` says what is read for every text that
follows, and for which texts nothing is lost.
-/

set_option autoImplicit false

namespace ApiDocs.GoSource

open Text

/-- A struct declared on one line with at least one member. -/
structure OneLineStruct where
  name : Name
  /-- There is a blank between `struct` and the opening brace. -/
  spaced : Bool
  /-- The members as they stand between the braces. -/
  members : String
  hasMember : ∃ c ∈ members.toList, isBlank c = false
  isPlain : ∀ c ∈ members.toList, c ≠ '{' ∧ c ≠ '}' ∧ c ≠ '\n'

namespace OneLineStruct

/-- What stands between `struct` and the opening brace. -/
def gap (s : OneLineStruct) : List Char :=
  if s.spaced then [' '] else []

/-- The line of the declaration. -/
def line (s : OneLineStruct) : String :=
  String.ofList (structStart s.name s.gap) ++ " " ++ s.members ++ " \x7d"

/-- A text that follows the declaration declares what it declares on its own: the same functions,
and the same structs behind the one of the line. -/
def HidesNothing (s : OneLineStruct) (rest : String) : Prop :=
  (Declarations.ofSource (s.line ++ "\n" ++ rest)).functions
      = (Declarations.ofSource rest).functions ∧
    ∃ fields, (Declarations.ofSource (s.line ++ "\n" ++ rest)).structs
      = ⟨s.name.text, fields⟩ :: (Declarations.ofSource rest).structs

theorem isBlank_gap (s : OneLineStruct) : ∀ c ∈ s.gap, isBlank c = true := by
  unfold gap
  cases s.spaced with
  | false => simp
  | true => exact fun c => isBlank_of_mem_space

theorem isLine_line (s : OneLineStruct) : IsLine s.line.toList := by
  have hname : '\n' ∉ s.name.chars := s.name.not_mem (by decide)
  have hgap : '\n' ∉ s.gap := by
    unfold gap
    cases s.spaced <;> simp
  have hmembers : '\n' ∉ s.members.toList := fun h => (s.isPlain _ h).2.2 rfl
  have hstart : '\n' ∉ structStart s.name s.gap ++ (' ' :: s.members.toList) := by
    simp [structStart, hname, hgap, hmembers]
  have hline : s.line.toList
      = (structStart s.name s.gap ++ (' ' :: s.members.toList)) ++ [' ', '}'] := by
    simp [line]
  rw [hline]
  exact IsLine.append hstart (by decide) (by simp)

/-- The line opens a body that is read inside of one open brace. -/
theorem line_line (s : OneLineStruct) (doc : List String) (d : Declarations) :
    Reading.line ⟨.top doc, d⟩ s.line.toList = ⟨.body s.name.text [] 1, d⟩ := by
  have hline : s.line.toList
      = structStart s.name s.gap ++ (' ' :: (s.members.toList ++ [' ', '}'])) := by
    simp [line]
  obtain ⟨c, hc, hhead⟩ := head?_dropWhile_append s.hasMember [' ', '}']
  have hbehind : ((' ' :: (s.members.toList ++ [' ', '}'])).dropWhile isBlank).head? = some c := by
    simpa [show isBlank ' ' = true by decide] using hhead
  rw [hline, line_structStart doc d s.name s.isBlank_gap, hbehind]
  simp [(s.isPlain c hc).2.1]

/-- The lines behind the declaration are the body of its struct up to the line that closes it, and
only those behind that line are read on their own. -/
theorem ofSource_line_append (s : OneLineStruct) (rest : String) :
    Declarations.ofSource (s.line ++ "\n" ++ rest)
      = ({} : Declarations).addStruct
          ⟨s.name.text, bodyFields 1 (bodyLines 1 (lines rest.toList))⟩
        ++ Declarations.ofLines (afterBody 1 (lines rest.toList)) := by
  have hlines : lines (s.line ++ "\n" ++ rest).toList = s.line.toList :: lines rest.toList := by
    have htext : (s.line ++ "\n" ++ rest).toList = s.line.toList ++ '\n' :: rest.toList := by
      simp
    rw [htext, lines_append_newline s.isLine_line.1, s.isLine_line.dropReturn_eq]
  unfold Declarations.ofSource Declarations.ofLines
  rw [hlines, List.foldl_cons]
  show ((lines rest.toList).foldl Reading.line
    (Reading.line ⟨.top [], {}⟩ s.line.toList)).finish = _
  rw [s.line_line, Reading.finish_foldl_body]
  rfl

end OneLineStruct

/-! ## Which texts lose nothing -/

theorem depthAfter_of_comment {l : List Char} {text : String} (h : comment? l = some text)
    (depth : Nat) : depthAfter depth l = depth := by
  obtain ⟨t, ht, -⟩ := comment?_eq_some_iff.1 h
  have htrim : trim l <+: l.dropWhile isBlank := dropEndWhile_isPrefix isBlank _
  have hstart : ['/', '/'] <+: l.dropWhile isBlank := by
    rw [ht] at htrim
    exact (List.prefix_append ['/', '/'] t).trans htrim
  obtain ⟨comment, hcomment⟩ := hstart
  -- In front of the slashes there are blanks only.
  have hblank : ∀ c ∈ l.takeWhile isBlank, isBlank c = true := fun c hc => List.mem_takeWhile_imp hc
  have not_mem : ∀ c, isBlank c = false → c ∉ l.takeWhile isBlank := fun c hc =>
    not_mem_of_isBlank hblank hc
  have hcode : withoutComment false l = l.takeWhile isBlank := by
    have hl : l = l.takeWhile isBlank ++ ('/' :: '/' :: comment) := by
      have := List.takeWhile_append_dropWhile (p := isBlank) (l := l)
      rw [← hcomment] at this
      exact this.symm
    conv_lhs => rw [hl]
    rw [withoutComment_append_of_not_mem (not_mem _ (by decide)) (not_mem _ (by decide))]
    simp
  have hcounts : braceCounts (withoutComment false l) = (0, 0) := by
    apply braceCounts_of_isPaired
    rw [hcode, withoutTags_of_not_mem (not_mem _ (by decide))]
    exact isPaired_of_not_mem (not_mem _ (by decide)) (not_mem _ (by decide))
  simp [depthAfter, hcounts]

/-- No comment stands above the reader behind a line outside of structs that is no comment. -/
theorem doc_eq_nil_of_topLine {d : Declarations} {doc doc' : List String} {l : List Char}
    (h : (Reading.topLine d doc l).place = .top doc') : doc' = [] := by
  unfold Reading.topLine at h
  split at h
  · cases h; rfl
  · split at h
    · cases h; rfl
    · split at h
      · cases h; rfl
      · cases h
      · cases h; rfl

/-- Behind the line that closes a body no comment stands above a reader that has taken the lines of
the body for lines outside of structs. -/
theorem afterBody_eq_nil_or_doc_eq_nil {depth : Nat} (hdepth : depth ≠ 0)
    {ls : List (List Char)} {r : Reading} {doc : List String}
    (h : ((bodyLines depth ls).foldl Reading.line r).place = .top doc) :
    afterBody depth ls = [] ∨ doc = [] := by
  induction ls generalizing depth r with
  | nil => exact Or.inl rfl
  | cons l ls ih =>
    cases hafter : depthAfter depth l with
    | succ depth' =>
      simp only [bodyLines, hafter, List.foldl_cons] at h
      simp only [afterBody, hafter]
      exact ih (Nat.succ_ne_zero depth') h
    | zero =>
      right
      simp only [bodyLines, hafter, List.foldl_cons, List.foldl_nil] at h
      obtain ⟨place, d⟩ := r
      cases place with
      | top above =>
        cases hcomment : comment? l with
        | some text =>
          -- A comment line closes no block, so it cannot end the body.
          rw [depthAfter_of_comment hcomment] at hafter
          exact absurd hafter hdepth
        | none =>
          simp only [Reading.line, hcomment] at h
          exact doc_eq_nil_of_topLine h
      | body name fields depth' =>
        simp only [Reading.line] at h
        split at h
        · cases h; rfl
        · cases h

/-- The declarations of a text whose first lines would be taken for a struct body are those of
these lines and those of the other lines, if the first lines leave no struct open. -/
theorem ofLines_eq_append_of_top {ls : List (List Char)} {doc : List String}
    (h : ((bodyLines 1 ls).foldl Reading.line {}).place = .top doc) :
    Declarations.ofLines ls
      = Declarations.ofLines (bodyLines 1 ls) ++ Declarations.ofLines (afterBody 1 ls) := by
  have hsplit : Declarations.ofLines ls
      = ((afterBody 1 ls).foldl Reading.line
          ((bodyLines 1 ls).foldl Reading.line {})).finish := by
    rw [← List.foldl_append, bodyLines_append_afterBody]
    rfl
  rw [hsplit]
  unfold Declarations.ofLines
  rcases hread : (bodyLines 1 ls).foldl Reading.line {} with ⟨place, d⟩
  rw [hread] at h
  obtain rfl : place = .top doc := h
  rcases afterBody_eq_nil_or_doc_eq_nil Nat.one_ne_zero (by rw [hread]) with hnil | rfl
  · rw [hnil]
    exact (Declarations.append_empty d).symm
  · rw [Reading.finish_foldl_top]
    rfl

/-! ## What a one-line struct does to the text behind it -/

/-- The lines behind a struct declared on one line are its body up to the line that closes a brace
more than was opened; only those behind that line are read on their own. So nothing is hidden
exactly when the lines behind the body declare what the whole text declares on its own, and, if the
lines of the body open no struct that they leave open, exactly when these lines declare nothing. -/
theorem oneLineStruct_effect (s : OneLineStruct) (rest : String) :
    let body := bodyLines 1 (lines rest.toList)
    let left := Declarations.ofLines (afterBody 1 (lines rest.toList))
    Declarations.ofSource (s.line ++ "\n" ++ rest)
        = ({} : Declarations).addStruct ⟨s.name.text, bodyFields 1 body⟩ ++ left ∧
      (s.HidesNothing rest ↔
        left.functions = (Declarations.ofSource rest).functions ∧
          left.structs = (Declarations.ofSource rest).structs) ∧
      ((∃ doc, (body.foldl Reading.line {}).place = .top doc) →
        (s.HidesNothing rest ↔
          (Declarations.ofLines body).functions = [] ∧
            (Declarations.ofLines body).structs = [])) := by
  intro body left
  have heffect : Declarations.ofSource (s.line ++ "\n" ++ rest)
      = ({} : Declarations).addStruct ⟨s.name.text, bodyFields 1 body⟩ ++ left :=
    s.ofSource_line_append rest
  have hiff : s.HidesNothing rest ↔
      left.functions = (Declarations.ofSource rest).functions ∧
        left.structs = (Declarations.ofSource rest).structs := by
    unfold OneLineStruct.HidesNothing
    rw [heffect]
    simp [Declarations.addStruct]
  refine ⟨heffect, hiff, ?_⟩
  rintro ⟨doc, hdoc⟩
  have hrest : Declarations.ofSource rest = Declarations.ofLines body ++ left :=
    ofLines_eq_append_of_top hdoc
  rw [hiff, hrest]
  simp

/-- A struct with its members on one line, and a function behind it that is lost. -/
theorem oneLineStruct_hides_function :
    ¬ (OneLineStruct.mk ⟨"Point".toList, by decide, List.all_eq_true.1 (by decide)⟩ true "X int"
        ⟨'X', by simp, by decide⟩ (by simp)).HidesNothing "func F() \x7b\x7d\n" := by
  rintro ⟨hfunctions, -⟩
  revert hfunctions
  decide

end ApiDocs.GoSource
