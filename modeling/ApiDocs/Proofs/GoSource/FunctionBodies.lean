import ApiDocs.Proofs.GoSource.Heads
import ApiDocs.Proofs.GoSource.Reading

/-!
# Function bodies

The lines of a function body are read like other lines, and as they are indented they open no
function and no struct. A package clause, however, is looked for behind the blanks of a line, so a
line of a body that reads like one, in a text literal say, renames the package. What a text declares
is therefore the same for all bodies of a function except for its package
(`bodies_change_package_only`), which is taken from the last such line unless the text behind the
function names its package itself.
-/

set_option autoImplicit false

namespace ApiDocs.GoSource

open Text

/-- A line as it stands in a function body: empty, or behind a space or a tab. -/
def IsIndented (l : List Char) : Prop :=
  ∀ c, l.head? = some c → c = ' ' ∨ c = '\t'

/-- The lines around the body of a function. -/
structure FunctionFrame where
  above : List (List Char)
  header : List Char
  below : List (List Char)
  isHead : "func".toList <+: header
  /-- The lines above leave no struct body open. -/
  outside : ∃ doc, (above.foldl Reading.line {}).place = .top doc

/-- A source text in which a body stands in the frame. -/
structure FunctionFrame.Filled (f : FunctionFrame) where
  source : String
  body : List (List Char)
  isIndented : ∀ l ∈ body, IsIndented l
  lines_eq : lines source.toList = f.above ++ f.header :: (body ++ ['}'] :: f.below)

/-- The package that the last line of a body names that reads like a package clause. -/
def lastClause? (body : List (List Char)) : Option (List Char) :=
  (body.filterMap fun l => package? (trim l)).getLast?

/-- The declarations with another package, if there is one. -/
def Declarations.inPackage (d : Declarations) (name : Option (List Char)) : Declarations :=
  { d with package := (name.map String.ofList).getD d.package }

/-! ## Lines of a body -/

/-- A comment is no package clause. -/
theorem package?_of_comment {l : List Char} {text : String} (h : comment? l = some text) :
    package? (trim l) = none := by
  obtain ⟨rest, hrest, -⟩ := comment?_eq_some_iff.1 h
  rw [hrest]
  simp [package?, List.isPrefixOf?]

/-- A line of a body can only rename the package. -/
theorem line_indented {l : List Char} (hl : IsIndented l) (doc : List String) (d : Declarations) :
    ∃ doc', Reading.line ⟨.top doc, d⟩ l = ⟨.top doc', d.inPackage (package? (trim l))⟩ := by
  have hfunction : functionHead? l = none := by
    cases l with
    | nil => rfl
    | cons c l =>
      apply functionHead?_cons
      rcases hl c rfl with rfl | rfl <;> decide
  have hstruct : structHead? l = none := by
    cases l with
    | nil => rfl
    | cons c l =>
      apply structHead?_cons
      rcases hl c rfl with rfl | rfl <;> decide
  cases hcomment : comment? l with
  | some text =>
    refine ⟨doc ++ [text], ?_⟩
    simp only [Reading.line, hcomment, package?_of_comment hcomment]
    rfl
  | none =>
    refine ⟨[], ?_⟩
    simp only [Reading.line, hcomment, Reading.topLine, hfunction, hstruct]
    cases package? (trim l) <;> rfl

theorem lastClause?_cons (l : List Char) (ls : List (List Char)) :
    lastClause? (l :: ls) = (lastClause? ls).or (package? (trim l)) := by
  unfold lastClause?
  rw [List.filterMap_cons]
  cases package? (trim l) with
  | none => simp
  | some name => rw [List.getLast?_cons]; cases (List.getLast? _) <;> rfl

theorem inPackage_inPackage (d : Declarations) (first second : Option (List Char)) :
    (d.inPackage first).inPackage second = d.inPackage (second.or first) := by
  cases second <;> rfl

/-- A whole body can only rename the package, and the last line that does so decides. -/
theorem foldl_line_indented {body : List (List Char)} (hbody : ∀ l ∈ body, IsIndented l)
    (doc : List String) (d : Declarations) :
    ∃ doc', body.foldl Reading.line ⟨.top doc, d⟩ = ⟨.top doc', d.inPackage (lastClause? body)⟩ := by
  induction body generalizing doc d with
  | nil => exact ⟨doc, rfl⟩
  | cons l ls ih =>
    obtain ⟨hl, hls⟩ := List.forall_mem_cons.1 hbody
    obtain ⟨doc₁, hline⟩ := line_indented hl doc d
    obtain ⟨doc₂, hlines⟩ := ih hls doc₁ (d.inPackage (package? (trim l)))
    refine ⟨doc₂, ?_⟩
    rw [List.foldl_cons, hline, hlines, lastClause?_cons, inPackage_inPackage]

/-! ## The frame -/

/-- Below the header of a function no comment stands above the reader, and no struct is open. -/
theorem place_header {header : List Char} (hhead : "func".toList <+: header) (doc : List String)
    (d : Declarations) : (Reading.line ⟨.top doc, d⟩ header).place = .top [] := by
  obtain ⟨rest, rfl⟩ := hhead
  have hcomment : comment? ("func".toList ++ rest) = none :=
    comment?_cons (by decide) (by decide) _
  have hpackage : package? (trim ("func".toList ++ rest)) = none :=
    package?_trim_cons (by decide) (by decide) _
  have hstruct : structHead? ("func".toList ++ rest) = none := structHead?_cons (by decide) _
  simp only [Reading.line, hcomment, Reading.topLine, hpackage, hstruct]
  cases functionHead? ("func".toList ++ rest) <;> rfl

theorem line_closingBrace (doc : List String) (d : Declarations) :
    Reading.line ⟨.top doc, d⟩ ['}'] = ⟨.top [], d⟩ := by
  have hcomment : comment? ['}'] = none := comment?_cons (by decide) (by decide) _
  have hpackage : package? (trim ['}']) = none := package?_trim_cons (by decide) (by decide) _
  simp only [Reading.line, hcomment, Reading.topLine, hpackage]
  rfl

namespace FunctionFrame

variable (f : FunctionFrame)

/-- What the lines up to the body declare. -/
def start : Declarations :=
  .ofLines (f.above ++ [f.header])

theorem foldl_line_start :
    (f.above ++ [f.header]).foldl Reading.line {} = ⟨.top [], f.start⟩ := by
  unfold start Declarations.ofLines
  rw [List.foldl_append, List.foldl_cons, List.foldl_nil]
  obtain ⟨doc, hdoc⟩ := f.outside
  rcases hread : f.above.foldl Reading.line {} with ⟨place, d⟩
  rw [hread] at hdoc
  obtain rfl : place = .top doc := hdoc
  have hplace := place_header f.isHead doc d
  rcases hline : Reading.line ⟨.top doc, d⟩ f.header with ⟨place, d'⟩
  rw [hline] at hplace
  obtain rfl : place = .top [] := hplace
  rfl

/-- A text declares what the lines up to the body and those below it declare, but the body may have
renamed the package in between. -/
theorem ofSource_filled (t : f.Filled) :
    Declarations.ofSource t.source
      = f.start.inPackage (lastClause? t.body) ++ Declarations.ofLines f.below := by
  obtain ⟨doc', hbody⟩ := foldl_line_indented t.isIndented [] f.start
  have hsplit : f.above ++ f.header :: (t.body ++ ['}'] :: f.below)
      = (f.above ++ [f.header]) ++ t.body ++ [['}']] ++ f.below := by simp
  unfold Declarations.ofSource
  rw [t.lines_eq, hsplit, Declarations.ofLines, List.foldl_append, List.foldl_append,
    List.foldl_append, f.foldl_line_start, hbody, List.foldl_cons, List.foldl_nil, line_closingBrace,
    Reading.finish_foldl_top]

/-- The package of the lines up to the end of a body. -/
def packageWith (body : List (List Char)) : String :=
  (f.start.inPackage (lastClause? body)).package

end FunctionFrame

/-- What a text declares is the same for all bodies of a function, except for the package. The
package is that of the text below the function if it names one, and else that of the last line of
the body that reads like a package clause, or of the text above if there is none. So two bodies
make no difference exactly when the text below names the package or both leave the same one. -/
theorem bodies_change_package_only (f : FunctionFrame) (s t : f.Filled) :
    (Declarations.ofSource s.source).functions = (Declarations.ofSource t.source).functions ∧
      (Declarations.ofSource s.source).structs = (Declarations.ofSource t.source).structs ∧
      (Declarations.ofSource s.source).package
        = (if (Declarations.ofLines f.below).package = "" then f.packageWith s.body
          else (Declarations.ofLines f.below).package) ∧
      (Declarations.ofSource s.source = Declarations.ofSource t.source ↔
        (Declarations.ofLines f.below).package ≠ "" ∨
          f.packageWith s.body = f.packageWith t.body) := by
  have hfunctions : (Declarations.ofSource s.source).functions
      = (Declarations.ofSource t.source).functions := by
    rw [f.ofSource_filled, f.ofSource_filled]
    rfl
  have hstructs : (Declarations.ofSource s.source).structs
      = (Declarations.ofSource t.source).structs := by
    rw [f.ofSource_filled, f.ofSource_filled]
    rfl
  have hpackage : ∀ u : f.Filled, (Declarations.ofSource u.source).package
      = if (Declarations.ofLines f.below).package = "" then f.packageWith u.body
        else (Declarations.ofLines f.below).package := by
    intro u
    rw [f.ofSource_filled, Declarations.package_append]
    rfl
  refine ⟨hfunctions, hstructs, hpackage s, ?_⟩
  have hiff : Declarations.ofSource s.source = Declarations.ofSource t.source ↔
      (Declarations.ofSource s.source).package = (Declarations.ofSource t.source).package :=
    ⟨congrArg Declarations.package, fun h => Declarations.ext h hfunctions hstructs⟩
  rw [hiff, hpackage s, hpackage t]
  by_cases hbelow : (Declarations.ofLines f.below).package = ""
  · simp [hbelow]
  · simp [hbelow]

/-! ## A body that renames the package -/

/-- A function behind a package clause. -/
def usageFrame : FunctionFrame where
  above := ["package p".toList, []]
  header := "func Usage() string \x7b".toList
  below := []
  isHead := ⟨_, rfl⟩
  outside := ⟨[], by decide⟩

/-- Its body returns a text literal with a line that reads like a package clause. -/
def usageWithClause : usageFrame.Filled where
  source := "package p\n\nfunc Usage() string \x7b\n\treturn \x60\n package q\n \x60\n\x7d\n"
  body := ["\treturn \x60".toList, " package q".toList, " \x60".toList]
  isIndented := by simp [IsIndented]
  lines_eq := by decide

/-- Its body returns a text literal without such a line. -/
def usageWithoutClause : usageFrame.Filled where
  source := "package p\n\nfunc Usage() string \x7b\n\treturn \x60\n \x60\n\x7d\n"
  body := ["\treturn \x60".toList, " \x60".toList]
  isIndented := by simp [IsIndented]
  lines_eq := by decide

theorem body_renames_package :
    (Declarations.ofSource usageWithClause.source).package = "q" ∧
      (Declarations.ofSource usageWithoutClause.source).package = "p" := by
  decide

end ApiDocs.GoSource
