import ApiDocs.GoSource.Reading
import ApiDocs.Proofs.GoSource.Braces
import ApiDocs.Proofs.Text.Runs

/-!
# How a reading goes on

Reading is a fold over lines, and what was declared before has no influence on what a line declares
(`Reading.foldl_line_after`). So a reading splits at every line at which the reader stands outside
of structs and below no comment (`Reading.finish_foldl_top`), and at the end of a struct body
(`Reading.finish_foldl_body`): the lines up to the one that closes the body (`bodyLines`) give the
fields, and those behind it (`afterBody`) are read as a text of their own.
-/

set_option autoImplicit false

namespace ApiDocs.GoSource

open Text

/-! ## Declarations one after the other -/

namespace Declarations

/-- The declarations of two texts that follow each other. The package of the second one counts if it
names one. -/
def append (a b : Declarations) : Declarations where
  package := if b.package = "" then a.package else b.package
  functions := a.functions ++ b.functions
  structs := a.structs ++ b.structs

instance : Append Declarations :=
  ⟨append⟩

@[simp]
theorem package_append (a b : Declarations) :
    (a ++ b).package = if b.package = "" then a.package else b.package := rfl

@[simp]
theorem functions_append (a b : Declarations) :
    (a ++ b).functions = a.functions ++ b.functions := rfl

@[simp]
theorem structs_append (a b : Declarations) : (a ++ b).structs = a.structs ++ b.structs := rfl

theorem ext {a b : Declarations} (hp : a.package = b.package) (hf : a.functions = b.functions)
    (hs : a.structs = b.structs) : a = b := by
  cases a
  cases b
  simp_all

@[simp]
theorem append_empty (a : Declarations) : a ++ ({} : Declarations) = a :=
  ext (by simp) (by simp) (by simp)

theorem append_addFunction (a b : Declarations) (f : Function) :
    a ++ b.addFunction f = (a ++ b).addFunction f :=
  ext rfl (List.append_assoc _ _ _).symm rfl

theorem append_addStruct (a b : Declarations) (s : Struct) :
    a ++ b.addStruct s = (a ++ b).addStruct s :=
  ext rfl rfl (List.append_assoc _ _ _).symm

end Declarations

theorem package?_ne_nil {l name : List Char} (h : package? l = some name) :
    String.ofList name ≠ "" := by
  unfold package? at h
  simp only [Option.bind_eq_bind, Option.bind_eq_some_iff, Option.pure_def, Option.some.injEq] at h
  obtain ⟨_, -, _, -, taken, htaken, rfl⟩ := h
  simpa using ne_nil_of_takeWhile1? htaken

namespace Reading

/-- The reading of a text that follows another one, with what the other one declares. -/
def after (d : Declarations) (r : Reading) : Reading :=
  ⟨r.place, d ++ r.declarations⟩

theorem topLine_after (d e : Declarations) (doc : List String) (l : List Char) :
    topLine (d ++ e) doc l = (topLine e doc l).after d := by
  unfold topLine
  cases hp : package? (trim l) with
  | some name =>
    have hne : String.ofList name ≠ "" := package?_ne_nil hp
    exact congrArg (Reading.mk _) (Declarations.ext (by simp [hne]) rfl rfl)
  | none =>
    cases functionHead? l with
    | some head => exact congrArg (Reading.mk _) (Declarations.append_addFunction d e _).symm
    | none =>
      cases structHead? l with
      | none => rfl
      | some head =>
        obtain ⟨name, closed⟩ := head
        cases closed with
        | true => exact congrArg (Reading.mk _) (Declarations.append_addStruct d e _).symm
        | false => rfl

/-- What was declared before a line has no influence on it. -/
theorem line_after (d : Declarations) (r : Reading) (l : List Char) :
    (r.after d).line l = (r.line l).after d := by
  obtain ⟨place, e⟩ := r
  cases place with
  | top doc =>
    simp only [line, after]
    cases comment? l with
    | some text => rfl
    | none => exact topLine_after d e doc l
  | body name fields depth =>
    simp only [line, after]
    cases depthAfter depth l with
    | zero => exact congrArg (Reading.mk _) (Declarations.append_addStruct d e _).symm
    | succ depth => rfl

/-- What was declared before some lines has no influence on them. -/
theorem foldl_line_after (d : Declarations) (r : Reading) (ls : List (List Char)) :
    ls.foldl line (r.after d) = (ls.foldl line r).after d := by
  induction ls generalizing r with
  | nil => rfl
  | cons l ls ih => rw [List.foldl_cons, List.foldl_cons, line_after, ih]

theorem finish_after (d : Declarations) (r : Reading) : (r.after d).finish = d ++ r.finish := by
  obtain ⟨place, e⟩ := r
  cases place with
  | top doc => rfl
  | body name fields depth => exact (Declarations.append_addStruct d e _).symm

/-- Lines that are read outside of structs and below no comment are read as a text of their own. -/
theorem finish_foldl_top (d : Declarations) (ls : List (List Char)) :
    (ls.foldl line ⟨.top [], d⟩).finish = d ++ Declarations.ofLines ls := by
  have start : (⟨.top [], d⟩ : Reading) = Reading.after d {} := by
    simp [after]
  rw [start, foldl_line_after, finish_after]
  rfl

end Reading

/-! ## Struct bodies -/

/-- The lines of a struct body that is read inside so many open braces, up to the line that closes
it. -/
def bodyLines (depth : Nat) : List (List Char) → List (List Char)
  | [] => []
  | l :: ls =>
    match depthAfter depth l with
    | 0 => [l]
    | depth => l :: bodyLines depth ls

/-- The lines behind a struct body that is read inside so many open braces. -/
def afterBody (depth : Nat) : List (List Char) → List (List Char)
  | [] => []
  | l :: ls =>
    match depthAfter depth l with
    | 0 => ls
    | depth => afterBody depth ls

/-- The fields that the lines of a struct body declare. -/
def bodyFields (depth : Nat) : List (List Char) → List Field
  | [] => []
  | l :: ls => (fieldAt? depth l).toList ++ bodyFields (depthAfter depth l) ls

theorem bodyLines_append_afterBody (depth : Nat) (ls : List (List Char)) :
    bodyLines depth ls ++ afterBody depth ls = ls := by
  induction ls generalizing depth with
  | nil => rfl
  | cons l ls ih =>
    simp only [bodyLines, afterBody]
    cases depthAfter depth l with
    | zero => rfl
    | succ depth => simp [ih]

/-- A line that opens or closes blocks adds no field to the struct. -/
theorem Reading.line_block {depth after : Nat} {l : List Char}
    (hblock : braceCounts (withoutComment false l) ≠ (0, 0)) (hafter : depthAfter depth l = after + 1)
    (name : String) (fields : List Field) (d : Declarations) :
    Reading.line ⟨.body name fields depth, d⟩ l = ⟨.body name fields (after + 1), d⟩ := by
  have hfield : fieldAt? depth l = none := if_neg fun h => hblock h.2
  simp only [Reading.line, hafter, hfield, Option.toList_none, List.append_nil]

/-- A struct body gives its struct the fields of its lines, and the lines behind it are read as a
text of their own. -/
theorem Reading.finish_foldl_body (name : String) (fields : List Field) (depth : Nat)
    (d : Declarations) (ls : List (List Char)) :
    (ls.foldl Reading.line ⟨.body name fields depth, d⟩).finish
      = d.addStruct ⟨name, fields ++ bodyFields depth (bodyLines depth ls)⟩
        ++ Declarations.ofLines (afterBody depth ls) := by
  -- Induction on the lines; the fields found so far and the depth change from line to line.
  induction ls generalizing fields depth with
  | nil => simp [finish, bodyLines, bodyFields, afterBody, Declarations.ofLines]
  | cons l ls ih =>
    simp only [List.foldl_cons, Reading.line, bodyLines, afterBody]
    cases hd : depthAfter depth l with
    | zero => simp [finish_foldl_top, bodyFields]
    | succ depth' => simp [ih, bodyFields, hd, List.append_assoc]

end ApiDocs.GoSource
