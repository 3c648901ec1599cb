import ApiDocs.Proofs.Text.Ascii

/-!
# A fragment of Go

The part of Go that a function needs which takes a text apart at a separator, rewrites the parts in
place and joins them again: how it is written (`Function.lines`) and what it does (`Function.run`).
Texts are the bytes they are made of, so an index counts bytes and may fall inside of a character.
An index or a bound that is out of range ends a run with a fault. The other faults stand for what a
compiler reports: a name without a value of the kind that is asked for, and an end of the function
without a result.
-/

set_option autoImplicit false

namespace ApiDocs.GoProgram

open Text (bytes byteOf)

/-! ## Syntax -/

/-- A comparison. -/
inductive Test
  /-- The length is a number: `len(text) == n`. -/
  | lengthIs (text : String) (n : Nat)
  /-- The length is more than a number: `len(text) > n`. -/
  | isLonger (text : String) (n : Nat)
  /-- The byte at an index is a character of ASCII: `text[i] == 'c'`. -/
  | byteIs (text : String) (i : Nat) (c : Char)

/-- A part of a text that is put together with `+`. -/
inductive Part
  /-- A fixed text: `"text"`. -/
  | literal (text : String)
  /-- The bytes from an index on: `text[low:]`. -/
  | suffix (text : String) (low : Nat)

mutual

/-- Statements, one after the other. -/
inductive Block
  | done
  /-- The parts between characters of ASCII: `list := strings.Split(text, "c")`. -/
  | split (list text : String) (separator : Char) (rest : Block)
  /-- A loop: `for index, item := range list`. -/
  | forEach (index item list : String) (body rest : Block)
  | choose (choice : Choice) (rest : Block)
  /-- An assignment: `list[index] = part + … + part`. -/
  | store (list index : String) (parts : List Part) (rest : Block)
  /-- The end of an iteration: `continue`. -/
  | next
  /-- The result, with a character of ASCII between the parts: `return strings.Join(list, "c")`. -/
  | join (list : String) (separator : Char)

/-- Conditional blocks of which the first one is taken whose tests all hold. -/
inductive Choice
  /-- One conditional block: `if test && … && test`. -/
  | when (tests : List Test) (body : Block)
  /-- A conditional block and others after `else`. -/
  | whenElse (tests : List Test) (body : Block) (other : Choice)

end

/-- A function from a text to a text. -/
structure Function where
  name : String
  parameter : String
  body : Block

/-! ## Text -/

/-- A line at a depth of nesting. -/
def indented (depth : Nat) (line : String) : String :=
  String.ofList (List.replicate depth '\t') ++ line

/-- A text without characters that need an escape, as a literal. -/
def quoted (text : String) : String :=
  "\"" ++ text ++ "\""

def Test.source : Test → String
  | .lengthIs text n => "len(" ++ text ++ ") == " ++ n.repr
  | .isLonger text n => "len(" ++ text ++ ") > " ++ n.repr
  | .byteIs text i c => text ++ "[" ++ i.repr ++ "] == '" ++ c.toString ++ "'"

def Part.source : Part → String
  | .literal text => quoted text
  | .suffix text low => text ++ "[" ++ low.repr ++ ":]"

mutual

/-- The lines of statements at a depth of nesting. -/
def Block.lines (depth : Nat) : Block → List String
  | .done => []
  | .split list text separator rest =>
    indented depth (list ++ " := strings.Split(" ++ text ++ ", " ++ quoted separator.toString ++ ")")
      :: rest.lines depth
  | .forEach index item list body rest =>
    indented depth ("for " ++ index ++ ", " ++ item ++ " := range " ++ list ++ " \x7b")
      :: (body.lines (depth + 1) ++ indented depth "\x7d" :: rest.lines depth)
  | .choose choice rest => choice.lines depth "if " ++ rest.lines depth
  | .store list index parts rest =>
    indented depth (list ++ "[" ++ index ++ "] = " ++ " + ".intercalate (parts.map Part.source))
      :: rest.lines depth
  | .next => [indented depth "continue"]
  | .join list separator =>
    [indented depth ("return strings.Join(" ++ list ++ ", " ++ quoted separator.toString ++ ")")]

/-- The lines of conditional blocks, given what stands in front of the first tests. -/
def Choice.lines (depth : Nat) (opening : String) : Choice → List String
  | .when tests body =>
    indented depth (opening ++ " && ".intercalate (tests.map Test.source) ++ " \x7b")
      :: (body.lines (depth + 1) ++ [indented depth "\x7d"])
  | .whenElse tests body other =>
    indented depth (opening ++ " && ".intercalate (tests.map Test.source) ++ " \x7b")
      :: (body.lines (depth + 1) ++ other.lines depth "\x7d else if ")

end

def Function.lines (f : Function) : List String :=
  ("func " ++ f.name ++ "(" ++ f.parameter ++ " string) string \x7b") :: f.body.lines 1 ++ ["\x7d"]

/-! ## Names -/

/-- What a name can stand for. -/
inductive Value
  | number (n : Nat)
  | text (bytes : List UInt8)
  | texts (items : List (List UInt8))

/-- What ends a run before it has a result. -/
inductive Fault
  /-- The name is not declared, or it stands for a value of another kind. -/
  | noValue (name : String)
  | indexOutOfRange (index length : Nat)
  | sliceOutOfRange (low length : Nat)
  /-- The function ends without a result. -/
  | noReturn

/-- The names that are declared, the latest first. -/
abbrev Scope := List (String × Value)

def numberOf (name : String) (σ : Scope) : Except Fault Nat :=
  match σ.lookup name with
  | some (.number n) => .ok n
  | _ => .error (.noValue name)

def textOf (name : String) (σ : Scope) : Except Fault (List UInt8) :=
  match σ.lookup name with
  | some (.text bytes) => .ok bytes
  | _ => .error (.noValue name)

def textsOf (name : String) (σ : Scope) : Except Fault (List (List UInt8)) :=
  match σ.lookup name with
  | some (.texts items) => .ok items
  | _ => .error (.noValue name)

/-- The scope after the latest declaration of a name has got another value. -/
def assign (name : String) (value : Value) : Scope → Scope
  | [] => []
  | (declared, old) :: σ =>
    if name == declared then (declared, value) :: σ
    else (declared, old) :: assign name value σ

/-! ## Expressions -/

/-- The value of `items[index]`. -/
def itemAt {α : Type} (items : List α) (index : Nat) : Except Fault α :=
  match items[index]? with
  | some item => .ok item
  | none => .error (.indexOutOfRange index items.length)

/-- The value of `items[low:]`. -/
def itemsFrom {α : Type} (items : List α) (low : Nat) : Except Fault (List α) :=
  if low ≤ items.length then .ok (items.drop low)
  else .error (.sliceOutOfRange low items.length)

/-- The items after `items[index] = item`. -/
def itemsWith {α : Type} (items : List α) (index : Nat) (item : α) : Except Fault (List α) :=
  if index < items.length then .ok (items.set index item)
  else .error (.indexOutOfRange index items.length)

def Test.holds (σ : Scope) : Test → Except Fault Bool
  | .lengthIs text n => do return (← textOf text σ).length == n
  | .isLonger text n => do return decide ((← textOf text σ).length > n)
  | .byteIs text i c => do return (← itemAt (← textOf text σ) i) == byteOf c

/-- The value of `test && … && test`. No test is made after one that fails. -/
def allHold (σ : Scope) : List Test → Except Fault Bool
  | [] => .ok true
  | test :: tests => do if ← test.holds σ then allHold σ tests else return false

def Part.value (σ : Scope) : Part → Except Fault (List UInt8)
  | .literal text => .ok (bytes text)
  | .suffix text low => do itemsFrom (← textOf text σ) low

/-- The value of `part + … + part`. -/
def concatenation (σ : Scope) : List Part → Except Fault (List UInt8)
  | [] => .ok []
  | part :: parts => do return (← part.value σ) ++ (← concatenation σ parts)

/-! ## Statements -/

/-- How statements end. -/
inductive Outcome
  | finished (σ : Scope)
  /-- The iteration of the loop around them is to end. -/
  | continued (σ : Scope)
  | returned (result : List UInt8)

/-- The scope behind a block: the names that were declared in it are gone. -/
def leave (outer inner : Scope) : Scope :=
  inner.drop (inner.length - outer.length)

/-- The outcome of a conditional block is that of its statements. -/
def Outcome.ofBlock (outer : Scope) : Outcome → Outcome
  | .finished σ => .finished (leave outer σ)
  | .continued σ => .continued (leave outer σ)
  | .returned result => .returned result

/-- An iteration ends at the end of the body and at a `continue`. -/
def Outcome.ofIteration (outer : Scope) : Outcome → Outcome
  | .finished σ => .finished (leave outer σ)
  | .continued σ => .finished (leave outer σ)
  | .returned result => .returned result

/-- What follows on statements that finish. -/
def Outcome.andThen (next : Scope → Except Fault Outcome) : Outcome → Except Fault Outcome
  | .finished σ => next σ
  | outcome => .ok outcome

/-- The iteration for an index of a list. The item is the one that the list has when the iteration
starts. -/
def iterate (body : Scope → Except Fault Outcome) (index item list : String) (k : Nat) (σ : Scope) :
    Except Fault Outcome := do
  let bytes ← itemAt (← textsOf list σ) k
  let outcome ← body ((item, .text bytes) :: (index, .number k) :: σ)
  return outcome.ofIteration σ

/-- Iterations for indices, one after the other. -/
def loop (iteration : Nat → Scope → Except Fault Outcome) : List Nat → Scope → Except Fault Outcome
  | [], σ => .ok (.finished σ)
  | k :: ks, σ => do (← iteration k σ).andThen (loop iteration ks)

mutual

/-- What statements do. A loop over a list takes the indices that the list has at its start. -/
def Block.exec : Block → Scope → Except Fault Outcome
  | .done, σ => .ok (.finished σ)
  | .split list text separator rest, σ => do
    let items := (← textOf text σ).splitOn (byteOf separator)
    rest.exec ((list, .texts items) :: σ)
  | .forEach index item list body rest, σ => do
    let indices := List.range (← textsOf list σ).length
    (← loop (iterate body.exec index item list) indices σ).andThen rest.exec
  | .choose choice rest, σ => do (← choice.exec σ).andThen rest.exec
  | .store list index parts rest, σ => do
    let items ← textsOf list σ
    let k ← numberOf index σ
    let stored ← itemsWith items k (← concatenation σ parts)
    rest.exec (assign list (.texts stored) σ)
  | .next, σ => .ok (.continued σ)
  | .join list separator, σ => do
    return .returned ([byteOf separator].intercalate (← textsOf list σ))

/-- What conditional blocks do. -/
def Choice.exec : Choice → Scope → Except Fault Outcome
  | .when tests body, σ => do
    if ← allHold σ tests then return (← body.exec σ).ofBlock σ else return .finished σ
  | .whenElse tests body other, σ => do
    if ← allHold σ tests then return (← body.exec σ).ofBlock σ else other.exec σ

end

/-- The result of a function for an argument. -/
def Function.run (f : Function) (argument : List UInt8) : Except Fault (List UInt8) := do
  match ← f.body.exec [(f.parameter, .text argument)] with
  | .returned result => return result
  | _ => throw .noReturn

/-! ## Tests -/

section Rules

variable {σ σ' : Scope} {test : Test} {tests : List Test} {body rest : Block} {choice : Choice}

theorem bind_of_eq_ok {α β : Type} {x : Except Fault α} {a : α} (h : x = .ok a)
    (next : α → Except Fault β) : x >>= next = next a := by
  rw [h]
  rfl

theorem Test.holds_lengthIs {text : String} {s : List UInt8} (h : textOf text σ = .ok s) (n : Nat) :
    (Test.lengthIs text n).holds σ = .ok (s.length == n) := by
  rw [Test.holds, h]
  rfl

theorem Test.holds_isLonger {text : String} {s : List UInt8} (h : textOf text σ = .ok s) (n : Nat) :
    (Test.isLonger text n).holds σ = .ok (decide (s.length > n)) := by
  rw [Test.holds, h]
  rfl

/-- A byte may be looked at if there is one at the index. -/
theorem Test.holds_byteIs {text : String} {s : List UInt8} (h : textOf text σ = .ok s) {i : Nat}
    {b : UInt8} (hi : s[i]? = some b) (c : Char) :
    (Test.byteIs text i c).holds σ = .ok (b == byteOf c) := by
  have hitem : itemAt s i = .ok b := by rw [itemAt, hi]
  rw [Test.holds, bind_of_eq_ok h, bind_of_eq_ok hitem]
  rfl

theorem allHold_cons {first : Bool} (h : test.holds σ = .ok first) :
    allHold σ (test :: tests) = if first then allHold σ tests else .ok false := by
  rw [allHold, h]
  rfl

theorem allHold_singleton (σ : Scope) (test : Test) : allHold σ [test] = test.holds σ := by
  cases h : test.holds σ with
  | error fault => rw [allHold, h]; rfl
  | ok first =>
    rw [allHold_cons h, allHold]
    cases first <;> rfl

/-! ## Conditional blocks -/

theorem Block.exec_choose_of_finished (h : choice.exec σ = .ok (.finished σ')) :
    (Block.choose choice rest).exec σ = rest.exec σ' :=
  bind_of_eq_ok h _

theorem Block.exec_choose_of_continued (h : choice.exec σ = .ok (.continued σ')) :
    (Block.choose choice rest).exec σ = .ok (.continued σ') :=
  bind_of_eq_ok h _

theorem Choice.exec_when_of_not (h : allHold σ tests = .ok false) :
    (Choice.when tests body).exec σ = .ok (.finished σ) :=
  bind_of_eq_ok h _

theorem Choice.exec_whenElse_of_not (h : allHold σ tests = .ok false) :
    (Choice.whenElse tests body choice).exec σ = choice.exec σ :=
  bind_of_eq_ok h _

theorem Choice.exec_when {inner outcome : Outcome} (h : allHold σ tests = .ok true)
    (hbody : body.exec σ = .ok inner) (hleave : inner.ofBlock σ = outcome) :
    (Choice.when tests body).exec σ = .ok outcome := by
  subst hleave
  exact (bind_of_eq_ok h _).trans (bind_of_eq_ok hbody _)

theorem Choice.exec_whenElse {inner outcome : Outcome} (h : allHold σ tests = .ok true)
    (hbody : body.exec σ = .ok inner) (hleave : inner.ofBlock σ = outcome) :
    (Choice.whenElse tests body choice).exec σ = .ok outcome := by
  subst hleave
  exact (bind_of_eq_ok h _).trans (bind_of_eq_ok hbody _)

/-! ## Assignments, loops and calls -/

section Lists

variable {list index item : String} {items : List (List UInt8)} {k : Nat} {bytes : List UInt8}

/-- An item may be replaced if there is one at the index. -/
theorem Block.exec_store {parts : List Part} (hlist : textsOf list σ = .ok items)
    (hindex : numberOf index σ = .ok k) (hk : k < items.length)
    (hparts : concatenation σ parts = .ok bytes) :
    (Block.store list index parts rest).exec σ
      = rest.exec (assign list (.texts (items.set k bytes)) σ) := by
  have hstored : itemsWith items k bytes = .ok (items.set k bytes) := if_pos hk
  refine (bind_of_eq_ok hlist _).trans ?_
  refine (bind_of_eq_ok hindex _).trans ?_
  refine (bind_of_eq_ok hparts _).trans ?_
  exact bind_of_eq_ok hstored _

theorem iterate_eq (hlist : textsOf list σ = .ok items) (hitem : items[k]? = some bytes) :
    iterate body.exec index item list k σ
      = (body.exec ((item, .text bytes) :: (index, .number k) :: σ)).map (·.ofIteration σ) := by
  have hbytes : itemAt items k = .ok bytes := by rw [itemAt, hitem]
  rw [iterate, bind_of_eq_ok hlist, bind_of_eq_ok hbytes]
  rfl

theorem Block.exec_forEach (hlist : textsOf list σ = .ok items)
    (hloop : loop (iterate body.exec index item list) (List.range items.length) σ
      = .ok (.finished σ')) :
    (Block.forEach index item list body rest).exec σ = rest.exec σ' :=
  (bind_of_eq_ok hlist _).trans (bind_of_eq_ok hloop _)

theorem Function.run_of_returned {f : Function} {result : List UInt8}
    (h : f.body.exec [(f.parameter, .text bytes)] = .ok (.returned result)) :
    f.run bytes = .ok result := by
  rw [Function.run, bind_of_eq_ok h]
  rfl

end Lists

end Rules

/-! ## Runs of a loop -/

/-- A loop goes through the scopes that its iterations lead to. -/
theorem loop_range' {iteration : Nat → Scope → Except Fault Outcome} {scopes : Nat → Scope}
    (start n : Nat)
    (h : ∀ k, start ≤ k → k < start + n → iteration k (scopes k) = .ok (.finished (scopes (k + 1)))) :
    loop iteration (List.range' start n) (scopes start) = .ok (.finished (scopes (start + n))) := by
  induction n generalizing start with
  | zero => rfl
  | succ n ih =>
    rw [List.range'_succ, loop, h start (Nat.le_refl _) (by omega)]
    change loop iteration (List.range' (start + 1) n) (scopes (start + 1)) = _
    rw [ih (start + 1) fun k hk hlt => h k (by omega) (by omega), Nat.add_right_comm, Nat.add_assoc]

section InPlace

variable {α : Type} {f : α → α} {items : List α} {k : Nat}

/-- A list of which the items in front of an index are replaced. -/
def replacedBelow (f : α → α) (items : List α) (k : Nat) : List α :=
  (items.take k).map f ++ items.drop k

theorem replacedBelow_of_lt (hk : k < items.length) :
    replacedBelow f items k = (items.take k).map f ++ items[k] :: items.drop (k + 1) := by
  rw [replacedBelow, List.drop_eq_getElem_cons hk]

theorem length_map_take (hk : k < items.length) : ((items.take k).map f).length = k := by
  rw [List.length_map, List.length_take_of_le (Nat.le_of_lt hk)]

theorem getElem?_replacedBelow (hk : k < items.length) :
    (replacedBelow f items k)[k]? = some items[k] := by
  rw [replacedBelow_of_lt hk, List.getElem?_append_right (Nat.le_of_eq (length_map_take hk)),
    length_map_take hk, Nat.sub_self]
  rfl

theorem set_replacedBelow (hk : k < items.length) :
    (replacedBelow f items k).set k (f items[k]) = replacedBelow f items (k + 1) := by
  rw [replacedBelow_of_lt hk, List.set_append_right k _ (Nat.le_of_eq (length_map_take hk)),
    length_map_take hk, Nat.sub_self, List.set_cons_zero, replacedBelow,
    List.take_succ_eq_append_getElem hk, List.map_append, List.append_assoc]
  rfl

/-- A loop whose iterations replace the items of a list, each in its place, replaces them all. -/
theorem loop_range_set {iteration : Nat → Scope → Except Fault Outcome} {scopeOf : List α → Scope}
    (h : ∀ items k, ∀ hk : k < items.length,
      iteration k (scopeOf items) = .ok (.finished (scopeOf (items.set k (f items[k])))))
    (items : List α) :
    loop iteration (List.range items.length) (scopeOf items)
      = .ok (.finished (scopeOf (items.map f))) := by
  have hstep (k : Nat) (hk : k < items.length) :
      iteration k (scopeOf (replacedBelow f items k))
        = .ok (.finished (scopeOf (replacedBelow f items (k + 1)))) := by
    obtain ⟨hlength, hitem⟩ := List.getElem?_eq_some_iff.1 (getElem?_replacedBelow (f := f) hk)
    rw [h _ k hlength, hitem, set_replacedBelow hk]
  have hrun := loop_range' 0 items.length fun k _ hk => hstep k (by omega)
  have hall : replacedBelow f items items.length = items.map f := by
    rw [replacedBelow, List.take_length, List.drop_length, List.append_nil]
  rwa [Nat.zero_add, hall, ← List.range_eq_range'] at hrun

end InPlace

end ApiDocs.GoProgram
