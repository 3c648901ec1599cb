import ApiDocs.Pattern.Syntax

/-!
# Reading patterns

The text of a pattern is read from left to right. Flags hold from where they are set to the end of
the group around them. A text that breaks a rule of the notation is no pattern: an operator without
an operand, an unclosed group or class, an unknown escape, a reference to a group, a condition on
text outside the match, or a count that is no range.
-/

set_option autoImplicit false

namespace ApiDocs.Pattern

/-- What holds while a part of a pattern is read. -/
structure Flags where
  /-- Letters match in either case. -/
  ignoreCase : Bool := false
  /-- The start and the end of the text are those of a line. -/
  multiLine : Bool := false
  /-- The dot matches line breaks. -/
  dotAll : Bool := false
  /-- Lines may end in carriage returns. -/
  carriageReturn : Bool := false
  /-- Classes hold characters of all scripts. -/
  unicode : Bool := true
  /-- Blanks and comments in the pattern do not count. -/
  extended : Bool := false

/-- A part of a pattern that was read, with measures that are limited. -/
structure Part where
  pattern : Pattern
  /-- How deeply groups, repetitions and classes are nested in the part. -/
  depth : Nat := 0
  /-- Roughly how many steps an automaton for the part has. -/
  steps : Nat := 1

/-- The deepest nesting that is allowed. -/
def maxDepth : Nat := 250

/-- The largest number of steps that is allowed. -/
def maxSteps : Nat := 330000

/-- An item of a sequence: a part, or a setting of flags, to which no operator applies. -/
inductive Item
  | part (p : Part)
  | flags

namespace Flags

/-- The set of a class, in either case if case does not matter. -/
def close (f : Flags) (s : CharSet) : CharSet :=
  if f.ignoreCase then if f.unicode then s.closeUnderCase else s.closeUnderAsciiCase else s

/-- The characters of words. -/
def wordSet (f : Flags) : CharSet :=
  .ofShorthand f.unicode 'w'

/-- The complement of a set, where it is wanted. Without characters of all scripts no set has a
complement, since that would hold parts of characters. -/
def complement? (f : Flags) (negated : Bool) (s : CharSet) : Option CharSet :=
  if negated && !f.unicode then none else some (s.complementIf negated)

/-- The set that a dot stands for. -/
def dot? (f : Flags) : Option CharSet :=
  if !f.unicode then none
  else if f.dotAll then some fun _ => true
  else if f.carriageReturn then some fun c => c != '\n' && c != '\r'
  else some fun c => c != '\n'

/-- The condition for the start of the text or a line. -/
def start (f : Flags) : Condition :=
  if !f.multiLine then .textStart else if f.carriageReturn then .returnLineStart else .lineStart

/-- The condition for the end of the text or a line. -/
def finish (f : Flags) : Condition :=
  if !f.multiLine then .textEnd else if f.carriageReturn then .returnLineEnd else .lineEnd

end Flags

/-- A text without the blanks and comments at its start. A comment goes from a number sign to the
end of the line. -/
def skipComments (inComment : Bool) : List Char → List Char
  | [] => []
  | c :: rest =>
    if inComment then skipComments (c != '\n') rest
    else if Text.isBlank c then skipComments false rest
    else if c = '#' then skipComments true rest
    else c :: rest

/-- A text without what does not count at its start. -/
def Flags.skip (f : Flags) (s : List Char) : List Char :=
  if f.extended then skipComments false s else s

/-- A text between braces without the blanks in it, where blanks do not count. -/
def Flags.plain (f : Flags) (s : List Char) : List Char :=
  if f.extended then s.filter fun c => !Text.isBlank c else s

/-- The sequence of items. -/
def Part.ofItems (items : List Item) : Part :=
  let parts := items.filterMap fun | .part p => some p | .flags => none
  { pattern :=
      match parts with
      | [] => .empty
      | p :: ps => ps.foldl (fun a b => .sequence a b.pattern) p.pattern
    depth := (parts.map Part.depth).foldl max 0 + if items.length ≥ 2 then 1 else 0
    steps := parts.foldl (fun n p => n + p.steps) 0 }

/-- The choice between sequences, which come last one first. -/
def Part.ofChoices (last : Part) (before : List Part) : Part :=
  match before with
  | [] => last
  | _ =>
    { pattern := before.foldl (fun a b => .choice b.pattern a) last.pattern
      depth := (before.map Part.depth).foldl max last.depth + 1
      steps := before.foldl (fun n p => n + p.steps) (last.steps + before.length) }

/-- A part so many times. -/
def Part.times (p : Part) (least : Nat) (most : Option Nat) : Part :=
  { pattern := .times p.pattern least most
    depth := p.depth + 1
    steps := p.steps * max 1 (most.getD (least + 1)) + 1 }

/-- The items with the last one repeated. -/
def repeatLast? (items : List Item) (least : Nat) (most : Option Nat) : Option (List Item) :=
  match items.getLast? with
  | some (.part p) => some (items.dropLast ++ [.part (p.times least most)])
  | _ => none

/-- The value of a hexadecimal digit. -/
def hexDigitValue? (c : Char) : Option Nat :=
  if '0' ≤ c ∧ c ≤ '9' then some (c.toNat - 48)
  else if 'a' ≤ c ∧ c ≤ 'f' then some (c.toNat - 87)
  else if 'A' ≤ c ∧ c ≤ 'F' then some (c.toNat - 55)
  else none

/-- The character of a code in hexadecimal digits. -/
def charOfHex? (digits : List Char) : Option Char := do
  let n ← digits.foldlM (fun n c => (hexDigitValue? c).map (n * 16 + ·)) 0
  if digits ≠ [] ∧ n.isValidChar then some (Char.ofNat n) else none

/-- The code of a character after the letter of an escape: in braces, or so many digits. -/
def readHex? (f : Flags) (count : Nat) (s : List Char) : Option (Char × List Char) :=
  match f.skip s with
  | '{' :: rest => do
    let c ← charOfHex? (f.plain (rest.takeWhile (· ≠ '}')))
    match rest.dropWhile (· ≠ '}') with
    | _ :: rest => some (c, rest)
    | [] => none
  | s =>
    if s.length < count then none
    else (charOfHex? (s.take count)).map fun c => (c, s.drop count)

/-- The place of the first occurrence of a word in a text. -/
def splitAtWord? (word : List Char) : List Char → Option (List Char × List Char)
  | [] => none
  | c :: rest =>
    match word.isPrefixOf? (c :: rest) with
    | some after => some ([], after)
    | none => (splitAtWord? word rest).map fun r => (c :: r.1, r.2)

/-- The set of the text in the braces of a property class, and whether its complement is meant. -/
def propertySet? (body : List Char) : Option (CharSet × Bool) :=
  let withValue (parts : List Char × List Char) : Option CharSet :=
    CharSet.ofNameAndValue? (CharSet.propertyKey parts.1) (CharSet.propertyKey parts.2)
  match splitAtWord? "!=".toList body with
  | some parts => (withValue parts).map (·, true)
  | none =>
    match (splitAtWord? [':'] body).or (splitAtWord? ['='] body) with
    | some parts => (withValue parts).map (·, false)
    | none => (CharSet.ofName? (CharSet.propertyKey body)).map (·, false)

/-- The set of a property class after its letter. -/
def readProperty? (f : Flags) (negated : Bool) (s : List Char) : Option (CharSet × List Char) := do
  if !f.unicode then none
  let (set, flipped, rest) ←
    match f.skip s with
    | [] => none
    | '\\' :: _ => none
    | '{' :: rest =>
      match rest.dropWhile (· ≠ '}') with
      | _ :: after =>
        (propertySet? (f.plain (rest.takeWhile (· ≠ '}')))).map fun r => (r.1, r.2, after)
      | [] => none
    | c :: rest => (CharSet.ofName? (CharSet.propertyKey [c])).map fun set => (set, false, rest)
  return ((f.close set).complementIf (negated != flipped), rest)

/-- The character that a letter stands for after a backslash. -/
def escapedChar? : Char → Option Char
  | 'a' => some '\x07'
  | 'f' => some '\x0c'
  | 't' => some '\t'
  | 'n' => some '\n'
  | 'r' => some '\r'
  | 'v' => some '\x0b'
  | c =>
    if c.toNat < 128 && !c.isAlphanum && c != '<' && c != '>' then some c else none

/-- Whether a character can occur in the braces behind a word boundary. -/
def isBoundaryName (c : Char) : Bool :=
  c.isAlpha || c == '-'

/-- The condition behind the escape of a word boundary: a named one in braces, if there is one. -/
def readBoundary? (f : Flags) (s : List Char) : Option (Condition × List Char) :=
  match s with
  | '{' :: rest =>
    match f.skip rest with
    | [] => none
    | c :: _ =>
      if isBoundaryName c then
        match rest.dropWhile (· ≠ '}') with
        | [] => none
        | _ :: after =>
          match String.ofList (f.plain (rest.takeWhile (· ≠ '}'))) with
          | "start" => some (.wordStart f.wordSet, after)
          | "end" => some (.wordEnd f.wordSet, after)
          | "start-half" => some (.noWordBefore f.wordSet, after)
          | "end-half" => some (.noWordAfter f.wordSet, after)
          | _ => none
      else some (.wordBoundary f.wordSet, s)
  | _ => some (.wordBoundary f.wordSet, s)

/-- What an escape stands for. -/
inductive Escape
  /-- A character, and whether it is given by a code of two digits. -/
  | char (c : Char) (isByte : Bool)
  | set (s : CharSet)
  | condition (c : Condition)

/-- The escape after a backslash. -/
def readEscape? (f : Flags) (s : List Char) : Option (Escape × List Char) :=
  match s with
  | [] => none
  | c :: rest =>
    if c.isDigit then none
    else if c = 'x' then (readHex? f 2 rest).map fun r => (.char r.1 true, r.2)
    else if c = 'u' then (readHex? f 4 rest).map fun r => (.char r.1 false, r.2)
    else if c = 'U' then (readHex? f 8 rest).map fun r => (.char r.1 false, r.2)
    else if c = 'p' ∨ c = 'P' then
      (readProperty? f (c == 'P') rest).map fun r => (.set r.1, r.2)
    else if c = 'd' ∨ c = 's' ∨ c = 'w' then some (.set (.ofShorthand f.unicode c), rest)
    else if c = 'D' ∨ c = 'S' ∨ c = 'W' then
      (f.complement? true (.ofShorthand f.unicode c.toLower)).map fun s => (.set s, rest)
    else if c = 'A' then some (.condition .textStart, rest)
    else if c = 'z' then some (.condition .textEnd, rest)
    else if c = 'b' then (readBoundary? f rest).map fun r => (.condition r.1, r.2)
    else if c = 'B' then some (.condition (.noWordBoundary f.wordSet), rest)
    else if c = '<' then some (.condition (.wordStart f.wordSet), rest)
    else if c = '>' then some (.condition (.wordEnd f.wordSet), rest)
    else (escapedChar? c).map fun c => (.char c false, rest)

/-- A named ASCII class after its opening bracket. -/
def readAsciiClass? (f : Flags) (s : List Char) : Option (Option CharSet × List Char) := do
  let body ← [':'].isPrefixOf? s
  let (negated, body) :=
    match body with
    | '^' :: body => (true, body)
    | _ => (false, body)
  let set ← CharSet.ofAsciiClass? (String.ofList (body.takeWhile (· ≠ ':')))
  let rest ← [':', ']'].isPrefixOf? (body.dropWhile (· ≠ ':'))
  return (f.complement? negated (f.close set), rest)

/-- A character or a set in a class. -/
def readClassItem? (f : Flags) (s : List Char) : Option (Escape × List Char) :=
  match s with
  | [] => none
  | '\\' :: rest => readEscape? f rest
  | c :: rest => some (.char c false, rest)

/-- A character in a class; without characters of all scripts only an ASCII one. -/
def classChar? (f : Flags) : Escape → Option Char
  | .char c _ => if f.unicode || c.toNat < 128 then some c else none
  | _ => none

/-- The set of an item of a class. -/
def classSet? (f : Flags) : Escape → Option CharSet
  | .char c isByte => (classChar? f (.char c isByte)).map CharSet.single
  | .set s => some s
  | .condition _ => none

/-- A character, a set or a range in a class. A dash is a range unless a bracket or another dash
follows it. -/
def readClassRange? (f : Flags) (s : List Char) : Option (CharSet × List Char) := do
  let (first, rest) ← readClassItem? f s
  match f.skip rest with
  | '-' :: rest =>
    match f.skip rest with
    | [] => none
    | c :: more =>
      if c = ']' ∨ c = '-' then return (← classSet? f first, '-' :: rest)
      else
        let (last, rest) ← readClassItem? f (c :: more)
        let a ← classChar? f first
        let b ← classChar? f last
        if a ≤ b then return (.range a b, rest) else none
  | rest => return (← classSet? f first, rest)

/-- How two sets in a class are combined. -/
inductive ClassOp
  | intersection
  | difference
  | symmetricDifference

/-- The combination of two sets. -/
def ClassOp.apply (op : ClassOp) (s t : CharSet) : CharSet :=
  match op with
  | intersection => fun c => s c && t c
  | difference => fun c => s c && !t c
  | symmetricDifference => fun c => s c != t c

/-- The set before an operator combined with the set after it. -/
def combine (f : Flags) (before : Option (CharSet × ClassOp)) (s : CharSet) : CharSet :=
  match before with
  | none => s
  | some (t, op) => op.apply (f.close t) (f.close s)

/-- The operator at the start of a text, if there is one. -/
def readClassOp? : List Char → Option (ClassOp × List Char)
  | '&' :: '&' :: rest => some (.intersection, rest)
  | '-' :: '-' :: rest => some (.difference, rest)
  | '~' :: '~' :: rest => some (.symmetricDifference, rest)
  | _ => none

/-- The dashes at the start of a class, which stand for themselves. -/
def skipDashes (f : Flags) : Nat → List Char → Bool × List Char
  | n + 1, '-' :: rest => (true, (skipDashes f n (f.skip rest)).2)
  | _, s => (false, s)

/-- The start of a class after its opening bracket: whether it is negated, and the set of the
dashes and the bracket that stand for themselves there. -/
def readClassStart (f : Flags) (s : List Char) : Bool × CharSet × List Char :=
  let (negated, s) :=
    match f.skip s with
    | '^' :: rest => (true, f.skip rest)
    | s => (false, s)
  match skipDashes f s.length s with
  | (true, s) => (negated, .single '-', s)
  | (false, ']' :: rest) => (negated, .single ']', rest)
  | (false, s) => (negated, .none, s)

/-- The items of a class up to its closing bracket. The first argument bounds the number of calls;
the length of the text is enough. -/
def readClassItems (f : Flags) : Nat → Option (CharSet × ClassOp) → CharSet → List Char →
    Option (CharSet × List Char)
  | 0, _, _, _ => none
  | n + 1, before, set, s =>
    match f.skip s with
    | [] => none
    | ']' :: rest => some (combine f before set, rest)
    | '[' :: rest =>
      match readAsciiClass? f rest with
      | some (some named, rest) => readClassItems f n before (set.union named) rest
      | some (none, _) => none
      | none =>
        let (negated, start, inner) := readClassStart f rest
        match readClassItems f n none start inner with
        | none => none
        | some (nested, rest) =>
          match f.complement? negated (f.close nested) with
          | none => none
          | some nested => readClassItems f n before (set.union nested) rest
    | s =>
      match readClassOp? s with
      | some (op, rest) => readClassItems f n (some (combine f before set, op)) .none rest
      | none =>
        match readClassRange? f s with
        | none => none
        | some (range, rest) => readClassItems f n before (set.union range) rest

/-- The class after its opening bracket. -/
def readClass? (f : Flags) (s : List Char) : Option (CharSet × List Char) := do
  let (negated, start, rest) := readClassStart f s
  let (set, rest) ← readClassItems f (s.length + 1) none start rest
  return (← f.complement? negated (f.close set), rest)

/-- The number of decimal digits with blanks around them. -/
def count? (s : List Char) : Option Nat :=
  let digits := Text.trim s
  if digits ≠ [] ∧ digits.all Char.isDigit ∧ decimalOfDigits digits < 4294967296 then
    some (decimalOfDigits digits)
  else none

/-- The limits of a repetition in braces, after the opening brace. -/
def readCounts? (f : Flags) (s : List Char) : Option (Nat × Option Nat × List Char) := do
  let body := f.plain (s.takeWhile (· ≠ '}'))
  let rest ←
    match s.dropWhile (· ≠ '}') with
    | _ :: rest => some rest
    | [] => none
  match Text.pieces ',' body with
  | [count] => do
    let n ← count? count
    return (n, some n, rest)
  | [least, []] => return (← count? least, none, rest)
  | [least, most] => do
    let a ← count? least
    let b ← count? most
    if a ≤ b then return (a, some b, rest) else none
  | _ => none

/-- A text without the mark of a lazy repetition at its start. -/
def dropLazy (s : List Char) : List Char :=
  match s with
  | '?' :: rest => rest
  | _ => s

/-- The flags with the flag of a letter set. -/
def Flags.set? (f : Flags) (letter : Char) (value : Bool) : Option Flags :=
  match letter with
  | 'i' => some { f with ignoreCase := value }
  | 'm' => some { f with multiLine := value }
  | 's' => some { f with dotAll := value }
  | 'R' => some { f with carriageReturn := value }
  | 'u' => some { f with unicode := value }
  | 'x' => some { f with extended := value }
  | 'U' => some f
  | _ => none

/-- The flags after letters, of which those after a dash are taken away. No letter may occur twice,
and a letter has to follow the dash. -/
def readFlags? (seen : List Char) (value : Bool) (f : Flags) : List Char → Option Flags
  | [] => if seen.head? = some '-' then none else some f
  | c :: rest =>
    if c ∈ seen then none
    else if c = '-' then readFlags? (c :: seen) false f rest
    else
      match f.set? c value with
      | some f => readFlags? (c :: seen) value f rest
      | none => none

/-- Whether a character can stand in the name of a group. -/
def isNameChar (isFirst : Bool) (c : Char) : Bool :=
  c == '_' || c.isAlpha || (128 ≤ c.toNat && Text.isWord c)
    || (!isFirst && (c == '.' || c == '[' || c == ']' || c.isDigit))

/-- The name of a group up to the closing bracket, if it is one. -/
def readName? (s : List Char) : Option (List Char × List Char) :=
  let name := s.takeWhile (· ≠ '>')
  match name, s.dropWhile (· ≠ '>') with
  | c :: more, _ :: rest =>
    if isNameChar true c && more.all (isNameChar false) then some (name, rest) else none
  | _, _ => none

/-- What opens with a parenthesis. -/
inductive Opening
  /-- A group, read with some flags. -/
  | group (f : Flags) (names : List (List Char)) (rest : List Char)
  /-- A setting of flags for the rest of the group around it. -/
  | flags (f : Flags) (rest : List Char)

/-- The head of a group after its parenthesis. -/
def readOpening? (f : Flags) (names : List (List Char)) (s : List Char) : Option Opening :=
  match f.skip s with
  | '?' :: rest =>
    let named := ("P<".toList.isPrefixOf? rest).or (['<'].isPrefixOf? rest)
    match named with
    | some body =>
      if body.head? = some '=' ∨ body.head? = some '!' then none
      else
        match readName? body with
        | some (name, rest) =>
          if name ∈ names then none else some (.group f (name :: names) rest)
        | none => none
    | none =>
      let letters := rest.takeWhile fun c => c != ':' && c != ')'
      match readFlags? [] true f letters, rest.dropWhile fun c => c != ':' && c != ')' with
      | some g, ':' :: rest => some (.group g names rest)
      | some g, ')' :: rest => if letters = [] then none else some (.flags g rest)
      | _, _ => none
  | rest => some (.group f names rest)

/-- The number of bytes of a character in UTF-8. -/
def charSteps (c : Char) : Nat :=
  c.utf8Size

/-- A part that matches one character of a set. -/
def setPart (set : CharSet) (steps : Nat) : Part :=
  { pattern := .oneOf set, steps }

/-- The part for a character that stands for itself. Without characters of all scripts a code of
two digits may not lead out of ASCII. -/
def charPart? (f : Flags) (c : Char) (isByte : Bool) : Option Part :=
  if isByte && !f.unicode && 128 ≤ c.toNat then none
  else some (setPart (f.close (.single c)) (charSteps c))

/-- The part for an escape. -/
def escapePart? (f : Flags) : Escape → Option Part
  | .char c isByte => charPart? f c isByte
  | .set s => some (setPart s (if f.unicode then 700 else 2))
  | .condition c => some { pattern := .condition c }

/-- A part that is no group, class or repetition. -/
def readPrimitive? (f : Flags) : List Char → Option (Part × List Char)
  | [] => none
  | '\\' :: rest => do
    let (e, rest) ← readEscape? f rest
    return (← escapePart? f e, rest)
  | '.' :: rest => f.dot?.map fun s => (setPart s 12, rest)
  | '^' :: rest => some ({ pattern := .condition f.start }, rest)
  | '$' :: rest => some ({ pattern := .condition f.finish }, rest)
  | c :: rest => (charPart? f c false).map fun p => (p, rest)

/-- The part of a class of characters. -/
def classPart (set : CharSet) : Part :=
  { pattern := .oneOf set, depth := 1, steps := 12 }

/-- The part of a group. -/
def groupPart (p : Part) : Part :=
  { p with depth := p.depth + 1, steps := p.steps + 2 }

/-- Reads up to a closing parenthesis or the end: the part, the names of groups, and what is left.
The sequences before the last bar come last one first. The first argument bounds the number of
calls; the length of the text is enough. -/
def readPart (f : Flags) (names : List (List Char)) (choices : List Part) (items : List Item) :
    Nat → List Char → Option (Part × List (List Char) × List Char)
  | 0, _ => none
  | n + 1, s =>
    match f.skip s with
    | [] => some (.ofChoices (.ofItems items) choices, names, [])
    | ')' :: rest => some (.ofChoices (.ofItems items) choices, names, ')' :: rest)
    | '|' :: rest => readPart f names (.ofItems items :: choices) [] n rest
    | '(' :: rest =>
      match readOpening? f names rest with
      | none => none
      | some (.flags g rest) => readPart g names choices (items ++ [.flags]) n rest
      | some (.group g names rest) =>
        match readPart g names [] [] n rest with
        | some (p, names, ')' :: rest) =>
          readPart f names choices (items ++ [.part (groupPart p)]) n rest
        | _ => none
    | '[' :: rest =>
      match readClass? f rest with
      | some (set, rest) => readPart f names choices (items ++ [.part (classPart set)]) n rest
      | none => none
    | '{' :: rest =>
      match readCounts? f rest with
      | some (least, most, rest) =>
        match repeatLast? items least most with
        | some items => readPart f names choices items n (dropLazy (f.skip rest))
        | none => none
      | none => none
    | c :: rest =>
      let counts :=
        if c = '?' then some (0, some 1)
        else if c = '*' then some (0, none)
        else if c = '+' then some (1, none)
        else none
      match counts with
      | some (least, most) =>
        match repeatLast? items least most with
        | some items => readPart f names choices items n (dropLazy rest)
        | none => none
      | none =>
        match readPrimitive? f (c :: rest) with
        | some (p, rest) => readPart f names choices (items ++ [.part p]) n rest
        | none => none

/-- The pattern of a text, if it is one. -/
def read? (text : String) : Option Pattern :=
  match readPart {} [] [] [] (text.length + 1) text.toList with
  | some (p, _, []) =>
    if p.depth ≤ maxDepth ∧ p.steps ≤ maxSteps then some p.pattern else none
  | _ => none

end ApiDocs.Pattern
