import ApiDocs.Pattern.Syntax

/-!
# Matching

Whether a pattern matches somewhere in a text. A pattern takes a set of places in the text to the
set of places where a match that starts at one of them can end.
-/

set_option autoImplicit false

namespace ApiDocs.Pattern

/-- Whether a character is there and in a set. -/
def isIn (set : CharSet) : Option Char → Bool
  | some c => set c
  | none => false

namespace Condition

/-- Whether a condition holds between two characters; either is missing at an end of the text. -/
def holds (before after : Option Char) : Condition → Bool
  | textStart => before.isNone
  | textEnd => after.isNone
  | lineStart => before.isNone || before == some '\n'
  | lineEnd => after.isNone || after == some '\n'
  | returnLineStart =>
    before.isNone || before == some '\n' || (before == some '\r' && after != some '\n')
  | returnLineEnd =>
    after.isNone || after == some '\r' || (after == some '\n' && before != some '\r')
  | wordBoundary w => isIn w before != isIn w after
  | noWordBoundary w => isIn w before == isIn w after
  | wordStart w => !isIn w before && isIn w after
  | wordEnd w => isIn w before && !isIn w after
  | noWordBefore w => !isIn w before
  | noWordAfter w => !isIn w after

end Condition

/-- The character before a place. -/
def charBefore (text : Array Char) (place : Nat) : Option Char :=
  if place = 0 then none else text[place - 1]?

/-- Places with the ones that a step leads to from them, the step taken up to so many times. -/
def spread (step : List Nat → List Nat) : Nat → List Nat → List Nat
  | 0, places => places
  | n + 1, places =>
    let more := (step places).filter fun place => !places.contains place
    if more.isEmpty then places else spread step n (places ++ more)

/-- The places that a step leads to when it is taken so many times. -/
def walk (step : List Nat → List Nat) : Nat → List Nat → List Nat
  | 0, places => places
  | n + 1, places => if places.isEmpty then [] else walk step n (step places)

/-- The places where a match can end that starts at one of some places. -/
def ends (text : Array Char) : Pattern → List Nat → List Nat
  | .empty, places => places
  | .oneOf set, places => (places.filter fun place => isIn set text[place]?).map (· + 1)
  | .condition c, places => places.filter fun place => c.holds (charBefore text place) text[place]?
  | .sequence p q, places => q.ends text (p.ends text places)
  | .choice p q, places => (p.ends text places ++ q.ends text places).eraseDups
  | .times p least most, places =>
    spread (p.ends text)
      (match most with
        | some n => n - least
        | none => text.size + 1)
      (walk (p.ends text) least places)

/-- Whether a pattern matches somewhere in a text. -/
def isMatch (p : Pattern) (text : String) : Bool :=
  let chars := text.toList.toArray
  !(p.ends chars (List.range (chars.size + 1))).isEmpty

end ApiDocs.Pattern
