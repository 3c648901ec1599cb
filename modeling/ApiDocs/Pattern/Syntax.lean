import ApiDocs.Pattern.CharSet

/-!
# Patterns

Regular expressions as trees. Nothing is kept that only matters for where a match lies: groups are
gone, and repetitions are neither greedy nor lazy.
-/

set_option autoImplicit false

namespace ApiDocs

namespace Pattern

/-- A condition on the place between two characters of a text. -/
inductive Condition
  | textStart
  | textEnd
  /-- The start of a line; lines end in a line feed. -/
  | lineStart
  /-- The end of a line; lines end in a line feed. -/
  | lineEnd
  /-- The start of a line; lines end in a line feed, a carriage return or both. -/
  | returnLineStart
  /-- The end of a line; lines end in a line feed, a carriage return or both. -/
  | returnLineEnd
  | wordBoundary (isWord : CharSet)
  | noWordBoundary (isWord : CharSet)
  | wordStart (isWord : CharSet)
  | wordEnd (isWord : CharSet)
  | noWordBefore (isWord : CharSet)
  | noWordAfter (isWord : CharSet)

end Pattern

/-- A regular expression. -/
inductive Pattern
  | empty
  | oneOf (set : Pattern.CharSet)
  | condition (c : Pattern.Condition)
  | sequence (p q : Pattern)
  | choice (p q : Pattern)
  /-- A pattern so many times; without an upper limit if there is none. -/
  | times (p : Pattern) (least : Nat) (most : Option Nat)

end ApiDocs
