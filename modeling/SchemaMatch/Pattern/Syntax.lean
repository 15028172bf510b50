import SchemaMatch.Pattern.CharSet

/-!
Contract: the syntax trees of patterns.

Owns:
- the expressions a pattern denotes and the assertions about a position in a text.

Captures and greediness are absent: a pattern is only ever asked whether a text contains a
match, and neither changes the answer.

Does not own: the notation of patterns or the search for a match.
-/

namespace SchemaMatch

/-- A condition on a position between two characters. -/
inductive Assertion where
  | textStart
  | textEnd
  /-- The start of a line; with `carriage`, a carriage return ends lines too. -/
  | lineStart (carriage : Bool)
  | lineEnd (carriage : Bool)
  | wordBoundary (word : CharSet)
  | notWordBoundary (word : CharSet)
  | wordStart (word : CharSet)
  | wordEnd (word : CharSet)
  /-- No word character stands before the position. -/
  | wordStartHalf (word : CharSet)
  /-- No word character stands after the position. -/
  | wordEndHalf (word : CharSet)
deriving DecidableEq, Repr

inductive PatternTree where
  | empty
  | oneOf (set : CharSet)
  | assertion (condition : Assertion)
  | sequence (first second : PatternTree)
  | choice (left right : PatternTree)
  /-- At least `least` copies, and at most `most` if there is a bound. -/
  | repetition (body : PatternTree) (least : Nat) (most : Option Nat)
deriving DecidableEq, Repr

end SchemaMatch
