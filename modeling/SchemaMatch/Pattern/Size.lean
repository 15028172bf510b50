import SchemaMatch.Number.Power
import SchemaMatch.Pattern.Syntax

/-!
Contract: how large patterns are when they are made ready for matching.

Owns:
- an estimate of the bytes that a pattern takes, where every copy of what is repeated counts;
- the greatest size.

The estimate is linear in the copies, so it tells patterns of ordinary size from those whose
repetitions multiply, and says little about patterns near the limit.

Does not own: matching.
-/

namespace SchemaMatch

namespace CharSet

def isAscii : CharSet → Bool
  | .empty => true
  | .range _ last => last < 0x80
  | .union left right => left.isAscii && right.isAscii
  | .intersection left right => left.isAscii || right.isAscii
  | .difference left _ => left.isAscii
  | .symmetricDifference left right => left.isAscii && right.isAscii
  | .anyCase set => set.isAscii
  | .anyAsciiCase set => set.isAscii
  | _ => false

/-- About how many ranges of code points a set has. -/
def rangeCount : CharSet → Nat
  | .empty => 0
  | .range .. => 1
  | .digits => 70
  | .wordCharacters => 770
  | .blanks => 10
  | .category _ => 130
  | .script _ => 30
  | .union left right => left.rangeCount + right.rangeCount
  | .intersection left right => left.rangeCount + right.rangeCount
  | .difference left right => left.rangeCount + right.rangeCount
  | .symmetricDifference left right => left.rangeCount + right.rangeCount
  | .complement set => set.rangeCount + 15
  | .anyCase set => 2 * set.rangeCount
  | .anyAsciiCase set => 2 * set.rangeCount

/-- The bytes of one character out of a set: a step for each byte of a single character, one step
with all ranges of ASCII, and steps of their own for other ranges. -/
def size : CharSet → Nat
  | .range first last =>
      if first = last then 32 * (Char.ofNat first).utf8Size
      else if last < 0x80 then 72
      else 60
  | set => if set.isAscii then 64 + 8 * set.rangeCount else 60 * set.rangeCount

end CharSet

namespace PatternTree

/-- The bytes of a pattern. -/
def size : PatternTree → Nat
  | .empty => 32
  | .oneOf set => set.size
  | .assertion _ => 32
  | .sequence first second => first.size + second.size
  | .choice left right => left.size + right.size + 72
  | .repetition body least most =>
      match most with
      | some most => most * body.size + (most - least) * 40
      | none => max least 1 * body.size + 72

def sizeLimit : Nat := 10 * 2 ^ 20

end PatternTree

end SchemaMatch
