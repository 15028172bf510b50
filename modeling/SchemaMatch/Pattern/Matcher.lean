import SchemaMatch.Pattern.Syntax

/-!
Contract: whether a text contains a match of a pattern.

Owns:
- the positions a match may end at, for a set of positions it may start at, by recursion on
  the pattern;
- repetition as reachability, which stops when a round brings no new position.

Sets of positions are sorted lists. A pattern takes all start positions through at once, so
nested repetitions cost no more than rounds over the text.

Does not own: which of several matches a search would report.
-/

namespace SchemaMatch

namespace PatternTree

/-- The union of two sorted lists. The fuel is the sum of their lengths. -/
def mergeSorted : Nat → List Nat → List Nat → List Nat
  | 0, _, _ => []
  | _ + 1, [], right => right
  | _ + 1, left, [] => left
  | fuel + 1, first :: left, second :: right =>
      if first < second then first :: mergeSorted fuel left (second :: right)
      else if second < first then second :: mergeSorted fuel (first :: left) right
      else first :: mergeSorted fuel left right

def unite (left right : List Nat) : List Nat :=
  mergeSorted (left.length + right.length + 1) left right

/-- The elements of the first sorted list that the second lacks. -/
def missingSorted : Nat → List Nat → List Nat → List Nat
  | 0, _, _ => []
  | _ + 1, [], _ => []
  | _ + 1, left, [] => left
  | fuel + 1, first :: left, second :: right =>
      if first < second then first :: missingSorted fuel left (second :: right)
      else if second < first then missingSorted fuel (first :: left) right
      else missingSorted fuel left right

def without (left right : List Nat) : List Nat :=
  missingSorted (left.length + right.length + 1) left right

/-- Exactly `count` rounds of a step. No rounds are needed once no position is left. -/
def exactly (step : List Nat → List Nat) : Nat → List Nat → List Nat
  | 0, positions => positions
  | count + 1, positions =>
      if positions.isEmpty then [] else exactly step count (step positions)

/-- All positions within `rounds` steps of the frontier, together with those seen before. -/
def reach (step : List Nat → List Nat) : Nat → List Nat → List Nat → List Nat
  | 0, seen, _ => seen
  | rounds + 1, seen, frontier =>
      let next := without (step frontier) seen
      if next.isEmpty then seen else reach step rounds (unite seen next) next

def isWord (word : CharSet) : Option Char → Bool
  | none => false
  | some character => word.has character.toNat

/-- Whether a condition holds between two neighbours; none stands for an end of the text. -/
def holds (before after : Option Char) : Assertion → Bool
  | .textStart => before.isNone
  | .textEnd => after.isNone
  | .lineStart false => before.isNone || before == some '\n'
  | .lineStart true =>
      before.isNone || before == some '\n' || (before == some '\r' && after != some '\n')
  | .lineEnd false => after.isNone || after == some '\n'
  | .lineEnd true =>
      after.isNone || after == some '\r' || (after == some '\n' && before != some '\r')
  | .wordBoundary word => isWord word before != isWord word after
  | .notWordBoundary word => isWord word before == isWord word after
  | .wordStart word => !isWord word before && isWord word after
  | .wordEnd word => isWord word before && !isWord word after
  | .wordStartHalf word => !isWord word before
  | .wordEndHalf word => !isWord word after

/-- The neighbours of a position. -/
def neighbours (text : Array Char) (position : Nat) : Option Char × Option Char :=
  (if position = 0 then none else text[position - 1]?, text[position]?)

/-- The positions where a match can end that starts at one of the given positions. -/
def ends (text : Array Char) : PatternTree → List Nat → List Nat
  | .empty, positions => positions
  | .oneOf set, positions =>
      positions.filterMap fun position =>
        match text[position]? with
        | some character => if set.has character.toNat then some (position + 1) else none
        | none => none
  | .assertion condition, positions =>
      positions.filter fun position =>
        let (before, after) := neighbours text position
        holds before after condition
  | .sequence first second, positions => ends text second (ends text first positions)
  | .choice left right, positions => unite (ends text left positions) (ends text right positions)
  | .repetition body least most, positions =>
      let start := exactly (ends text body) least positions
      let rounds := match most with
        | some bound => min (bound - least) (text.size + 1)
        | none => text.size + 1
      reach (ends text body) rounds start start

/-- A match may start anywhere. -/
def occursIn (tree : PatternTree) (text : String) : Bool :=
  let characters := text.toList.toArray
  !(ends characters tree (List.range (characters.size + 1))).isEmpty

end PatternTree

end SchemaMatch
