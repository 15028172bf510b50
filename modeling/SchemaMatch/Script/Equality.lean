import SchemaMatch.Script.Arithmetic

/-!
Contract: when values of scripts are equal.

Owns:
- equality of items, which looks through the two kinds of numbers and into containers;
- whether two values are of one kind, and whether they are the same in every way.

Kinds that cannot be compared have no equality at all: asking for it is a fault. Items of
different kinds are just not equal; entries of maps are asked for without that exception.

Does not own: the operators that ask.
-/

namespace SchemaMatch.ScriptValue

open SchemaMatch.Script

/-- Values of one kind, for which comparisons are looked up, and not merely false. -/
def sameKind (left right : ScriptValue) : Bool :=
  left.foreignTypeName == right.foreignTypeName

/-- Kinds whose comparisons with other kinds do not exist. -/
def isForeign : ScriptValue → Bool
  | .range .. => true
  | .stream .. => true
  | _ => false

/-- Why two values cannot be compared. -/
def incomparable (left right : ScriptValue) : FaultCause :=
  .functionNotFound ("== (" ++ left.typeName ++ ", " ++ right.typeName ++ ")")

mutual

/-- Numbers are equal across the two kinds, containers by what they hold. -/
def equals : ScriptValue → ScriptValue → Except FaultCause Bool
  | .unit, .unit => .ok true
  | .bool left, .bool right => .ok (left == right)
  | .int left, .int right => .ok (left == right)
  | .float left, .float right => .ok (FloatArithmetic.near left right)
  | .int left, .float right => .ok (FloatArithmetic.near (.ofInt left) right)
  | .float left, .int right => .ok (FloatArithmetic.near left (.ofInt right))
  | .char left, .char right => .ok (left == right)
  | .string left, .string right => .ok (left == right)
  | .char left, .string right => .ok (left.toString == right)
  | .string left, .char right => .ok (left == right.toString)
  | .array left, .array right =>
      if left.length = right.length then equalItems left right else .ok false
  | .map left, .map right =>
      if left.length = right.length then equalEntries left right else .ok false
  | .range first last inclusive, .range otherFirst otherLast otherInclusive =>
      if inclusive = otherInclusive then .ok (first == otherFirst && last == otherLast)
      else .ok false
  | .blob left, .blob right => .ok (left == right)
  | .timestamp left, .timestamp right => .ok (left == right)
  | .function name curried, .function otherName otherCurried =>
      .error (incomparable (.function name curried) (.function otherName otherCurried))
  | .stream kind items, .stream otherKind otherItems =>
      if kind = otherKind then
        .error (incomparable (.stream kind items) (.stream otherKind otherItems))
      else .ok false
  | _, _ => .ok false

def equalItems : List ScriptValue → List ScriptValue → Except FaultCause Bool
  | left :: lefts, right :: rights => do
      if ← equals left right then equalItems lefts rights else return false
  | [], [] => .ok true
  | _, _ => .ok false

def equalEntries : List (String × ScriptValue) → List (String × ScriptValue) →
    Except FaultCause Bool
  | (key, left) :: lefts, (otherKey, right) :: rights => do
      if key ≠ otherKey then return false
      else if (left.isForeign || right.isForeign) && !left.sameKind right then
        throw (incomparable left right)
      else if ← equals left right then equalEntries lefts rights
      else return false
  | [], [] => .ok true
  | _, _ => .ok false

end

mutual

/-- Whether two values are the same in kind, in every bit and in all they hold. -/
def identical : ScriptValue → ScriptValue → Bool
  | .unit, .unit => true
  | .bool left, .bool right => left == right
  | .int left, .int right => left == right
  | .float left, .float right => decide (left = right)
  | .char left, .char right => left == right
  | .string left, .string right => left == right
  | .array left, .array right => identicalItems left right
  | .map left, .map right => identicalEntries left right
  | .range first last inclusive, .range otherFirst otherLast otherInclusive =>
      first == otherFirst && last == otherLast && inclusive == otherInclusive
  | .blob left, .blob right => left == right
  | .function name curried, .function otherName otherCurried =>
      name == otherName && identicalItems curried otherCurried
  | _, _ => false

def identicalItems : List ScriptValue → List ScriptValue → Bool
  | [], [] => true
  | left :: lefts, right :: rights => identical left right && identicalItems lefts rights
  | _, _ => false

def identicalEntries : List (String × ScriptValue) → List (String × ScriptValue) → Bool
  | [], [] => true
  | (key, left) :: lefts, (otherKey, right) :: rights =>
      key == otherKey && identical left right && identicalEntries lefts rights
  | _, _ => false

end

end SchemaMatch.ScriptValue
