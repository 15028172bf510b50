import SchemaMatch.Value.Basic

/-!
Contract: the two equalities of values.

Owns:
- strict equality, which compares primitives by value and callables by identity and holds for
  no pair of containers, dates or regexes;
- structural equality, which also looks into those.

Does not own: equality up to the order of fields, which neither relation forgives.
-/

namespace SchemaMatch.Value

/-- Primitives compare by value and callables by identity; nothing else is equal. -/
def strictEqual : Value → Value → Bool
  | .undefined, .undefined => true
  | .null, .null => true
  | .bool left, .bool right => left == right
  | .number left, .number right => left.equal right
  | .string left, .string right => left == right
  | .function left, .function right => left.id == right.id
  | .classTag left, .classTag right => left.same right
  | _, _ => false

/-- Whether two objects carry tags of one class, or none. -/
def sameTag : Option Class → Option Class → Bool
  | none, none => true
  | some left, some right => left.same right
  | _, _ => false

mutual

/-- Dates compare by instant, regexes by source, arrays item by item, objects by tag and by
their fields in order, and all else strictly. -/
def equal : Value → Value → Bool
  | .date left, .date right => left == right
  | .regex left, .regex right => left.source == right.source
  | .array left, .array right => equalItems left right
  | .object leftTag left, .object rightTag right =>
      sameTag leftTag rightTag && equalFields left right
  | left, right => strictEqual left right

def equalItems : List Value → List Value → Bool
  | [], [] => true
  | left :: leftRest, right :: rightRest => equal left right && equalItems leftRest rightRest
  | _, _ => false

def equalFields : List (String × Value) → List (String × Value) → Bool
  | [], [] => true
  | (leftKey, left) :: leftRest, (rightKey, right) :: rightRest =>
      leftKey == rightKey && equal left right && equalFields leftRest rightRest
  | _, _ => false

end

end SchemaMatch.Value
