import SchemaMatch.Script.Equality
import SchemaMatch.Script.Syntax

/-!
Contract: the cases of a switch.

Owns:
- which cases are for a value, by naming it or by a range.

Cases name values in every bit: an integer is for no float, and a sum of floats is rarely for the
float that it is written like.

Does not own: conditions of cases.
-/

namespace SchemaMatch.Script

namespace SelectCase

def values : SelectCase → List ScriptValue
  | .mk values _ _ => values

def guard : SelectCase → Option Expression
  | .mk _ guard _ => guard

def body : SelectCase → Expression
  | .mk _ _ body => body

/-- Whether a case of a switch names a value. -/
def names (subject : ScriptValue) (case : SelectCase) : Bool :=
  case.values.any subject.identical

/-- Whether a number is in a range. -/
def inRange (subject : ScriptValue) : ScriptValue → Bool
  | .range first last inclusive =>
      match subject with
      | .int value => first ≤ value && (if inclusive then value ≤ last else value < last)
      | .float value =>
          FloatArithmetic.lessEqual (.ofInt first) value &&
            (if inclusive then FloatArithmetic.lessEqual value (.ofInt last)
              else FloatArithmetic.less value (.ofInt last))
      | _ => false
  | _ => false

/-- Whether a value is in a range of a case. -/
def covers (subject : ScriptValue) (case : SelectCase) : Bool :=
  case.values.any (inRange subject)

def isRange : ScriptValue → Bool
  | .range .. => true
  | _ => false

def rangeCount (case : SelectCase) : Nat :=
  case.values.countP isRange

def hasRange (case : SelectCase) : Bool :=
  case.values.any isRange

/-- The cases of a switch that a value may take, in the order in which they are tried. A case
that names the value keeps those with ranges from being tried. -/
def candidates (subject : ScriptValue) (cases : List SelectCase) : List SelectCase :=
  let named := cases.filter (names subject)
  if named.isEmpty then cases.filter (covers subject) else named

end SelectCase

end SchemaMatch.Script
