import SchemaMatch.Script.Clock
import SchemaMatch.Script.Equality
import SchemaMatch.Script.Token
import SchemaMatch.Text.Utf8

/-!
Contract: what operators of scripts do to values.

Owns:
- the operations that count as one step with their operands, and those that count as calls;
- operators joined to assignments.

Values of different kinds are never equal and never in order, except that ranges can only be
compared with ranges. Other operations across kinds do not exist unless one operand is a string.

Does not own: operators that need not look at both operands.
-/

namespace SchemaMatch.Script

namespace Operators

abbrev Result := Except FaultCause ScriptValue

/-- A comparison of two values that are in order, less and equal or not. -/
def compare? (operator : BinaryOperator) (isLess isEqual : Bool) : Option Bool :=
  match operator with
  | .equal => some isEqual
  | .notEqual => some (!isEqual)
  | .less => some isLess
  | .lessEqual => some (isLess || isEqual)
  | .greater => some (!isLess && !isEqual)
  | .greaterEqual => some (!isLess)
  | _ => none

def comparison? (operator : BinaryOperator) (isLess isEqual : Bool) : Option Result :=
  (compare? operator isLess isEqual).map fun answer => .ok (.bool answer)

def onInts? (operator : BinaryOperator) (left right : Int) : Option Result :=
  let checked (result : Arithmetic.IntResult) : Option Result := some (result.map .int)
  let total (result : Int) : Option Result := some (.ok (.int result))
  match operator with
  | .add => checked (Arithmetic.add left right)
  | .subtract => checked (Arithmetic.subtract left right)
  | .multiply => checked (Arithmetic.multiply left right)
  | .divide => checked (Arithmetic.divide left right)
  | .modulo => checked (Arithmetic.modulo left right)
  | .power => checked (Arithmetic.power left right)
  | .shiftLeft => total (Arithmetic.shift left right)
  | .shiftRight => total (Arithmetic.shift left (-right))
  | .bitAnd => total (Arithmetic.bitAnd left right)
  | .bitOr => total (Arithmetic.bitOr left right)
  | .bitXor => total (Arithmetic.bitXor left right)
  | .range => some (.ok (.range left right false))
  | .rangeInclusive => some (.ok (.range left right true))
  | _ => comparison? operator (left < right) (left == right)

/-- Comparisons allow for a tolerance. With not-a-number none of them holds. -/
def onFloats? (operator : BinaryOperator) (left right : Binary64) : Option Result :=
  let total (result : Binary64) : Option Result := some (.ok (.float result))
  let answer (holds : Bool) : Option Result := some (.ok (.bool holds))
  match operator with
  | .add => total (FloatArithmetic.add left right)
  | .subtract => total (FloatArithmetic.subtract left right)
  | .multiply => total (FloatArithmetic.multiply left right)
  | .divide => total (FloatArithmetic.divide left right)
  | .modulo => total (FloatArithmetic.modulo left right)
  | .power => total (FloatArithmetic.power left right)
  | .equal => answer (FloatArithmetic.near left right)
  | .notEqual => answer (FloatArithmetic.apart left right)
  | .less => answer (FloatArithmetic.above right left)
  | .lessEqual => answer (FloatArithmetic.reaches right left)
  | .greater => answer (FloatArithmetic.above left right)
  | .greaterEqual => answer (FloatArithmetic.reaches left right)
  | _ => none

def onBools? (operator : BinaryOperator) (left right : Bool) : Option Result :=
  let total (result : Bool) : Option Result := some (.ok (.bool result))
  match operator with
  | .bitAnd => total (left && right)
  | .bitOr => total (left || right)
  | .bitXor => total (left != right)
  | _ => comparison? operator (!left && right) (left == right)

/-- A text without the parts that equal another one. -/
def removeAll (text part : String) : String :=
  if part.isEmpty then text else text.replace part ""

def onStrings? (operator : BinaryOperator) (left right : String) : Option Result :=
  match operator with
  | .add => some (.ok (.string (left ++ right)))
  | .subtract => some (.ok (.string (removeAll left right)))
  | _ => comparison? operator (left < right) (left == right)

def onChars? (operator : BinaryOperator) (left right : Char) : Option Result :=
  match operator with
  | .add => some (.ok (.string (String.ofList [left, right])))
  | _ => comparison? operator (left < right) (left == right)

/-- Ranges of one kind are equal or not, and have no order. -/
def onRanges? (operator : BinaryOperator) (same : Bool) : Option Result :=
  match operator with
  | .equal => some (.ok (.bool same))
  | .notEqual => some (.ok (.bool (!same)))
  | _ => none

def onBlobs? (operator : BinaryOperator) (left right : List UInt8) : Option Result :=
  match operator with
  | .add => some (.ok (.blob (left ++ right)))
  | .equal => some (.ok (.bool (left == right)))
  | .notEqual => some (.ok (.bool (left != right)))
  | _ => none

/-- Units are equal, and nothing else holds of them, not even that one is at most the other. -/
def onUnits? (operator : BinaryOperator) : Option Result :=
  (compare? operator false true).map fun _ => .ok (.bool (operator == .equal))

/-- Comparisons across kinds. -/
def unequal? (operator : BinaryOperator) : Option Result :=
  (compare? operator false false).map fun _ => .ok (.bool (operator == .notEqual))

/-- A range without one of its ends goes from zero or up to the last integer. -/
def openRange? (operator : BinaryOperator) (first last : Int) : Option Result :=
  match operator with
  | .range => some (.ok (.range first last false))
  | .rangeInclusive => some (.ok (.range first last true))
  | _ => none

/-- What an operator does to values of the basic kinds, in one step with its operands. -/
def builtin? (operator : BinaryOperator) (left right : ScriptValue) : Option Result :=
  match left, right with
  | .int left, .int right => onInts? operator left right
  | .float left, .float right => onFloats? operator left right
  | .int left, .float right => onFloats? operator (.ofInt left) right
  | .float left, .int right => onFloats? operator left (.ofInt right)
  | .bool left, .bool right => onBools? operator left right
  | .string left, .string right => onStrings? operator left right
  | .char left, .char right => onChars? operator left right
  | .string left, .char right => onStrings? operator left right.toString
  | .char left, .string right =>
      if operator = .subtract then none else onStrings? operator left.toString right
  | .unit, .unit => onUnits? operator <|> openRange? operator 0 Int64Range.greatest
  | .string left, .unit =>
      if operator = .add then some (.ok (.string left)) else unequal? operator
  | .unit, .string right =>
      if operator = .add then some (.ok (.string right)) else unequal? operator
  | .unit, .int last => openRange? operator 0 last <|> unequal? operator
  | .int first, .unit => openRange? operator first Int64Range.greatest <|> unequal? operator
  | .range first last inclusive, .range otherFirst otherLast otherInclusive =>
      if inclusive = otherInclusive then
        onRanges? operator (first == otherFirst && last == otherLast)
      else none
  | .blob left, .blob right => onBlobs? operator left right
  | _, _ =>
      if left.sameKind right || left.isForeign || right.isForeign then none
      else unequal? operator

/-- Put the entries of a map over those of another. -/
def mergeEntries (entries others : List (String × ScriptValue)) :
    List (String × ScriptValue) :=
  others.foldl (fun merged (key, value) => ScriptValue.insertSorted key value merged) entries

/-- The text that a value adds to a string. -/
def appended : ScriptValue → String
  | .blob bytes => Text.decodeLossily bytes
  | value => value.printed

/-- What an operator does by a call of the library. -/
def library? (operator : BinaryOperator) (left right : ScriptValue) : Option Result :=
  let comparison (answer : Except FaultCause Bool) : Option Result :=
    match operator with
    | .equal => some (answer.map .bool)
    | .notEqual => some (answer.map fun answer => .bool (!answer))
    | _ => none
  match left, right with
  | .array first, .array second =>
      if operator = .add then some (.ok (.array (first ++ second)))
      else comparison (left.equals right)
  | .map first, .map second =>
      if operator = .add then some (.ok (.map (mergeEntries first second)))
      else comparison (left.equals right)
  | .timestamp instant, .timestamp other =>
      if operator = .subtract then some (.ok (.float (Clock.secondsBetween other instant)))
      else comparison? operator (instant < other) (instant == other)
  | .timestamp instant, .int seconds =>
      match operator with
      | .add => some (Clock.later instant seconds)
      | .subtract => some (Clock.later instant (-seconds))
      | _ => none
  | .timestamp instant, .float seconds =>
      match operator with
      | .add => some (Clock.laterByFloat instant seconds)
      | .subtract => some (Clock.laterByFloat instant seconds.negated)
      | _ => none
  | .string first, _ =>
      if operator = .add then some (.ok (.string (first ++ appended right))) else none
  | _, .string second =>
      if operator = .add then some (.ok (.string (appended left ++ second))) else none
  | _, _ => none

/-- What an operator joined to an assignment makes of a value in one step, where that is not the
operator followed by an assignment. -/
def assigned? (operator : BinaryOperator) (left right : ScriptValue) : Option Result :=
  match operator, left, right with
  | .add, .array items, .array more => some (.ok (.array (items ++ more)))
  | .add, .array items, item => some (.ok (.array (items ++ [item])))
  | .add, .blob bytes, .int byte => some (.ok (.blob (bytes ++ [ScriptValue.byte byte])))
  | .add, .blob bytes, .char character =>
      some (.ok (.blob (bytes ++ character.toString.toUTF8.toList)))
  | .add, .blob bytes, .string text => some (.ok (.blob (bytes ++ text.toUTF8.toList)))
  | _, .float _, .int _ => builtin? operator left right
  | _, .string _, .char _ => builtin? operator left right
  | .add, .string _, .unit => builtin? operator left right
  | .add, .char _, .string _ => builtin? operator left right
  | _, _, _ => if left.sameKind right then builtin? operator left right else none

/-- Whether an operator joined to an assignment is a call of the library of its own. -/
def hasAssignment (operator : BinaryOperator) (left right : ScriptValue) : Bool :=
  match operator, left, right with
  | .add, .string _, _ => true
  | .add, .map _, .map _ => true
  | .add, .timestamp _, .int _ => true
  | .add, .timestamp _, .float _ => true
  | .subtract, .timestamp _, .int _ => true
  | .subtract, .timestamp _, .float _ => true
  | _, _, _ => false

/-- What an operator does to a number or boolean, in one step with its operand. -/
def unary? (operator : UnaryOperator) (operand : ScriptValue) : Option Result :=
  match operator, operand with
  | .negate, .int value => some ((Arithmetic.negate value).map .int)
  | .negate, .float value => some (.ok (.float value.negated))
  | .plus, .int value => some (.ok (.int value))
  | .plus, .float value => some (.ok (.float value))
  | .not, .bool value => some (.ok (.bool (!value)))
  | _, _ => none

/-- The name of a type in the signature of a call. -/
def signatureType : ScriptValue → String
  | .string _ => "&str | ImmutableString | String"
  | value => value.typeName

/-- A call in the words of a message. -/
def signature (name : String) (arguments : List ScriptValue) : String :=
  name ++ " (" ++ String.intercalate ", " (arguments.map signatureType) ++ ")"

end Operators

end SchemaMatch.Script
