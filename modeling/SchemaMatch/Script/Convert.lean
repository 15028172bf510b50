import SchemaMatch.Script.Value
import SchemaMatch.Value.Json

/-!
Contract: values on their way into scripts and back.

Owns:
- the conversion of values, which callables fail or which skips them;
- its two uses, for arguments and for receivers;
- the conversion of results.

Dates become their texts and regexes their sources; undefined and null become unit, and unit
becomes null.

Does not own: running scripts.
-/

namespace SchemaMatch

namespace ScriptValue

/-- Whole numbers that doubles hold without gaps become integers. -/
def ofNumber (number : Binary64) : ScriptValue :=
  match number.toInt? with
  | some value => if value.natAbs < 2 ^ 53 then .int value else .float number
  | none => .float number

/-- What a conversion does with callables, which scripts have no values for. -/
inductive Callables where
  | reject
  /-- Fields that hold one are left out, and unit takes the place of others. -/
  | skip
deriving DecidableEq, Repr

/-- Whether a field with this value is left out. -/
def Callables.leavesOut (callables : Callables) (value : Value) : Bool :=
  callables = .skip && value.isCallable

mutual

/-- The script value of a value. -/
def convert (callables : Callables) : Value → Except ConversionError ScriptValue
  | .undefined => .ok .unit
  | .null => .ok .unit
  | .bool value => .ok (.bool value)
  | .number value => .ok (ofNumber value)
  | .string value => .ok (.string value)
  | .date value => .ok (.string value.isoText)
  | .regex value => .ok (.string value.source)
  | .array items => return .array (← convertItems callables items)
  | .object _ fields => return ofPairs (← convertFields callables fields)
  | .function _ =>
      if callables = .skip then .ok .unit else .error (.unsupportedType "function")
  | .classTag _ => if callables = .skip then .ok .unit else .error (.unsupportedType "class")

def convertItems (callables : Callables) :
    List Value → Except ConversionError (List ScriptValue)
  | [] => .ok []
  | item :: rest => do
      let value ← convert callables item
      return value :: (← convertItems callables rest)

def convertFields (callables : Callables) :
    List (String × Value) → Except ConversionError (List (String × ScriptValue))
  | [] => .ok []
  | (key, field) :: rest =>
      if callables.leavesOut field then convertFields callables rest
      else do
        let value ← convert callables field
        return (key, value) :: (← convertFields callables rest)

end

/-- The script value of an argument, which callables fail. -/
def ofValue? (value : Value) : Except ConversionError ScriptValue :=
  convert .reject value

/-- The script value of a receiver, which skips callables, since a receiver usually holds the
function being called. -/
def ofReceiver? (value : Value) : Except ConversionError ScriptValue :=
  convert .skip value

mutual

/-- The value of a script's result. -/
def toValue? : ScriptValue → Except ConversionError Value
  | .unit => .ok .null
  | .bool value => .ok (.bool value)
  | .int value => .ok (.number (.ofInt value))
  | .float value => .ok (.number value)
  | .char value => .ok (.string value.toString)
  | .string value => .ok (.string value)
  | .array items => return .array (← toItems? items)
  | .map entries => return .ofPairs (← toFields? entries)
  | .function name curried => .error (.unsupportedType (foreignTypeName (.function name curried)))
  | .range first last inclusive =>
      .error (.unsupportedType (foreignTypeName (.range first last inclusive)))
  | .blob bytes => .error (.unsupportedType (foreignTypeName (.blob bytes)))
  | .stream kind _ => .error (.unsupportedType kind.foreignName)
  | .timestamp instant => .error (.unsupportedType (foreignTypeName (.timestamp instant)))
  | .shared address => .error (.unsupportedType (foreignTypeName (.shared address)))

def toItems? : List ScriptValue → Except ConversionError (List Value)
  | [] => .ok []
  | item :: rest => do
      let value ← toValue? item
      return value :: (← toItems? rest)

def toFields? : List (String × ScriptValue) → Except ConversionError (List (String × Value))
  | [] => .ok []
  | (key, entry) :: rest => do
      let value ← toValue? entry
      return (key, value) :: (← toFields? rest)

end

end ScriptValue

end SchemaMatch
