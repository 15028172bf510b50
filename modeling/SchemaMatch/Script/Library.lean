import SchemaMatch.Script.Library.Bits
import SchemaMatch.Script.Library.Bytes
import SchemaMatch.Script.Library.Document
import SchemaMatch.Script.Library.Mapping
import SchemaMatch.Script.Library.Numeric
import SchemaMatch.Script.Library.Sequence
import SchemaMatch.Script.Library.Steps
import SchemaMatch.Script.Library.Text

/-!
Contract: the functions that every script may call, and the properties of values that are no
maps.

Owns:
- which functions a call can mean, by the kind of its first argument;
- functions of values of every kind, and functions without a value;
- the values that a value can be gone through by.

Does not own: functions that call functions, and operators.
-/

namespace SchemaMatch.Script.Library

/-- Functions of values of every kind. -/
def generalFunctions (value : ScriptValue) : Functions :=
  [ ("to_string", fun
      | [] => gives (.string value.printed)
      | _ => none),
    ("to_debug", fun
      | [] => gives (.string value.printedItem)
      | _ => none),
    ("type_of", fun
      | [] => gives (.string value.typeName)
      | _ => none),
    ("is_shared", fun
      | [] => gives (.bool false)
      | _ => none),
    ("take", fun
      | [] => becomes .unit value
      | _ => none),
    ("tag", fun
      | [] => gives (.int 0)
      | _ => none),
    ("set_tag", fun
      | [.int _] => gives .unit
      | _ => none),
    ("print", fun
      | [] => gives .unit
      | _ => none),
    ("debug", fun
      | [] => gives .unit
      | _ => none) ]

def pointerFunctions (name : String) : Functions :=
  [ ("name", fun
      | [] => gives (.string name)
      | _ => none),
    ("is_anonymous", fun
      | [] => gives (.bool ("anon$".toList.isPrefixOf name.toList))
      | _ => none) ]

def functionsOf (value : ScriptValue) : Functions :=
  let own : Functions := match value with
    | .string text => Text.functions text ++ Document.functions text
    | .char character => Text.characterFunctions character
    | .array items => Sequence.functions items
    | .blob bytes => Bytes.functions bytes
    | .map entries => Mapping.functions entries
    | .int number => Numeric.integerFunctions number ++ Bits.functions number
    | .float number => Numeric.floatFunctions number
    | .range first last inclusive => Steps.functions first last inclusive
    | .function name _ => pointerFunctions name
    | _ => []
  own ++ ("range", Steps.range? value) :: generalFunctions value

/-- Functions without arguments. -/
def constants : List (String × ScriptValue) := [
  ("blob", .blob []),
  ("PI", .float (.ofBits 0x400921FB54442D18)),
  ("E", .float (.ofBits 0x4005BF0A8B145769)),
  ("print", .unit)]

/-- What a call answers, unless there is no such function. -/
def call? (name : String) (arguments : List ScriptValue) : Outcome :=
  match arguments with
  | [] => (constants.lookup name).bind gives
  | value :: rest => ((functionsOf value).lookup name).bind (· rest)

/-- Functions that may change their first argument and may fail. Constants refuse them before they
do. -/
def changesOrFails (name : String) : Bool :=
  ["sort", "sort_desc", "pad", "set_bit", "set_bits"].contains name

/-- Functions that can be read like properties. -/
def propertyNames : ScriptValue → List String
  | .string _ => ["len", "bytes", "is_empty", "chars"]
  | .array _ => ["len", "is_empty"]
  | .blob _ => ["len", "is_empty"]
  | .int _ => ["is_zero", "is_odd", "is_even", "bits"]
  | .float _ =>
      ["is_zero", "is_nan", "is_finite", "is_infinite", "floor", "ceiling", "round", "int",
        "fraction"]
  | .range .. => ["start", "end", "is_empty", "is_inclusive", "is_exclusive"]
  | .function .. => ["name", "is_anonymous"]
  | _ => []

/-- The property of a value that is no map. -/
def property? (value : ScriptValue) (name : String) : Option ScriptValue :=
  if name = "tag" || (propertyNames value).contains name then
    match call? name [value] with
    | some (.ok answer) => some answer.result
    | _ => none
  else none

/-- The values that a value is gone through by. -/
def items? : ScriptValue → Option (List ScriptValue)
  | .array items => some items
  | .blob bytes => some (bytes.map fun byte => .int byte.toNat)
  | .string text => some (text.toList.map .char)
  | .stream _ items => some items
  | .range first last inclusive => some (Steps.ofRange first last inclusive)
  | _ => none

end SchemaMatch.Script.Library
