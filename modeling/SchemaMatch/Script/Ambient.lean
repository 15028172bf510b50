import SchemaMatch.Script.Clock
import SchemaMatch.Script.Element
import SchemaMatch.Script.Machine

/-!
Contract: the functions of the library that look at the run around them.

Owns:
- the end of a whole run by a call;
- the time, and sleeping;
- descriptions of the functions of the script.

Does not own: functions that only look at their arguments, and functions that call functions.
-/

namespace SchemaMatch.Script

open Machine

namespace Ambient

def now : Running Int := do
  let machine ← get
  return Clock.instant machine.operations machine.asleep

def sleep (seconds : Binary64) : Running ScriptValue := do
  modify fun machine => { machine with asleep := machine.asleep + Clock.sleep seconds }
  return .unit

/-- What a script is told about one of its functions. -/
def describe (definition : FunctionDefinition) : ScriptValue :=
  let receiver := match definition.receiverType with
    | some type => [("this_type", .string type)]
    | none => []
  .ofPairs
    ([ ("name", .string definition.name),
       ("access", .string (if definition.isPrivate then "private" else "public")),
       ("is_anonymous", .bool (isClosureName definition.name)),
       ("params", .array (definition.parameters.map .string)) ] ++ receiver)

def descriptions (program : Program) (wanted : FunctionDefinition → Bool) : ScriptValue :=
  .array ((program.functions.filter wanted).map describe)

/-- A function of the library that looks at the run, if there is such a function. -/
def call? (program : Program) (position : Position) (name : String)
    (arguments : List ScriptValue) : Option (Running ScriptValue) :=
  match name, arguments with
  | "exit", [] => some (throw (.finished .unit))
  | "exit", [value] => some (throw (.finished value))
  | "timestamp", [] => some do return .timestamp (← now)
  | "elapsed", [.timestamp start] => some do settle (Clock.elapsed start (← now)) position
  | "sleep", [.int seconds] => some (sleep (.ofInt seconds))
  | "sleep", [.float seconds] => some (sleep seconds)
  | "get_fn_metadata_list", [] => some (return descriptions program fun _ => true)
  | "get_fn_metadata_list", [.string function] =>
      some (return descriptions program fun definition => definition.name == function)
  | "get_fn_metadata_list", [.string function, .int arity] =>
      some (return descriptions program fun definition =>
        definition.name == function && arity == definition.arity)
  | _, _ => none

/-- The property of a value, or of a run at an instant. -/
def property (value : ScriptValue) (name : String) (position : Position) :
    Running ScriptValue := do
  match value, name with
  | .timestamp start, "elapsed" => settle (Clock.elapsed start (← now)) position
  | _, _ => settle (Element.property value name) position

end Ambient

end SchemaMatch.Script
