import SchemaMatch.Script.Convert
import SchemaMatch.Script.Evaluator
import SchemaMatch.Script.Lexer
import SchemaMatch.Script.Parser
import SchemaMatch.Script.Simplify

/-!
Contract: functions written as scripts.

Owns:
- compiling a script and choosing one of its functions by name;
- calls with a receiver and arguments from the value model, and results on their way back.

Calls start from nothing: what one leaves behind no other one sees. Changes that a script makes
to its receiver are lost.

Does not own: the identity of functions.
-/

namespace SchemaMatch

/-- Why a script gives no function. -/
inductive ScriptError where
  | syntax_ (error : Script.SyntaxError)
  | missingFunction (name : String)
deriving DecidableEq

namespace ScriptError

def message : ScriptError → String
  | .syntax_ error => "Failed to compile Rhai script: " ++ error.message
  | .missingFunction name => "Script does not define a function named '" ++ name ++ "'"

end ScriptError

/-- A function of a compiled script. -/
structure ScriptFunction where
  name : String
  program : Script.Program

namespace ScriptFunction

open Script (Program FunctionDefinition Machine Fault)

def compile (source name : String) : Except ScriptError ScriptFunction := do
  match Program.ofTokens? (Script.Lexer.tokens source) with
  | .error error => .error (.syntax_ error)
  | .ok program =>
      if program.defines name then .ok ⟨name, program.simplified⟩
      else .error (.missingFunction name)

/-- What a call of the function by script values gives. No function with as many parameters is
no function at all. The outermost call has no place, so neither have faults that only name the
place of a call. -/
def evaluate (function : ScriptFunction) (receiver : ScriptValue)
    (arguments : List ScriptValue) : Except Fault ScriptValue :=
  match function.program.find? function.name arguments.length with
  | none => .error ⟨.functionNotFound function.name, none⟩
  | some definition =>
      let start : Machine := ⟨0, 0, #[], [], none⟩
      let environment : Script.Environment := ⟨function.program, 0⟩
      match ((Script.Evaluator.run Script.Evaluator.fuelLimit 0 environment definition arguments
          (some receiver) false .start).run.run start).1 with
      | .ok (result, _) => .ok result
      | .error (.fault ⟨.inCall _ cause position, _⟩) => .error ⟨cause, position⟩
      | .error (.fault ⟨cause, _⟩) => .error ⟨cause, none⟩
      | .error (.finished value) => .ok value
      | .error _ => .ok .unit

/-- A failed conversion, as the failure of a call. -/
def unconverted (error : ConversionError) : CallError :=
  ⟨error.message⟩

/-- Call the function. -/
def call (function : ScriptFunction) (receiver : Value) (arguments : List Value) :
    Except CallError Value := do
  let receiver ← (ScriptValue.ofReceiver? receiver).mapError unconverted
  let arguments ← (arguments.mapM ScriptValue.ofValue?).mapError unconverted
  let result ← (function.evaluate receiver arguments).mapError fun fault => ⟨fault.message⟩
  result.toValue?.mapError unconverted

end ScriptFunction

end SchemaMatch
