import SchemaMatch.Script.Operators
import SchemaMatch.Script.Size
import SchemaMatch.Script.Syntax

/-!
Contract: the state of a running script.

Owns:
- the ways in which a piece of script ends other than by a value;
- the count of operations and its limit;
- variables, the object a function is called on, and the cells that closures share.

State survives a fault, so that a handler sees what was done before.

Does not own: what statements and expressions do.
-/

namespace SchemaMatch.Script

/-- A variable of the function that is running. The tag is a number that a script may put on its
value, and that goes along into other variables. -/
structure Variable where
  name : String
  isConstant : Bool
  value : ScriptValue
  tag : Int

structure Machine where
  operations : Nat
  /-- For how many nanoseconds the run has slept. -/
  asleep : Nat
  /-- What closures share with the functions around them. -/
  cells : Array ScriptValue
  /-- The variables of the running function, the innermost first. -/
  bindings : List Variable
  /-- The object that the running function is called on. -/
  receiver : Option ScriptValue

/-- How a piece of script ends, if not by a value. -/
inductive Exit where
  | fault (fault : Fault)
  | returned (value : ScriptValue)
  | broken (value : ScriptValue)
  | continued
  /-- The whole run ends with a value. -/
  | finished (value : ScriptValue)

abbrev Running := ExceptT Exit (StateM Machine)

/-- Where a piece of script runs: in which program, and under how many calls. -/
structure Environment where
  program : Program
  level : Nat

namespace Machine

def operationLimit : Nat := 10000

/-- How many calls may be open besides the outermost one. -/
def levelLimit : Nat := 10

def raise {α : Type} (cause : FaultCause) (position : Position) : Running α :=
  throw (.fault ⟨cause, some position⟩)

/-- Faults by a limit name no place. -/
def raiseLimit {α : Type} (cause : FaultCause) : Running α :=
  throw (.fault ⟨cause, none⟩)

/-- Count an operation. -/
def tick : Running Unit := do
  modify fun machine => { machine with operations := machine.operations + 1 }
  if operationLimit < (← get).operations then raiseLimit .tooManyOperations

/-- The value of a step that may fail at a place. -/
def settle {α : Type} (result : Except FaultCause α) (position : Position) : Running α :=
  match result with
  | .ok value => return value
  | .error cause => if cause.isFatal then raiseLimit cause else raise cause position

/-- A value, unless it is too large. -/
def fitting (value : ScriptValue) : Running ScriptValue := do
  match (DataSize.ofValue value).check with
  | .ok () => return value
  | .error cause => raiseLimit cause

/-- Do what has to be done behind a piece of script, however it ends. -/
def afterwards {α : Type} (piece : Running α) (cleanup : Machine → Machine) : Running α :=
  ExceptT.mk do
    let result ← piece.run
    modify cleanup
    return result

/-! ## Variables -/

def declare (name : String) (isConstant : Bool) (value : ScriptValue) : Running Unit :=
  modify fun machine =>
    { machine with bindings := ⟨name, isConstant, value, 0⟩ :: machine.bindings }

/-- Variables declared in a block are gone behind it. -/
def inBlock {α : Type} (piece : Running α) : Running α := do
  let outside := (← get).bindings.length
  afterwards piece fun machine =>
    { machine with bindings := machine.bindings.drop (machine.bindings.length - outside) }

def find? (name : String) : Running (Option Variable) := do
  return (← get).bindings.find? (·.name == name)

def lookup (name : String) (position : Position) : Running Variable := do
  match ← find? name with
  | some variable_ => return variable_
  | none => raise (.variableNotFound name) position

/-- The value that a cell or any other value stands for. -/
def contents (value : ScriptValue) : Running ScriptValue := do
  match value with
  | .shared address => return (← get).cells.getD address .unit
  | _ => return value

def read (name : String) (position : Position) : Running ScriptValue := do
  contents (← lookup name position).value

/-- The variables with another value in the innermost one of a name. -/
def replaceFirst (name : String) (value : ScriptValue) : List Variable → List Variable
  | [] => []
  | variable_ :: rest =>
      if variable_.name = name then { variable_ with value := value } :: rest
      else variable_ :: replaceFirst name value rest

/-- Give a variable a value, or the cell that it shares. -/
def write (name : String) (value : ScriptValue) : Running Unit := do
  match ← find? name with
  | some ⟨_, _, .shared address, _⟩ =>
      modify fun machine =>
        { machine with cells := machine.cells.setIfInBounds address value }
  | _ =>
      modify fun machine =>
        { machine with bindings := replaceFirst name value machine.bindings }

/-- The variables with another tag on the innermost one of a name. -/
def tagFirst (name : String) (tag : Int) : List Variable → List Variable
  | [] => []
  | variable_ :: rest =>
      if variable_.name = name then { variable_ with tag := tag } :: rest
      else variable_ :: tagFirst name tag rest

def writeTag (name : String) (tag : Int) : Running Unit :=
  modify fun machine => { machine with bindings := tagFirst name tag machine.bindings }

/-- The cell of a variable, which shares its value from here on. -/
def share (captured : PlacedName) : Running ScriptValue := do
  let variable_ ← lookup captured.name captured.position
  match variable_.value with
  | .shared address => return .shared address
  | value =>
      let address := (← get).cells.size
      modify fun machine =>
        { machine with
          cells := machine.cells.push value
          bindings := replaceFirst captured.name (.shared address) machine.bindings }
      return .shared address

/-! ## The receiver -/

def readReceiver (position : Position) : Running ScriptValue := do
  match (← get).receiver with
  | some value => contents value
  | none => raise .receiverMissing position

def writeReceiver (value : ScriptValue) : Running Unit :=
  modify fun machine => { machine with receiver := some value }

/-- Run a piece of script with variables and a receiver of its own. The answer tells what became
of the receiver. A piece that keeps the variables outside sees them behind its own, and what it
makes of them stays. -/
def inFrame {α : Type} (bindings : List Variable) (keepsOutside : Bool)
    (receiver : Option ScriptValue) (piece : Running α) : Running (α × Option ScriptValue) := do
  let outside ← get
  let bindings := if keepsOutside then bindings ++ outside.bindings else bindings
  set { outside with bindings := bindings, receiver := receiver }
  let inside : Running (α × Option ScriptValue) := do
    let result ← piece
    return (result, (← get).receiver)
  afterwards inside fun machine =>
    let kept :=
      if keepsOutside then
        machine.bindings.drop (machine.bindings.length - outside.bindings.length)
      else outside.bindings
    { machine with bindings := kept, receiver := outside.receiver }

end Machine

end SchemaMatch.Script
