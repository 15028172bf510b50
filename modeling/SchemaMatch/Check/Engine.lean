import SchemaMatch.Check.Event
import SchemaMatch.Check.Mismatch
import SchemaMatch.Check.StringCheck
import SchemaMatch.Value.Equality

/-!
Contract: the walk of data along a schema.

Owns:
- the comparison of one value with one node, kind by kind;
- the walk, which stops at the first mismatch;
- the verification of declared calls, each of whose results is checked by a run of its own.

Functions act through a host, which may keep state and log. The walk itself changes nothing
but the log. It recurses on the schema, whose call results are part of the tree.

Does not own: what a host's functions do.
-/

namespace SchemaMatch

/-- What a call brought about. -/
structure Reply (σ : Type) where
  outcome : Except CallError Value
  events : List CheckEvent
  state : σ

/-- How the functions of a program behave: a call with its receiver and arguments, in a
state. -/
structure Host (σ : Type) where
  invoke : Function → Value → List Value → σ → Reply σ

/-- The state of a host and the events so far, in order. -/
structure Session (σ : Type) where
  host : σ
  events : List CheckEvent

/-- A step of a check: it may end the check with a mismatch. -/
abbrev Run (σ : Type) := ExceptT Mismatch (StateM (Session σ))

namespace Run

variable {σ : Type}

/-- A comparison that needs no host. -/
def settle (result : Except Mismatch Unit) : Run σ Unit :=
  ExceptT.mk (pure result)

def emit (event : CheckEvent) : Run σ Unit :=
  modify fun session => { session with events := session.events ++ [event] }

/-- Run a check to its end, whatever that is. -/
def attempt (run : Run σ Unit) : Run σ (Option Mismatch) :=
  ExceptT.mk (do
    match ← run.run with
    | .ok () => return .ok none
    | .error mismatch => return .ok (some mismatch))

end Run

namespace Check

/-! ## One value against one node -/

def scalarKind? : Value → Option ScalarKind
  | .bool _ => some .boolean
  | .number _ => some .number
  | .undefined => some .undefined
  | _ => none

def matchScalar (path : Path) (kind : ScalarKind) (expected : Option Value) (data : Value) :
    Except Mismatch Unit :=
  if scalarKind? data ≠ some kind then .error (.type path kind.toKind)
  else
    match expected with
    | none => .ok ()
    | some value =>
        if data.strictEqual value then .ok ()
        else .error (.value path data.display value.display)

def matchString (path : Path) (checks : List Value) (data : Value) : Except Mismatch Unit :=
  match data with
  | .string actual =>
      (runStringChecks actual checks).mapError fun failure =>
        match failure with
        | .pattern actual source => .pattern path actual source
        | .literal actual expected => .value path actual expected
  | _ => .error (.type path .string)

def matchNull (path : Path) (data : Value) : Except Mismatch Unit :=
  if data.isNull then .ok () else .error (.type path .null)

/-- Dates and strings may be equal to a date, by text. -/
def mayEqualDate : Value → Bool
  | .date _ => true
  | .string _ => true
  | _ => false

def matchDate (path : Path) (expected : Option Value) (data : Value) : Except Mismatch Unit :=
  match data with
  | .date instant =>
      match expected with
      | none => .ok ()
      | some value =>
          if mayEqualDate value && instant.isoText == value.display then .ok ()
          else .error (.date path instant.isoText value.display)
  | _ => .error (.type path .date)

def matchFunction (path : Path) (expected : Option Value) (data : Value) :
    Except Mismatch Unit :=
  if !data.isCallable then .error (.type path .function)
  else
    match expected with
    | none => .ok ()
    | some value => if data.strictEqual value then .ok () else .error (.function path)

/-- The first key of the data that is not declared. -/
def extraKey? (data : Value) (declared : List String) : Option String :=
  data.keys.find? fun key => !declared.contains key

/-- Null is an object without keys and without class. -/
def matchObject (path : Path) (tag : Option Class) (permitsExtraKeys : Bool)
    (declared : List String) (data : Value) : Except Mismatch Unit :=
  if !data.mayHaveProperties && !data.isNull then .error (.type path .object)
  else if tag.any fun class_ => !class_.hasInstance data then .error (.class_ path)
  else if permitsExtraKeys then .ok ()
  else
    match extraKey? data declared with
    | some key => .error (.extraKey path key)
    | none => .ok ()

/-! ## The walk -/

variable {σ : Type}

/-- Make one call. Classes are callables that refuse to be called. -/
def invoke (host : Host σ) (target receiver : Value) (args : List Value) : Run σ Value := do
  match target with
  | .function function =>
      let session ← get
      let reply := host.invoke function receiver args session.host
      set (⟨reply.state, session.events ++ reply.events⟩ : Session σ)
      match reply.outcome with
      | .ok value => return value
      | .error error => throw (.call error)
  | .classTag tag =>
      throw (.call ⟨"Class constructor " ++ tag.name ++ " cannot be invoked without 'new'"⟩)
  | other => throw (.call ⟨other.display ++ " is not a function"⟩)

/-- Report a mismatch, with the data at the root of the check, before passing it on. -/
def reporting (data : Value) (run : Run σ Unit) : Run σ Unit := do
  match ← run.attempt with
  | none => return ()
  | some mismatch => do
      Run.emit (.ofFailure data)
      throw mismatch

mutual

/-- Compare the data at a path with a node and its children. `parent` is the value that holds
the data, and the receiver of its calls. -/
def node (host : Host σ) (options : Options) (path : Path) (parent data : Value) :
    Schema → Run σ Unit
  | .malformed violation => throw (.malformedSchema violation)
  | .scalar kind expected => Run.settle (matchScalar path kind expected data)
  | .string checks => Run.settle (matchString path checks data)
  | .null => Run.settle (matchNull path data)
  | .date expected => Run.settle (matchDate path expected data)
  | .function expected calls => do
      Run.settle (matchFunction path expected data)
      verifyCalls host path parent data 0 calls
  | .object tag own children => do
      Run.settle (matchObject path tag (Policy.resolve own options)
        (children.map Prod.fst) data)
      fields host options path data children
  | .array items =>
      match data, items with
      | .array _, none => return ()
      | .array values, some schemas =>
          if values.length ≠ schemas.length then
            throw (.length path values.length schemas.length)
          else elements host options path data 0 values schemas
      | _, _ => throw (.type path .array)

/-- Compare the declared keys in order. The marker is no data. -/
def fields (host : Host σ) (options : Options) (path : Path) (data : Value) :
    List (String × Schema) → Run σ Unit
  | [] => return ()
  | (key, schema) :: rest => do
      if key ≠ SchemaForm.markerKey then
        node host options (path.key key) data (data.get key) schema
      fields host options path data rest

/-- Compare the elements of an array in order. -/
def elements (host : Host σ) (options : Options) (path : Path) (data : Value) (index : Nat) :
    List Value → List Schema → Run σ Unit
  | value :: values, schema :: schemas => do
      node host options (path.index index) data value schema
      elements host options path data (index + 1) values schemas
  | _, _ => return ()

/-- Make the declared calls in order. Each result is checked from a root of its own with
default options; of its mismatch only the fact is kept. -/
def verifyCalls (host : Host σ) (path : Path) (parent data : Value) (index : Nat) :
    List (Call × Schema) → Run σ Unit
  | [] => return ()
  | (call, schema) :: rest => do
      Run.emit (.verifyingCall path index call.args.length)
      let returned ← invoke host data parent call.args
      let failure ← Run.attempt
        (reporting returned (node host {} Path.root .undefined returned schema))
      if failure.isSome then
        throw (.callResult path index returned.display call.result.display)
      verifyCalls host path parent data (index + 1) rest

end

/-- Check data against a schema. A mismatch is reported together with the data. -/
def run (host : Host σ) (data schema : Value) (options : Options) : Run σ Unit :=
  reporting data (node host options Path.root .undefined data (Schema.ofValue schema))

end Check

end SchemaMatch
