import SchemaMatch.Log.Level

/-!
Contract: the arguments of the program.

Owns:
- the options, each with one value, given apart or behind an equals sign;
- the order in which faults are noticed: the value of an option is looked at when the next
  option comes, unless that one is unknown, or at the end;
- requests for help and for the version, which stop the reading.

Does not own: what the program does with its arguments.
-/

namespace SchemaMatch.CommandLine

inductive OptionName where
  | data
  | schema
  | config
  | allowExtraKeys
  | logLevel
deriving DecidableEq, Repr

namespace OptionName

def all : List OptionName := [.data, .schema, .config, .allowExtraKeys, .logLevel]

def text : OptionName → String
  | .data => "data"
  | .schema => "schema"
  | .config => "config"
  | .allowExtraKeys => "allow-extra-keys"
  | .logLevel => "log-level"

def ofText? (text : String) : Option OptionName :=
  all.find? fun name => name.text == text

end OptionName

/-- Why arguments give nothing to run. -/
inductive UsageError where
  | helpRequested
  | versionRequested
  | missingRequired
  /-- A value that is missing, empty, or none of those allowed. -/
  | invalidValue (option : OptionName)
  | unknownLevel (cause : UnknownLevel)
  | unknownArgument (argument : String)
  | repeatedOption (option : OptionName)
  /-- A value for an option that takes none. -/
  | needlessValue (argument : String)
deriving DecidableEq, Repr

/-- Options as far as they were read. -/
structure Given where
  data : Option String := none
  schema : Option String := none
  config : Option String := none
  allowExtraKeys : Option Bool := none
  logLevel : Option LogLevel := none
deriving DecidableEq, Repr

/-- What the program is run with. -/
structure Arguments where
  data : String
  schema : String
  config : Option String
  allowExtraKeys : Option Bool
  logLevel : Option LogLevel
deriving DecidableEq, Repr

namespace Given

def has (given : Given) : OptionName → Bool
  | .data => given.data.isSome
  | .schema => given.schema.isSome
  | .config => given.config.isSome
  | .allowExtraKeys => given.allowExtraKeys.isSome
  | .logLevel => given.logLevel.isSome

/-- A path is any text but the empty one. -/
def path (option : OptionName) (value : String) : Except UsageError String :=
  if value.isEmpty then .error (.invalidValue option) else .ok value

/-- Give an option its value, once. -/
def set (given : Given) (option : OptionName) (value : String) : Except UsageError Given :=
  if given.has option then .error (.repeatedOption option)
  else
    match option with
    | .data => (path option value).map fun path => { given with data := some path }
    | .schema => (path option value).map fun path => { given with schema := some path }
    | .config => (path option value).map fun path => { given with config := some path }
    | .allowExtraKeys =>
        if value = "true" then .ok { given with allowExtraKeys := some true }
        else if value = "false" then .ok { given with allowExtraKeys := some false }
        else .error (.invalidValue option)
    | .logLevel =>
        match LogLevel.ofText? value with
        | .ok level => .ok { given with logLevel := some level }
        | .error cause => .error (.unknownLevel cause)

/-- The arguments, once both required options are there. -/
def complete (given : Given) : Except UsageError Arguments :=
  match given.data, given.schema with
  | some data, some schema =>
      .ok ⟨data, schema, given.config, given.allowExtraKeys, given.logLevel⟩
  | _, _ => .error .missingRequired

end Given

/-- An option whose value has not been looked at yet. -/
inductive Pending where
  | nothing
  /-- The option was the last argument. -/
  | wanting (option : OptionName)
  | given (option : OptionName) (text : String)

namespace Pending

/-- Look at the pending value. -/
def settle (fields : Given) : Pending → Except UsageError Given
  | .nothing => .ok fields
  | .wanting option => .error (.invalidValue option)
  | .given option text => fields.set option text

end Pending

/-- What an argument looks like. -/
inductive Shape where
  /-- Two hyphens alone: no option follows. -/
  | separator
  | long (name : String) (value : Option String)
  /-- A hyphen and letters; the first letter is all that matters. -/
  | short (letter : Char)
  | plain

namespace Shape

def ofArgument (argument : String) : Shape :=
  match argument.toList with
  | ['-', '-'] => .separator
  | '-' :: '-' :: rest =>
      let name := String.ofList (rest.takeWhile (· != '='))
      match rest.dropWhile (· != '=') with
      | _ :: value => .long name (some (String.ofList value))
      | [] => .long name none
  | '-' :: letter :: _ => .short letter
  | _ => .plain

end Shape

/-- Read the arguments one after the other. -/
def readArguments (given : Given) (pending : Pending) :
    List String → Except UsageError Given
  | [] => pending.settle given
  | argument :: rest =>
      match Shape.ofArgument argument with
      | .separator =>
          match rest with
          | [] => pending.settle given
          | next :: _ => .error (.unknownArgument next)
      | .long "help" none => do
          let _ ← pending.settle given
          throw .helpRequested
      | .long "version" none => do
          let _ ← pending.settle given
          throw .versionRequested
      | .long name value =>
          if (name = "help" ∨ name = "version") then .error (.needlessValue name)
          else
            match OptionName.ofText? name with
            | none => .error (.unknownArgument argument)
            | some option => do
                let given ← pending.settle given
                match value with
                | some value => readArguments (← given.set option value) .nothing rest
                | none => readArguments given (.wanting option) rest
      | .short letter =>
          if letter = 'h' then do
            let _ ← pending.settle given
            throw .helpRequested
          else if letter = 'V' then do
            let _ ← pending.settle given
            throw .versionRequested
          else .error (.unknownArgument argument)
      | .plain =>
          match pending with
          | .wanting option => readArguments given (.given option argument) rest
          | _ => .error (.unknownArgument argument)

/-- What the arguments ask for. -/
def parse (arguments : List String) : Except UsageError Arguments := do
  (← readArguments {} .nothing arguments).complete

end SchemaMatch.CommandLine
