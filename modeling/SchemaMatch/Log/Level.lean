/-!
Contract: the levels of the log.

Owns:
- the levels, their names and how talkative each is;
- the two readings of a name: the exact one of settings, and the lenient one of arguments.

Does not own: which records a program keeps.
-/

namespace SchemaMatch

/-- Levels from the most talkative to the most silent. -/
inductive LogLevel where
  | trace
  | debug
  | info
  | warn
  | error
deriving DecidableEq, Repr

namespace LogLevel

def all : List LogLevel := [.trace, .debug, .info, .warn, .error]

def name : LogLevel → String
  | .trace => "trace"
  | .debug => "debug"
  | .info => "info"
  | .warn => "warn"
  | .error => "error"

/-- Info is what a program without settings logs at. -/
def default : LogLevel := .info

/-- How much is kept at a level: an event is kept when its own number is not greater. -/
def verbosity : LogLevel → Nat
  | .error => 1
  | .warn => 2
  | .info => 3
  | .debug => 4
  | .trace => 5

/-- The level with exactly this name. -/
def ofName? (name : String) : Option LogLevel :=
  all.find? fun level => level.name == name

end LogLevel

/-- A text that names no level. -/
structure UnknownLevel where
  text : String
deriving DecidableEq, Repr

namespace UnknownLevel

def message (unknown : UnknownLevel) : String :=
  "unknown log level: " ++ unknown.text

end UnknownLevel

namespace LogLevel

/-- The level a text names in any mixture of cases. No letter beyond ASCII has a lower case
that occurs in a name, so ASCII letters are all that need lowering. -/
def ofText? (text : String) : Except UnknownLevel LogLevel :=
  let name := String.ofList (text.toList.map Char.toLower)
  match ofName? (if name = "warning" then "warn" else name) with
  | some level => .ok level
  | none => .error ⟨text⟩

end LogLevel

end SchemaMatch
