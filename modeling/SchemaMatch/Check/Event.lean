import SchemaMatch.Check.Path
import SchemaMatch.Log.Record
import SchemaMatch.Value.Json

/-!
Contract: what a check reports to the log.

Owns:
- the events of a check and the record that each one writes.

Does not own: which records a program keeps.
-/

namespace SchemaMatch

/-- What happened during a check. -/
inductive CheckEvent where
  /-- A declared call is about to be made. -/
  | verifyingCall (path : Path) (index argCount : Nat)
  /-- A check failed on data that has a document form. -/
  | dump (document : Json)
  /-- A check failed on data that has none. -/
  | noDump (cause : ConversionError)

namespace CheckEvent

def toRecord : CheckEvent → LogRecord
  | .verifyingCall path index argCount =>
      { level := .debug
        origin := "deepcheck::check::calls"
        message := "verifying function call"
        fields :=
          [("args", toString argCount), ("path", path.text), ("index", toString index)] }
  | .dump document =>
      { level := .warn
        origin := "deepcheck::check"
        message := "deepCheck data: " ++ document.render
        fields := [] }
  | .noDump cause =>
      { level := .debug
        origin := "deepcheck::check"
        message := "unable to serialize deepCheck data: " ++ cause.message
        fields := [] }

/-- What a failed check reports about its data. -/
def ofFailure (data : Value) : CheckEvent :=
  match data.toJson? with
  | .ok document => .dump document
  | .error cause => .noDump cause

end CheckEvent

end SchemaMatch
