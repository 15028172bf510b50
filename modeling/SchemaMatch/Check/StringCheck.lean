import SchemaMatch.Schema.Basic
import SchemaMatch.Value.Display

/-!
Contract: checks of one string.

Owns:
- literal and pattern checks, run in order until one fails;
- what a failed check reports.

Does not own: positions; a walk adds them.
-/

namespace SchemaMatch

/-- A check that a string failed. -/
inductive StringFailure where
  | pattern (actual pattern : String)
  | literal (actual expected : String)
deriving DecidableEq, Repr

namespace StringFailure

def message : StringFailure → String
  | .pattern actual source => "'" ++ actual ++ "' did not contain '" ++ source ++ "'"
  | .literal actual expected => "'" ++ actual ++ "' !== '" ++ expected ++ "'"

end StringFailure

/-- A regex must match somewhere; any other check must be the identical string. -/
def runStringCheck (actual : String) (check : Value) : Except StringFailure Unit :=
  match check with
  | .regex pattern =>
      if pattern.isMatch actual then .ok () else .error (.pattern actual check.display)
  | .string literal => if literal = actual then .ok () else .error (.literal actual literal)
  | other => .error (.literal actual other.display)

/-- The first check that fails decides. -/
def runStringChecks (actual : String) : List Value → Except StringFailure Unit
  | [] => .ok ()
  | check :: rest => do
      runStringCheck actual check
      runStringChecks actual rest

/-- Run one check, or all checks of an array. -/
def checkString (actual : String) (checks : Value) : Except StringFailure Unit :=
  runStringChecks actual (Schema.stringChecks (some checks))

end SchemaMatch
