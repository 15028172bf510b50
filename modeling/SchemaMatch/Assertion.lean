import SchemaMatch.Pattern.Basic
import SchemaMatch.Text.Blank

/-!
Contract: small assertions for tests around the checker.

Owns:
- exclusive or, comparison of messages up to blanks, and expected failures;
- the message of each failed assertion.

Does not own: running what is expected to fail; callers hand in its outcome.
-/

namespace SchemaMatch

/-- An assertion that failed, with its message. -/
structure AssertionError where
  message : String
deriving DecidableEq, Repr

namespace Assertion

def boolText (value : Bool) : String :=
  if value then "true" else "false"

/-- Exactly one of two conditions must hold. -/
def exactlyOne (left right : Bool) : Except AssertionError Unit :=
  if left ≠ right then .ok ()
  else .error ⟨boolText left ++ " === " ++ boolText right⟩

/-- Two texts must be equal once every run of blanks is collapsed. -/
def equalUpToBlanks (message expected : String) : Except AssertionError Unit :=
  let actual := Text.collapse message
  let wanted := Text.collapse expected
  if actual = wanted then .ok ()
  else .error ⟨"'" ++ actual ++ "' !== '" ++ wanted ++ "'"⟩

/-- What the message of a failure must be like. -/
inductive ExpectedMessage where
  /-- Exactly this text. -/
  | text (expected : String)
  /-- A text that contains a match. -/
  | containing (pattern : Pattern)
  /-- A text of which an assertion holds. -/
  | satisfying (assertion : String → Except AssertionError Unit)

/-- An attempt must fail, with a message like the expected one. `failure` is the message of the
attempt, if it failed. -/
def fails (failure : Option String) (expected : ExpectedMessage) : Except AssertionError Unit :=
  match failure with
  | none => .error ⟨"Was supposed to throw but didn't"⟩
  | some message =>
      match expected with
      | .text wanted =>
          if message = wanted then .ok () else .error ⟨message ++ " !== " ++ wanted⟩
      | .containing pattern =>
          if pattern.isMatch message then .ok ()
          else .error ⟨"'" ++ message ++ "'.match(/" ++ pattern.source ++ "/) === null"⟩
      | .satisfying assertion => assertion message

end Assertion

end SchemaMatch
