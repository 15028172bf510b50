import SchemaMatch.Check.Path
import SchemaMatch.Schema.Item

/-!
Contract: the outcomes of a check that failed.

Owns:
- every cause a check fails for, with the texts it quotes and its position;
- the wording of each.

Does not own: the order in which causes are looked for.
-/

namespace SchemaMatch

/-- The first mismatch that a check found. -/
inductive Mismatch where
  | type (path : Path) (expected : Kind)
  | value (path : Path) (actual expected : String)
  | pattern (path : Path) (actual pattern : String)
  | date (path : Path) (actual expected : String)
  | function (path : Path)
  | length (path : Path) (actual expected : Nat)
  | extraKey (path : Path) (key : String)
  | class_ (path : Path)
  /-- What a function returned failed the check of its result. -/
  | callResult (path : Path) (index : Nat) (returned expected : String)
  /-- A function under verification failed on its own. -/
  | call (error : CallError)
  | malformedSchema (violation : Violation)

namespace Mismatch

/-- What is wrong with data that is not of a kind. -/
def kindPhrase (kind : Kind) : String :=
  match kind with
  | .object => "was not an object, but it should be"
  | .array => "was not an array, but it should be"
  | .null => "was not null, but it should be"
  | .date => "was not of type date"
  | .function => "was not of type function"
  | other => "was not a " ++ other.name ++ ", but it should be"

def message : Mismatch → String
  | .type path expected => "data at " ++ path.text ++ " " ++ kindPhrase expected
  | .value path actual expected =>
      "data '" ++ actual ++ "' did not equal '" ++ expected ++ "' at " ++ path.text
  | .pattern path actual source =>
      "data '" ++ actual ++ "' did not contain '" ++ source ++ "' at " ++ path.text
  | .date path actual expected =>
      "date data '" ++ actual ++ "' did not equal '" ++ expected ++ "' at " ++ path.text
  | .function path => "data at " ++ path.text ++ " was not the correct function reference"
  | .length path actual expected =>
      "data at " ++ path.text ++ " was length " ++ toString actual ++
        ", should have been length " ++ toString expected
  | .extraKey path key => "extra key '" ++ key ++ "' at " ++ path.text
  | .class_ path => "data at " ++ path.text ++ " was not instanceof the proper class"
  | .callResult path index returned expected =>
      "data '" ++ returned ++ "' did not match '" ++ expected ++
        "' returned by the function at " ++ path.text ++ " on call index " ++ toString index
  | .call error => error.message
  | .malformedSchema violation => violation.message

/-- Where the mismatch is, if it has a position. -/
def path? : Mismatch → Option Path
  | .type path _ => some path
  | .value path .. => some path
  | .pattern path .. => some path
  | .date path .. => some path
  | .function path => some path
  | .length path .. => some path
  | .extraKey path _ => some path
  | .class_ path => some path
  | .callResult path .. => some path
  | .call _ => none
  | .malformedSchema _ => none

end Mismatch

end SchemaMatch
