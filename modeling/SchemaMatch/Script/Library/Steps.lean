import SchemaMatch.Script.Arithmetic
import SchemaMatch.Script.Library.Answer

/-!
Contract: the functions of scripts on ranges, and going through numbers in steps.

Owns:
- ranges made by a call, and their ends;
- steps of integers and of floats, up or down.

Lists of steps stop behind the limit on operations, since going through them counts at least one
for each.

Does not own: ranges between operators.
-/

namespace SchemaMatch.Script.Library.Steps

/-- More steps than a script can go through. -/
def reach : Nat := 10001

/-- Why a range in steps of zero does not exist. -/
def zeroStep : FaultCause :=
  .inCall "range" (.arithmetic "step value cannot be zero") none

/-- Values from one on, as long as there is a next one. The value is the last one if `ends` holds
of the next. -/
def through {α : Type} (next? : α → Option α) (ends : α → Bool) : Nat → α → List α
  | 0, _ => []
  | fuel + 1, value =>
      match next? value with
      | none => []
      | some next => if ends next then [value] else value :: through next? ends fuel next

/-- The values from one up or down to another. A step in the wrong direction leads nowhere. -/
def between {α : Type} (next? : α → Option α) (less : α → α → Bool) (first last : α) : List α :=
  match next? first with
  | none => []
  | some next =>
      if less first last && less first next then
        through next? (fun next => !less next last) reach first
      else if less last first && less next first then
        through next? (fun next => !less last next) reach first
      else []

def ofInts (first last step : Int) : Outcome :=
  let next? (value : Int) : Option Int :=
    if Int64Range.holds (value + step) then some (value + step) else none
  if step = 0 then fails zeroStep
  else
    gives (.stream .steps
      ((between next? (fun left right => decide (left < right)) first last).map .int))

def ofFloats (first last step : Binary64) : Outcome :=
  let next (value : Binary64) : Binary64 := FloatArithmetic.add value step
  if (next first).equal first then fails zeroStep
  else
    gives (.stream .floatSteps
      ((between (fun value => some (next value)) FloatArithmetic.less first last).map .float))

/-- The integers of a range. -/
def ofRange (first last : Int) (inclusive : Bool) : List ScriptValue :=
  let last := if inclusive then last + 1 else last
  (List.range (min (last - first).toNat reach)).map fun (place : Nat) =>
    .int (first + place)

/-- Ranges by their ends. -/
def range? (first : ScriptValue) (rest : List ScriptValue) : Outcome :=
  match first, rest with
  | .int first, [.int last] => gives (.range first last false)
  | .int first, [.int last, .int step] => ofInts first last step
  | .float first, [.float last, .float step] => ofFloats first last step
  | .range first last false, [.int step] => ofInts first last step
  | _, _ => none

def functions (first last : Int) (inclusive : Bool) : Functions :=
  let isEmpty : Bool := if inclusive then last < first else last ≤ first
  [ ("start", fun
      | [] => gives (.int first)
      | _ => none),
    ("end", fun
      | [] => gives (.int last)
      | _ => none),
    ("is_empty", fun
      | [] => gives (.bool isEmpty)
      | _ => none),
    ("is_inclusive", fun
      | [] => gives (.bool inclusive)
      | _ => none),
    ("is_exclusive", fun
      | [] => gives (.bool (!inclusive))
      | _ => none),
    ("contains", fun
      | [.int value] =>
          gives (.bool (first ≤ value && (if inclusive then value ≤ last else value < last)))
      | _ => none) ]

end SchemaMatch.Script.Library.Steps
