import SchemaMatch.Script.Fault

/-!
Contract: what a function of the library answers.

Owns:
- results, and what a function makes of its first argument;
- ranges, offsets and places, as many functions take them.

A function that may change its first argument always says what becomes of it. The answer is
nothing where no function takes such arguments.

Does not own: any one function.
-/

namespace SchemaMatch.Script.Library

structure Answer where
  result : ScriptValue
  /-- What the first argument becomes, from a function that may change it. -/
  changed : Option ScriptValue

abbrev Outcome := Option (Except FaultCause Answer)

/-- The functions of a value, by name and remaining arguments. -/
abbrev Functions := List (String × (List ScriptValue → Outcome))

def gives (result : ScriptValue) : Outcome := some (.ok ⟨result, none⟩)

def becomes (changed : ScriptValue) (result : ScriptValue) : Outcome :=
  some (.ok ⟨result, some changed⟩)

def fails (cause : FaultCause) : Outcome := some (.error cause)

/-- What a function gives or fails with. -/
def settles (result : Except FaultCause ScriptValue) : Outcome :=
  match result with
  | .ok value => gives value
  | .error cause => fails cause

/-- The start and length that a range of places denotes. Places before the first one do not
count. -/
def span? : ScriptValue → Option (Int × Int)
  | .range first last inclusive =>
      let start := max first 0
      let stop := max last start
      some (start, if inclusive then stop - start + 1 else stop - start)
  | _ => none

/-- Where an offset is in a row. Negative offsets count from its end, and none is before its
start. -/
def offset (length : Nat) (start : Int) : Nat :=
  if start < 0 then length - start.natAbs else min start.toNat length

/-- A start and a length cut off at the ends of a row. -/
def clip (length : Nat) (start count : Int) : Nat × Nat :=
  let offset := offset length start
  (offset, min count.toNat (length - offset))

/-- The place that an index denotes in a row. Negative indices count from its end. -/
def place? (length : Nat) (index : Int) : Option Nat :=
  if index < 0 then
    if index.natAbs ≤ length then some (length - index.natAbs) else none
  else if index.toNat < length then some index.toNat
  else none

/-- The part of a row that arguments name by a start and a length, or by a range. -/
def part? (length : Nat) : List ScriptValue → Option (Nat × Nat)
  | [.int start, .int count] => some (clip length start count)
  | [range] => (span? range).map fun (start, count) => clip length start count
  | _ => none

end SchemaMatch.Script.Library
