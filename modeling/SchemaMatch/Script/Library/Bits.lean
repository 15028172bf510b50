import SchemaMatch.Script.Arithmetic
import SchemaMatch.Script.Library.Answer

/-!
Contract: the functions of scripts on the bits of integers.

Owns:
- single bits, fields of neighbouring bits, and going through bits.

Does not own: bits by index.
-/

namespace SchemaMatch.Script.Library.Bits

/-- The bits that a start and a count name, as far as there are any. -/
def field (start count : Int) : Except FaultCause (Nat × Nat) :=
  match place? 64 start with
  | some place => .ok (place, min count.toNat (64 - place))
  | none => .error (.bitBounds start)

def get (value start count : Int) : Outcome :=
  if count ≤ 0 then gives (.int 0)
  else settles ((field start count).map fun (place, count) =>
    .int (Arithmetic.bits value place count))

def set (value start count new : Int) : Outcome :=
  if count ≤ 0 then becomes (.int value) .unit
  else
    match field start count with
    | .ok (place, count) => becomes (.int (Arithmetic.setBits value place count new)) .unit
    | .error cause => fails cause

/-- Neighbouring bits one after the other, the least one first. -/
def each (value start count : Int) : Outcome :=
  settles ((field start count).map fun (place, count) =>
    .stream .bits ((List.range count).map fun offset =>
      .bool (Arithmetic.testBit value (place + offset))))

def functions (value : Int) : Functions :=
  [ ("get_bit", fun
      | [.int bit] =>
          match place? 64 bit with
          | some place => gives (.bool (Arithmetic.testBit value place))
          | none => fails (.bitBounds bit)
      | _ => none),
    ("set_bit", fun
      | [.int bit, .bool isSet] =>
          match place? 64 bit with
          | some place => becomes (.int (Arithmetic.setBit value place isSet)) .unit
          | none => fails (.bitBounds bit)
      | _ => none),
    ("get_bits", fun
      | [.int start, .int count] => get value start count
      | [range] => do
          let (start, count) ← span? range
          get value start count
      | _ => none),
    ("set_bits", fun
      | [.int start, .int count, .int new] => set value start count new
      | [range, .int new] => do
          let (start, count) ← span? range
          set value start count new
      | _ => none),
    ("bits", fun
      | [] => each value 0 64
      | [.int start] => each value start 64
      | [.int start, .int count] => each value start count
      | [range] => do
          let (start, count) ← span? range
          each value start count
      | _ => none) ]

end SchemaMatch.Script.Library.Bits
