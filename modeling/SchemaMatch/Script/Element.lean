import SchemaMatch.Script.Arithmetic
import SchemaMatch.Script.Library

/-!
Contract: the elements of values, by index and by property.

Owns:
- items of arrays, bytes of blobs, characters and parts of strings, and entries of maps;
- bits of integers, and fields of neighbouring bits;
- what becomes of a value when an element of it is replaced.

A missing entry of a map reads as unit; replacing it adds it.

Does not own: chains of elements.
-/

namespace SchemaMatch.Script

namespace Element

def integer (index : ScriptValue) : Except FaultCause Int :=
  match index with
  | .int value => .ok value
  | other => .error (.mismatched "i64" other.foreignTypeName)

def key (index : ScriptValue) : Except FaultCause String :=
  match index with
  | .string value => .ok value
  | other => .error (.mismatched "string" other.foreignTypeName)

/-- The place that an index denotes, or the fault of an index out of bounds. -/
def place (length : Nat) (index : Int) (outside : FaultCause) : Except FaultCause Nat :=
  match Library.place? length index with
  | some place => .ok place
  | none => .error outside

/-- The bits that a range of places denotes in an integer, by the first and the number of
them. Their places do not count from the end. -/
def bitField? (first last : Int) (inclusive : Bool) : Except FaultCause (Nat × Nat) := do
  let inside (bit : Int) : Except FaultCause Nat :=
    if 0 ≤ bit ∧ bit < 64 then .ok bit.toNat else .error (.bitBounds bit)
  let start ← inside first
  let stop ← inside last
  return (start, if inclusive then stop + 1 - start else stop - start)

/-- The characters that a range of places denotes in a string: where they start and where those
behind them do. A range may go past the end, but not past the start. -/
def characters? (length : Nat) (first last : Int) (inclusive : Bool) :
    Except FaultCause (Nat × Nat) := do
  let place (index : Int) : Except FaultCause Nat :=
    if 0 ≤ index then .ok index.toNat
    else if index.natAbs ≤ length then .ok (length - index.natAbs)
    else .error (.stringBounds length index)
  let start ← place first
  let stop ← place last
  return (start, if inclusive then stop + 1 else stop)

/-- Why a value has no elements for an index. -/
def missing (value index : ScriptValue) : FaultCause :=
  .indexerMissing (value.typeName ++ " [" ++ index.typeName ++ "]")

def hasElements : ScriptValue → Bool
  | .array _ => true
  | .blob _ => true
  | .map _ => true
  | .string _ => true
  | .int _ => true
  | _ => false

/-- The element of a value that has elements. -/
def get (value index : ScriptValue) : Except FaultCause ScriptValue :=
  match value with
  | .array items => do
      let index ← integer index
      let place ← place items.length index (.arrayBounds items.length index)
      return items[place]?.getD .unit
  | .map entries => do
      let key ← key index
      return (entries.lookup key).getD .unit
  | .string text => do
      match index with
      | .range first last inclusive =>
          let (start, stop) ← characters? text.length first last inclusive
          return .string (String.ofList ((text.toList.drop start).take (stop - start)))
      | _ =>
          let index ← integer index
          let place ← place text.length index (.stringBounds text.length index)
          return (text.toList[place]?.map .char).getD .unit
  | .blob bytes => do
      let index ← integer index
      let place ← place bytes.length index (.arrayBounds bytes.length index)
      return .int ((bytes[place]?.map UInt8.toNat).getD 0)
  | .int number => do
      match index with
      | .range first last inclusive =>
          let (start, count) ← bitField? first last inclusive
          return .int (Arithmetic.signedBits number start count)
      | _ =>
          let index ← integer index
          let place ← place 64 index (.bitBounds index)
          return .bool (Arithmetic.testBit number place)
  | _ => .error (missing value index)

/-- A value with another element. Characters and bits only take their own kind. A character in
front of the end of a string is read there, but written as far behind the start. -/
def set (value index element : ScriptValue) : Except FaultCause ScriptValue :=
  match value with
  | .array items => do
      let index ← integer index
      let place ← place items.length index (.arrayBounds items.length index)
      return .array (items.set place element)
  | .map entries => do
      let key ← key index
      return .map (ScriptValue.insertSorted key element entries)
  | .string text => do
      match index with
      | .range first last inclusive =>
          let (start, stop) ← characters? text.length first last inclusive
          match element with
          | .string part =>
              return .string (String.ofList
                (text.toList.take start ++ part.toList ++ text.toList.drop stop))
          | other => .error (.mismatched "string" other.foreignTypeName)
      | _ =>
          let index ← integer index
          let _ ← place text.length index (.stringBounds text.length index)
          match element with
          | .char character =>
              return .string (String.ofList (text.toList.set index.natAbs character))
          | other => .error (.mismatched "char" other.foreignTypeName)
  | .blob bytes => do
      let index ← integer index
      let place ← place bytes.length index (.arrayBounds bytes.length index)
      match element with
      | .int value => return .blob (bytes.set place (ScriptValue.byte value))
      | other => .error (.mismatched "INT" other.foreignTypeName)
  | .int number => do
      match index with
      | .range first last inclusive =>
          let (start, count) ← bitField? first last inclusive
          match element with
          | .int value => return .int (Arithmetic.setBits number start count value)
          | other => .error (.mismatched "integer" other.foreignTypeName)
      | _ =>
          let index ← integer index
          let place ← place 64 index (.bitBounds index)
          match element with
          | .bool isSet => return .int (Arithmetic.setBit number place isSet)
          | other => .error (.mismatched "bool" other.foreignTypeName)
  | _ => .error (missing value index)

/-- Why a property cannot be read. -/
def unreadable (value : ScriptValue) (name : String) : FaultCause :=
  .badProperty ("Unknown property '" ++ name ++
    "' - a getter is not registered for type '" ++ value.typeName ++ "'")

/-- Why a property cannot be written. -/
def unwritable (value : ScriptValue) (name : String) (written : ScriptValue) : FaultCause :=
  .badProperty ("No writable property '" ++ name ++
    "' - a setter is not registered for type '" ++ value.typeName ++ "' to handle '" ++
    written.typeName ++ "'")

/-- The property of a value. Only maps have properties of any name. -/
def property (value : ScriptValue) (name : String) : Except FaultCause ScriptValue :=
  match value with
  | .map entries => .ok ((entries.lookup name).getD .unit)
  | _ =>
      match Library.property? value name with
      | some result => .ok result
      | none => .error (unreadable value name)

end Element

end SchemaMatch.Script
