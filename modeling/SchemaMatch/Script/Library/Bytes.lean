import SchemaMatch.Script.Arithmetic
import SchemaMatch.Script.Library.Row
import SchemaMatch.Text.Utf8

/-!
Contract: the functions of scripts on rows of bytes.

Owns:
- numbers and text read from bytes and written over them, with either end first.

A number that is cut off keeps the bytes that come first.

Does not own: operators and indexing.
-/

namespace SchemaMatch.Script.Library.Bytes

def kind : RowKind UInt8 where
  make := .blob
  row?
    | .blob bytes => some bytes
    | _ => none
  item byte := .int byte.toNat
  item?
    | .int value => some (ScriptValue.byte value)
    | _ => none
  missing := .int 0

/-- The bytes that a value adds to a row. -/
def appended? : ScriptValue → Option (List UInt8)
  | .blob bytes => some bytes
  | .string text => some text.toUTF8.toList
  | .char character => some character.toString.toUTF8.toList
  | .int value => some [ScriptValue.byte value]
  | _ => none

/-- The number of a row of bytes, the least one first. -/
def total (bytes : List UInt8) : Nat :=
  bytes.foldr (fun byte rest => byte.toNat + 256 * rest) 0

/-- The eight bytes of a number, the least one first. -/
def eight (value : Nat) : List UInt8 :=
  (List.range 8).map fun place => (value / 256 ^ place % 256).toUInt8

/-- The 64 bits of up to eight bytes, which zeros fill up. -/
def word (littleEnd : Bool) (bytes : List UInt8) : Nat :=
  let bytes := bytes.take 8
  let filled := bytes ++ List.replicate (8 - bytes.length) 0
  total (if littleEnd then filled else filled.reverse)

def readInt (littleEnd : Bool) (bytes : List UInt8) : ScriptValue :=
  .int (Int64Range.wrap (word littleEnd bytes))

def readFloat (littleEnd : Bool) (bytes : List UInt8) : ScriptValue :=
  .float (if bytes.isEmpty then .zero false else .ofBits (word littleEnd bytes).toUInt64)

/-- Bytes written over a part of others, as far as both go. -/
def overwrite (bytes : List UInt8) (offset count : Nat) (written : List UInt8) : List UInt8 :=
  let written := written.take count
  bytes.take offset ++ written ++ bytes.drop (offset + written.length)

/-- The bytes of a number. -/
def number? (littleEnd : Bool) (value : ScriptValue) : Option (List UInt8) :=
  let bits : Option Nat := match value with
    | .int value => some (value % 2 ^ 64).toNat
    | .float value => some value.toFloat.toBits.toNat
    | _ => none
  bits.map fun bits => if littleEnd then eight bits else (eight bits).reverse

def string? : ScriptValue → Option (List UInt8)
  | .string text => some text.toUTF8.toList
  | _ => none

def ascii? : ScriptValue → Option (List UInt8)
  | .string text => some ((text.toList.filter fun character => character.toNat < 128).map
      fun character => character.toNat.toUInt8)
  | _ => none

/-- Read the part that arguments name. -/
def reading (bytes : List UInt8) (read : List UInt8 → ScriptValue) (arguments : List ScriptValue) :
    Outcome := do
  let (offset, count) ← part? bytes.length arguments
  gives (read ((bytes.drop offset).take count))

/-- Write the last argument over the part that those before it name. -/
def writing (bytes : List UInt8) (encode? : ScriptValue → Option (List UInt8))
    (arguments : List ScriptValue) : Outcome := do
  let written ← encode? (← arguments.getLast?)
  let (offset, count) ← part? bytes.length arguments.dropLast
  becomes (.blob (overwrite bytes offset count written)) .unit

def functions (bytes : List UInt8) : Functions :=
  [ ("contains", fun
      | [.int value] => gives (.bool (bytes.contains (ScriptValue.byte value)))
      | _ => none),
    ("append", fun
      | [value] => do becomes (.blob (bytes ++ (← appended? value))) .unit
      | _ => none),
    ("to_array", fun
      | [] => gives (.array (bytes.map kind.item))
      | _ => none),
    ("as_string", fun
      | [] => gives (.string (Text.decodeLossily bytes))
      | _ => none),
    ("parse_le_int", reading bytes (readInt true)),
    ("parse_be_int", reading bytes (readInt false)),
    ("parse_le_float", reading bytes (readFloat true)),
    ("parse_be_float", reading bytes (readFloat false)),
    ("write_le", writing bytes (number? true)),
    ("write_be", writing bytes (number? false)),
    ("write_utf8", writing bytes string?),
    ("write_ascii", writing bytes ascii?) ] ++ Row.functions kind bytes

end SchemaMatch.Script.Library.Bytes
