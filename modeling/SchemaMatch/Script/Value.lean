import SchemaMatch.Number.Notation
import SchemaMatch.Text.Quoted

/-!
Contract: the values that scripts compute with.

Owns:
- the value type; integers are 64 bits wide, maps are sorted by key;
- type names as error texts give them;
- the texts of a value, one for faults and one for what scripts print;
- insertion into sorted maps.

Does not own: operations on values.
-/

namespace SchemaMatch

/-- What a stream goes through. -/
inductive StreamKind where
  | characters
  | steps
  | floatSteps
  | bits
deriving DecidableEq, Repr

def StreamKind.foreignName : StreamKind → String
  | .characters => "rhai::packages::iter_basic::CharsStream"
  | .steps => "rhai::packages::iter_basic::StepRange<i64>"
  | .floatSteps => "rhai::packages::iter_basic::StepRange<f64>"
  | .bits => "rhai::packages::iter_basic::BitRange"

inductive ScriptValue where
  | unit
  | bool (value : Bool)
  | int (value : Int)
  | float (value : Binary64)
  | char (value : Char)
  | string (value : String)
  | array (items : List ScriptValue)
  /-- Entries in the order of their keys. -/
  | map (entries : List (String × ScriptValue))
  /-- A function by name, with arguments that calls put before their own. -/
  | function (name : String) (curried : List ScriptValue)
  | range (first last : Int) (inclusive : Bool)
  /-- A row of bytes. -/
  | blob (bytes : List UInt8)
  /-- Values that can only be gone through, one after the other. -/
  | stream (kind : StreamKind) (items : List ScriptValue)
  /-- Nanoseconds on the clock of the run. -/
  | timestamp (instant : Int)
  /-- A cell that several variables share. -/
  | shared (address : Nat)

namespace ScriptValue

instance : Inhabited ScriptValue := ⟨.unit⟩

/-- Type names in error texts. -/
def typeName : ScriptValue → String
  | .unit => "()"
  | .bool _ => "bool"
  | .int _ => "i64"
  | .float _ => "f64"
  | .char _ => "char"
  | .string _ => "string"
  | .array _ => "array"
  | .map _ => "map"
  | .function .. => "Fn"
  | .range _ _ false => "range"
  | .range _ _ true => "range="
  | .blob _ => "blob"
  | .stream .. => "range"
  | .timestamp _ => "timestamp"
  | .shared _ => "shared"

/-- Type names outside of scripts, where ranges and streams have no short ones. Faults about the
type of one value give these. -/
def foreignTypeName : ScriptValue → String
  | .range _ _ false => "core::ops::range::Range<i64>"
  | .range _ _ true => "core::ops::range::RangeInclusive<i64>"
  | .stream kind _ => kind.foreignName
  | other => other.typeName

def isString : ScriptValue → Bool
  | .string _ => true
  | _ => false

/-- Put a value under a key into a list sorted by keys. -/
def insertSorted {α : Type} (key : String) (value : α) : List (String × α) → List (String × α)
  | [] => [(key, value)]
  | (name, old) :: rest =>
      if key = name then (name, value) :: rest
      else if key < name then (key, value) :: (name, old) :: rest
      else (name, old) :: insertSorted key value rest

def ofPairs (pairs : List (String × ScriptValue)) : ScriptValue :=
  .map (pairs.foldl (fun entries (key, value) => insertSorted key value entries) [])

/-- A range up to the last integer has no end. -/
def rangeText (first last : Int) (inclusive : Bool) : String :=
  toString first ++ (if inclusive then "..=" else "..") ++
    (if last = 2 ^ 63 - 1 then "" else toString last)

/-- The low eight bits of an integer. -/
def byte (value : Int) : UInt8 := (value % 256).toNat.toUInt8

/-- Bytes in pairs of digits, with a blank behind every eighth. -/
def blobText : Nat → List UInt8 → List Char
  | _, [] => []
  | place, byte :: rest =>
      let digits := [Nat.digitChar (byte.toNat / 16), Nat.digitChar (byte.toNat % 16)]
      (if place % 8 = 0 ∧ 0 < place then ' ' :: digits else digits) ++
        blobText (place + 1) rest

mutual

/-- The text of a value inside a container in faults, which shows the quotes of strings and
characters. -/
def debug : ScriptValue → String
  | .unit => "()"
  | .bool value => if value then "true" else "false"
  | .int value => toString value
  | .float value => value.render .scriptItem
  | .char value => Text.quoted '\'' value.toString
  | .string value => Text.quoted '"' value
  | .array items => "[" ++ String.intercalate ", " (debugItems items) ++ "]"
  | .map entries => "#\x7b" ++ String.intercalate ", " (debugEntries entries) ++ "\x7d"
  | .function name curried =>
      "Fn(" ++ String.intercalate ", " (Text.quoted '"' name :: debugItems curried) ++ ")"
  | .range first last inclusive => rangeText first last inclusive
  | .blob bytes => "[" ++ String.ofList (blobText 0 bytes) ++ "]"
  | .stream kind _ => kind.foreignName
  | .timestamp _ => "<timestamp>"
  | .shared _ => "<shared>"

def debugItems : List ScriptValue → List String
  | [] => []
  | item :: rest => debug item :: debugItems rest

def debugEntries : List (String × ScriptValue) → List String
  | [] => []
  | (key, value) :: rest => (Text.quoted '"' key ++ ": " ++ debug value) :: debugEntries rest

end

/-- The text of a value on its own in faults, and of literals inside texts. -/
def display : ScriptValue → String
  | .string value => value
  | .char value => value.toString
  | .float value => value.render .script
  | .unit => ""
  | .function name _ => "Fn(" ++ name ++ ")"
  | other => debug other

mutual

/-- The text of a value inside a container as scripts print it. Characters have no quotes
there. -/
def printedItem : ScriptValue → String
  | .char value => value.toString
  | .array items => "[" ++ String.intercalate ", " (printedItems items) ++ "]"
  | .map entries => "#\x7b" ++ String.intercalate ", " (printedEntries entries) ++ "\x7d"
  | .function name _ => "Fn(" ++ name ++ ")"
  | .stream kind items => (ScriptValue.stream kind items).typeName
  | other => debug other

def printedItems : List ScriptValue → List String
  | [] => []
  | item :: rest => printedItem item :: printedItems rest

def printedEntries : List (String × ScriptValue) → List String
  | [] => []
  | (key, value) :: rest =>
      (Text.quoted '"' key ++ ": " ++ printedItem value) :: printedEntries rest

end

/-- The text of a value as scripts print it. -/
def printed : ScriptValue → String
  | .string value => value
  | .float value => value.render .script
  | .unit => ""
  | other => printedItem other

end ScriptValue

end SchemaMatch
