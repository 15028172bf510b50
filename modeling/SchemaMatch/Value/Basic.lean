import SchemaMatch.Fields
import SchemaMatch.Number.Reader
import SchemaMatch.Pattern.Basic
import SchemaMatch.Timestamp.Basic
import SchemaMatch.Value.Class

/-!
Contract: the dynamic values that data and schemas consist of.

Owns:
- the value type, with objects as ordered fields under an optional class tag;
- property look-up and the listing of keys;
- the question which values are instances of a class.

Does not own: equality and text, which have modules of their own.
-/

namespace SchemaMatch

inductive Value where
  | undefined
  | null
  | bool (value : Bool)
  | number (value : Binary64)
  | string (value : String)
  | date (value : Timestamp)
  | regex (value : Pattern)
  | array (items : List Value)
  | object (tag : Option Class) (fields : List (String × Value))
  | function (value : Function)
  | classTag (value : Class)

namespace Value

instance : Inhabited Value := ⟨.undefined⟩

/-- The name of a value's type, as error texts give it. -/
def typeName : Value → String
  | .undefined => "undefined"
  | .null => "null"
  | .bool _ => "boolean"
  | .number _ => "number"
  | .string _ => "string"
  | .date _ => "date"
  | .regex _ => "regex"
  | .array _ => "array"
  | .object .. => "object"
  | .function _ => "function"
  | .classTag _ => "class"

def isUndefined : Value → Bool
  | .undefined => true
  | _ => false

def isNull : Value → Bool
  | .null => true
  | _ => false

/-- Objects, arrays, dates and regexes are the values that may have properties. -/
def mayHaveProperties : Value → Bool
  | .object .. => true
  | .array _ => true
  | .date _ => true
  | .regex _ => true
  | _ => false

def isCallable : Value → Bool
  | .function _ => true
  | .classTag _ => true
  | _ => false

def string? : Value → Option String
  | .string value => some value
  | _ => none

/-- The value, unless it is undefined. -/
def defined? (value : Value) : Option Value :=
  if value.isUndefined then none else some value

/-- An index into an array, written as a numeral that fits into 64 bits. -/
def index? (key : String) : Option Nat :=
  Numeral.natBelow? (2 ^ 64) key

/-- The property under a key. Arrays are asked by index; what is missing is undefined. -/
def get (value : Value) (key : String) : Value :=
  match value with
  | .object _ fields => (Fields.lookup? key fields).getD .undefined
  | .array items => ((index? key).bind fun index => items[index]?).getD .undefined
  | _ => .undefined

/-- The keys of an object in order, or the indices of an array. -/
def keys : Value → List String
  | .object _ fields => Fields.keys fields
  | .array items => (List.range items.length).map toString
  | _ => []

/-- An object without class tag, its fields inserted one after the other. -/
def ofPairs (pairs : List (String × Value)) : Value :=
  .object none (Fields.ofPairs pairs)

end Value

/-- Whether a value is an instance of a class. Built-in classes know their instances by type,
other classes by the tag and its lineage. -/
def Class.hasInstance (tag : Class) (value : Value) : Bool :=
  match tag with
  | .builtin .object => value.mayHaveProperties
  | .builtin .array => match value with | .array _ => true | _ => false
  | .builtin .date => match value with | .date _ => true | _ => false
  | .builtin .regexp => match value with | .regex _ => true | _ => false
  | other =>
      match value with
      | .object (some own) _ => own.descendsFrom other
      | _ => false

end SchemaMatch
