import SchemaMatch.Value.Basic

/-!
Contract: objects as they are built up.

Owns:
- an object under construction, with insertion that reports what it replaced;
- collection of an object from pairs.

Does not own: reading properties of finished values.
-/

namespace SchemaMatch

/-- Fields in the order of their first insertion, under an optional class tag. -/
structure Object where
  tag : Option Class
  fields : List (String × Value)

namespace Object

def empty : Object := ⟨none, []⟩

/-- An instance of a class, without fields yet. -/
def instanceOf (tag : Class) : Object := ⟨some tag, []⟩

def get? (object : Object) (key : String) : Option Value :=
  Fields.lookup? key object.fields

/-- Put a value under a key and report the value that was there. -/
def insert (object : Object) (key : String) (value : Value) : Option Value × Object :=
  (object.get? key, { object with fields := Fields.insert key value object.fields })

/-- The object with a value under a key. -/
def adding (object : Object) (key : String) (value : Value) : Object :=
  (object.insert key value).2

/-- The object that pairs give one after the other. It has no tag. -/
def ofPairs (pairs : List (String × Value)) : Object :=
  ⟨none, Fields.ofPairs pairs⟩

def size (object : Object) : Nat :=
  object.fields.length

def isEmpty (object : Object) : Bool :=
  object.fields.isEmpty

def toValue (object : Object) : Value :=
  .object object.tag object.fields

end Object

end SchemaMatch
