import SchemaMatch.Script.Fault

/-!
Contract: how much a value of a script may hold.

Owns:
- the items, entries and bytes in a value at any depth;
- the limit on each.

Does not own: when sizes are checked.
-/

namespace SchemaMatch.Script

/-- How many items, entries and bytes of text a value holds. -/
structure DataSize where
  items : Nat
  entries : Nat
  bytes : Nat

namespace DataSize

def zero : DataSize := ⟨0, 0, 0⟩

def add (left right : DataSize) : DataSize :=
  ⟨left.items + right.items, left.entries + right.entries, left.bytes + right.bytes⟩

mutual

def ofValue : ScriptValue → DataSize
  | .string value => ⟨0, 0, value.utf8ByteSize⟩
  | .array items => ofItems items
  | .blob bytes => ⟨bytes.length, 0, 0⟩
  | .map entries => ofEntries entries
  | _ => zero

def ofItems : List ScriptValue → DataSize
  | [] => zero
  | item :: rest => ((ofValue item).add ⟨1, 0, 0⟩).add (ofItems rest)

def ofEntries : List (String × ScriptValue) → DataSize
  | [] => zero
  | (_, value) :: rest => ((ofValue value).add ⟨0, 1, 0⟩).add (ofEntries rest)

end

def byteLimit : Nat := 4096000

def itemLimit : Nat := 10000

def check (size : DataSize) : Except FaultCause Unit :=
  if byteLimit < size.bytes then .error (.tooLarge "Length of string")
  else if itemLimit < size.items then .error (.tooLarge "Size of array/BLOB")
  else if itemLimit < size.entries then .error (.tooLarge "Size of object map")
  else .ok ()

end DataSize

end SchemaMatch.Script
