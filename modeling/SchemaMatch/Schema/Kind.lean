/-!
Contract: the nine kinds of schema items.

Owns:
- the kinds, their names and the reading of names.

Does not own: which kind a schema value has.
-/

namespace SchemaMatch

inductive Kind where
  | boolean
  | string
  | array
  | number
  | undefined
  | function
  | object
  | date
  | null
deriving DecidableEq, Repr

namespace Kind

/-- All kinds, in the order error texts list them. -/
def all : List Kind :=
  [.boolean, .string, .array, .number, .undefined, .function, .object, .date, .null]

def name : Kind → String
  | .boolean => "boolean"
  | .string => "string"
  | .array => "array"
  | .number => "number"
  | .undefined => "undefined"
  | .function => "function"
  | .object => "object"
  | .date => "date"
  | .null => "null"

def ofName? (name : String) : Option Kind :=
  all.find? fun kind => kind.name == name

end Kind

end SchemaMatch
