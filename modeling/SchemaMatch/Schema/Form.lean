import SchemaMatch.Schema.Kind
import SchemaMatch.Value.Object

/-!
Contract: the two ways to write a schema.

Owns:
- the classification of a schema value: an explicit item has reserved fields only and a
  defined `type`, any other value is shorthand for an item of the kind its shape implies;
- the marker that sets the extra-key policy inside shorthand objects;
- the written-out form of either.

The value of `type` plays no part in the classification, so an explicit item may be
malformed.

Does not own: what makes an explicit item well formed.
-/

namespace SchemaMatch

/-- A schema value after classification. -/
inductive SchemaForm where
  /-- The value is its own expected data. -/
  | shorthand (kind : Kind) (data : Value)
  /-- An item written out by its author, as an object. -/
  | explicit (tag : Option Class) (fields : List (String × Value))

namespace SchemaForm

def reservedFields : List String := ["type", "data", "class", "calls", "allowExtraKeys"]

/-- The key inside a shorthand object that sets its extra-key policy. It is never compared as
data. -/
def markerKey : String := "_deepCheck_allowExtraKeys"

/-- Only reserved fields, and a defined `type`. -/
def isExplicit (fields : List (String × Value)) : Bool :=
  (Fields.keys fields).all (fun key => reservedFields.contains key) &&
    match Fields.lookup? "type" fields with
    | some value => !value.isUndefined
    | none => false

def ofValue : Value → SchemaForm
  | .undefined => .shorthand .undefined .undefined
  | .null => .shorthand .null .null
  | .bool value => .shorthand .boolean (.bool value)
  | .number value => .shorthand .number (.number value)
  | .string value => .shorthand .string (.string value)
  | .date value => .shorthand .date (.date value)
  | .regex value => .shorthand .object (.regex value)
  | .array items => .shorthand .array (.array items)
  | .function value => .shorthand .function (.function value)
  | .classTag value => .shorthand .function (.classTag value)
  | .object tag fields =>
      if isExplicit fields then .explicit tag fields
      else .shorthand .object (.object tag fields)

def isShorthand : SchemaForm → Bool
  | .shorthand .. => true
  | .explicit .. => false

/-- The kind of a shorthand. -/
def kind? : SchemaForm → Option Kind
  | .shorthand kind _ => some kind
  | .explicit .. => none

/-- The defined marker of a shorthand object. -/
def marker? : SchemaForm → Option Value
  | .shorthand .object (.object _ fields) =>
      (Fields.lookup? markerKey fields).bind Value.defined?
  | _ => none

/-- The item written out as a schema value. -/
def toValue : SchemaForm → Value
  | .shorthand kind data => .ofPairs [("type", .string kind.name), ("data", data)]
  | .explicit tag fields => .object tag fields

end SchemaForm

end SchemaMatch
