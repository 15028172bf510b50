import SchemaMatch.Json.Basic
import SchemaMatch.Schema.Form

/-!
Contract: items with typed fields, and what makes an explicit item well formed.

Owns:
- the typed view of an item;
- the violations an explicit item is refused for, and their wording;
- the order in which fields are examined: as the item lists them, the rule on the data of
  arrays last.

A violation quotes the offending field as a document one level deep: containers are shown
empty, values without a document form by their kind.

Does not own: comparing data with items.
-/

namespace SchemaMatch

/-- The type a field of a document must have. -/
inductive JsonType where
  | string
  | array
  | object
  | boolean
deriving DecidableEq, Repr

def JsonType.name : JsonType → String
  | .string => "string"
  | .array => "array"
  | .object => "object"
  | .boolean => "boolean"

/-- Why an explicit item is malformed. -/
inductive Violation where
  | wrongType (quoted : Json) (expected : JsonType)
  | unknownKind (quoted : Json)
  /-- An object where a class should stand. -/
  | missingClassMark
  /-- A value of another kind where a class should stand. -/
  | notClass
  /-- Fields that a call must not have. There is at least one. -/
  | unexpectedFields (first : String) (others : List String)

namespace Violation

/-- How a list of candidates is quoted: the first two and the number of the others. -/
def candidatesText : List String → String
  | first :: second :: others =>
      Json.quote first ++ ", " ++ Json.quote second ++ " or " ++ toString others.length ++
        " other candidates"
  | _ => ""

def detail : Violation → String
  | .wrongType quoted expected =>
      quoted.render ++ " is not of type " ++ Json.quote expected.name
  | .unknownKind quoted =>
      quoted.render ++ " is not one of " ++ candidatesText (Kind.all.map Kind.name)
  | .missingClassMark => "\"$kind\" is a required property"
  | .notClass => "\"class\" was expected"
  | .unexpectedFields first others =>
      "Additional properties are not allowed (" ++
        String.intercalate ", " ((first :: others).map fun name => "'" ++ name ++ "'") ++
        (if others.isEmpty then " was" else " were") ++ " unexpected)"

/-- The message of a malformed item. -/
def message (violation : Violation) : String :=
  "Validation Error\r\n\t" ++ violation.detail

end Violation

/-- One declared call of a function item. -/
structure Call where
  args : List Value
  result : Value

/-- An item with typed fields. Undefined fields count as absent. -/
structure Item where
  kind : Kind
  data : Option Value
  tag : Option Class
  calls : Option (List Call)
  allowExtraKeys : Option Bool

namespace Item

/-! ## Quoting -/

def kindMark (kind : String) : Json :=
  .object [("$kind", .string kind)]

/-- A value as a document one level deep. -/
def quoted : Value → Json
  | .undefined => .null
  | .null => .null
  | .bool value => .bool value
  | .number value => if value.isFinite then .number (.double value) else .null
  | .string value => .string value
  | .array _ => .array []
  | .object .. => .object []
  | .date _ => kindMark "date"
  | .regex _ => kindMark "regex"
  | .function _ => kindMark "function"
  | .classTag _ => kindMark "class"

/-! ## Fields -/

def kind? : Value → Except Violation Kind
  | .string name =>
      match Kind.ofName? name with
      | some kind => .ok kind
      | none => .error (.unknownKind (quoted (.string name)))
  | other => .error (.wrongType (quoted other) .string)

def class? : Value → Except Violation Class
  | .classTag tag => .ok tag
  | .object .. => .error .missingClassMark
  | .date _ => .error .notClass
  | .regex _ => .error .notClass
  | .function _ => .error .notClass
  | other => .error (.wrongType (quoted other) .object)

def allowExtraKeys? : Value → Except Violation Bool
  | .bool value => .ok value
  | other => .error (.wrongType (quoted other) .boolean)

def args? : Value → Except Violation (List Value)
  | .array items => .ok items
  | other => .error (.wrongType (quoted other) .array)

/-- The defined field under a key. -/
def field? (key : String) (fields : List (String × Value)) : Option Value :=
  (Fields.lookup? key fields).bind Value.defined?

/-- The defined fields, in order. -/
def definedFields (fields : List (String × Value)) : List (String × Value) :=
  fields.filter fun field => !field.2.isUndefined

/-- Names that a call must not have. -/
def foreignNames (fields : List (String × Value)) : List String :=
  (Fields.keys (definedFields fields)).filter fun name => name != "args" && name != "result"

/-- A call entry. Its arguments are examined before its names. A value with a kind mark
stands for an object with that one foreign name. -/
def call? : Value → Except Violation Call
  | .object _ fields => do
      let args ← match field? "args" fields with
        | some value => args? value
        | none => pure []
      match foreignNames fields with
      | [] => return { args := args, result := (Fields.lookup? "result" fields).getD .undefined }
      | first :: others => throw (.unexpectedFields first others)
  | .date _ => .error (.unexpectedFields "$kind" [])
  | .regex _ => .error (.unexpectedFields "$kind" [])
  | .function _ => .error (.unexpectedFields "$kind" [])
  | .classTag _ => .error (.unexpectedFields "$kind" [])
  | other => .error (.wrongType (quoted other) .object)

def calls? : Value → Except Violation (List Call)
  | .array entries => entries.mapM call?
  | other => .error (.wrongType (quoted other) .array)

/-- What one field alone violates. -/
def examine (key : String) (value : Value) : Except Violation Unit :=
  match key with
  | "type" => (kind? value).map fun _ => ()
  | "class" => (class? value).map fun _ => ()
  | "calls" => (calls? value).map fun _ => ()
  | "allowExtraKeys" => (allowExtraKeys? value).map fun _ => ()
  | _ => .ok ()

/-- What the fields violate, the first offending field first. -/
def examineAll : List (String × Value) → Except Violation Unit
  | [] => .ok ()
  | (key, value) :: rest => do
      examine key value
      examineAll rest

/-- An optional field that has been examined. -/
def optional {α : Type} (read : Value → Except Violation α) (value : Option Value) :
    Except Violation (Option α) :=
  match value with
  | some value => (read value).map some
  | none => .ok none

/-- The data of an array item must be an array. -/
def examineData (kind : Kind) (data : Option Value) : Except Violation Unit :=
  match kind, data with
  | .array, some (.array _) => .ok ()
  | .array, some other => .error (.wrongType (quoted other) .array)
  | _, _ => .ok ()

/-- The typed view of an explicit item, or what it violates first. -/
def ofFields? (fields : List (String × Value)) : Except Violation Item := do
  examineAll (definedFields fields)
  let kind ← kind? ((field? "type" fields).getD .undefined)
  let data := field? "data" fields
  examineData kind data
  let tag ← optional class? (field? "class" fields)
  let calls ← optional calls? (field? "calls" fields)
  let allowExtraKeys ← optional allowExtraKeys? (field? "allowExtraKeys" fields)
  return { kind, data, tag, calls, allowExtraKeys }

/-- The typed view of a classified schema. Shorthand is well formed by its shape. -/
def ofForm? : SchemaForm → Except Violation Item
  | .shorthand kind data =>
      .ok
        { kind := kind
          data := data.defined?
          tag := none
          calls := none
          allowExtraKeys := none }
  | .explicit _ fields => ofFields? fields

end Item

end SchemaMatch
