import SchemaMatch.Schema.Item
import SchemaMatch.Schema.Policy

/-!
Contract: schemas as trees of typed nodes.

Owns:
- the tree a check walks; a malformed item is a node of its own, so it is reported only when
  the walk reaches it;
- the reading of a schema value as such a tree.

Reading goes from the leaves up: every part of the value is read as a schema, and a node picks
the parts that serve it as children. The parts of a shorthand are its own; the parts of an
explicit item are those of its `data` and, for calls, of its `calls`.

Does not own: the walk.
-/

namespace SchemaMatch

/-- The kinds whose data is one primitive. -/
inductive ScalarKind where
  | boolean
  | number
  | undefined
deriving DecidableEq, Repr

def ScalarKind.toKind : ScalarKind → Kind
  | .boolean => .boolean
  | .number => .number
  | .undefined => .undefined

inductive Schema where
  | malformed (violation : Violation)
  | scalar (kind : ScalarKind) (expected : Option Value)
  | string (checks : List Value)
  | null
  | date (expected : Option Value)
  | function (expected : Option Value) (calls : List (Call × Schema))
  /-- Declared keys with the schemas of their values. `own` is the policy the node sets. -/
  | object (tag : Option Class) (own : Option Bool) (children : List (String × Schema))
  /-- Without items, any array will do. -/
  | array (items : Option (List Schema))

/-- A value read as a schema, together with its parts read the same way. The parts of an
object are named by its keys, those of an array by their indices. -/
inductive Outline where
  | mk (schema : Schema) (parts : List (String × Outline))

namespace Outline

def schema : Outline → Schema
  | .mk schema _ => schema

def parts : Outline → List (String × Outline)
  | .mk _ parts => parts

/-- The schemas of the parts, under their names. -/
def children (parts : List (String × Outline)) : List (String × Schema) :=
  parts.map fun part => (part.1, part.2.schema)

/-- The parts of the part with a name. -/
def partsOf (name : String) (parts : List (String × Outline)) : List (String × Outline) :=
  match Fields.lookup? name parts with
  | some outline => outline.parts
  | none => []

/-- The schema a call's result is checked against. Without one, the result must be
undefined. -/
def resultSchema (entry : Outline) : Schema :=
  match Fields.lookup? "result" entry.parts with
  | some outline => outline.schema
  | none => .scalar .undefined none

end Outline

namespace Schema

/-- The checks of a string item: the elements of an array, or the data alone. -/
def stringChecks : Option Value → List Value
  | none => []
  | some (.array checks) => checks
  | some check => [check]

/-- The node of an item whose data has the parts `parts` and whose calls have the results
`results`. -/
def ofItem (item : Item) (own : Option Bool) (parts : List (String × Outline))
    (results : List Schema) : Schema :=
  match item.kind with
  | .boolean => .scalar .boolean item.data
  | .number => .scalar .number item.data
  | .undefined => .scalar .undefined item.data
  | .string => .string (stringChecks item.data)
  | .null => .null
  | .date => .date item.data
  | .function => .function item.data ((item.calls.getD []).zip results)
  | .object => .object item.tag own (Outline.children parts)
  | .array => .array (item.data.map fun _ => (Outline.children parts).map Prod.snd)

/-- The node of a value whose parts have been read. -/
def assemble (value : Value) (parts : List (String × Outline)) : Schema :=
  let form := SchemaForm.ofValue value
  match Item.ofForm? form with
  | .error violation => .malformed violation
  | .ok item =>
      let own := Policy.own? form.marker? item.allowExtraKeys
      match form with
      | .shorthand .. => ofItem item own parts []
      | .explicit .. =>
          ofItem item own (Outline.partsOf "data" parts)
            ((Outline.partsOf "calls" parts).map fun part => part.2.resultSchema)

mutual

def outline : Value → Outline
  | .array items =>
      let parts := outlineItems 0 items
      .mk (assemble (.array items) parts) parts
  | .object tag fields =>
      let parts := outlineFields fields
      .mk (assemble (.object tag fields) parts) parts
  | .undefined => .mk (assemble .undefined []) []
  | .null => .mk (assemble .null []) []
  | .bool value => .mk (assemble (.bool value) []) []
  | .number value => .mk (assemble (.number value) []) []
  | .string value => .mk (assemble (.string value) []) []
  | .date value => .mk (assemble (.date value) []) []
  | .regex value => .mk (assemble (.regex value) []) []
  | .function value => .mk (assemble (.function value) []) []
  | .classTag value => .mk (assemble (.classTag value) []) []

def outlineItems (index : Nat) : List Value → List (String × Outline)
  | [] => []
  | item :: rest => (toString index, outline item) :: outlineItems (index + 1) rest

def outlineFields : List (String × Value) → List (String × Outline)
  | [] => []
  | (key, value) :: rest => (key, outline value) :: outlineFields rest

end

/-- The tree a schema value denotes. -/
def ofValue (value : Value) : Schema :=
  (outline value).schema

end Schema

end SchemaMatch
