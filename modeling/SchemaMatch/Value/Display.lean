import SchemaMatch.Number.Notation
import SchemaMatch.Value.Basic

/-!
Contract: the text of a value inside messages.

Owns:
- the text of every value; an array is its items' texts between commas, and items that are
  undefined or null leave their place empty.

Does not own: documents; `Value.Json` writes those.
-/

namespace SchemaMatch.Value

def functionText (function : Function) : String :=
  match function.name with
  | some name => "[Function: " ++ name ++ "]"
  | none => "[Function (anonymous)]"

mutual

def display : Value → String
  | .undefined => "undefined"
  | .null => "null"
  | .bool value => if value then "true" else "false"
  | .number value => value.render .message
  | .string value => value
  | .date value => value.isoText
  | .regex value => "/" ++ value.source ++ "/"
  | .array items => String.intercalate "," (displayItems items)
  | .object .. => "[object Object]"
  | .function value => functionText value
  | .classTag value => "[class " ++ value.name ++ "]"

def displayItems : List Value → List String
  | [] => []
  | .undefined :: rest => "" :: displayItems rest
  | .null :: rest => "" :: displayItems rest
  | item :: rest => display item :: displayItems rest

end

end SchemaMatch.Value
