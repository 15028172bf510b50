import SchemaMatch.Fields
import SchemaMatch.Number.Notation

/-!
Contract: JSON documents as trees, and their compact text.

Owns:
- the document tree, which tells integers from doubles as documents do;
- the text of a document without blanks.

Does not own: reading text, which has a module of its own.
-/

namespace SchemaMatch

/-- A number of a document. An integer stays exact; any other number is a double. -/
inductive JsonNumber where
  | integer (value : Int)
  | double (value : Binary64)
deriving DecidableEq

namespace JsonNumber

def toBinary64 : JsonNumber → Binary64
  | .integer value => .ofInt value
  | .double value => value

/-- The integer, if the number is one that fits into 64 bits with a sign. -/
def toInt64? : JsonNumber → Option Int
  | .integer value => if -(2 ^ 63) ≤ value ∧ value < 2 ^ 63 then some value else none
  | .double _ => none

def render : JsonNumber → String
  | .integer value => toString value
  | .double value => value.render .json

end JsonNumber

inductive Json where
  | null
  | bool (value : Bool)
  | number (value : JsonNumber)
  | string (value : String)
  | array (items : List Json)
  | object (fields : List (String × Json))

namespace Json

instance : Inhabited Json := ⟨.null⟩

def hexDigit (value : Nat) : Char :=
  if value < 10 then Char.ofNat (value + '0'.toNat) else Char.ofNat (value - 10 + 'a'.toNat)

/-- A character inside quotes. Only quotes, backslashes and control characters are
escaped. -/
def escapeCharacter (character : Char) : List Char :=
  match character with
  | '"' => ['\\', '"']
  | '\\' => ['\\', '\\']
  | '\n' => ['\\', 'n']
  | '\r' => ['\\', 'r']
  | '\t' => ['\\', 't']
  | '\x08' => ['\\', 'b']
  | '\x0C' => ['\\', 'f']
  | _ =>
      if character.toNat < 0x20 then
        ['\\', 'u', '0', '0', hexDigit (character.toNat / 16), hexDigit (character.toNat % 16)]
      else [character]

def quote (text : String) : String :=
  "\"" ++ String.ofList (text.toList.flatMap escapeCharacter) ++ "\""

mutual

/-- The document without blanks. -/
def render : Json → String
  | .null => "null"
  | .bool value => if value then "true" else "false"
  | .number value => value.render
  | .string value => quote value
  | .array items => "[" ++ String.intercalate "," (renderItems items) ++ "]"
  | .object fields => "\x7b" ++ String.intercalate "," (renderFields fields) ++ "\x7d"

def renderItems : List Json → List String
  | [] => []
  | item :: rest => render item :: renderItems rest

def renderFields : List (String × Json) → List String
  | [] => []
  | (key, value) :: rest => (quote key ++ ":" ++ render value) :: renderFields rest

end

/-- The member of an object under a key. -/
def member? (key : String) : Json → Option Json
  | .object fields => Fields.lookup? key fields
  | _ => none

def string? : Json → Option String
  | .string value => some value
  | _ => none

end Json

end SchemaMatch
