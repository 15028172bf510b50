import SchemaMatch.Toml.Reading
import SchemaMatch.Toml.Scalar

/-!
Contract: TOML documents read from text.

Owns:
- the grammar of documents, version 1.0, with limits on the nesting of values and on the parts
  of a dotted key.

The reader takes a document or refuses it; the reason plays no part. Every loop takes fuel that
the length of the text bounds.

Does not own: which definitions may meet in one document.
-/

namespace SchemaMatch.Toml

open Reading

/-! ## Words -/

/-- A character of a value without quotes. -/
def isWordCharacter (character : Char) : Bool :=
  character.isAlphanum || character == '_' || character == '+' || character == '-' ||
    character == '.' || character == ':'

/-- A value without quotes or brackets. A blank may stand between a date and a time. -/
def word : Reading Toml := do
  let first ← takeAll isWordCharacter
  let second ← do
    match date? first, ← get with
    | some [], ' ' :: digit :: _ =>
        if Numeral.isDigit digit then
          advance
          pure (' ' :: (← takeAll isWordCharacter))
        else pure []
    | _, _ => pure []
  let text := first ++ second
  if text == "true".toList then return .bool true
  else if text == "false".toList then return .bool false
  else if isInstant text then return .instant
  else if isInteger text || isFloat text then return .number
  else failure

/-! ## Keys -/

def isBareCharacter (character : Char) : Bool :=
  character.isAlphanum || character == '_' || character == '-'

def simpleKey : Reading String := do
  match ← peek with
  | some '"' =>
      advance
      shortString '"'
  | some '\'' =>
      advance
      shortString '\''
  | _ =>
      let name ← takeAll isBareCharacter
      if name.isEmpty then failure
      return String.ofList name

def keyParts : Nat → Reading (List String)
  | 0 => failure
  | fuel + 1 => do
      skipBlanks
      let part ← simpleKey
      skipBlanks
      if ← accept "." then return part :: (← keyParts fuel)
      else return [part]

/-- A key with fewer than this many parts is read. -/
def depthLimit : Nat := 80

/-- The parts of a key, with points between them. -/
def key : Reading (List String) := do
  let parts ← keyParts (← fuel)
  if parts.length < depthLimit then return parts else failure

/-! ## Values -/

mutual

/-- A value. `depth` is how many levels of arrays and inline tables may still open. -/
def value (depth : Nat) : Nat → Reading Toml
  | 0 => failure
  | fuel + 1 => do
      match ← peek with
      | some '"' =>
          if ← accept "\"\"\"" then return .string (← longString '"' true)
          else
            advance
            return .string (← shortString '"')
      | some '\'' =>
          if ← accept "'''" then return .string (← longString '\'' false)
          else
            advance
            return .string (← shortString '\'')
      | some '[' =>
          if depth ≤ 1 then failure
          advance
          return .array (← items (depth - 1) fuel)
      | some '{' =>
          if depth ≤ 1 then failure
          advance
          skipBlanks
          if ← accept "\x7d" then return .table .inline []
          else return .table .inline (← members (depth - 1) fuel [])
      | _ => word

/-- The items of an array and its closing bracket. A comma may follow the last item. -/
def items (depth : Nat) : Nat → Reading (List Toml)
  | 0 => failure
  | fuel + 1 => do
      gap (← Reading.fuel)
      if ← accept "]" then return []
      else
        let item ← value depth fuel
        gap (← Reading.fuel)
        if ← accept "," then return item :: (← items depth fuel)
        else
          expect "]"
          return [item]

/-- The members of an inline table and its closing brace, on one line. -/
def members (depth : Nat) : Nat → Entries → Reading Entries
  | 0, _ => failure
  | fuel + 1, entries => do
      let path ← key
      expect "="
      skipBlanks
      let item ← value depth fuel
      skipBlanks
      let entries ← (defineDotted item path entries : Option Entries)
      if ← accept "," then members depth fuel entries
      else
        expect "\x7d"
        return entries

end

/-! ## Documents -/

/-- The line of a key and its value, in the table that the last header opened. -/
def definition (header : List String) (entries : Entries) : Reading Entries := do
  let path ← key
  expect "="
  skipBlanks
  let item ← value depthLimit (2 * (← fuel) + 2)
  lineEnd
  (changeAt (defineDotted item path) header entries : Option Entries)

/-- The line of a header, and the path of the table it opens. -/
def header (entries : Entries) : Reading (List String × Entries) := do
  let shared ← accept "[["
  if !shared then expect "["
  let path ← key
  expect (if shared then "]]" else "]")
  lineEnd
  let last ← (path.getLast? : Option String)
  let openLast := if shared then openElement last else openTable last
  let entries ← (changeAt openLast path.dropLast entries : Option Entries)
  return (path, entries)

/-- The lines of a document. -/
def lines : Nat → List String → Entries → Reading Entries
  | 0, _, entries => return entries
  | fuel + 1, current, entries => do
      skipBlanks
      match ← peek with
      | none => return entries
      | some '[' =>
          let (current, entries) ← header entries
          lines fuel current entries
      | some character =>
          if character = '#' ∨ character = '\n' ∨ character = '\r' then
            lineEnd
            lines fuel current entries
          else
            let entries ← definition current entries
            lines fuel current entries

/-- The entries of the document a text holds. A byte order mark may come first. -/
def ofText? (text : String) : Option Entries := do
  let characters := match text.toList with
    | '\uFEFF' :: rest => rest
    | characters => characters
  let (entries, rest) ← (lines (characters.length + 1) [] []).run characters
  if rest.isEmpty then some entries else none

end SchemaMatch.Toml
