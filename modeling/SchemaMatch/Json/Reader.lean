import SchemaMatch.Json.Basic
import SchemaMatch.Json.Double

/-!
Contract: JSON documents read from text.

Owns:
- the grammar of documents, with a limit on nesting;
- the fault of the first ill-formed part, by line and column; columns count bytes.

A number that is no 64-bit integer is read as a double, and is refused when it is out of range.
Every loop takes fuel that the length of the text bounds.

Does not own: which double that is, and what documents mean.
-/

namespace SchemaMatch

/-- Why a text is no JSON document. -/
inductive JsonFault where
  | endInList
  | endInObject
  | endInString
  | endInValue
  | expectedColon
  | expectedListEnd
  | expectedObjectEnd
  | expectedIdent
  | expectedValue
  | invalidEscape
  | invalidNumber
  | numberOutOfRange
  | controlCharacter
  | keyNotString
  | loneSurrogate
  | trailingComma
  | trailingCharacters
  | hexEscapeEnd
  | tooDeep
deriving DecidableEq, Repr

namespace JsonFault

def message : JsonFault → String
  | .endInList => "EOF while parsing a list"
  | .endInObject => "EOF while parsing an object"
  | .endInString => "EOF while parsing a string"
  | .endInValue => "EOF while parsing a value"
  | .expectedColon => "expected \x60:\x60"
  | .expectedListEnd => "expected \x60,\x60 or \x60]\x60"
  | .expectedObjectEnd => "expected \x60,\x60 or \x60\x7d\x60"
  | .expectedIdent => "expected ident"
  | .expectedValue => "expected value"
  | .invalidEscape => "invalid escape"
  | .invalidNumber => "invalid number"
  | .numberOutOfRange => "number out of range"
  | .controlCharacter =>
      "control character (\\u0000-\\u001F) found while parsing a string"
  | .keyNotString => "key must be a string"
  | .loneSurrogate => "lone leading surrogate in hex escape"
  | .trailingComma => "trailing comma"
  | .trailingCharacters => "trailing characters"
  | .hexEscapeEnd => "unexpected end of hex escape"
  | .tooDeep => "recursion limit exceeded"

end JsonFault

/-- A fault and where it was noticed. -/
structure JsonError where
  fault : JsonFault
  line : Nat
  column : Nat
deriving DecidableEq, Repr

namespace JsonError

def message (error : JsonError) : String :=
  error.fault.message ++ " at line " ++ toString error.line ++ " column " ++
    toString error.column

/-- The line and column after a number of bytes. A column counts the bytes since the last
line break. -/
def locate : List Char → Nat → Nat → Nat → Nat × Nat
  | [], _, line, column => (line, column)
  | character :: rest, bytes, line, column =>
      if bytes = 0 then (line, column)
      else if character = '\n' then locate rest (bytes - 1) (line + 1) 0
      else
        let size := min bytes character.utf8Size
        locate rest (bytes - size) line (column + size)

end JsonError

namespace JsonReader

/-- What is left to read and how many bytes were read. -/
structure Scan where
  rest : List Char
  bytes : Nat

/-- A fault and the number of bytes up to the place it is reported at. -/
abbrev Reading := StateT Scan (Except (JsonFault × Nat))

def peek : Reading (Option Char) := do
  return (← get).rest.head?

def advance : Reading Unit :=
  modify fun scan =>
    match scan.rest with
    | [] => scan
    | character :: rest => ⟨rest, scan.bytes + character.utf8Size⟩

/-- A fault noticed after what was read. -/
def fail {α : Type} (fault : JsonFault) : Reading α := do
  throw (fault, (← get).bytes)

/-- A fault noticed at the next character, whose first byte counts. -/
def failNext {α : Type} (fault : JsonFault) : Reading α := do
  let scan ← get
  throw (fault, if scan.rest.isEmpty then scan.bytes else scan.bytes + 1)

def isSpace (character : Char) : Bool :=
  character == ' ' || character == '\n' || character == '\t' || character == '\r'

def skipSpace : Reading Unit :=
  modify fun scan =>
    let rest := scan.rest.dropWhile isSpace
    ⟨rest, scan.bytes + (scan.rest.length - rest.length)⟩

/-- The next character after blanks. -/
def peekToken : Reading (Option Char) := do
  skipSpace
  peek

/-- Fuel for loops that read the rest. -/
def fuel : Reading Nat := do
  return (← get).rest.length + 1

/-- The rest of a word whose first letter was read. -/
def ident : List Char → Reading Unit
  | [] => return ()
  | expected :: rest => do
      match ← peek with
      | none => fail .endInValue
      | some character =>
          if character = expected then
            advance
            ident rest
          else failNext .expectedIdent

/-! ## Numbers -/

def digitRun : Nat → List Char → Reading (List Char)
  | 0, digits => return digits.reverse
  | fuel + 1, digits => do
      match ← peek with
      | some character =>
          if character.isDigit then
            advance
            digitRun fuel (character :: digits)
          else return digits.reverse
      | none => return digits.reverse

/-- The digits of an exponent. One beyond 31 bits is refused where that shows, unless the
number is zero or the exponent negative. -/
def exponentDigits (harmless : Bool) : Nat → Nat → Reading Nat
  | 0, value => return value
  | fuel + 1, value => do
      match ← peek with
      | some character =>
          match Numeral.digit? character with
          | some digit => do
              advance
              let next := value * 10 + digit
              if 2 ^ 31 ≤ next ∧ !harmless then fail .numberOutOfRange
              else exponentDigits harmless fuel (min next (2 ^ 31))
          | none => return value
      | none => return value

/-- An exponent, whose mark is next. -/
def exponentPart (isZero : Bool) : Reading Int := do
  advance
  let negative ← do
    match ← peek with
    | some '+' =>
        advance
        pure false
    | some '-' =>
        advance
        pure true
    | _ => pure false
  match ← peek with
  | none => fail .endInValue
  | some character =>
      if character.isDigit then
        let value ← exponentDigits (isZero || negative) (← fuel) 0
        return if negative then -(value : Int) else value
      else failNext .invalidNumber

/-- The digits after a point, which is next. -/
def fractionPart : Reading (List Char) := do
  advance
  let digits ← digitRun (← fuel) []
  if digits.isEmpty then
    match ← peek with
    | some _ => failNext .invalidNumber
    | none => fail .endInValue
  else return digits

def isExponentMark (character : Option Char) : Bool :=
  character == some 'e' || character == some 'E'

/-- Which double a number is read as, from its sign, its digits before and after the point and its
exponent. One that is out of range is read as infinite. -/
abbrev Doubles := Bool → List Char → List Char → Int → Binary64

/-- A number after its sign. Integers of 64 bits stay exact, the negative zero is a double. -/
def number (double : Doubles) (negative : Bool) : Reading JsonNumber := do
  match ← peek with
  | none => fail .endInValue
  | some first =>
      if !first.isDigit then failNext .invalidNumber
      else
        let whole ← do
          if first = '0' then
            advance
            match ← peek with
            | some next => if next.isDigit then failNext .invalidNumber else pure ['0']
            | none => pure ['0']
          else digitRun (← fuel) []
        let fraction ← if (← peek) = some '.' then fractionPart else pure []
        let digits := (Numeral.digits? (whole ++ fraction)).getD 0
        let marked := isExponentMark (← peek)
        let exponent ← if marked then exponentPart (digits = 0) else pure 0
        let exact := fraction.isEmpty && !marked
        if exact && !negative && digits < 2 ^ 64 then return .integer digits
        else if exact && negative && 0 < digits && digits ≤ 2 ^ 63 then
          return .integer (-(digits : Int))
        else
          match double negative whole fraction exponent with
          | .infinite _ => fail .numberOutOfRange
          | value => return .double value

/-! ## Strings -/

/-- Four hexadecimal digits. They are cut out of the text before they are looked at, so a
wrong one is noticed after all four. -/
def hexUnit : Reading Nat := do
  let scan ← get
  let available := scan.rest.foldl (fun total character => total + character.utf8Size) 0
  if available < 4 then
    set (⟨[], scan.bytes + available⟩ : Scan)
    fail .endInString
  else
    let unit := scan.rest.take 4
    match unit.mapM Numeral.hexDigit? with
    | some values =>
        set (⟨scan.rest.drop 4, scan.bytes + 4⟩ : Scan)
        return values.foldl (fun total value => total * 16 + value) 0
    | none => throw (.invalidEscape, scan.bytes + 4)

/-- One character after a leading surrogate: the backslash or the letter of the next
escape. -/
def expectEscape (character : Char) : Reading Unit := do
  match ← peek with
  | none => fail .endInString
  | some next =>
      if next = character then advance else failNext .hexEscapeEnd

/-- The character of an escape with four hexadecimal digits, or of two that form a pair. -/
def unicodeEscape : Reading Char := do
  let unit ← hexUnit
  if 0xDC00 ≤ unit ∧ unit ≤ 0xDFFF then fail .loneSurrogate
  else if unit < 0xD800 ∨ 0xDBFF < unit then return Char.ofNat unit
  else
    expectEscape '\\'
    expectEscape 'u'
    let second ← hexUnit
    if second < 0xDC00 ∨ 0xDFFF < second then fail .loneSurrogate
    else return Char.ofNat (0x10000 + (unit - 0xD800) * 0x400 + (second - 0xDC00))

/-- The character an escape stands for, after its backslash. -/
def escaped : Reading Char := do
  match ← peek with
  | none => fail .endInString
  | some '"' => advance; return '"'
  | some '\\' => advance; return '\\'
  | some '/' => advance; return '/'
  | some 'b' => advance; return '\x08'
  | some 'f' => advance; return '\x0C'
  | some 'n' => advance; return '\n'
  | some 'r' => advance; return '\r'
  | some 't' => advance; return '\t'
  | some 'u' =>
      advance
      unicodeEscape
  | some _ => failNext .invalidEscape

/-- The characters of a string up to its closing quote, the last one first. -/
def stringBody : Nat → List Char → Reading (List Char)
  | 0, characters => return characters
  | fuel + 1, characters => do
      match ← peek with
      | none => fail .endInString
      | some '"' =>
          advance
          return characters
      | some '\\' =>
          advance
          let character ← escaped
          stringBody fuel (character :: characters)
      | some character =>
          if character.toNat < 0x20 then failNext .controlCharacter
          else
            advance
            stringBody fuel (character :: characters)

/-- A string after its opening quote. -/
def string : Reading String := do
  return String.ofList (← stringBody (← fuel) []).reverse

/-! ## Values -/

section Values

/-- Whether another item follows in a list. `first` tells that none was read yet. -/
def hasItem (first : Bool) : Reading Bool := do
  match ← peekToken with
  | none => fail .endInList
  | some ']' => return false
  | some character =>
      if first then return true
      else if character = ',' then
        advance
        match ← peekToken with
        | some ']' => failNext .trailingComma
        | some _ => return true
        | none => fail .endInValue
      else failNext .expectedListEnd

/-- Whether another member follows in an object; its key is next then. -/
def hasMember (first : Bool) : Reading Bool := do
  match ← peekToken with
  | none => fail .endInObject
  | some '}' => return false
  | some character =>
      if first then
        if character = '"' then return true else failNext .keyNotString
      else if character = ',' then
        advance
        match ← peekToken with
        | some '"' => return true
        | some '}' => failNext .trailingComma
        | some _ => failNext .keyNotString
        | none => fail .endInValue
      else failNext .expectedObjectEnd

/-- A key, whose opening quote is next, and the colon after it. -/
def key : Reading String := do
  advance
  let name ← string
  match ← peekToken with
  | some ':' =>
      advance
      return name
  | some _ => failNext .expectedColon
  | none => fail .endInObject

variable (double : Doubles)

mutual

/-- A value. `depth` is how many levels of lists and objects may still open. -/
def value (depth : Nat) : Nat → Reading Json
  | 0 => return .null
  | fuel + 1 => do
      match ← peekToken with
      | none => fail .endInValue
      | some 'n' =>
          advance
          ident ['u', 'l', 'l']
          return .null
      | some 't' =>
          advance
          ident ['r', 'u', 'e']
          return .bool true
      | some 'f' =>
          advance
          ident ['a', 'l', 's', 'e']
          return .bool false
      | some '-' =>
          advance
          return .number (← number double true)
      | some '"' =>
          advance
          return .string (← string)
      | some '[' =>
          if depth ≤ 1 then failNext .tooDeep
          else
            advance
            return .array (← items (depth - 1) fuel true)
      | some '{' =>
          if depth ≤ 1 then failNext .tooDeep
          else
            advance
            return .object (Fields.ofPairs (← members (depth - 1) fuel true))
      | some character =>
          if character.isDigit then return .number (← number double false)
          else failNext .expectedValue

/-- The items of a list up to its closing bracket. -/
def items (depth : Nat) : Nat → Bool → Reading (List Json)
  | 0, _ => return []
  | fuel + 1, first => do
      if ← hasItem first then
        let item ← value depth fuel
        return item :: (← items depth fuel false)
      else
        advance
        return []

/-- The members of an object up to its closing brace. -/
def members (depth : Nat) : Nat → Bool → Reading (List (String × Json))
  | 0, _ => return []
  | fuel + 1, first => do
      if ← hasMember first then
        let name ← key
        let member ← value depth fuel
        return (name, member) :: (← members depth fuel false)
      else
        advance
        return []

end

/-- Nothing but blanks may follow a document. -/
def finish : Reading Unit := do
  match ← peekToken with
  | some _ => failNext .trailingCharacters
  | none => return ()

def document (depth : Nat) : Reading Json := do
  let result ← value double depth (2 * (← fuel) + 2)
  finish
  return result

end Values

/-- Run a reader over a text and place its fault. -/
def run {α : Type} (reading : Reading α) (text : String) : Except JsonError α :=
  match reading.run ⟨text.toList, 0⟩ with
  | .ok (result, _) => .ok result
  | .error (fault, bytes) =>
      let (line, column) := JsonError.locate text.toList bytes 1 0
      .error ⟨fault, line, column⟩

end JsonReader

namespace Json

/-- How many levels of lists and objects a document may have, and one more. -/
def depthLimit : Nat := 128

/-- The document a text holds. A repeated key keeps its first place and its last value. -/
def ofText? (text : String) : Except JsonError Json :=
  JsonReader.run (JsonReader.document JsonDouble.ofNumeral depthLimit) text

end Json

end SchemaMatch
