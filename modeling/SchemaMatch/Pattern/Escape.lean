import SchemaMatch.Number.Reader
import SchemaMatch.Pattern.Property
import SchemaMatch.Pattern.Reading
import SchemaMatch.Pattern.Syntax

/-!
Contract: escapes of patterns.

Owns:
- characters by their code, with a fixed number of digits or in braces;
- classes by a letter and classes by a property;
- assertions by a letter, and boundaries by a name in braces.

Does not own: where an escape may stand.
-/

namespace SchemaMatch.PatternReader

/-- One unit of a class or of an expression. -/
inductive Atom where
  | literal (character : Char)
  | set (set : CharSet)
  | assertion (condition : Assertion)

/-- An atom and its span. -/
structure PlacedAtom where
  atom : Atom
  span : PatternSpan

def wordSet : Reading CharSet := do
  return if (← get).flags.unicode then .wordCharacters else .asciiWordCharacters

/-- The closure of a set under the flags in force. -/
def closeCase (set : CharSet) : Reading CharSet := do
  let flags := (← get).flags
  if !flags.ignoreCase then return set
  else if flags.unicode then return .anyCase set
  else return .anyAsciiCase set

def isHexDigit (character : Char) : Bool :=
  (Numeral.hexDigit? character).isSome

def hexValue (digits : List Char) : Nat :=
  digits.foldl (fun total digit => total * 16 + (Numeral.hexDigit? digit).getD 0) 0

/-- The character with a code point given in hexadecimal digits. -/
def hexCharacter? (digits : List Char) : Option Char :=
  let code := hexValue digits
  if code.isValidChar then some (Char.ofNat code) else none

/-- A fixed number of hexadecimal digits. `first` tells that none was read yet. -/
def hexDigits (first : Bool) : Nat → List Char → Reading (List Char)
  | 0, digits => return digits
  | count + 1, digits => do
      if !first then
        if !(← advanceOverSpace) then
          let position ← here
          fail .escapeUnexpectedEnd position position
      match ← peek with
      | some character =>
          if isHexDigit character then hexDigits false count (digits ++ [character])
          else fail .escapeHexInvalidDigit (← here) (← afterNext)
      | none => fail .escapeUnexpectedEnd (← here) (← here)

def hexFixed (count : Nat) : Reading Char := do
  let start ← here
  let digits ← hexDigits true count []
  let _ ← advanceOverSpace
  match hexCharacter? digits with
  | some character => return character
  | none => fail .escapeHexInvalid start (← here)

/-- Hexadecimal digits up to a closing brace. The opening brace is next. -/
def hexBraceDigits (opening : PatternPosition) : Nat → List Char → Reading (List Char)
  | 0, digits => return digits
  | fuel + 1, digits => do
      if !(← advanceOverSpace) then fail .escapeUnexpectedEnd opening (← here)
      else
        match ← peek with
        | some '}' => return digits
        | some character =>
            if isHexDigit character then hexBraceDigits opening fuel (digits ++ [character])
            else fail .escapeHexInvalidDigit (← here) (← afterNext)
        | none => fail .escapeUnexpectedEnd opening (← here)

def hexBraced : Reading Char := do
  let opening ← here
  let start ← afterNext
  let digits ← hexBraceDigits opening (← fuel) []
  let stop ← here
  let _ ← advanceOverSpace
  if digits.isEmpty then fail .escapeHexEmpty opening (← here)
  else
    match hexCharacter? digits with
    | some character => return character
    | none => fail .escapeHexInvalid start stop

/-- A character by its code point. The letter that announces it is next and fixes how many
digits stand without braces. -/
def hexEscape (count : Nat) : Reading Char := do
  if !(← advanceOverSpace) then
    let position ← here
    fail .escapeUnexpectedEnd position position
  else if (← peek) = some '{' then hexBraced
  else hexFixed count

/-- The text of a property name up to a closing brace. -/
def propertyName : Nat → List Char → Reading (List Char)
  | 0, name => return name
  | fuel + 1, name => do
      if !(← advanceOverSpace) then
        let position ← here
        fail .escapeUnexpectedEnd position position
      else
        match ← peek with
        | some '}' => return name
        | some character => propertyName fuel (name ++ [character])
        | none =>
            let position ← here
            fail .escapeUnexpectedEnd position position

/-- A class of characters with a Unicode property. The letter `p` or `P` is next. -/
def unicodeClass (start : PatternPosition) : Reading Atom := do
  let negated := (← peek) == some 'P'
  if !(← advanceOverSpace) then
    let position ← here
    fail .escapeUnexpectedEnd position position
  let meaning ← do
    match ← peek with
    | some '{' =>
        let name ← propertyName (← fuel) []
        advance
        pure (Property.ofBraces? name)
    | some '\\' => fail .unicodeClassInvalid (← here) (← afterNext)
    | some character =>
        let _ ← advanceOverSpace
        pure (Property.ofName? (Property.plainName [character]))
    | none =>
        let position ← here
        fail .escapeUnexpectedEnd position position
  if !(← get).flags.unicode then
    defer .unicodeNotAllowed start (← here)
    return .set .empty
  else
    match meaning with
    | .ok set =>
        let set ← closeCase set
        return .set (if negated then .complement set else set)
    | .error unknown =>
        defer (match unknown with
          | .name => .propertyNotFound
          | .value => .propertyValueNotFound) start (← here)
        return .set .empty

/-- The classes named by one letter. A capital letter means the complement. -/
def letterClass (letter : Char) (start : PatternPosition) : Reading Atom := do
  let unicode := (← get).flags.unicode
  advance
  let negated := letter == 'D' || letter == 'S' || letter == 'W'
  let set : CharSet :=
    if letter == 'd' || letter == 'D' then (if unicode then .digits else .asciiDigits)
    else if letter == 's' || letter == 'S' then (if unicode then .blanks else .asciiBlanks)
    else (if unicode then .wordCharacters else .asciiWordCharacters)
  if negated && !unicode then defer .invalidUtf8 start (← here)
  return .set (if negated then .complement set else set)

def isBoundaryLetter (character : Char) : Bool :=
  character.isAlpha || character == '-'

def boundaryName : Nat → List Char → Reading (List Char)
  | 0, name => return name
  | fuel + 1, name => do
      match ← peek with
      | some character =>
          if isBoundaryLetter character then
            let _ ← advanceOverSpace
            boundaryName fuel (name ++ [character])
          else return name
      | none => return name

/-- The name of a special boundary in braces. When the braces hold something else they are
left for a counted repetition. -/
def specialBoundary (escape : PatternPosition) : Reading (Option Assertion) := do
  let before ← get
  let opening ← here
  if !(← advanceOverSpace) then fail .wordBoundaryUnexpectedEnd escape (← here)
  else
    let start ← here
    match ← peek with
    | none => return none
    | some character =>
        if !isBoundaryLetter character then
          set before
          return none
        else
          let name ← boundaryName (← fuel) []
          if (← peek) ≠ some '}' then fail .wordBoundaryUnclosed opening (← here)
          else
            let stop ← here
            advance
            let word ← wordSet
            match String.ofList name with
            | "start" => return some (.wordStart word)
            | "end" => return some (.wordEnd word)
            | "start-half" => return some (.wordStartHalf word)
            | "end-half" => return some (.wordEndHalf word)
            | _ => fail .wordBoundaryUnrecognized start stop

def isMeta (character : Char) : Bool :=
  "\\.+*?()|[]\x7b\x7d^$#&-~".toList.contains character

/-- ASCII characters that stand for themselves after a backslash. -/
def isEscapable (character : Char) : Bool :=
  isMeta character ||
    (character.toNat < 128 && !character.isAlphanum && character != '<' && character != '>')

/-- A character by two hexadecimal digits or by more in braces. Without Unicode, two digits name a
byte, and the upper half of the bytes is no text. -/
def byteEscape (start : PatternPosition) : Reading Char := do
  let isByte := (← peekSecond) ≠ some '\x7b'
  let character ← hexEscape 2
  if isByte && 0x80 ≤ character.toNat && !(← get).flags.unicode then
    defer .invalidUtf8 start (← here)
  return character

/-- What a backslash and the character after it mean. -/
def escape : Reading PlacedAtom := do
  let start ← here
  advance
  match ← peek with
  | none => fail .escapeUnexpectedEnd start (← here)
  | some character =>
      let placed (atom : Atom) : Reading PlacedAtom := do
        return ⟨atom, ⟨start, ← here⟩⟩
      if character.isDigit then fail .unsupportedBackreference start (← afterNext)
      else if character == 'x' then placed (.literal (← byteEscape start))
      else if character == 'u' then placed (.literal (← hexEscape 4))
      else if character == 'U' then placed (.literal (← hexEscape 8))
      else if character == 'p' || character == 'P' then placed (← unicodeClass start)
      else if "dswDSW".toList.contains character then placed (← letterClass character start)
      else
        advance
        let word ← wordSet
        if isEscapable character then placed (.literal character)
        else match character with
          | 'a' => placed (.literal '\x07')
          | 'f' => placed (.literal '\x0C')
          | 't' => placed (.literal '\t')
          | 'n' => placed (.literal '\n')
          | 'r' => placed (.literal '\r')
          | 'v' => placed (.literal '\x0B')
          | 'A' => placed (.assertion .textStart)
          | 'z' => placed (.assertion .textEnd)
          | 'B' => placed (.assertion (.notWordBoundary word))
          | '<' => placed (.assertion (.wordStart word))
          | '>' => placed (.assertion (.wordEnd word))
          | 'b' =>
              if (← peek) = some '{' then
                match ← specialBoundary start with
                | some condition => placed (.assertion condition)
                | none => placed (.assertion (.wordBoundary word))
              else placed (.assertion (.wordBoundary word))
          | _ => fail .escapeUnrecognized start (← here)

end SchemaMatch.PatternReader
