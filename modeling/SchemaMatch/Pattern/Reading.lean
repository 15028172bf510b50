import SchemaMatch.Pattern.Error
import SchemaMatch.Text.Blank

/-!
Contract: the state in which the notation of patterns is read.

Owns:
- what is left to read, with its position, the flags in force and the group names seen;
- steps over single characters, and over what the flags allow to be ignored;
- the first fault of meaning, which waits until the notation is known to be sound.

Does not own: the notation.
-/

namespace SchemaMatch.PatternReader

structure Flags where
  ignoreCase : Bool := false
  multiLine : Bool := false
  dotAll : Bool := false
  unicode : Bool := true
  carriage : Bool := false
  ignoreSpace : Bool := false

/-- What is left to read, where it stands, the flags in force, the group names seen, and the
first fault of meaning. -/
structure Scan where
  rest : List Char
  position : PatternPosition
  flags : Flags
  names : List (String × PatternSpan)
  deferred : Option PatternError

abbrev Reading := StateT Scan (Except PatternError)

def peek : Reading (Option Char) := do
  return (← get).rest.head?

def here : Reading PatternPosition := do
  return (← get).position

def fail {α : Type} (fault : PatternFault) (start stop : PatternPosition) : Reading α :=
  throw { fault := fault, span := ⟨start, stop⟩ }

/-- A fault of meaning. The first one is kept until the notation is known to be sound. -/
def defer (fault : PatternFault) (start stop : PatternPosition) : Reading Unit :=
  modify fun scan =>
    { scan with deferred := scan.deferred <|> some { fault := fault, span := ⟨start, stop⟩ } }

/-- Step over one character. -/
def advance : Reading Unit :=
  modify fun scan =>
    match scan.rest with
    | [] => scan
    | character :: rest =>
        { scan with rest := rest, position := scan.position.after character }

/-- The place after the next character. -/
def afterNext : Reading PatternPosition := do
  let scan ← get
  match scan.rest with
  | [] => return scan.position
  | character :: _ => return scan.position.after character

/-- What follows blanks and comments. -/
def dropSpace (comment : Bool) : List Char → PatternPosition → List Char × PatternPosition
  | [], position => ([], position)
  | character :: rest, position =>
      if comment then dropSpace (character != '\n') rest (position.after character)
      else if Text.isBlank character then dropSpace false rest (position.after character)
      else if character == '#' then dropSpace true rest (position.after character)
      else (character :: rest, position)

/-- Step over blanks and comments if the flags ignore them. -/
def skipSpace : Reading Unit :=
  modify fun scan =>
    if scan.flags.ignoreSpace then
      let (rest, position) := dropSpace false scan.rest scan.position
      { scan with rest := rest, position := position }
    else scan

/-- Step over one character and what may be ignored after it. The answer tells whether
anything is left. -/
def advanceOverSpace : Reading Bool := do
  advance
  if (← peek).isNone then return false
  skipSpace
  return (← peek).isSome

/-- Step over a fixed text if it comes next. -/
def accept (text : String) : Reading Bool := do
  let expected := text.toList
  if (← get).rest.take expected.length = expected then
    for _ in expected do advance
    return true
  else return false

/-- The character after the next one, past what may be ignored. -/
def peekSecond : Reading (Option Char) := do
  let scan ← get
  match scan.rest with
  | [] => return none
  | character :: rest =>
      if scan.flags.ignoreSpace then
        return (dropSpace false rest (scan.position.after character)).1.head?
      else return rest.head?

/-- Fuel for loops that read the rest. -/
def fuel : Reading Nat := do
  return (← get).rest.length + 1

end SchemaMatch.PatternReader
