import SchemaMatch.Number.Reader
import SchemaMatch.Pattern.Reading
import SchemaMatch.Text.WordCharacter

/-!
Contract: the marks around the parts of patterns.

Owns:
- what opens a group: its name, or the flags it sets;
- the bounds of counted repetitions.

Every loop takes fuel that the length of the pattern bounds.

Does not own: the bodies of groups and what is repeated.
-/

namespace SchemaMatch.PatternReader

/-! ## Flags and names -/

/-- One item of a flag list. -/
def flagLetters : List Char := ['i', 'm', 's', 'U', 'u', 'R', 'x']

def Flags.set (flags : Flags) (letter : Char) (value : Bool) : Flags :=
  match letter with
  | 'i' => { flags with ignoreCase := value }
  | 'm' => { flags with multiLine := value }
  | 's' => { flags with dotAll := value }
  | 'u' => { flags with unicode := value }
  | 'R' => { flags with carriage := value }
  | 'x' => { flags with ignoreSpace := value }
  | _ => flags

/-- The letters of a flag list with their places, up to the character that ends the list. A
hyphen turns the letters after it off. -/
def flagItems : Nat → List (Char × PatternSpan) → Reading (List (Char × PatternSpan))
  | 0, items => return items
  | fuel + 1, items => do
      match ← peek with
      | none =>
          let position ← here
          fail .flagUnexpectedEnd position position
      | some character =>
          if character = ':' ∨ character = ')' then
            match items.getLast? with
            | some ('-', span) => fail .flagDanglingNegation span.start span.stop
            | _ => return items
          else
            let span : PatternSpan := ⟨← here, ← afterNext⟩
            if character ≠ '-' ∧ !flagLetters.contains character then
              fail .flagUnrecognized span.start span.stop
            else
              match items.find? (·.1 == character) with
              | some (_, earlier) =>
                  let fault : PatternFault :=
                    if character = '-' then .flagRepeatedNegation else .flagDuplicate
                  throw { fault := fault, span := span, earlier := some earlier }
              | none =>
                  advance
                  if (← peek).isNone then
                    let position ← here
                    fail .flagUnexpectedEnd position position
                  else flagItems fuel (items ++ [(character, span)])

def applyFlags (flags : Flags) (items : List (Char × PatternSpan)) : Flags :=
  (items.foldl (fun (state : Flags × Bool) item =>
    if item.1 = '-' then (state.1, false) else (state.1.set item.1 state.2, state.2))
    (flags, true)).1

def isNameStart (character : Char) : Bool :=
  character == '_' ||
    (Text.isWordCharacter character && !Text.isDecimalDigit character)

def isNamePart (character : Char) : Bool :=
  isNameStart character || Text.isDecimalDigit character || character == '.' ||
    character == '[' || character == ']'

def nameCharacters : Nat → List Char → Reading (List Char)
  | 0, name => return name
  | fuel + 1, name => do
      match ← peek with
      | none =>
          let position ← here
          fail .groupNameUnexpectedEnd position position
      | some '>' => return name
      | some character =>
          let fits := if name.isEmpty then isNameStart character else isNamePart character
          if fits then
            advance
            nameCharacters fuel (name ++ [character])
          else fail .groupNameInvalid (← here) (← afterNext)

/-- The name of a capturing group up to its closing bracket. No name is used twice. -/
def groupName : Reading Unit := do
  let start ← here
  let name ← nameCharacters (← fuel) []
  let stop ← here
  advance
  if name.isEmpty then fail .groupNameEmpty start start
  let text := String.ofList name
  match (← get).names.find? (·.1 == text) with
  | some (_, earlier) =>
      throw { fault := .groupNameDuplicate, span := ⟨start, stop⟩, earlier := some earlier }
  | none => modify fun scan => { scan with names := (text, ⟨start, stop⟩) :: scan.names }

/-- What an opening parenthesis starts: a group, or a change of flags up to the end of the
group around it. -/
inductive Opening where
  | group
  | flags

/-- Everything up to the body of a group. -/
def groupOpening : Reading Opening := do
  let start ← here
  let afterParenthesis ← afterNext
  advance
  skipSpace
  if (← accept "?=") || (← accept "?!") || (← accept "?<=") || (← accept "?<!") then
    fail .unsupportedLookAround start (← here)
  let inner ← here
  if (← accept "?P<") || (← accept "?<") then
    groupName
    return .group
  else if ← accept "?" then
    if (← peek).isNone then fail .groupUnclosed start afterParenthesis
    let items ← flagItems (← fuel) []
    let stop ← peek
    advance
    modify fun scan => { scan with flags := applyFlags scan.flags items }
    if stop = some ')' then
      if items.isEmpty then fail .repetitionMissing inner inner
      return .flags
    else return .group
  else return .group

/-! ## Repetition -/

def decimalDigits : Nat → List Char → Reading (List Char)
  | 0, digits => return digits
  | fuel + 1, digits => do
      match ← peek with
      | some character =>
          if character.isDigit then
            let _ ← advanceOverSpace
            decimalDigits fuel (digits ++ [character])
          else return digits
      | none => return digits

/-- Blanks may surround a count even where they are not ignored. -/
def skipBlanks : Nat → Reading Unit
  | 0 => return ()
  | fuel + 1 => do
      match ← peek with
      | some character =>
          if Text.isBlank character then
            advance
            skipBlanks fuel
      | none => return ()

/-- A count, or the reason there is none. A missing count is no fault yet, since what follows
may be a graver one. -/
def count : Reading (Except PatternError Nat) := do
  skipBlanks (← fuel)
  let start ← here
  let digits ← decimalDigits (← fuel) []
  let stop ← here
  skipBlanks (← fuel)
  match Numeral.nat? digits with
  | none => return .error { fault := .repetitionCountEmpty, span := ⟨start, stop⟩ }
  | some value =>
      if value < 2 ^ 32 then return .ok value
      else return .error { fault := .decimalInvalid, span := ⟨start, stop⟩ }

/-- The bounds of a counted repetition. The opening brace is next. -/
def counted : Reading (Nat × Option Nat) := do
  let start ← here
  if !(← advanceOverSpace) then fail .repetitionCountUnclosed start (← here)
  let least ← count
  let bounds : Nat × Option Nat ← do
    match ← peek with
    | none => fail .repetitionCountUnclosed start (← here)
    | some ',' =>
        if !(← advanceOverSpace) then fail .repetitionCountUnclosed start (← here)
        if (← peek) = some '}' then pure (← least, none)
        else
          let least ← least
          pure (least, some (← ← count))
    | some _ =>
        let exact ← least
        pure (exact, some exact)
  if (← peek) ≠ some '}' then fail .repetitionCountUnclosed start (← here)
  if ← advanceOverSpace then
    let _ ← accept "?"
  match bounds with
  | (least, some most) =>
      if most < least then fail .repetitionCountInvalid start (← here)
  | _ => pure ()
  return bounds

end SchemaMatch.PatternReader
