import SchemaMatch.Json.Reader

/-!
Contract: stepping over documents that nobody asks for.

Owns:
- a scan that accepts every well-formed document, however deep it nests, however large its
  numbers are, and whatever half of a surrogate pair it escapes.

Does not own: reading documents, which is stricter in these three respects.
-/

namespace SchemaMatch.JsonReader

/-- Step over decimal digits, at least one. -/
def skipDigits : Reading Unit := do
  let digits ← digitRun (← fuel) []
  if digits.isEmpty then failNext .invalidNumber

/-- Step over the exponent of a number, if it has one. -/
def skipExponent : Reading Unit := do
  if isExponentMark (← peek) then
    advance
    match ← peek with
    | some '+' => advance
    | some '-' => advance
    | _ => pure ()
    skipDigits

/-- Step over a number after its sign. -/
def skipNumber : Reading Unit := do
  match ← peek with
  | some '0' =>
      advance
      match ← peek with
      | some next => if next.isDigit then failNext .invalidNumber
      | none => pure ()
  | _ => skipDigits
  if (← peek) = some '.' then
    advance
    skipDigits
  skipExponent

/-- Step over what follows a backslash. -/
def skipEscape : Reading Unit := do
  match ← peek with
  | some 'u' =>
      advance
      let _ ← hexUnit
      return ()
  | _ =>
      let _ ← escaped
      return ()

/-- Step over a string after its opening quote. -/
def skipString : Nat → Reading Unit
  | 0 => return ()
  | fuel + 1 => do
      match ← peek with
      | none => fail .endInString
      | some '"' => advance
      | some '\\' =>
          advance
          skipEscape
          skipString fuel
      | some character =>
          if character.toNat < 0x20 then failNext .controlCharacter
          else
            advance
            skipString fuel

/-- Step over a key, whose opening quote is next, and the colon after it. -/
def skipKey : Reading Unit := do
  advance
  skipString (← fuel)
  match ← peekToken with
  | some ':' => advance
  | _ => failNext .expectedColon

mutual

/-- Step over a value. -/
def skipValue : Nat → Reading Unit
  | 0 => return ()
  | fuel + 1 => do
      match ← peekToken with
      | none => fail .endInValue
      | some 'n' =>
          advance
          ident ['u', 'l', 'l']
      | some 't' =>
          advance
          ident ['r', 'u', 'e']
      | some 'f' =>
          advance
          ident ['a', 'l', 's', 'e']
      | some '-' =>
          advance
          skipNumber
      | some '"' =>
          advance
          skipString (← JsonReader.fuel)
      | some '[' =>
          advance
          skipItems fuel true
      | some '{' =>
          advance
          skipMembers fuel true
      | some character => if character.isDigit then skipNumber else failNext .expectedValue

/-- Step over the items of a list and its closing bracket. -/
def skipItems : Nat → Bool → Reading Unit
  | 0, _ => return ()
  | fuel + 1, first => do
      if ← hasItem first then
        skipValue fuel
        skipItems fuel false
      else advance

/-- Step over the members of an object and its closing brace. -/
def skipMembers : Nat → Bool → Reading Unit
  | 0, _ => return ()
  | fuel + 1, first => do
      if ← hasMember first then
        skipKey
        skipValue fuel
        skipMembers fuel false
      else advance

end

/-- Step over the next value, however long it is. -/
def skipNext : Reading Unit := do
  skipValue (2 * (← fuel) + 2)

end SchemaMatch.JsonReader
