import SchemaMatch.Number.Binary64

/-!
Contract: numerals read from text.

Owns:
- unsigned and signed integer numerals with a bound, the forms that index arrays and count
  milliseconds;
- the digits of hexadecimal numerals;
- decimal numerals with an optional fraction and exponent, read as the nearest number.

Does not own: the number grammars of documents and scripts; their readers cut the digits out
and call this module.
-/

namespace SchemaMatch

namespace Numeral

/-- The value of an ASCII decimal digit. -/
def digit? (character : Char) : Option Nat :=
  if '0' ≤ character ∧ character ≤ '9' then some (character.toNat - '0'.toNat) else none

def isDigit (character : Char) : Bool :=
  (digit? character).isSome

/-- The value of a hexadecimal digit, whose letters may have either case. -/
def hexDigit? (character : Char) : Option Nat :=
  if isDigit character then digit? character
  else if 'a' ≤ character ∧ character ≤ 'f' then some (character.toNat - 'a'.toNat + 10)
  else if 'A' ≤ character ∧ character ≤ 'F' then some (character.toNat - 'A'.toNat + 10)
  else none

/-- The number a row of decimal digits denotes; nothing if a character is no digit. -/
def digits? (characters : List Char) : Option Nat :=
  characters.foldlM (fun total character => do return total * 10 + (← digit? character)) 0

/-- A numeral without sign, at least one digit long. -/
def nat? (characters : List Char) : Option Nat :=
  if characters.isEmpty then none else digits? characters

/-- A numeral that may carry a plus sign and stays below `bound`. -/
def natBelow? (bound : Nat) (text : String) : Option Nat := do
  let body := match text.toList with
    | '+' :: rest => rest
    | characters => characters
  let value ← nat? body
  if value < bound then some value else none

/-- A numeral that may carry either sign. -/
def int? : List Char → Option Int
  | '-' :: rest => (nat? rest).map fun magnitude => -Int.ofNat magnitude
  | '+' :: rest => (nat? rest).map Int.ofNat
  | characters => (nat? characters).map Int.ofNat

/-- A numeral that may carry either sign and lies in `low ≤ · ≤ high`. -/
def intBetween? (low high : Int) (text : String) : Option Int := do
  let value ← int? text.toList
  if low ≤ value ∧ value ≤ high then some value else none

/-- The bounds of a 64-bit signed integer. -/
def int64? (text : String) : Option Int :=
  intBetween? (-(2 ^ 63)) (2 ^ 63 - 1) text

/-- The exponent part of a decimal numeral, if there is one and it is well formed. An exponent
of many digits is cut off where it no longer changes the number read. -/
def exponent? : List Char → Option Int
  | [] => some 0
  | mark :: rest =>
      if mark = 'e' ∨ mark = 'E' then
        let (negative, body) : Bool × List Char := match rest with
          | '-' :: body => (true, body)
          | '+' :: body => (false, body)
          | body => (false, body)
        (nat? body).map fun magnitude =>
          let bounded : Int := (min magnitude 1000000000 : Nat)
          if negative then -bounded else bounded
      else none

/-- A decimal numeral without sign: digits, an optional fraction, an optional exponent. One
digit must stand before or after the point. -/
def magnitude? (negative : Bool) (characters : List Char) : Option Binary64 := do
  let whole := characters.takeWhile isDigit
  let rest := characters.dropWhile isDigit
  let (fraction, tail) := match rest with
    | '.' :: after => (after.takeWhile isDigit, after.dropWhile isDigit)
    | other => ([], other)
  if whole.isEmpty ∧ fraction.isEmpty then none
  else
    let digits ← digits? (whole ++ fraction)
    let exponent ← exponent? tail
    some (Binary64.ofDecimal negative digits (exponent - fraction.length))

/-- A signed decimal numeral, or one of the names of the numbers that have no digits. -/
def number? (text : String) : Option Binary64 :=
  let (negative, body) : Bool × List Char := match text.toList with
    | '-' :: rest => (true, rest)
    | '+' :: rest => (false, rest)
    | characters => (false, characters)
  let name := String.ofList (body.map Char.toLower)
  if name = "nan" then some .nan
  else if name = "inf" ∨ name = "infinity" then some (.infinite negative)
  else magnitude? negative body

end Numeral

end SchemaMatch
