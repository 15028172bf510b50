import SchemaMatch.Number.Reader
import SchemaMatch.Timestamp.Calendar

/-!
Contract: the words that TOML takes as numbers, dates and times.

Owns:
- the forms of whole and other numbers; numbers must be in range;
- the forms of dates, times and offsets; they must be on the calendar and on the clock.

Does not own: where a word ends.
-/

namespace SchemaMatch.Toml

/-! ## Numbers -/

/-- The digits of a numeral that may hold single underscores between digits. -/
def separatedDigits? (accepts : Char → Bool) : List Char → Option (List Char)
  | [] => none
  | [digit] => if accepts digit then some [digit] else none
  | digit :: '_' :: rest =>
      if accepts digit then (separatedDigits? accepts rest).map (digit :: ·) else none
  | digit :: rest =>
      if accepts digit then (separatedDigits? accepts rest).map (digit :: ·) else none

def withoutSign (text : List Char) : Bool × List Char :=
  match text with
  | '-' :: rest => (true, rest)
  | '+' :: rest => (false, rest)
  | _ => (false, text)

/-- A whole number without zeros in front. -/
def wholeDigits? (text : List Char) : Option (List Char) :=
  match separatedDigits? Numeral.isDigit text with
  | some ('0' :: _ :: _) => none
  | other => other

def isBaseDigit (base : Nat) (character : Char) : Bool :=
  match Numeral.hexDigit? character with
  | some value => value < base
  | none => false

/-- Whether a row of digits to a base stays below `2 ^ 63`. -/
def isBased (base : Nat) (text : List Char) : Bool :=
  match separatedDigits? (isBaseDigit base) text with
  | some digits =>
      let value := digits.foldl
        (fun total digit => total * base + (Numeral.hexDigit? digit).getD 0) 0
      value < 2 ^ 63
  | none => false

def isInteger (text : List Char) : Bool :=
  match text with
  | '0' :: 'x' :: digits => isBased 16 digits
  | '0' :: 'o' :: digits => isBased 8 digits
  | '0' :: 'b' :: digits => isBased 2 digits
  | _ =>
      let (negative, body) := withoutSign text
      match (wholeDigits? body).bind Numeral.digits? with
      | some value => if negative then value ≤ 2 ^ 63 else value < 2 ^ 63
      | none => false

/-- The parts of a float: its sign, the digits before and after the point, and the exponent.
One of the last two must be there. -/
def isFloatForm (text : List Char) : Bool :=
  let body := (withoutSign text).2
  let isPart (character : Char) : Bool := Numeral.isDigit character || character == '_'
  let whole := body.takeWhile isPart
  let rest := body.dropWhile isPart
  let isExponent (text : List Char) : Bool :=
    match text with
    | mark :: digits =>
        (mark == 'e' || mark == 'E') &&
          (separatedDigits? Numeral.isDigit (withoutSign digits).2).isSome
    | [] => false
  (wholeDigits? whole).isSome &&
    match rest with
    | '.' :: afterPoint =>
        (separatedDigits? Numeral.isDigit (afterPoint.takeWhile isPart)).isSome &&
          (let tail := afterPoint.dropWhile isPart
           tail.isEmpty || isExponent tail)
    | other => isExponent other

/-- A float must not be too large; a negative one may be. -/
def isFloat (text : List Char) : Bool :=
  let name := String.ofList (withoutSign text).2
  if name == "inf" || name == "nan" then true
  else
    isFloatForm text &&
      match Numeral.number? (String.ofList (text.filter (· != '_'))) with
      | some (.infinite false) => false
      | some _ => true
      | none => false

/-- A row of exactly `count` digits, at most `high`, and what follows. -/
def digitField (count low high : Nat) (text : List Char) : Option (Nat × List Char) := do
  let value ← Numeral.nat? (text.take count)
  if (text.take count).length = count ∧ low ≤ value ∧ value ≤ high then
    some (value, text.drop count)
  else none

def mark (accepts : Char → Bool) (text : List Char) : Option (List Char) :=
  match text with
  | character :: rest => if accepts character then some rest else none
  | [] => none

/-- A date that exists, and what follows. -/
def date? (text : List Char) : Option (List Char) := do
  let (year, text) ← digitField 4 0 9999 text
  let text ← mark (· == '-') text
  let (month, text) ← digitField 2 1 12 text
  let text ← mark (· == '-') text
  let (_, text) ← digitField 2 1 (CivilDate.daysInMonth year month) text
  return text

/-- A time of day, with a fraction if there is one, and what follows. -/
def time? (text : List Char) : Option (List Char) := do
  let (_, text) ← digitField 2 0 23 text
  let text ← mark (· == ':') text
  let (_, text) ← digitField 2 0 59 text
  let text ← mark (· == ':') text
  let (_, text) ← digitField 2 0 60 text
  match text with
  | '.' :: fraction =>
      if (fraction.takeWhile Numeral.isDigit).isEmpty then none
      else some (fraction.dropWhile Numeral.isDigit)
  | _ => some text

/-- Whether a text is empty or an offset from UTC. -/
def isOffset (text : List Char) : Bool :=
  match text with
  | [] => true
  | ['Z'] => true
  | ['z'] => true
  | sign :: rest =>
      (sign == '+' || sign == '-') &&
        match (do
          let (_, rest) ← digitField 2 0 23 rest
          let rest ← mark (· == ':') rest
          let (_, rest) ← digitField 2 0 59 rest
          return rest : Option (List Char)) with
        | some [] => true
        | _ => false

/-- Whether a text is a date, a time, or a date and a time. -/
def isInstant (text : List Char) : Bool :=
  match date? text with
  | some [] => true
  | some (mark :: rest) =>
      (mark == 'T' || mark == 't' || mark == ' ') &&
        match time? rest with
        | some offset => isOffset offset
        | none => false
  | none =>
      match time? text with
      | some [] => true
      | _ => false

end SchemaMatch.Toml
