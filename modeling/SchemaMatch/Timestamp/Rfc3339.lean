import SchemaMatch.Number.Reader
import SchemaMatch.Timestamp.Basic

/-!
Contract: instants read from RFC 3339 text.

Owns:
- the reader, which takes `T`, `t` or a space between date and time and `Z`, `z` or an offset
  at the end, and drops digits of a second past the ninth;
- the reasons to refuse a text, of which the leftmost fault decides.

Does not own: the range of milliseconds; every year of four digits is in range.
-/

namespace SchemaMatch

/-- Why a text is no RFC 3339 instant. -/
inductive Rfc3339Error where
  | invalid
  | outOfRange
  | tooShort
  | trailing
deriving DecidableEq, Repr

namespace Rfc3339Error

def message : Rfc3339Error → String
  | .invalid => "input contains invalid characters"
  | .outOfRange => "input is out of range"
  | .tooShort => "premature end of input"
  | .trailing => "trailing input"

end Rfc3339Error

namespace Timestamp.Rfc3339

abbrev Reader (α : Type) := List Char → Except Rfc3339Error (α × List Char)

/-- A field of exactly `count` digits. Text that ends inside it cannot occur in the part of
fixed width, whose length is checked first. -/
def field (count : Nat) (value : Nat) : Reader Nat := fun text =>
  match count, text with
  | 0, rest => .ok (value, rest)
  | _ + 1, [] => .error .tooShort
  | count + 1, character :: rest =>
      match Numeral.digit? character with
      | some digit => field count (value * 10 + digit) rest
      | none => .error .invalid

/-- One character out of a set. -/
def mark (accepts : Char → Bool) : Reader Unit
  | [] => .error .tooShort
  | character :: rest => if accepts character then .ok ((), rest) else .error .invalid

def dateMark (character : Char) : Bool :=
  character == 'T' || character == 't' || character == ' '

/-- The digits after the point of a second, scaled to nine; further ones are dropped. -/
def fraction : Reader Nat := fun text =>
  match text with
  | [] => .error .tooShort
  | first :: _ =>
      if Numeral.isDigit first then
        let digits := text.takeWhile Numeral.isDigit
        let kept := (digits ++ List.replicate 9 '0').take 9
        .ok ((Numeral.digits? kept).getD 0, text.dropWhile Numeral.isDigit)
      else .error .invalid

def optionalFraction : Reader Nat
  | '.' :: rest => fraction rest
  | text => .ok (0, text)

/-- Two digits, where a lone ASCII character counts as an early end and any other text as a
wrong character. -/
def twoDigits : Reader (Nat × Nat)
  | [] => .error .tooShort
  | [character] => .error (if character.toNat < 128 then .tooShort else .invalid)
  | tens :: ones :: rest =>
      match Numeral.digit? tens, Numeral.digit? ones with
      | some tens, some ones => .ok ((tens, ones), rest)
      | _, _ => .error .invalid

/-- The offset from UTC in seconds. -/
def offset : Reader Int
  | [] => .error .tooShort
  | character :: rest =>
      if character = 'Z' ∨ character = 'z' then .ok (0, rest)
      else if character = '+' ∨ character = '-' ∨ character = '\u2212' then do
        let ((hourTens, hourOnes), rest) ← twoDigits rest
        let ((), rest) ← mark (· == ':') rest
        let ((minuteTens, minuteOnes), rest) ← twoDigits rest
        if 6 ≤ minuteTens then .error .outOfRange
        else
          let seconds : Int :=
            ((hourTens * 10 + hourOnes) * 3600 + (minuteTens * 10 + minuteOnes) * 60 : Nat)
          .ok (if character = '+' then seconds else -seconds, rest)
      else .error .invalid

/-- A day, which has to be one of the calendar. -/
def calendarDate : Reader CivilDate := fun text => do
  let (year, rest) ← field 4 0 text
  let ((), rest) ← mark (· == '-') rest
  let (month, rest) ← field 2 0 rest
  let ((), rest) ← mark (· == '-') rest
  let (day, rest) ← field 2 0 rest
  let date : CivilDate := ⟨year, month, day⟩
  if date.exists? then .ok (date, rest) else .error .outOfRange

/-- A time of the day as a clock shows it. -/
structure ClockTime where
  hour : Nat
  minute : Nat
  second : Nat
  /-- Nanoseconds into the second. -/
  nanos : Nat

/-- A time, of which the second may be 60. -/
def clockTime : Reader ClockTime := fun text => do
  let (hour, rest) ← field 2 0 text
  let ((), rest) ← mark (· == ':') rest
  let (minute, rest) ← field 2 0 rest
  let ((), rest) ← mark (· == ':') rest
  let (second, rest) ← field 2 0 rest
  let (nanos, rest) ← optionalFraction rest
  if hour < 24 ∧ minute < 60 ∧ second ≤ 60 then .ok (⟨hour, minute, second, nanos⟩, rest)
  else .error .outOfRange

/-- The instant of a local time, whose second 60 continues second 59. -/
def assemble (date : CivilDate) (time : ClockTime) (offsetSeconds : Int) :
    Except Rfc3339Error Timestamp :=
  let leap := time.second = 60
  let second := if leap then 59 else time.second
  let nanos := if leap then time.nanos + 1000000000 else time.nanos
  let seconds : Int :=
    date.dayNumber * 86400 + (time.hour * 3600 + time.minute * 60 + second : Nat) - offsetSeconds
  match Timestamp.ofParts? seconds nanos with
  | some instant => .ok instant
  | none => .error .outOfRange

/-- The instant of a local time at an offset that is less than a day. -/
def atOffset (date : CivilDate) (time : ClockTime) (offsetSeconds : Int) :
    Except Rfc3339Error Timestamp :=
  if offsetSeconds.natAbs < 86400 then assemble date time offsetSeconds else .error .outOfRange

def ofText? (text : String) : Except Rfc3339Error Timestamp :=
  if text.utf8ByteSize < 19 then .error .tooShort
  else do
    let (date, rest) ← calendarDate text.toList
    let ((), rest) ← mark dateMark rest
    let (time, rest) ← clockTime rest
    let (offsetSeconds, rest) ← offset rest
    if rest.isEmpty then atOffset date time offsetSeconds else .error .trailing

end Timestamp.Rfc3339

end SchemaMatch
