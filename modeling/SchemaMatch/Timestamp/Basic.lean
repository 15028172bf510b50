import SchemaMatch.Timestamp.Calendar

/-!
Contract: instants of time with nanoseconds.

Owns:
- the instant, a count of seconds with a part of the second; a leap second continues the
  second before it instead of having a count of its own;
- the range of instants that milliseconds may denote;
- the text of an instant to the millisecond.

Does not own: reading dates; `Rfc3339` does.
-/

namespace SchemaMatch

/-- An instant. `nanos` reaches a second or more only within a leap second, which may follow any
second. -/
structure Timestamp where
  /-- Seconds since 1970-01-01T00:00:00Z, rounded down. -/
  seconds : Int
  /-- Nanoseconds into the second. -/
  nanos : Nat
  nanos_lt : nanos < 2000000000
deriving DecidableEq

namespace Timestamp

/-- Whether a leap second, if the instant lies in one, follows the last second of a minute. Those
that clocks insert do. -/
def LeapsAtMinuteEnd (instant : Timestamp) : Prop :=
  instant.nanos < 1000000000 ∨ instant.seconds % 60 = 59

instance (instant : Timestamp) : Decidable instant.LeapsAtMinuteEnd := by
  unfold LeapsAtMinuteEnd
  infer_instance

/-- The instant of a count of seconds and nanoseconds, if there is one. Leap seconds are taken at
the end of a minute only. -/
def ofParts? (seconds : Int) (nanos : Nat) : Option Timestamp :=
  if valid : nanos < 2000000000 then
    let instant : Timestamp := ⟨seconds, nanos, valid⟩
    if instant.LeapsAtMinuteEnd then some instant else none
  else none

/-- The least and the greatest instant that milliseconds may denote. -/
def leastMillis : Int := -8334601228800000

def greatestMillis : Int := 8210266876799999

/-- The instant `millis` milliseconds after 1970-01-01T00:00:00Z, if it lies in range. -/
def ofMillis? (millis : Int) : Option Timestamp :=
  if leastMillis ≤ millis ∧ millis ≤ greatestMillis then
    some
      { seconds := millis / 1000
        nanos := (millis % 1000).toNat * 1000000
        nanos_lt := by
          have small := Int.emod_lt_of_pos millis (by decide : (0 : Int) < 1000)
          omega }
  else none

/-- A number with zeros before it up to a width. -/
def padded (width value : Nat) : String :=
  let digits := toString value
  String.ofList (List.replicate (width - digits.length) '0') ++ digits

/-- Years from 0 to 9999 have four digits. Others carry a sign. -/
def yearText (year : Int) : String :=
  if 0 ≤ year ∧ year ≤ 9999 then padded 4 year.toNat
  else (if year < 0 then "-" else "+") ++ padded 4 year.natAbs

/-- The instant in ISO 8601 with milliseconds, rounded down, in UTC. A leap second has the number
after that of its second, which is 60 at the end of a minute. -/
def isoText (instant : Timestamp) : String :=
  let date := CivilDate.ofDayNumber (instant.seconds / 86400)
  let secondOfDay := (instant.seconds % 86400).toNat
  let leap := instant.nanos / 1000000000
  let millis := instant.nanos % 1000000000 / 1000000
  yearText date.year ++ "-" ++ padded 2 date.month ++ "-" ++ padded 2 date.day ++ "T" ++
    padded 2 (secondOfDay / 3600) ++ ":" ++ padded 2 (secondOfDay / 60 % 60) ++ ":" ++
    padded 2 (secondOfDay % 60 + leap) ++ "." ++ padded 3 millis ++ "Z"

end Timestamp

end SchemaMatch
