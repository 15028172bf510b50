import SchemaMatch.Script.Arithmetic

/-!
Contract: the time that scripts measure.

Owns:
- the instant that a run has reached, by its operations and the time it has slept;
- seconds between instants, and instants some seconds before or behind others.

The operations of a run are its clock, so that a run depends on nothing but what it is given.
Instants are whole numbers of nanoseconds.

Does not own: counting operations.
-/

namespace SchemaMatch.Script.Clock

def perSecond : Int := 1000000000

/-- The instant behind some operations of a microsecond each and some time asleep. The clock has
run for a second when a script starts. -/
def instant (operations asleep : Nat) : Int :=
  perSecond + 1000 * operations + asleep

/-- Seconds from one instant to another. -/
def secondsBetween (earlier later : Int) : Binary64 :=
  FloatArithmetic.divide (.ofInt (later - earlier)) (.ofInt perSecond)

/-- Seconds from an instant until now. -/
def elapsed (start now : Int) : Except FaultCause ScriptValue :=
  if now < start then .error (.arithmetic "Time-stamp is later than now")
  else .ok (.float (secondsBetween start now))

/-- A way along the clock in the words of a message. -/
def direction (isBack : Bool) : String :=
  if isBack then "subtracting" else "adding"

/-- An instant some nanoseconds before or behind another one. Seconds of instants have 64 bits. -/
def moved (start : Int) (isBack : Bool) (distance : Int) (text : String) :
    Except FaultCause ScriptValue :=
  let stop := if isBack then start - distance else start + distance
  if Int64Range.holds (stop.fdiv perSecond) then .ok (.timestamp stop)
  else
    .error (.arithmetic
      ("Timestamp overflow when " ++ direction isBack ++ " " ++ text ++ " second(s)"))

/-- An instant a whole number of seconds away. -/
def later (start seconds : Int) : Except FaultCause ScriptValue :=
  moved start (decide (seconds < 0)) (seconds.natAbs * perSecond) (toString seconds.natAbs)

/-- An instant some seconds away, cut off to milliseconds. -/
def laterByFloat (start : Int) (seconds : Binary64) : Except FaultCause ScriptValue :=
  let isBack := FloatArithmetic.less seconds (.zero false)
  let distance := if isBack then seconds.negated else seconds
  let text := distance.render .plain
  if FloatArithmetic.less (.ofInt Int64Range.greatest) distance then
    .error (.arithmetic ("Floating-point overflow for timestamp " ++
      (if isBack then "subtract" else "add") ++ ": " ++ text))
  else
    let milliseconds :=
      (FloatArithmetic.truncate? (FloatArithmetic.multiply distance (.ofInt 1000))).getD 0
    moved start isBack (milliseconds * 1000000) text

/-- The nanoseconds that a call of so many seconds sleeps. Calls of no seconds or fewer do not
sleep at all. -/
def sleep (seconds : Binary64) : Nat :=
  ((FloatArithmetic.truncate?
    (FloatArithmetic.multiply seconds (.ofInt perSecond))).getD 0).toNat

end SchemaMatch.Script.Clock
