import SchemaMatch.Script.Fault

/-!
Contract: the arithmetic of scripts.

Owns:
- integers of 64 bits, where a result out of range is a fault and never wraps;
- floats by the rules of IEEE 754, with an exact remainder, and comparisons with a tolerance;
- shifts and bit operations on the two's complement form.

Does not own: which operator takes which operands.
-/

namespace SchemaMatch.Script

/-! ## Integers -/

namespace Int64Range

def least : Int := -(2 ^ 63)

def greatest : Int := 2 ^ 63 - 1

def holds (value : Int) : Bool :=
  least ≤ value && value ≤ greatest

/-- The number that the low 64 bits of an integer denote. -/
def wrap (value : Int) : Int :=
  let bits := value % 2 ^ 64
  if 2 ^ 63 ≤ bits then bits - 2 ^ 64 else bits

end Int64Range

namespace Arithmetic

abbrev IntResult := Except FaultCause Int

/-- An operation in the words of a message. -/
def describe (failure : String) (left : Int) (operator : String) (right : Int) : FaultCause :=
  .arithmetic (failure ++ ": " ++ toString left ++ " " ++ operator ++ " " ++ toString right)

def checked (value : Int) (overflow : FaultCause) : IntResult :=
  if Int64Range.holds value then .ok value else .error overflow

def add (left right : Int) : IntResult :=
  checked (left + right) (describe "Addition overflow" left "+" right)

def subtract (left right : Int) : IntResult :=
  checked (left - right) (describe "Subtraction overflow" left "-" right)

def multiply (left right : Int) : IntResult :=
  checked (left * right) (describe "Multiplication overflow" left "*" right)

/-- Quotients are cut off toward zero. -/
def divide (left right : Int) : IntResult :=
  if right = 0 then .error (describe "Division by zero" left "/" right)
  else checked (left.tdiv right) (describe "Division overflow" left "/" right)

/-- A remainder has the sign of the dividend. It does not exist where the quotient overflows. -/
def modulo (left right : Int) : IntResult :=
  if right = 0 ∨ (left = Int64Range.least ∧ right = -1) then
    .error (describe "Modulo division by zero or overflow" left "%" right)
  else .ok (left.tmod right)

/-- Powers of zero and of the units never grow, and others leave the range before the
exponent 64. -/
def power (base exponent : Int) : IntResult :=
  let overflow := describe "Exponential overflow" base "**" exponent
  if (2 ^ 32 : Int) ≤ exponent then .error overflow
  else if exponent < 0 then
    .error (describe "Integer raised to a negative power" base "**" exponent)
  else if base.natAbs ≤ 1 then
    .ok (if exponent = 0 then 1
      else if base = -1 then (if exponent % 2 = 0 then 1 else -1)
      else base)
  else if 64 ≤ exponent then .error overflow
  else checked (base ^ exponent.toNat) overflow

def negate (value : Int) : IntResult :=
  checked (-value) (.arithmetic "integer overflow")

def absolute (value : Int) : IntResult :=
  checked value.natAbs (.arithmetic ("Negation overflow: -" ++ toString value))

/-- A shift to the left for a positive amount, and to the right for a negative one. -/
def shift (value amount : Int) : Int :=
  if 0 ≤ amount then
    if 64 ≤ amount then 0 else Int64Range.wrap (value * 2 ^ amount.toNat)
  else if amount ≤ -64 then (if value < 0 then -1 else 0)
  else value.fdiv (2 ^ (-amount).toNat)

/-- A bit operation on the two's complement forms of two integers. -/
def bitwise (operation : UInt64 → UInt64 → UInt64) (left right : Int) : Int :=
  let word (value : Int) : UInt64 := (value % 2 ^ 64).toNat.toUInt64
  Int64Range.wrap (operation (word left) (word right)).toNat

def bitAnd : Int → Int → Int := bitwise (· &&& ·)

def bitOr : Int → Int → Int := bitwise (· ||| ·)

def bitXor : Int → Int → Int := bitwise (· ^^^ ·)

/-- Whether a bit of an integer is set. -/
def testBit (value : Int) (bit : Nat) : Bool :=
  value.fdiv (2 ^ bit) % 2 == 1

def setBit (value : Int) (bit : Nat) (isSet : Bool) : Int :=
  if testBit value bit = isSet then value
  else if isSet then Int64Range.wrap (value + 2 ^ bit)
  else Int64Range.wrap (value - 2 ^ bit)

/-- The number that some neighbouring bits of an integer denote, without a sign unless they are
all of them. -/
def bits (value : Int) (start count : Nat) : Int :=
  Int64Range.wrap (value.fdiv (2 ^ start) % 2 ^ count)

/-- The number that some neighbouring bits denote, where the last bit of all is their sign. -/
def signedBits (value : Int) (start count : Nat) : Int :=
  (bitAnd value (Int64Range.wrap ((2 ^ count - 1) * 2 ^ start))).fdiv (2 ^ start)

/-- An integer with some neighbouring bits replaced by the low bits of another. -/
def setBits (value : Int) (start count : Nat) (new : Int) : Int :=
  Int64Range.wrap (value + (new % 2 ^ count - value.fdiv (2 ^ start) % 2 ^ count) * 2 ^ start)

end Arithmetic

/-! ## Floats -/

namespace FloatArithmetic

def lift (operation : Float → Float → Float) (left right : Binary64) : Binary64 :=
  .ofFloat (operation left.toFloat right.toFloat)

def map (operation : Float → Float) (value : Binary64) : Binary64 :=
  .ofFloat (operation value.toFloat)

def add : Binary64 → Binary64 → Binary64 := lift (· + ·)

def subtract : Binary64 → Binary64 → Binary64 := lift (· - ·)

def multiply : Binary64 → Binary64 → Binary64 := lift (· * ·)

def divide : Binary64 → Binary64 → Binary64 := lift (· / ·)

def power : Binary64 → Binary64 → Binary64 := lift Float.pow

/-- The remainder of a division cut off toward zero. It is always exact. -/
def modulo : Binary64 → Binary64 → Binary64
  | .finite negative left leftExponent canonical, .finite _ right rightExponent _ =>
      if right = 0 then .nan
      else if left = 0 then .finite negative left leftExponent canonical
      else
        let unit := min leftExponent rightExponent
        let remainder := left * 2 ^ (leftExponent - unit).toNat %
          (right * 2 ^ (rightExponent - unit).toNat)
        .ofRatio negative (remainder * 2 ^ unit.toNat) (2 ^ (-unit).toNat)
  | .finite negative left exponent canonical, .infinite _ =>
      .finite negative left exponent canonical
  | _, _ => .nan

def less (left right : Binary64) : Bool :=
  left.toFloat < right.toFloat

def lessEqual (left right : Binary64) : Bool :=
  left.toFloat ≤ right.toFloat

/-- How far two floats may be apart and still count as equal: the step behind one. -/
def tolerance : Binary64 := .ofBits 0x3CB0000000000000

def magnitude : Binary64 → Binary64
  | .nan => .nan
  | .infinite _ => .infinite false
  | .finite _ significand exponent canonical => .finite false significand exponent canonical

/-- Whether two floats count as equal. An infinite one never does, since the distance from itself
is no number. -/
def near (left right : Binary64) : Bool :=
  lessEqual (magnitude (subtract left right)) tolerance

def apart (left right : Binary64) : Bool :=
  less tolerance (magnitude (subtract left right))

/-- Whether a float is greater by more than the tolerance. -/
def above (left right : Binary64) : Bool :=
  less tolerance (subtract left right)

/-- Whether a float is greater, or less by no more than the tolerance. -/
def reaches (left right : Binary64) : Bool :=
  lessEqual tolerance.negated (subtract left right)

/-- The integer a float holds when its fraction is cut off, if it is finite. -/
def truncate? : Binary64 → Option Int
  | .finite negative significand exponent _ =>
      let magnitude : Nat := significand * 2 ^ exponent.toNat / 2 ^ (-exponent).toNat
      some (if negative then -(magnitude : Int) else magnitude)
  | _ => none

def isNegative : Binary64 → Bool
  | .finite negative .. => negative
  | .infinite negative => negative
  | .nan => false

/-- A float rounded to an integer that `choose` takes from the one cut off toward zero, where
there is a fraction. The sign of a zero stays. -/
def roundBy (choose : Int → Int) (value : Binary64) : Binary64 :=
  match value.toInt?, truncate? value with
  | none, some whole =>
      let rounded := choose whole
      if rounded = 0 then .zero (isNegative value) else .ofInt rounded
  | _, _ => value

def truncate : Binary64 → Binary64 := roundBy id

def floor (value : Binary64) : Binary64 :=
  roundBy (fun whole => if isNegative value then whole - 1 else whole) value

def ceiling (value : Binary64) : Binary64 :=
  roundBy (fun whole => if isNegative value then whole else whole + 1) value

def fraction (value : Binary64) : Binary64 :=
  subtract value (truncate value)

/-- To the nearest integer, a half away from zero. -/
def round (value : Binary64) : Binary64 :=
  let half : Binary64 := .ofRatio false 1 2
  let distance : Binary64 := match fraction value with
    | .finite _ significand exponent canonical => .finite false significand exponent canonical
    | other => other
  if lessEqual half distance then
    roundBy (fun whole => if isNegative value then whole - 1 else whole + 1) value
  else truncate value

end FloatArithmetic

end SchemaMatch.Script
