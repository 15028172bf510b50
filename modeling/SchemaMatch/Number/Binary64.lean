import SchemaMatch.Number.Power

/-!
Contract: the numbers of the value model, IEEE 754 binary64 data in exact form.

Owns:
- the datum, whose finite case carries the one significand and exponent that denote it;
- rounding of a quotient of naturals to the nearest datum, ties to even;
- exact integers in both directions and the IEEE equality;
- the bit pattern, for the arithmetic of scripts.

Does not own: decimal text, which the neighbouring modules read and write.
-/

namespace SchemaMatch

/-- A pair that denotes `significand * 2 ^ exponent` in the only form a datum may take: the
significand has 53 bits, unless the exponent is already the least one. -/
def Binary64.Canonical (significand : Nat) (exponent : Int) : Prop :=
  significand < 2 ^ 53 ∧ (2 ^ 52 ≤ significand ∨ exponent = -1074) ∧
    -1074 ≤ exponent ∧ exponent ≤ 971

instance (significand : Nat) (exponent : Int) :
    Decidable (Binary64.Canonical significand exponent) := by
  unfold Binary64.Canonical
  infer_instance

/-- A binary64 datum. There is one not-a-number: payloads cannot be observed. -/
inductive Binary64 where
  | nan
  | infinite (negative : Bool)
  | finite (negative : Bool) (significand : Nat) (exponent : Int)
      (canonical : Binary64.Canonical significand exponent)
deriving DecidableEq

namespace Binary64

/-- Zero of either sign. -/
def zero (negative : Bool) : Binary64 :=
  .finite negative 0 (-1074) (by decide)

instance : Inhabited Binary64 := ⟨zero false⟩

/-- The datum of a significand and exponent, or infinity when no datum is that large. -/
def pack (negative : Bool) (significand : Nat) (exponent : Int) : Binary64 :=
  if canonical : Canonical significand exponent then
    .finite negative significand exponent canonical
  else
    .infinite negative

/-- The quotient rounded to the nearest natural number, a tie to the even one. -/
def roundQuotient (numerator denominator : Nat) : Nat :=
  let quotient := numerator / denominator
  let remainder := numerator % denominator
  if 2 * remainder < denominator then quotient
  else if denominator < 2 * remainder then quotient + 1
  else if quotient % 2 = 0 then quotient
  else quotient + 1

/-- The exponent of the last place of `numerator / denominator`: the quotient scaled by it
has 53 bits, or fewer at the least exponent. -/
def unitExponent (numerator denominator : Nat) : Int :=
  let estimate : Int := (numerator.log2 : Int) - denominator.log2 - 53
  let scaled := numerator * 2 ^ (-estimate).toNat / (denominator * 2 ^ estimate.toNat)
  max (if 2 ^ 53 ≤ scaled then estimate + 1 else estimate) (-1074)

/-- The datum nearest to `numerator / denominator`, a tie to the even significand. -/
def ofRatio (negative : Bool) (numerator denominator : Nat) : Binary64 :=
  if numerator = 0 then zero negative
  else
    let exponent := unitExponent numerator denominator
    let significand :=
      roundQuotient (numerator * 2 ^ (-exponent).toNat) (denominator * 2 ^ exponent.toNat)
    if significand = 2 ^ 53 then pack negative (2 ^ 52) (exponent + 1)
    else pack negative significand exponent

/-- The datum nearest to an integer. -/
def ofInt (value : Int) : Binary64 :=
  ofRatio (value < 0) value.natAbs 1

/-- The datum nearest to `digits * 10 ^ exponent`. Powers far outside the range are settled
by their exponent alone, so a long exponent costs nothing. -/
def ofDecimal (negative : Bool) (digits : Nat) (exponent : Int) : Binary64 :=
  if digits = 0 then zero negative
  else if 400 < exponent then .infinite negative
  else if (digits.log2 : Int) + 1100 < -3 * exponent then zero negative
  else ofRatio negative (digits * 10 ^ exponent.toNat) (10 ^ (-exponent).toNat)

/-- The integer a datum equals, when it equals one. -/
def toInt? : Binary64 → Option Int
  | .finite negative significand exponent _ =>
      let divisor : Nat := 2 ^ (-exponent).toNat
      if significand % divisor = 0 then
        let magnitude : Nat := significand / divisor * 2 ^ exponent.toNat
        some (if negative then -(magnitude : Int) else magnitude)
      else none
  | _ => none

/-- Equality of numbers: the two zeros are equal, not-a-number equals nothing. -/
def equal : Binary64 → Binary64 → Bool
  | .infinite left, .infinite right => left == right
  | .finite leftSign left leftExponent _, .finite rightSign right rightExponent _ =>
      left == right && leftExponent == rightExponent && (leftSign == rightSign || left == 0)
  | _, _ => false

/-- The number of the opposite sign. -/
def negated : Binary64 → Binary64
  | .nan => .nan
  | .infinite negative => .infinite (!negative)
  | .finite negative significand exponent canonical =>
      .finite (!negative) significand exponent canonical

def isNaN : Binary64 → Bool
  | .nan => true
  | _ => false

def isFinite : Binary64 → Bool
  | .finite .. => true
  | _ => false

/-- The negative zero, which text forms may or may not tell from zero. -/
def isNegativeZero : Binary64 → Bool
  | .finite true 0 _ _ => true
  | _ => false

/-- The 64-bit encoding: sign, eleven exponent bits, 52 fraction bits. -/
def toBits : Binary64 → UInt64
  | .nan => 0x7ff8000000000000
  | .infinite negative => if negative then 0xfff0000000000000 else 0x7ff0000000000000
  | .finite negative significand exponent _ =>
      let sign := if negative then 2 ^ 63 else 0
      let magnitude :=
        if significand < 2 ^ 52 then significand
        else (exponent + 1075).toNat * 2 ^ 52 + (significand - 2 ^ 52)
      (sign + magnitude).toUInt64

/-- The datum of a 64-bit encoding. -/
def ofBits (bits : UInt64) : Binary64 :=
  let word := bits.toNat
  let negative : Bool := decide (word / 2 ^ 63 % 2 = 1)
  let field : Nat := word / 2 ^ 52 % 2 ^ 11
  let fraction : Nat := word % 2 ^ 52
  if field = 2047 then (if fraction = 0 then .infinite negative else .nan)
  else if field = 0 then pack negative fraction (-1074)
  else pack negative (2 ^ 52 + fraction) ((field : Int) - 1075)

/-- Hardware arithmetic is reached through the encoding. -/
def toFloat (value : Binary64) : Float :=
  Float.ofBits value.toBits

def ofFloat (value : Float) : Binary64 :=
  ofBits value.toBits

end Binary64

end SchemaMatch
