import SchemaMatch.Number.Binary64

/-!
Contract: the shortest decimal that reads back as a given binary64 datum.

Owns:
- the interval of reals that round to a datum;
- the search over decimal grids of 1 to 17 digits, in exact arithmetic.

Does not own: where the point or an exponent goes; `Notation` decides that.
-/

namespace SchemaMatch

/-- The number `digits * 10 ^ exponent`. -/
structure Decimal where
  digits : Nat
  exponent : Int
deriving DecidableEq, Repr

namespace Decimal

/-- The same number with no zero at the end of its digits. The fuel is the number of digits
that may go. -/
def trim (fuel : Nat) (decimal : Decimal) : Decimal :=
  match fuel with
  | 0 => decimal
  | fuel + 1 =>
      if decimal.digits % 10 = 0 then
        trim fuel ⟨decimal.digits / 10, decimal.exponent + 1⟩
      else decimal

end Decimal

namespace Binary64

/-- The reals that round to `significand * 2 ^ exponent`, in units of `1 / denominator`.
`value` is the datum itself. A bound belongs to the interval when `closed`. -/
structure RoundingInterval where
  low : Nat
  value : Nat
  high : Nat
  denominator : Nat
  closed : Bool

/-- The neighbours below a power of two are half as far apart, so its lower bound is nearer. -/
def roundingInterval (significand : Nat) (exponent : Int) : RoundingInterval :=
  let below := if significand = 2 ^ 52 ∧ exponent ≠ -1074 then 1 else 2
  let factor := 2 ^ (exponent - 2).toNat
  { low := (4 * significand - below) * factor
    value := 4 * significand * factor
    high := (4 * significand + 2) * factor
    denominator := 2 ^ (2 - exponent).toNat
    closed := significand % 2 = 0 }

/-- The exponent of the leading decimal digit of `value / denominator`. Binary lengths give
it up to one, and a comparison settles which. -/
def leadingExponent (value denominator : Nat) : Int :=
  let estimate : Int := ((value.log2 : Int) - denominator.log2) * 1233 / 4096
  let reaches (power : Int) : Bool :=
    decide (denominator * 10 ^ power.toNat ≤ value * 10 ^ (-power).toNat)
  if reaches (estimate + 1) then estimate + 1
  else if reaches estimate then estimate
  else estimate - 1

/-- The grid point of step `10 ^ power` that lies in the interval and is nearest to its
datum, if there is one. Only the datum's two neighbours on the grid can be it. -/
def gridPoint? (interval : RoundingInterval) (power : Int) : Option Nat :=
  let up := 10 ^ (-power).toNat
  let step := interval.denominator * 10 ^ power.toNat
  let floor := interval.value * up / step
  let floorInside :=
    if interval.closed then interval.low * up ≤ floor * step
    else interval.low * up < floor * step
  let ceilInside :=
    if interval.closed then (floor + 1) * step ≤ interval.high * up
    else (floor + 1) * step < interval.high * up
  let below := interval.value * up - floor * step
  let above := (floor + 1) * step - interval.value * up
  if floorInside ∧ ceilInside then
    if below < above ∨ (below = above ∧ floor % 2 = 0) then some floor else some (floor + 1)
  else if floorInside then some floor
  else if ceilInside then some (floor + 1)
  else none

/-- The first grid with a point in the interval gives the fewest digits. -/
def shortestFrom (interval : RoundingInterval) (leading : Int) : Nat → Nat → Decimal
  | 0, _ => ⟨0, 0⟩
  | fuel + 1, count =>
      let power := leading - (count : Int) + 1
      match gridPoint? interval power with
      | some point => Decimal.trim 20 ⟨point, power⟩
      | none => shortestFrom interval leading fuel (count + 1)

/-- The shortest decimal that rounds to `significand * 2 ^ exponent`; of several, the nearest.
Seventeen digits always suffice. -/
def shortest (significand : Nat) (exponent : Int) : Decimal :=
  if significand = 0 then ⟨0, 0⟩
  else
    let interval := roundingInterval significand exponent
    shortestFrom interval (leadingExponent interval.value interval.denominator) 17 1

end Binary64

end SchemaMatch
