import SchemaMatch.Number.Reader

/-!
Contract: the doubles that documents are read with.

Owns:
- the significand of 64 bits that the digits of a number give, after which digits only shift the
  exponent;
- the double of a significand and a power of ten, in floating-point arithmetic: both and their
  product or quotient are rounded.

So a number is not always read as the nearest double, and two texts of one number may be read as
two doubles.

Does not own: the grammar of numbers, and integers of 64 bits, which stay exact.
-/

namespace SchemaMatch

namespace Binary64

/-- A finite number without its sign, as a quotient of naturals. -/
def quotient : Binary64 → Nat × Nat
  | .finite _ significand exponent _ =>
      (significand * 2 ^ exponent.toNat, 2 ^ (-exponent).toNat)
  | _ => (0, 1)

/-- The rounded product of two positive finite numbers. -/
def product (left right : Binary64) : Binary64 :=
  ofRatio false (left.quotient.1 * right.quotient.1) (left.quotient.2 * right.quotient.2)

/-- The rounded quotient of two positive finite numbers. -/
def dividedBy (left right : Binary64) : Binary64 :=
  ofRatio false (left.quotient.1 * right.quotient.2) (left.quotient.2 * right.quotient.1)

/-- The double nearest to a power of ten. -/
def powerOfTen (exponent : Nat) : Binary64 :=
  ofDecimal false 1 exponent

end Binary64

namespace JsonDouble

/-- The greatest exponent of which a power of ten is a double. -/
def greatestExponent : Nat := 308

/-- A number times a power of ten. One beyond the powers that there are is out of range. -/
def raised (value : Binary64) (exponent : Nat) : Binary64 :=
  if exponent ≤ greatestExponent then value.product (.powerOfTen exponent)
  else if value = .zero false then value
  else .infinite false

/-- A number over a power of ten, in steps of the greatest one. -/
def lowered (value : Binary64) (exponent : Nat) : Binary64 :=
  if exponent ≤ greatestExponent then value.dividedBy (.powerOfTen exponent)
  else if value = .zero false then value
  else lowered (value.dividedBy (.powerOfTen greatestExponent)) (exponent - greatestExponent)
termination_by exponent
decreasing_by
  have positive : 0 < greatestExponent := by decide
  omega

/-- A significand times a power of ten. -/
def ofParts (negative : Bool) (significand : Nat) (exponent : Int) : Binary64 :=
  let value := Binary64.ofInt significand
  let scaled :=
    if 0 ≤ exponent then raised value exponent.toNat else lowered value (-exponent).toNat
  if negative then scaled.negated else scaled

/-- The significand goes on with digits as long as it fits into 64 bits. The result comes with the
number of digits taken. -/
def accumulate (significand : Nat) : List Char → Nat × Nat
  | [] => (significand, 0)
  | character :: rest =>
      let next := significand * 10 + (Numeral.digit? character).getD 0
      if next < 2 ^ 64 then
        let (final, taken) := accumulate next rest
        (final, taken + 1)
      else (significand, 0)

/-- The double of a number, from the digits before and after its point and its exponent. -/
def ofNumeral (negative : Bool) (whole fraction : List Char) (exponent : Int) : Binary64 :=
  let (integer, takenBefore) := accumulate 0 whole
  let (significand, takenAfter) := accumulate integer fraction
  let skipped : Int := whole.length - takenBefore
  ofParts negative significand (exponent + skipped - takenAfter)

/-- Two texts of one number that are read as two doubles. -/
example : ofNumeral false ['3'] [] 23 ≠ ofNumeral false ('3' :: List.replicate 23 '0') [] 0 := by
  decide +kernel

end JsonDouble

end SchemaMatch
