import SchemaMatch.Number.Shortest

/-!
Contract: the written forms of a binary64 number.

Owns:
- the layout of a decimal, positional or with an exponent;
- one record of decisions per format: messages, JSON documents, script text and the plain form
  that error texts quote.

Does not own: the digits, which are always the shortest that read back.
-/

namespace SchemaMatch

/-- What a format decides about the layout of a number. -/
structure NumberStyle where
  /-- The least exponent of a leading digit that is still written positionally. -/
  leastPositional : Int
  /-- Magnitudes below `10 ^ positionalBound` are written positionally. -/
  positionalBound : Int
  /-- What follows a whole number written positionally. -/
  wholeSuffix : String
  /-- What stands before an exponent that is not negative. -/
  exponentPlus : String
  zero : String
  negativeZero : String
  nan : String
  infinity : String

namespace Decimal

def zeros (count : Nat) : String :=
  String.ofList (List.replicate count '0')

/-- The digits with the point after the first `point` of them; zeros fill what is missing. -/
def positional (style : NumberStyle) (digits : List Char) (point : Int) : String :=
  if point ≤ 0 then
    "0." ++ zeros (-point).toNat ++ String.ofList digits
  else if digits.length ≤ point.toNat then
    String.ofList digits ++ zeros (point.toNat - digits.length) ++ style.wholeSuffix
  else
    String.ofList (digits.take point.toNat) ++ "." ++ String.ofList (digits.drop point.toNat)

/-- One digit before the point, the others after it, and the exponent of the first. -/
def scientific (style : NumberStyle) (digits : List Char) (leading : Int) : String :=
  let fraction := digits.drop 1
  let mantissa :=
    String.ofList (digits.take 1) ++
      (if fraction.isEmpty then "" else "." ++ String.ofList fraction)
  let sign := if leading < 0 then "-" else style.exponentPlus
  mantissa ++ "e" ++ sign ++ toString leading.natAbs

/-- The magnitude of a decimal that is not zero. -/
def render (style : NumberStyle) (decimal : Decimal) : String :=
  let digits := Nat.toDigits 10 decimal.digits
  let point := (digits.length : Int) + decimal.exponent
  let leading := point - 1
  if style.leastPositional ≤ leading ∧ leading < style.positionalBound then
    positional style digits point
  else
    scientific style digits leading

end Decimal

namespace Binary64

def render (style : NumberStyle) : Binary64 → String
  | .nan => style.nan
  | .infinite negative => (if negative then "-" else "") ++ style.infinity
  | .finite negative significand exponent _ =>
      if significand = 0 then
        if negative then style.negativeZero else style.zero
      else
        (if negative then "-" else "") ++ (shortest significand exponent).render style

end Binary64

namespace NumberStyle

/-- Messages write magnitudes from `10 ^ -6` up to, but not including, `10 ^ 21` positionally,
and do not show the sign of a zero. -/
def message : NumberStyle where
  leastPositional := -6
  positionalBound := 21
  wholeSuffix := ""
  exponentPlus := "+"
  zero := "0"
  negativeZero := "0"
  nan := "NaN"
  infinity := "Infinity"

/-- A JSON document marks a whole double by `.0` and turns to exponents from `10 ^ 16` on and
below `10 ^ -5`. It has no text for numbers that are not finite; callers refuse them first. -/
def json : NumberStyle where
  leastPositional := -5
  positionalBound := 16
  wholeSuffix := ".0"
  exponentPlus := "+"
  zero := "0.0"
  negativeZero := "-0.0"
  nan := "null"
  infinity := "null"

/-- Scripts write magnitudes from `10 ^ -13` up to, but not including, `10 ^ 13`
positionally. -/
def script : NumberStyle where
  leastPositional := -13
  positionalBound := 13
  wholeSuffix := ".0"
  exponentPlus := ""
  zero := "0.0"
  negativeZero := "0.0"
  nan := "NaN"
  infinity := "inf"

/-- Inside arrays and maps, scripts write magnitudes from `10 ^ -4` up to, but not including,
`10 ^ 16` positionally, and show the sign of a zero. -/
def scriptItem : NumberStyle where
  leastPositional := -4
  positionalBound := 16
  wholeSuffix := ".0"
  exponentPlus := ""
  zero := "0.0"
  negativeZero := "-0.0"
  nan := "NaN"
  infinity := "inf"

/-- The plain form has no exponent at all. -/
def plain : NumberStyle where
  leastPositional := -400
  positionalBound := 400
  wholeSuffix := ""
  exponentPlus := ""
  zero := "0"
  negativeZero := "-0"
  nan := "NaN"
  infinity := "inf"

end NumberStyle

end SchemaMatch
