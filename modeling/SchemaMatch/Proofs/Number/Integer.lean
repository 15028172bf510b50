import SchemaMatch.Number.Binary64

/-!
Contract: integers among the numbers.

Owns:
- the datum nearest to an integer: the integer itself up to 53 bits, and a finite one for every
  integer of 64 bits;
- `Binary64.ofInt_of_toInt?`: a whole number below `2 ^ 53` is the datum of its integer, except
  for the sign of a zero, which equality does not see.

Does not own: numbers with a fraction.
-/

namespace SchemaMatch.Binary64

/-! ## Rounding of naturals -/

/-- The last place of a natural number is 52 places below its first. -/
theorem unitExponent_one {value : Nat} (positive : value ≠ 0) :
    unitExponent value 1 = (value.log2 : Int) - 52 := by
  have lower := Nat.log2_self_le positive
  have enough : 2 ^ 53 ≤ value * 2 ^ (-((value.log2 : Int) - 53)).toNat /
      (1 * 2 ^ ((value.log2 : Int) - 53).toNat) := by
    rw [Nat.one_mul, Nat.le_div_iff_mul_le (Nat.two_pow_pos _), ← Nat.pow_add]
    have split : 53 + ((value.log2 : Int) - 53).toNat =
        value.log2 + (-((value.log2 : Int) - 53)).toNat := by
      omega
    rw [split, Nat.pow_add]
    exact Nat.mul_le_mul_right _ lower
  have one : ((1 : Nat).log2 : Int) = 0 := rfl
  unfold unitExponent
  rw [one, Int.sub_zero]
  simp only [if_pos enough]
  omega

theorem roundQuotient_one (numerator : Nat) : roundQuotient numerator 1 = numerator := by
  simp [roundQuotient, Nat.mod_one]

theorem roundQuotient_bounds (numerator denominator : Nat) :
    numerator / denominator ≤ roundQuotient numerator denominator ∧
      roundQuotient numerator denominator ≤ numerator / denominator + 1 := by
  unfold roundQuotient
  dsimp only
  split
  · omega
  · split
    · omega
    · split <;> omega

/-- A natural number of at most 53 bits is its own datum. -/
theorem ofRatio_of_log2_le {value : Nat} (positive : value ≠ 0) (short : value.log2 ≤ 52)
    (negative : Bool) :
    ∃ canonical, ofRatio negative value 1 =
      .finite negative (value * 2 ^ (52 - value.log2)) ((value.log2 : Int) - 52) canonical := by
  have lower := Nat.log2_self_le positive
  have upper := Nat.lt_log2_self (n := value)
  have scaledUp : (-((value.log2 : Int) - 52)).toNat = 52 - value.log2 := by omega
  have notDown : ((value.log2 : Int) - 52).toNat = 0 := by omega
  have atLeast : 2 ^ 52 ≤ value * 2 ^ (52 - value.log2) := by
    calc 2 ^ 52 = 2 ^ value.log2 * 2 ^ (52 - value.log2) := by rw [← Nat.pow_add]; congr 1; omega
      _ ≤ value * 2 ^ (52 - value.log2) := Nat.mul_le_mul_right _ lower
  have below : value * 2 ^ (52 - value.log2) < 2 ^ 53 := by
    calc value * 2 ^ (52 - value.log2) < 2 ^ (value.log2 + 1) * 2 ^ (52 - value.log2) :=
          Nat.mul_lt_mul_of_pos_right upper (Nat.two_pow_pos _)
      _ = 2 ^ 53 := by rw [← Nat.pow_add]; congr 1; omega
  have canonical : Canonical (value * 2 ^ (52 - value.log2)) ((value.log2 : Int) - 52) :=
    ⟨below, .inl atLeast, by omega, by omega⟩
  refine ⟨canonical, ?_⟩
  unfold ofRatio
  rw [if_neg positive]
  simp only [unitExponent_one positive, scaledUp, notDown, Nat.pow_zero, Nat.mul_one,
    roundQuotient_one]
  rw [if_neg (Nat.ne_of_lt below), pack, dif_pos canonical]

/-- A natural number that is not far too long has a finite datum. -/
theorem isFinite_ofRatio {value : Nat} (short : value.log2 ≤ 1022) (negative : Bool) :
    (ofRatio negative value 1).isFinite = true := by
  by_cases isZero : value = 0
  · rw [ofRatio, if_pos isZero]
    rfl
  · by_cases exact : value.log2 ≤ 52
    · obtain ⟨canonical, equal⟩ := ofRatio_of_log2_le isZero exact negative
      rw [equal]
      rfl
    · have lower := Nat.log2_self_le isZero
      have upper := Nat.lt_log2_self (n := value)
      have notUp : (-((value.log2 : Int) - 52)).toNat = 0 := by omega
      have scaledDown : ((value.log2 : Int) - 52).toNat = value.log2 - 52 := by omega
      have atLeast : 2 ^ 52 ≤ value / 2 ^ (value.log2 - 52) := by
        rw [Nat.le_div_iff_mul_le (Nat.two_pow_pos _), ← Nat.pow_add]
        calc 2 ^ (52 + (value.log2 - 52)) = 2 ^ value.log2 := by congr 1; omega
          _ ≤ value := lower
      have below : value / 2 ^ (value.log2 - 52) < 2 ^ 53 := by
        rw [Nat.div_lt_iff_lt_mul (Nat.two_pow_pos _), ← Nat.pow_add]
        calc value < 2 ^ (value.log2 + 1) := upper
          _ = 2 ^ (53 + (value.log2 - 52)) := by congr 1; omega
      obtain ⟨least, most⟩ := roundQuotient_bounds value (2 ^ (value.log2 - 52))
      unfold ofRatio
      rw [if_neg isZero]
      simp only [unitExponent_one isZero, notUp, scaledDown, Nat.pow_zero, Nat.mul_one,
        Nat.one_mul]
      split
      · have canonical : Canonical (2 ^ 52) ((value.log2 : Int) - 52 + 1) :=
          ⟨by decide, .inl (Nat.le_refl _), by omega, by omega⟩
        rw [pack, dif_pos canonical]
        rfl
      next notCarried =>
        have canonical : Canonical (roundQuotient value (2 ^ (value.log2 - 52)))
            ((value.log2 : Int) - 52) :=
          ⟨by omega, .inl (by omega), by omega, by omega⟩
        rw [pack, dif_pos canonical]
        rfl

/-- Integers of 64 bits have finite data. -/
theorem isFinite_ofInt {value : Int} (bounded : value.natAbs < 2 ^ 64) :
    (ofInt value).isFinite = true := by
  apply isFinite_ofRatio
  by_cases isZero : value.natAbs = 0
  · rw [isZero]
    decide
  · have short := (Nat.log2_lt isZero).mpr bounded
    omega

/-! ## Numbers that are integers -/

theorem log2_mul_two_pow {value : Nat} (positive : value ≠ 0) (shift : Nat) :
    (value * 2 ^ shift).log2 = value.log2 + shift := by
  induction shift with
  | zero => simp
  | succ shift inductionHypothesis =>
      have shifted : value * 2 ^ shift ≠ 0 :=
        Nat.mul_ne_zero positive (Nat.ne_of_gt (Nat.two_pow_pos shift))
      rw [Nat.pow_succ', Nat.mul_left_comm, Nat.log2_two_mul shifted, inductionHypothesis]
      omega

/-- The parts of a number that is an integer other than zero and below `2 ^ 53`: it has all its
53 bits, the last of them at most at the place of the units. -/
theorem parts_of_integer {significand magnitude : Nat} {exponent : Int}
    (canonical : Canonical significand exponent)
    (whole : significand % 2 ^ (-exponent).toNat = 0)
    (isMagnitude : magnitude = significand / 2 ^ (-exponent).toNat * 2 ^ exponent.toNat)
    (nonzero : magnitude ≠ 0) (small : magnitude < 2 ^ 53) :
    magnitude.log2 ≤ 52 ∧ significand = magnitude * 2 ^ (52 - magnitude.log2) ∧
      exponent = (magnitude.log2 : Int) - 52 := by
  obtain ⟨below, atLeast, -, -⟩ := canonical
  have positive : significand ≠ 0 := by
    rintro rfl
    simp at isMagnitude
    exact nonzero isMagnitude
  have divides : 2 ^ (-exponent).toNat ≤ significand :=
    Nat.le_of_dvd (Nat.pos_of_ne_zero positive) (Nat.dvd_of_mod_eq_zero whole)
  have allBits : 2 ^ 52 ≤ significand := by
    rcases atLeast with full | least
    · exact full
    · subst least
      have tooLarge : 2 ^ 53 ≤ 2 ^ (-(-1074 : Int)).toNat :=
        Nat.pow_le_pow_right (by decide) (by decide)
      omega
  have notAbove : exponent ≤ 0 := by
    apply Int.not_lt.mp
    intro above
    have noDivision : (-exponent).toNat = 0 := by omega
    have doubled : 2 ^ 1 ≤ 2 ^ exponent.toNat := Nat.pow_le_pow_right (by decide) (by omega)
    rw [noDivision, Nat.pow_zero, Nat.div_one] at isMagnitude
    have large := Nat.mul_le_mul allBits doubled
    omega
  have unscaled : exponent.toNat = 0 := by omega
  rw [unscaled, Nat.pow_zero, Nat.mul_one] at isMagnitude
  have scaled : significand = magnitude * 2 ^ (-exponent).toNat := by
    rw [isMagnitude, Nat.div_mul_cancel (Nat.dvd_of_mod_eq_zero whole)]
  have width : significand.log2 = 52 := (Nat.log2_eq_iff positive).mpr ⟨allBits, below⟩
  rw [scaled, log2_mul_two_pow nonzero] at width
  refine ⟨by omega, ?_, by omega⟩
  have places : 52 - magnitude.log2 = (-exponent).toNat := by omega
  rw [places, scaled]

/-- A number without the sign of a zero. -/
def unsignedZero (number : Binary64) : Binary64 :=
  if number.isNegativeZero then zero false else number

theorem equal_self {number : Binary64} (isNumber : number.isNaN = false) :
    number.equal number = true := by
  cases number with
  | nan => cases isNumber
  | infinite negative => simp [equal]
  | finite negative significand exponent canonical => simp [equal]

theorem eq_zero_of_isNegativeZero {number : Binary64} (isZero : number.isNegativeZero = true) :
    number = zero true := by
  cases number with
  | finite negative significand exponent canonical =>
      cases negative with
      | false => cases isZero
      | true =>
          cases significand with
          | succ _ => cases isZero
          | zero =>
              obtain ⟨-, full | least, -⟩ := canonical
              · omega
              · subst least
                rfl
  | _ => cases isZero

/-- The sign of a zero plays no part in equality. -/
theorem equal_unsignedZero {number : Binary64} (isNumber : number.isNaN = false) :
    number.unsignedZero.equal number = true := by
  unfold unsignedZero
  split
  next isZero =>
    rw [eq_zero_of_isNegativeZero isZero]
    rfl
  next => exact equal_self isNumber

/-- A number without magnitude is a zero. -/
theorem parts_of_zero {significand : Nat} {exponent : Int}
    (canonical : Canonical significand exponent)
    (whole : significand % 2 ^ (-exponent).toNat = 0)
    (noMagnitude : significand / 2 ^ (-exponent).toNat * 2 ^ exponent.toNat = 0) :
    significand = 0 ∧ exponent = -1074 := by
  have quotient : significand / 2 ^ (-exponent).toNat = 0 :=
    (Nat.mul_eq_zero.mp noMagnitude).resolve_right (Nat.ne_of_gt (Nat.two_pow_pos _))
  have isZero : significand = 0 := by
    rw [← Nat.div_add_mod significand (2 ^ (-exponent).toNat), quotient, whole]
    simp
  obtain ⟨-, full | least, -⟩ := canonical
  · omega
  · exact ⟨isZero, least⟩

/-- A whole number below `2 ^ 53` is the datum of its integer, which has no sign if it is
zero. -/
theorem ofInt_of_toInt? {number : Binary64} {value : Int}
    (isInteger : number.toInt? = some value) (small : value.natAbs < 2 ^ 53) :
    ofInt value = number.unsignedZero := by
  cases number with
  | nan => simp [toInt?] at isInteger
  | infinite negative => simp [toInt?] at isInteger
  | finite negative significand exponent canonical =>
      simp only [toInt?] at isInteger
      split at isInteger
      next whole =>
        generalize isMagnitude :
          significand / 2 ^ (-exponent).toNat * 2 ^ exponent.toNat = magnitude at isInteger
        obtain rfl := Option.some.inj isInteger
        by_cases isZero : magnitude = 0
        · subst isZero
          obtain ⟨rfl, rfl⟩ := parts_of_zero canonical whole isMagnitude
          cases negative <;> rfl
        · have sameMagnitude :
              (if negative then -(magnitude : Int) else magnitude).natAbs = magnitude := by
            split <;> omega
          have sameSign : decide ((if negative then -(magnitude : Int) else magnitude) < 0) =
              negative := by
            cases negative with
            | false => simp
            | true =>
                simp only [if_true, decide_eq_true_eq]
                omega
          rw [sameMagnitude] at small
          obtain ⟨short, rfl, rfl⟩ :=
            parts_of_integer canonical whole isMagnitude.symm isZero small
          obtain ⟨_, isDatum⟩ := ofRatio_of_log2_le isZero short negative
          have hasBits : magnitude * 2 ^ (52 - magnitude.log2) ≠ 0 :=
            Nat.mul_ne_zero isZero (Nat.ne_of_gt (Nat.two_pow_pos _))
          rw [ofInt, sameSign, sameMagnitude, isDatum, unsignedZero, if_neg]
          intro isNegativeZero
          injection eq_zero_of_isNegativeZero isNegativeZero with _ noBits
          exact hasBits noBits
      next => cases isInteger

end SchemaMatch.Binary64
