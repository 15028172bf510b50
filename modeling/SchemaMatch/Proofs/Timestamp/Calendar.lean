import SchemaMatch.Timestamp.Calendar

/-!
Contract: days have dates, and dates give their days back.

Owns:
- the parts of a day's number within a group of 400 years;
- the dates of the year that starts in March;
- `CivilDate.dayNumber_ofDayNumber` and `CivilDate.exists?_ofDayNumber`.

Does not own: clock times.
-/

namespace SchemaMatch.CivilDate

/-! ## Years of a group of 400 -/

theorem daysBeforeYear_add_le {earlier later : Nat} (before : earlier < later) :
    daysBeforeYear earlier + 365 ≤ daysBeforeYear later := by
  unfold daysBeforeYear
  have hundredth (year : Nat) : year / 100 = year / 4 / 25 := by omega
  have fourth : earlier / 4 ≤ later / 4 := by omega
  rw [hundredth earlier, hundredth later]
  generalize earlier / 4 = earlierFourth at *
  generalize later / 4 = laterFourth at *
  omega

/-- Centuries of a group have 36524 days, and the years of a century go by four. -/
theorem daysBeforeYear_eq (century : Nat) {quad year : Nat} (quadLt : quad < 25)
    (yearLt : year < 4) :
    daysBeforeYear (100 * century + 4 * quad + year) =
      36524 * century + 1461 * quad + 365 * year := by
  have fourth : (100 * century + 4 * quad + year) / 4 = 25 * century + quad := by omega
  have hundredth : (100 * century + 4 * quad + year) / 100 = century := by omega
  rw [daysBeforeYear, fourth, hundredth]
  omega

/-- The last day of a century and that of four years stand in a leap year. -/
theorem yearOfDay_eq {century quad year day : Nat} (centuryLt : century < 4) (quadLt : quad < 25)
    (yearLt : year < 4) (dayLe : day ≤ 365)
    (leap : day = 365 → year = 3 ∧ (quad < 24 ∨ century = 3)) :
    yearOfDay (36524 * century + 1461 * quad + 365 * year + day) =
      100 * century + 4 * quad + year := by
  unfold yearOfDay
  generalize whole : 36524 * century + 1461 * quad + 365 * year + day = dayOfEra
  have leapDays : dayOfEra / 1460 =
      25 * century + quad + (24 * century + quad + 365 * year + day) / 1460 := by
    omega
  have centuries : dayOfEra / 36524 = century + dayOfEra / 146096 := by
    have lastDay : dayOfEra / 146096 = 0 ∨ dayOfEra = 146096 := by omega
    rcases lastDay with earlier | last
    · rw [earlier]
      refine Nat.div_eq_of_lt_le ?_ ?_ <;> omega
    · omega
  omega

/-- The century, the four years, the year and the day of the year that hold a day of a group. -/
theorem exists_parts {dayOfEra : Nat} (inEra : dayOfEra < daysPerEra) :
    ∃ century quad year day, century < 4 ∧ quad < 25 ∧ year < 4 ∧ day ≤ 365 ∧
      (day = 365 → year = 3 ∧ (quad < 24 ∨ century = 3)) ∧
      dayOfEra = 36524 * century + 1461 * quad + 365 * year + day := by
  unfold daysPerEra at inEra
  obtain ⟨century, centuryLt, fromCentury, untilCentury⟩ : ∃ century, century < 4 ∧
      36524 * century ≤ dayOfEra ∧ (dayOfEra < 36524 * (century + 1) ∨ century = 3) := by
    refine ⟨min 3 (dayOfEra / 36524), ?_, ?_, ?_⟩ <;> omega
  obtain ⟨year, yearLt, fromYear, untilYear⟩ : ∃ year, year < 4 ∧
      365 * year ≤ (dayOfEra - 36524 * century) % 1461 ∧
      ((dayOfEra - 36524 * century) % 1461 < 365 * (year + 1) ∨ year = 3) := by
    refine ⟨min 3 ((dayOfEra - 36524 * century) % 1461 / 365), ?_, ?_, ?_⟩ <;> omega
  refine ⟨century, (dayOfEra - 36524 * century) / 1461, year,
    (dayOfEra - 36524 * century) % 1461 - 365 * year, centuryLt, ?_, yearLt, ?_, ?_, ?_⟩ <;>
    omega

/-! ## Years that start in March -/

/-- The days from 0000-03-01 to the first of March of a year. -/
def daysBeforeMarch (year : Int) : Int :=
  year / 400 * daysPerEra + daysBeforeYear (year % 400).toNat

theorem daysBeforeMarch_add_le {earlier later : Int} (before : earlier < later) :
    daysBeforeMarch earlier + 365 ≤ daysBeforeMarch later := by
  have lastYear : daysBeforeYear (earlier % 400).toNat + 365 ≤ daysBeforeYear 400 :=
    daysBeforeYear_add_le (by omega)
  have lastDay : daysBeforeYear 400 ≤ daysPerEra := by decide
  unfold daysBeforeMarch
  by_cases sameEra : earlier / 400 = later / 400
  · have inEra := @daysBeforeYear_add_le (earlier % 400).toNat (later % 400).toNat (by omega)
    rw [sameEra]
    omega
  · unfold daysPerEra at *
    omega

/-- The date of a day of the year that starts in March of `year`. -/
def ofMarchYear (year : Int) (dayOfYear : Nat) : CivilDate :=
  let marchMonth := (5 * dayOfYear + 2) / 153
  let month := if marchMonth < 10 then marchMonth + 3 else marchMonth - 9
  { year := year + (if month ≤ 2 then 1 else 0)
    month := month
    day := dayOfYear - daysBeforeMonth marchMonth + 1 }

/-- Each day belongs to one year that starts in March. It is the 366th of it only if the
February at its end is that of a leap year. -/
theorem exists_ofMarchYear (number : Int) :
    ∃ (year : Int) (dayOfYear : Nat), dayOfYear ≤ 365 ∧
      (dayOfYear = 365 → isLeapYear (year + 1) = true) ∧
      number + epochShift = daysBeforeMarch year + dayOfYear ∧
      ofDayNumber number = ofMarchYear year dayOfYear := by
  have inEra : ((number + epochShift) % daysPerEra).toNat < daysPerEra := by
    have small := Int.emod_lt_of_pos (number + epochShift) (by decide : (0 : Int) < daysPerEra)
    unfold daysPerEra at *
    omega
  obtain ⟨century, quad, year, day, centuryLt, quadLt, yearLt, dayLe, leap, parts⟩ :=
    exists_parts inEra
  have yearOfEra := yearOfDay_eq centuryLt quadLt yearLt dayLe leap
  have daysBefore := daysBeforeYear_eq century quadLt yearLt
  have dayOfYear : 36524 * century + 1461 * quad + 365 * year + day -
      daysBeforeYear (100 * century + 4 * quad + year) = day := by
    omega
  generalize era : (number + epochShift) / daysPerEra = eraNumber
  have eraOfYear :
      ((100 * century + 4 * quad + year : Nat) + eraNumber * 400 : Int) / 400 = eraNumber := by
    omega
  have yearInEra :
      ((100 * century + 4 * quad + year : Nat) + eraNumber * 400 : Int) % 400 =
        (100 * century + 4 * quad + year : Nat) := by
    omega
  refine ⟨(100 * century + 4 * quad + year : Nat) + eraNumber * 400, day, dayLe, ?_, ?_, ?_⟩
  · intro last
    obtain ⟨yearLast, quadOrCentury⟩ := leap last
    simp only [isLeapYear, Bool.and_eq_true, Bool.or_eq_true, beq_iff_eq, bne_iff_ne]
    omega
  · rw [daysBeforeMarch, eraOfYear, yearInEra, Int.toNat_natCast, daysBefore, ← era]
    have whole := Int.emod_add_mul_ediv (number + epochShift) daysPerEra
    have positive := Int.emod_nonneg (number + epochShift) (by decide : (daysPerEra : Int) ≠ 0)
    unfold daysPerEra at *
    omega
  · unfold ofDayNumber ofMarchYear
    simp only [era, parts, yearOfEra, dayOfYear]

/-- The months of a year that starts in March. -/
theorem daysBeforeMonth_le {dayOfYear : Nat} (dayLe : dayOfYear ≤ 365) :
    (5 * dayOfYear + 2) / 153 < 12 ∧
      daysBeforeMonth ((5 * dayOfYear + 2) / 153) ≤ dayOfYear := by
  unfold daysBeforeMonth
  omega

theorem dayNumber_ofMarchYear (year : Int) {dayOfYear : Nat} (dayLe : dayOfYear ≤ 365) :
    (ofMarchYear year dayOfYear).dayNumber = daysBeforeMarch year + dayOfYear - epochShift := by
  obtain ⟨monthLt, monthStarts⟩ := daysBeforeMonth_le dayLe
  unfold ofMarchYear dayNumber daysBeforeMarch
  generalize (5 * dayOfYear + 2) / 153 = marchMonth at *
  by_cases early : marchMonth < 10
  · have later : ¬ marchMonth + 3 ≤ 2 := by omega
    simp only [if_pos early, if_neg later, Int.add_zero, Int.sub_zero, Nat.add_sub_cancel]
    omega
  · have earlier : marchMonth - 9 ≤ 2 := by omega
    have same : marchMonth - 9 + 9 = marchMonth := by omega
    simp only [if_neg early, if_pos earlier, same, Int.add_sub_cancel]
    omega

theorem exists?_ofMarchYear {year : Int} {dayOfYear : Nat} (dayLe : dayOfYear ≤ 365)
    (leap : dayOfYear = 365 → isLeapYear (year + 1) = true) :
    (ofMarchYear year dayOfYear).exists? = true := by
  obtain ⟨monthLt, monthStarts⟩ := daysBeforeMonth_le dayLe
  have monthEnds : dayOfYear < daysBeforeMonth ((5 * dayOfYear + 2) / 153 + 1) := by
    unfold daysBeforeMonth
    omega
  unfold ofMarchYear exists?
  generalize (5 * dayOfYear + 2) / 153 = marchMonth at *
  simp only [Bool.and_eq_true, decide_eq_true_eq]
  refine ⟨by omega, ?_⟩
  unfold daysBeforeMonth at *
  obtain early | rfl | rfl : marchMonth < 10 ∨ marchMonth = 10 ∨ marchMonth = 11 := by omega
  · -- March to December: 30 or 31 days.
    unfold daysInMonth
    rw [if_pos early, if_neg (by omega)]
    split
    · omega
    · rw [if_pos (by omega)]
      omega
  · -- January.
    change dayOfYear - 306 + 1 ≤ 31
    omega
  · -- February, with its last day in leap years only.
    change dayOfYear - 337 + 1 ≤ if isLeapYear (year + 1) then 29 else 28
    split
    · omega
    · have notLast : dayOfYear ≠ 365 := fun last => absurd (leap last) ‹_›
      omega

theorem month_le_of_exists? {date : CivilDate} (onCalendar : date.exists? = true) :
    date.month ≤ 12 := by
  simp only [exists?, Bool.and_eq_true, decide_eq_true_eq] at onCalendar
  refine Nat.le_of_not_lt fun late => ?_
  have noDays : daysInMonth date.year date.month = 0 := by
    unfold daysInMonth
    rw [if_neg (by omega), if_neg (by omega), if_neg (by omega)]
  omega

theorem day_le_of_exists? {date : CivilDate} (onCalendar : date.exists? = true) :
    date.day ≤ 31 := by
  simp only [exists?, Bool.and_eq_true, decide_eq_true_eq] at onCalendar
  have days : daysInMonth date.year date.month ≤ 31 := by
    unfold daysInMonth
    repeat' split
    all_goals omega
  exact Nat.le_trans onCalendar.2 days

/-- January is the eleventh month. -/
theorem year_ofMarchYear (year : Int) {dayOfYear : Nat} (dayLe : dayOfYear ≤ 365) :
    (ofMarchYear year dayOfYear).year = year + if 306 ≤ dayOfYear then 1 else 0 := by
  have afterDecember :
      (if (5 * dayOfYear + 2) / 153 < 10 then (5 * dayOfYear + 2) / 153 + 3
        else (5 * dayOfYear + 2) / 153 - 9) ≤ 2 ↔ 306 ≤ dayOfYear := by
    split <;> omega
  simp only [ofMarchYear, afterDecember]

/-! ## Days -/

/-- The date of a day gives the day back. -/
theorem dayNumber_ofDayNumber (number : Int) : (ofDayNumber number).dayNumber = number := by
  obtain ⟨year, dayOfYear, dayLe, -, shifted, date⟩ := exists_ofMarchYear number
  rw [date, dayNumber_ofMarchYear year dayLe]
  omega

/-- The date of a day exists. -/
theorem exists?_ofDayNumber (number : Int) : (ofDayNumber number).exists? = true := by
  obtain ⟨year, dayOfYear, dayLe, leap, -, date⟩ := exists_ofMarchYear number
  rw [date]
  exact exists?_ofMarchYear dayLe leap

/-- A day is in a year or later if the first of January of the year is not after it. -/
theorem le_year_ofDayNumber_iff (year number : Int) :
    year ≤ (ofDayNumber number).year ↔ dayNumber ⟨year, 1, 1⟩ ≤ number := by
  obtain ⟨marchYear, dayOfYear, dayLe, -, shifted, date⟩ := exists_ofMarchYear number
  have newYear : dayNumber ⟨year, 1, 1⟩ = daysBeforeMarch (year - 1) + 306 - epochShift := by
    have daysToJanuary : daysBeforeMonth (1 + 9) = 306 := by decide
    simp only [dayNumber, if_pos (by decide : 1 ≤ 2), daysToJanuary, daysBeforeMarch]
    omega
  rw [date, newYear, year_ofMarchYear marchYear dayLe]
  obtain earlier | rfl | later : marchYear < year - 1 ∨ marchYear = year - 1 ∨
      year - 1 < marchYear := by omega
  · have before := daysBeforeMarch_add_le earlier
    split <;> omega
  · split <;> omega
  · have after := daysBeforeMarch_add_le later
    split <;> omega

end SchemaMatch.CivilDate
