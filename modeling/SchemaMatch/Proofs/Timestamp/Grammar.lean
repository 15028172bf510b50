import Mathlib.Data.List.TakeWhile
import SchemaMatch.Proofs.Number.Numeral
import SchemaMatch.Proofs.Outcome
import SchemaMatch.Proofs.Timestamp.Calendar
import SchemaMatch.Timestamp.Rfc3339

/-!
Contract: the texts that RFC 3339 gives to instants.

Owns:
- the parts of a text, which of them are valid, and the instant that they name;
- what each reader of a part accepts, with the text that it leaves;
- `Timestamp.Rfc3339.ofText?_eq_ok_iff`: a text is read as an instant exactly if valid parts that
  name the instant are written as that text.

Does not own: the reasons to refuse a text.
-/

namespace SchemaMatch

namespace Timestamp

/-! ## Padded numbers -/

section Padded

variable (width value : Nat)

theorem toList_padded :
    (padded width value).toList =
      List.replicate (width - (toString value).length) '0' ++ Nat.toDigits 10 value := by
  rw [padded, String.toList_append, String.toList_ofList, Nat.toString_eq_repr, Nat.toList_repr]

theorem isDigit_of_mem_padded : ∀ c ∈ (padded width value).toList, c.isDigit = true := by
  intro character member
  rw [toList_padded] at member
  rcases List.mem_append.mp member with zero | digit
  · rw [List.eq_of_mem_replicate zero]
    rfl
  · exact Numeral.isDigit_of_mem_toDigits value character digit

@[simp]
theorem ofDigitChars_padded : Nat.ofDigitChars 10 (padded width value).toList 0 = value := by
  rw [toList_padded, Nat.ofDigitChars_append, Nat.ofDigitChars_replicate_zero, Nat.mul_zero,
    Nat.ofDigitChars_ten_toDigits]

theorem length_padded :
    (padded width value).length = max width (toString value).length := by
  rw [padded, String.length_append, String.length_ofList, List.length_replicate]
  omega

/-- A number that fits into the width takes exactly the width. -/
theorem length_toList_padded {width value : Nat} (positive : 0 < width)
    (fits : value < 10 ^ width) :
    (padded width value).toList.length = width := by
  have short : (toString value).length ≤ width := by
    rw [Nat.toString_eq_ofList_toDigits, String.length_ofList]
    exact (Nat.length_toDigits_le_iff (by decide) positive).mpr fits
  rw [String.length_toList, length_padded, Nat.max_eq_left short]

/-- A row of digits is the padded text of what it denotes. -/
theorem padded_ofDigitChars {row : List Char} (nonempty : row ≠ [])
    (digits : ∀ c ∈ row, c.isDigit = true) :
    (padded row.length (Nat.ofDigitChars 10 row 0)).toList = row := by
  obtain ⟨zeros, isRow⟩ := Numeral.exists_zeros nonempty digits
  have length : row.length = zeros + (toString (Nat.ofDigitChars 10 row 0)).length := by
    rw [Nat.toString_eq_ofList_toDigits, String.length_ofList]
    simpa using congrArg List.length isRow
  rw [toList_padded, length, Nat.add_sub_cancel, ← isRow]

end Padded

namespace Rfc3339

/-! ## Texts and what they name -/

/-- The end of a text: the mark of UTC, or how far its clock is ahead of UTC. -/
inductive Zone where
  | utc (letter : Char)
  | offset (sign : Char) (hours minutes : Nat)

namespace Zone

def text : Zone → List Char
  | utc letter => [letter]
  | offset sign hours minutes =>
      sign :: ((padded 2 hours).toList ++ ':' :: (padded 2 minutes).toList)

/-- The seconds that the clock is ahead of UTC. -/
def seconds : Zone → Int
  | utc _ => 0
  | offset sign hours minutes =>
      (if sign = '+' then 1 else -1) * (hours * 3600 + minutes * 60 : Nat)

def Valid : Zone → Prop
  | utc letter => letter = 'Z' ∨ letter = 'z'
  | offset sign hours minutes =>
      (sign = '+' ∨ sign = '-' ∨ sign = '\u2212') ∧ hours < 24 ∧ minutes < 60

end Zone

/-- The parts of a text. -/
structure Parts where
  date : CivilDate
  separator : Char
  hour : Nat
  minute : Nat
  second : Nat
  /-- The digits after the point of the second. Without digits there is no point. -/
  fraction : List Char
  zone : Zone

namespace Parts

/-- Digits after a point. -/
def pointed : List Char → List Char
  | [] => []
  | first :: others => '.' :: first :: others

def text (parts : Parts) : List Char :=
  (padded 4 parts.date.year.toNat).toList ++ '-' ::
    ((padded 2 parts.date.month).toList ++ '-' ::
    ((padded 2 parts.date.day).toList ++ parts.separator ::
    ((padded 2 parts.hour).toList ++ ':' ::
    ((padded 2 parts.minute).toList ++ ':' ::
    ((padded 2 parts.second).toList ++ (pointed parts.fraction ++ parts.zone.text))))))

/-- The day is one of the calendar, in a year of four digits, and the time is one of the clock,
which may show second 60. -/
structure Valid (parts : Parts) : Prop where
  fromZero : 0 ≤ parts.date.year
  fourDigits : parts.date.year ≤ 9999
  onCalendar : parts.date.exists? = true
  separator : parts.separator = 'T' ∨ parts.separator = 't' ∨ parts.separator = ' '
  hour_lt : parts.hour < 24
  minute_lt : parts.minute < 60
  second_le : parts.second ≤ 60
  digits : ∀ c ∈ parts.fraction, c.isDigit = true
  zone : parts.zone.Valid

/-- The nanoseconds that the digits after a point denote, rounded down. -/
def nanosOf (digits : List Char) : Nat :=
  Nat.ofDigitChars 10 digits 0 * 10 ^ 9 / 10 ^ digits.length

/-- The instant of the parts, of which second 60 goes on from second 59. -/
structure Names (parts : Parts) (instant : Timestamp) : Prop where
  seconds : instant.seconds = parts.date.dayNumber * 86400 +
    (parts.hour * 3600 + parts.minute * 60 + min parts.second 59 : Nat) - parts.zone.seconds
  nanos : instant.nanos = nanosOf parts.fraction + if parts.second = 60 then 10 ^ 9 else 0

end Parts

/-- Whether a text is one of those of an instant. -/
def Writes (text : String) (instant : Timestamp) : Prop :=
  ∃ parts : Parts, parts.Valid ∧ text.toList = parts.text ∧ parts.Names instant

/-! ## Parts of fixed width -/

theorem field_of_isDigit {row : List Char} (digits : ∀ c ∈ row, c.isDigit = true)
    (value : Nat) (rest : List Char) :
    field row.length value (row ++ rest) = .ok (Nat.ofDigitChars 10 row value, rest) := by
  induction row generalizing value with
  | nil => rfl
  | cons character others inductionHypothesis =>
      obtain ⟨digit, digitsOfOthers⟩ := List.forall_mem_cons.mp digits
      rw [List.length_cons, List.cons_append, field, Numeral.digit?_of_isDigit digit,
        Nat.ofDigitChars_cons, Nat.mul_comm 10]
      exact inductionHypothesis digitsOfOthers _

theorem exists_row_of_field {count start value : Nat} {text rest : List Char}
    (read : field count start text = .ok (value, rest)) :
    ∃ row, text = row ++ rest ∧ row.length = count ∧ (∀ c ∈ row, c.isDigit = true) ∧
      value = Nat.ofDigitChars 10 row start := by
  induction count generalizing start text with
  | zero =>
      rw [field] at read
      cases read
      exact ⟨[], rfl, rfl, by simp, rfl⟩
  | succ count inductionHypothesis =>
      cases text with
      | nil => cases read
      | cons character others =>
          by_cases digit : character.isDigit = true
          · rw [field, Numeral.digit?_of_isDigit digit] at read
            obtain ⟨row, rfl, rfl, digits, rfl⟩ := inductionHypothesis read
            refine ⟨character :: row, rfl, rfl, List.forall_mem_cons.mpr ⟨digit, digits⟩, ?_⟩
            rw [Nat.ofDigitChars_cons, Nat.mul_comm 10]
          · rw [field, Numeral.digit?_eq, if_neg digit] at read
            cases read

/-- A field is a number, padded to the width. -/
theorem field_eq_ok_iff {width value : Nat} {text rest : List Char} (positive : 0 < width) :
    field width 0 text = .ok (value, rest) ↔
      value < 10 ^ width ∧ text = (padded width value).toList ++ rest := by
  constructor
  · intro read
    obtain ⟨row, rfl, rfl, digits, rfl⟩ := exists_row_of_field read
    have isRow := padded_ofDigitChars (List.length_pos_iff.mp positive) digits
    exact ⟨Numeral.ofDigitChars_lt digits, congrArg (· ++ rest) isRow.symm⟩
  · rintro ⟨fits, same⟩
    rw [same]
    have read := field_of_isDigit (isDigit_of_mem_padded width value) 0 rest
    rwa [length_toList_padded positive fits, ofDigitChars_padded] at read

theorem mark_eq_ok_iff {accepts : Char → Bool} {text rest : List Char} :
    mark accepts text = .ok ((), rest) ↔
      ∃ character, accepts character = true ∧ text = character :: rest := by
  cases text with
  | nil => simp [mark]
  | cons character others =>
      rw [mark]
      split
      next accepted => simp [accepted]
      next refused => simp [refused]

/-- Two digits are a field, read one by one. -/
theorem twoDigits_eq_ok_iff {tens ones : Nat} {text rest : List Char} :
    twoDigits text = .ok ((tens, ones), rest) ↔
      ones < 10 ∧ field 2 0 text = .ok (tens * 10 + ones, rest) := by
  match text with
  | [] => simp [twoDigits, field]
  | [character] =>
      have tooShort : field 2 0 [character] ≠ .ok (tens * 10 + ones, rest) := by
        rw [field]
        cases Numeral.digit? character <;> simp [field]
      simp [twoDigits, tooShort]
  | first :: second :: others =>
      simp only [twoDigits, field]
      cases ofFirst : Numeral.digit? first with
      | none => simp
      | some high =>
          cases ofSecond : Numeral.digit? second with
          | none => simp
          | some low =>
              have small := Numeral.lt_ten_of_digit? ofSecond
              simp only [Except.ok.injEq, Prod.mk.injEq, ← and_assoc]
              refine and_congr_left fun _ => ?_
              omega

/-! ## Fractions of a second -/

/-- The first nine of some digits, with zeros for those that are missing, are the nanoseconds. -/
theorem nanosOf_eq {digits : List Char} (allDigits : ∀ c ∈ digits, c.isDigit = true) :
    Numeral.digits? ((digits ++ List.replicate 9 '0').take 9) = some (Parts.nanosOf digits) := by
  have isDigit : ∀ c ∈ digits ++ List.replicate 9 '0', c.isDigit = true := by
    intro character member
    rcases List.mem_append.mp member with digit | zero
    · exact allDigits character digit
    · rw [List.eq_of_mem_replicate zero]
      rfl
  have whole : Nat.ofDigitChars 10 (digits ++ List.replicate 9 '0') 0 =
      Nat.ofDigitChars 10 digits 0 * 10 ^ 9 := by
    rw [Nat.ofDigitChars_append, Nat.ofDigitChars_replicate_zero, Nat.mul_comm]
  have split : Nat.ofDigitChars 10 (digits ++ List.replicate 9 '0') 0 =
      10 ^ digits.length * Nat.ofDigitChars 10 ((digits ++ List.replicate 9 '0').take 9) 0 +
        Nat.ofDigitChars 10 ((digits ++ List.replicate 9 '0').drop 9) 0 := by
    conv_lhs => rw [← List.take_append_drop 9 (digits ++ List.replicate 9 '0')]
    rw [Nat.ofDigitChars_append, Nat.ofDigitChars_eq_ofDigitChars_zero, List.length_drop,
      List.length_append, List.length_replicate, Nat.add_sub_cancel]
  have dropped : Nat.ofDigitChars 10 ((digits ++ List.replicate 9 '0').drop 9) 0 <
      10 ^ digits.length := by
    have digitsDropped : ∀ c ∈ (digits ++ List.replicate 9 '0').drop 9, c.isDigit = true :=
      fun c member => isDigit c (List.mem_of_mem_drop member)
    have bound := Numeral.ofDigitChars_lt digitsDropped
    rwa [List.length_drop, List.length_append, List.length_replicate, Nat.add_sub_cancel] at bound
  rw [Numeral.digits?_of_isDigit fun c member => isDigit c (List.mem_of_mem_take member),
    Parts.nanosOf, ← whole, split, Nat.mul_add_div (Nat.pow_pos (by decide)),
    Nat.div_eq_of_lt dropped, Nat.add_zero]

/-- Digits after a point are read up to what follows, which is no digit. -/
theorem optionalFraction_pointed {digits : List Char} (allDigits : ∀ c ∈ digits, c.isDigit = true)
    {next : Char} (noPoint : next ≠ '.') (ends : next.isDigit = false) (rest : List Char) :
    optionalFraction (Parts.pointed digits ++ next :: rest) =
      .ok (Parts.nanosOf digits, next :: rest) := by
  cases digits with
  | nil =>
      rw [Parts.pointed, List.nil_append, optionalFraction]
      · rfl
      · rintro others same
        exact noPoint (List.cons.inj same).1
  | cons first others =>
      have digitsHere : ∀ c ∈ first :: others, Numeral.isDigit c = true := by
        simpa only [Numeral.isDigit_eq] using allDigits
      have taken : (first :: others ++ next :: rest).takeWhile Numeral.isDigit =
          first :: others := by
        rw [List.takeWhile_append_of_pos digitsHere, List.takeWhile_cons, Numeral.isDigit_eq, ends]
        exact List.append_nil _
      have dropped : (first :: others ++ next :: rest).dropWhile Numeral.isDigit =
          next :: rest := by
        rw [List.dropWhile_append_of_pos digitsHere, List.dropWhile_cons, Numeral.isDigit_eq, ends]
        rfl
      rw [List.cons_append] at taken dropped
      rw [Parts.pointed, List.cons_append, List.cons_append, optionalFraction, fraction,
        if_pos (digitsHere first List.mem_cons_self), taken, dropped]
      dsimp only
      rw [nanosOf_eq allDigits]
      rfl

theorem exists_digits_of_optionalFraction {text rest : List Char} {nanos : Nat}
    (read : optionalFraction text = .ok (nanos, rest)) :
    ∃ digits, (∀ c ∈ digits, c.isDigit = true) ∧ text = Parts.pointed digits ++ rest ∧
      nanos = Parts.nanosOf digits := by
  unfold optionalFraction at read
  split at read
  next after =>
    cases after with
    | nil => cases read
    | cons first others =>
        rw [fraction] at read
        split at read
        next isDigit =>
          cases read
          have allDigits : ∀ c ∈ (first :: others).takeWhile Numeral.isDigit,
              c.isDigit = true := by
            intro character member
            rw [← Numeral.isDigit_eq]
            exact List.mem_takeWhile_imp member
          refine ⟨_, allDigits, ?_, ?_⟩
          · rw [List.takeWhile_cons_of_pos isDigit, Parts.pointed,
              List.dropWhile_cons_of_pos isDigit, List.cons_append, List.cons_append,
              List.takeWhile_append_dropWhile]
          · rw [nanosOf_eq allDigits]
            rfl
        next => cases read
  next =>
    cases read
    exact ⟨[], by simp, rfl, rfl⟩

/-! ## Zones -/

/-- Hours and minutes after a sign, less than a day together. -/
theorem offset_sign_eq_ok_iff {sign : Char} (isSign : sign = '+' ∨ sign = '-' ∨ sign = '\u2212')
    {text rest : List Char} {seconds : Int} :
    offset (sign :: text) = .ok (seconds, rest) ∧ seconds.natAbs < 86400 ↔
      ∃ hours minutes, hours < 24 ∧ minutes < 60 ∧
        text = (padded 2 hours).toList ++ ':' :: ((padded 2 minutes).toList ++ rest) ∧
        seconds = (Zone.offset sign hours minutes).seconds := by
  have noUtc : ¬ (sign = 'Z' ∨ sign = 'z') := by
    rintro (rfl | rfl) <;> exact absurd isSign (by decide)
  rw [offset, if_neg noUtc, if_pos isSign]
  constructor
  · rintro ⟨read, withinDay⟩
    obtain ⟨⟨⟨hourTens, hourOnes⟩, afterHours⟩, readHours, read⟩ := bind_eq_ok_iff.mp read
    obtain ⟨⟨⟨⟩, afterColon⟩, readColon, read⟩ := bind_eq_ok_iff.mp read
    obtain ⟨⟨⟨minuteTens, minuteOnes⟩, afterMinutes⟩, readMinutes, read⟩ := bind_eq_ok_iff.mp read
    obtain ⟨-, hourField⟩ := twoDigits_eq_ok_iff.mp readHours
    obtain ⟨minuteSmall, minuteField⟩ := twoDigits_eq_ok_iff.mp readMinutes
    obtain ⟨colon, isColon, colonText⟩ := mark_eq_ok_iff.mp readColon
    obtain rfl := beq_iff_eq.mp isColon
    have hourText := ((field_eq_ok_iff (by decide)).mp hourField).2
    have minuteText := ((field_eq_ok_iff (by decide)).mp minuteField).2
    dsimp only at read
    by_cases highMinutes : 6 ≤ minuteTens
    · rw [if_pos highMinutes] at read
      cases read
    · rw [if_neg highMinutes] at read
      obtain ⟨sameSeconds, rfl⟩ := Prod.mk.inj (Except.ok.inj read)
      have isSeconds : seconds =
          (Zone.offset sign (hourTens * 10 + hourOnes) (minuteTens * 10 + minuteOnes)).seconds := by
        rw [← sameSeconds, Zone.seconds]
        split <;> simp
      refine ⟨_, _, ?_, by omega, by rw [hourText, colonText, minuteText], isSeconds⟩
      rw [isSeconds, Zone.seconds] at withinDay
      split at withinDay <;> omega
  · rintro ⟨hours, minutes, hours_lt, minutes_lt, hasText, rfl⟩
    have readHours : twoDigits text = .ok ((hours / 10, hours % 10),
        ':' :: ((padded 2 minutes).toList ++ rest)) := by
      refine twoDigits_eq_ok_iff.mpr ⟨Nat.mod_lt _ (by decide), ?_⟩
      rw [Nat.div_add_mod', field_eq_ok_iff (by decide)]
      exact ⟨by omega, hasText⟩
    have readMinutes : twoDigits ((padded 2 minutes).toList ++ rest) =
        .ok ((minutes / 10, minutes % 10), rest) := by
      refine twoDigits_eq_ok_iff.mpr ⟨Nat.mod_lt _ (by decide), ?_⟩
      rw [Nat.div_add_mod', field_eq_ok_iff (by decide)]
      exact ⟨by omega, rfl⟩
    have readColon : mark (· == ':') (':' :: ((padded 2 minutes).toList ++ rest)) =
        .ok ((), (padded 2 minutes).toList ++ rest) := rfl
    have noHighMinutes : ¬ 6 ≤ minutes / 10 := by omega
    simp only [readHours, ok_bind, readColon, readMinutes, if_neg noHighMinutes,
      Nat.div_add_mod', Zone.seconds]
    split <;> exact ⟨by simp, by omega⟩

theorem offset_eq_ok_iff {text rest : List Char} {seconds : Int} :
    offset text = .ok (seconds, rest) ∧ seconds.natAbs < 86400 ↔
      ∃ zone : Zone, zone.Valid ∧ text = zone.text ++ rest ∧ seconds = zone.seconds := by
  constructor
  · rintro ⟨read, withinDay⟩
    cases text with
    | nil => cases read
    | cons character others =>
        by_cases isUtc : character = 'Z' ∨ character = 'z'
        · rw [offset, if_pos isUtc] at read
          cases read
          exact ⟨.utc character, isUtc, rfl, rfl⟩
        · by_cases isSign : character = '+' ∨ character = '-' ∨ character = '\u2212'
          · obtain ⟨hours, minutes, hours_lt, minutes_lt, hasText, isSeconds⟩ :=
              (offset_sign_eq_ok_iff isSign).mp ⟨read, withinDay⟩
            refine ⟨.offset character hours minutes, ⟨isSign, hours_lt, minutes_lt⟩, ?_, isSeconds⟩
            rw [hasText, Zone.text, List.cons_append, List.append_assoc, List.cons_append]
          · rw [offset, if_neg isUtc, if_neg isSign] at read
            cases read
  · rintro ⟨zone, valid, hasText, rfl⟩
    cases zone with
    | utc letter =>
        have isUtc : letter = 'Z' ∨ letter = 'z' := valid
        rw [hasText, Zone.text, List.singleton_append, offset, if_pos isUtc]
        exact ⟨rfl, Nat.zero_lt_succ _⟩
    | offset sign hours minutes =>
        obtain ⟨isSign, hours_lt, minutes_lt⟩ := valid
        rw [hasText, Zone.text, List.cons_append, List.append_assoc, List.cons_append]
        exact (offset_sign_eq_ok_iff isSign).mpr ⟨hours, minutes, hours_lt, minutes_lt, rfl, rfl⟩

/-! ## Days and times -/

theorem mark_of_accepts {accepts : Char → Bool} {character : Char}
    (accepted : accepts character = true) (rest : List Char) :
    mark accepts (character :: rest) = .ok ((), rest) :=
  mark_eq_ok_iff.mpr ⟨character, accepted, rfl⟩

theorem field_padded {width value : Nat} (positive : 0 < width) (fits : value < 10 ^ width)
    (rest : List Char) :
    field width 0 ((padded width value).toList ++ rest) = .ok (value, rest) :=
  (field_eq_ok_iff positive).mpr ⟨fits, rfl⟩

theorem calendarDate_eq_ok_iff {text rest : List Char} {date : CivilDate} :
    calendarDate text = .ok (date, rest) ↔
      0 ≤ date.year ∧ date.year ≤ 9999 ∧ date.exists? = true ∧
        text = (padded 4 date.year.toNat).toList ++ '-' :: ((padded 2 date.month).toList ++ '-' ::
          ((padded 2 date.day).toList ++ rest)) := by
  constructor
  · intro read
    obtain ⟨⟨year, afterYear⟩, readYear, read⟩ := bind_eq_ok_iff.mp read
    obtain ⟨⟨⟨⟩, atMonth⟩, readMark, read⟩ := bind_eq_ok_iff.mp read
    obtain ⟨⟨month, afterMonth⟩, readMonth, read⟩ := bind_eq_ok_iff.mp read
    obtain ⟨⟨⟨⟩, atDay⟩, readNextMark, read⟩ := bind_eq_ok_iff.mp read
    obtain ⟨⟨day, afterDay⟩, readDay, read⟩ := bind_eq_ok_iff.mp read
    obtain ⟨onCalendar, same⟩ := ite_error_eq_ok_iff.mp read
    obtain ⟨rfl, rfl⟩ := Prod.mk.inj (Except.ok.inj same)
    obtain ⟨dash, isDash, markText⟩ := mark_eq_ok_iff.mp readMark
    obtain ⟨nextDash, isNextDash, nextMarkText⟩ := mark_eq_ok_iff.mp readNextMark
    obtain rfl := beq_iff_eq.mp isDash
    obtain rfl := beq_iff_eq.mp isNextDash
    obtain ⟨yearFits, yearText⟩ := (field_eq_ok_iff (by decide)).mp readYear
    obtain ⟨-, monthText⟩ := (field_eq_ok_iff (by decide)).mp readMonth
    obtain ⟨-, dayText⟩ := (field_eq_ok_iff (by decide)).mp readDay
    have atMost : (year : Int) ≤ 9999 := by omega
    refine ⟨Int.natCast_nonneg year, atMost, onCalendar, ?_⟩
    rw [yearText, markText, monthText, nextMarkText, dayText, Int.toNat_natCast]
  · rintro ⟨fromZero, fourDigits, onCalendar, hasText⟩
    have year : (date.year.toNat : Int) = date.year := Int.toNat_of_nonneg fromZero
    have monthLe := CivilDate.month_le_of_exists? onCalendar
    have dayLe := CivilDate.day_le_of_exists? onCalendar
    have dash (rest : List Char) : mark (· == '-') ('-' :: rest) = .ok ((), rest) :=
      mark_of_accepts rfl rest
    have yearFits : date.year.toNat < 10 ^ 4 := by omega
    have monthFits : date.month < 10 ^ 2 := by omega
    have dayFits : date.day < 10 ^ 2 := by omega
    rw [calendarDate, hasText]
    simp only [field_padded (by decide : 0 < 4) yearFits,
      field_padded (by decide : 0 < 2) monthFits, field_padded (by decide : 0 < 2) dayFits, dash,
      ok_bind, year, onCalendar, if_true]

/-- The time that is read has the nanoseconds of its digits. -/
theorem exists_digits_of_clockTime {text rest : List Char} {time : ClockTime}
    (read : clockTime text = .ok (time, rest)) :
    time.hour < 24 ∧ time.minute < 60 ∧ time.second ≤ 60 ∧
      ∃ digits, (∀ c ∈ digits, c.isDigit = true) ∧ time.nanos = Parts.nanosOf digits ∧
        text = (padded 2 time.hour).toList ++ ':' :: ((padded 2 time.minute).toList ++ ':' ::
          ((padded 2 time.second).toList ++ (Parts.pointed digits ++ rest))) := by
  obtain ⟨⟨hour, afterHour⟩, readHour, read⟩ := bind_eq_ok_iff.mp read
  obtain ⟨⟨⟨⟩, atMinute⟩, readMark, read⟩ := bind_eq_ok_iff.mp read
  obtain ⟨⟨minute, afterMinute⟩, readMinute, read⟩ := bind_eq_ok_iff.mp read
  obtain ⟨⟨⟨⟩, atSecond⟩, readNextMark, read⟩ := bind_eq_ok_iff.mp read
  obtain ⟨⟨second, afterSecond⟩, readSecond, read⟩ := bind_eq_ok_iff.mp read
  obtain ⟨⟨nanos, afterFraction⟩, readFraction, read⟩ := bind_eq_ok_iff.mp read
  obtain ⟨⟨hour_lt, minute_lt, second_le⟩, same⟩ := ite_error_eq_ok_iff.mp read
  obtain ⟨rfl, rfl⟩ := Prod.mk.inj (Except.ok.inj same)
  obtain ⟨colon, isColon, markText⟩ := mark_eq_ok_iff.mp readMark
  obtain ⟨nextColon, isNextColon, nextMarkText⟩ := mark_eq_ok_iff.mp readNextMark
  obtain rfl := beq_iff_eq.mp isColon
  obtain rfl := beq_iff_eq.mp isNextColon
  obtain ⟨-, hourText⟩ := (field_eq_ok_iff (by decide)).mp readHour
  obtain ⟨-, minuteText⟩ := (field_eq_ok_iff (by decide)).mp readMinute
  obtain ⟨-, secondText⟩ := (field_eq_ok_iff (by decide)).mp readSecond
  obtain ⟨digits, allDigits, fractionText, isNanos⟩ :=
    exists_digits_of_optionalFraction readFraction
  refine ⟨hour_lt, minute_lt, second_le, digits, allDigits, isNanos, ?_⟩
  rw [hourText, markText, minuteText, nextMarkText, secondText, fractionText]

theorem clockTime_pointed {hour minute second : Nat} (hour_lt : hour < 24) (minute_lt : minute < 60)
    (second_le : second ≤ 60) {digits : List Char} (allDigits : ∀ c ∈ digits, c.isDigit = true)
    {next : Char} (noPoint : next ≠ '.') (ends : next.isDigit = false) (rest : List Char) :
    clockTime ((padded 2 hour).toList ++ ':' :: ((padded 2 minute).toList ++ ':' ::
        ((padded 2 second).toList ++ (Parts.pointed digits ++ next :: rest)))) =
      .ok (⟨hour, minute, second, Parts.nanosOf digits⟩, next :: rest) := by
  have colon (rest : List Char) : mark (· == ':') (':' :: rest) = .ok ((), rest) :=
    mark_of_accepts rfl rest
  have hourFits : hour < 10 ^ 2 := by omega
  have minuteFits : minute < 10 ^ 2 := by omega
  have secondFits : second < 10 ^ 2 := by omega
  rw [clockTime]
  simp only [field_padded (by decide : 0 < 2) hourFits,
    field_padded (by decide : 0 < 2) minuteFits, field_padded (by decide : 0 < 2) secondFits, colon,
    ok_bind, optionalFraction_pointed allDigits noPoint ends,
    if_pos (And.intro hour_lt (And.intro minute_lt second_le))]

/-! ## Whole texts -/

/-- The number of characters of a text is a bound for its bytes. -/
theorem length_le_utf8ByteSize (text : String) : text.length ≤ text.utf8ByteSize := by
  induction text using String.push_induction with
  | empty => exact Nat.zero_le _
  | push text character inductionHypothesis =>
      rw [String.length_push, String.utf8ByteSize_push]
      exact Nat.add_le_add inductionHypothesis (Char.utf8Size_pos character)

theorem ofParts?_eq_some_iff {seconds : Int} {nanos : Nat} {instant : Timestamp} :
    ofParts? seconds nanos = some instant ↔
      instant.LeapsAtMinuteEnd ∧ instant.seconds = seconds ∧ instant.nanos = nanos := by
  unfold ofParts?
  constructor
  · intro read
    split at read
    next valid =>
      obtain ⟨leaps, same⟩ := Option.ite_none_right_eq_some.mp read
      cases same
      exact ⟨leaps, rfl, rfl⟩
    next => cases read
  · rintro ⟨leaps, rfl, rfl⟩
    rw [dif_pos instant.nanos_lt]
    exact if_pos leaps

theorem nanosOf_lt {digits : List Char} (allDigits : ∀ c ∈ digits, c.isDigit = true) :
    Parts.nanosOf digits < 10 ^ 9 := by
  rw [Parts.nanosOf, Nat.div_lt_iff_lt_mul (Nat.pow_pos (by decide)), Nat.mul_comm]
  exact Nat.mul_lt_mul_of_pos_left (Numeral.ofDigitChars_lt allDigits) (by decide)

/-- A zone begins with none of the characters of a time. -/
theorem Zone.exists_text_eq_cons {zone : Zone} (valid : zone.Valid) :
    ∃ first others, zone.text = first :: others ∧ first ≠ '.' ∧ first.isDigit = false := by
  cases zone with
  | utc letter =>
      refine ⟨letter, [], rfl, ?_⟩
      obtain rfl | rfl := valid <;> decide
  | offset sign hours minutes =>
      refine ⟨sign, _, rfl, ?_⟩
      obtain ⟨rfl | rfl | rfl, -, -⟩ := valid <;> decide

/-- Zones are whole minutes, so second 60 of a zone's clock ends a minute everywhere. -/
theorem Zone.seconds_emod (zone : Zone) : zone.seconds % 60 = 0 := by
  cases zone with
  | utc letter => rfl
  | offset sign hours minutes =>
      rw [seconds]
      split <;> omega

/-- The parts of an instant give the instant. -/
theorem assemble_eq_ok_iff {parts : Parts} (valid : parts.Valid) {instant : Timestamp} :
    assemble parts.date ⟨parts.hour, parts.minute, parts.second, Parts.nanosOf parts.fraction⟩
        parts.zone.seconds = .ok instant ↔ parts.Names instant := by
  have second_le := valid.second_le
  have wholeMinutes := parts.zone.seconds_emod
  have lessThanSecond := nanosOf_lt valid.digits
  have shown : (if parts.second = 60 then 59 else parts.second) = min parts.second 59 := by
    split <;> omega
  have carried : (if parts.second = 60 then Parts.nanosOf parts.fraction + 1000000000
      else Parts.nanosOf parts.fraction) =
        Parts.nanosOf parts.fraction + if parts.second = 60 then 10 ^ 9 else 0 := by
    split <;> rfl
  unfold assemble
  simp only [shown, carried]
  constructor
  · intro read
    split at read
    next _ isInstant =>
      obtain rfl := Except.ok.inj read
      obtain ⟨-, seconds, nanos⟩ := ofParts?_eq_some_iff.mp isInstant
      exact ⟨seconds, nanos⟩
    next => cases read
  · rintro ⟨seconds, nanos⟩
    have leaps : instant.LeapsAtMinuteEnd := by
      unfold LeapsAtMinuteEnd
      split at nanos <;> omega
    rw [ofParts?_eq_some_iff.mpr ⟨leaps, seconds, nanos⟩]

/-- Texts with all parts are long enough. -/
theorem Parts.le_utf8ByteSize {parts : Parts} {text : String} (hasText : text.toList = parts.text) :
    19 ≤ text.utf8ByteSize := by
  refine le_trans ?_ (length_le_utf8ByteSize text)
  rw [← String.length_toList, hasText, Parts.text]
  simp only [List.length_append, List.length_cons, String.length_toList, length_padded]
  omega

/-- The texts that are read as an instant are those that RFC 3339 gives it. -/
theorem ofText?_eq_ok_iff {text : String} {instant : Timestamp} :
    ofText? text = .ok instant ↔ Writes text instant := by
  constructor
  · intro read
    unfold ofText? at read
    split at read
    next => cases read
    next =>
      obtain ⟨⟨date, afterDate⟩, readDate, read⟩ := bind_eq_ok_iff.mp read
      obtain ⟨⟨⟨⟩, atTime⟩, readMark, read⟩ := bind_eq_ok_iff.mp read
      obtain ⟨⟨time, afterTime⟩, readTime, read⟩ := bind_eq_ok_iff.mp read
      obtain ⟨⟨offsetSeconds, trailing⟩, readOffset, read⟩ := bind_eq_ok_iff.mp read
      obtain ⟨noTrailing, read⟩ := ite_error_eq_ok_iff.mp read
      obtain ⟨withinDay, assembled⟩ := ite_error_eq_ok_iff.mp read
      obtain ⟨fromZero, fourDigits, onCalendar, dateText⟩ := calendarDate_eq_ok_iff.mp readDate
      obtain ⟨separator, isSeparator, markText⟩ := mark_eq_ok_iff.mp readMark
      obtain ⟨hour_lt, minute_lt, second_le, digits, allDigits, isNanos, timeText⟩ :=
        exists_digits_of_clockTime readTime
      obtain ⟨zone, validZone, zoneText, rfl⟩ := offset_eq_ok_iff.mp ⟨readOffset, withinDay⟩
      obtain rfl := List.isEmpty_iff.mp noTrailing
      let parts : Parts :=
        ⟨date, separator, time.hour, time.minute, time.second, digits, zone⟩
      have valid : parts.Valid :=
        { fromZero, fourDigits, onCalendar, hour_lt, minute_lt, second_le
          digits := allDigits
          zone := validZone
          separator := by simpa [dateMark, or_assoc] using isSeparator }
      refine ⟨parts, valid, ?_, (assemble_eq_ok_iff valid).mp ?_⟩
      · rw [dateText, markText, timeText, zoneText, List.append_nil]
        rfl
      · rw [← isNanos]
        exact assembled
  · rintro ⟨parts, valid, hasText, named⟩
    obtain ⟨first, others, zoneText, noPoint, ends⟩ := Zone.exists_text_eq_cons valid.zone
    have readZone : offset parts.zone.text = .ok (parts.zone.seconds, []) ∧ _ :=
      offset_eq_ok_iff.mpr ⟨parts.zone, valid.zone, (List.append_nil _).symm, rfl⟩
    have readDate := calendarDate_eq_ok_iff.mpr
      ⟨valid.fromZero, valid.fourDigits, valid.onCalendar, hasText⟩
    have readTime := clockTime_pointed valid.hour_lt valid.minute_lt valid.second_le valid.digits
      noPoint ends others
    have isSeparator : dateMark parts.separator = true := by
      simpa [dateMark, or_assoc] using valid.separator
    rw [← zoneText] at readTime
    rw [ofText?, if_neg (Nat.not_lt.mpr (Parts.le_utf8ByteSize hasText))]
    simp only [readDate, mark_of_accepts isSeparator, readTime, readZone.1, ok_bind,
      List.isEmpty_nil, if_true]
    rw [atOffset, if_pos readZone.2]
    exact (assemble_eq_ok_iff valid).mpr named

end Rfc3339

end Timestamp

end SchemaMatch
