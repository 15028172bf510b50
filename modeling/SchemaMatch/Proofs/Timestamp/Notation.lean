import SchemaMatch.Proofs.Timestamp.Grammar
import SchemaMatch.Value.Json

/-!
Contract: the notations of an instant denote the same instant.

Owns:
- the parts of the text that `Timestamp.isoText` writes;
- the instant that this text names, which is the second after a leap second if that is inside a
  minute;
- `Timestamp.Rfc3339.ofText?_isoText`: the text of an instant is read as the instant that it names,
  to the millisecond, if its year has four digits, and is refused otherwise;
- `Value.ofExtendedJson?_date`: the payloads of `$date` that denote an instant.

Does not own: the calendar, and texts that no instant has.
-/

namespace SchemaMatch

namespace Timestamp

/-- The instant without the part of its last millisecond. -/
def truncated (instant : Timestamp) : Timestamp where
  seconds := instant.seconds
  nanos := instant.nanos / 1000000 * 1000000
  nanos_lt := by
    have valid := instant.nanos_lt
    omega

/-- The date of the day of an instant. -/
def date (instant : Timestamp) : CivilDate :=
  CivilDate.ofDayNumber (instant.seconds / 86400)

/-! ## Leap seconds inside a minute -/

/-- An instant of a leap second, moved into the second that has the number of the leap second. -/
def moved (instant : Timestamp) : Timestamp where
  seconds := instant.seconds + 1
  nanos := instant.nanos - 1000000000
  nanos_lt := Nat.lt_of_le_of_lt (Nat.sub_le _ _) instant.nanos_lt

/-- The instant that the text of an instant names. Only at the end of a minute there is a number
for leap seconds, so elsewhere the number of one is that of the second after it. -/
def named (instant : Timestamp) : Timestamp :=
  if instant.LeapsAtMinuteEnd then instant else instant.moved

section Named

variable {instant : Timestamp}

theorem named_of_leapsAtMinuteEnd (leaps : instant.LeapsAtMinuteEnd) : instant.named = instant :=
  if_pos leaps

theorem named_of_not_leapsAtMinuteEnd (inside : ¬ instant.LeapsAtMinuteEnd) :
    instant.named = instant.moved :=
  if_neg inside

theorem leapsAtMinuteEnd_named (instant : Timestamp) : instant.named.LeapsAtMinuteEnd := by
  by_cases leaps : instant.LeapsAtMinuteEnd
  · rwa [named_of_leapsAtMinuteEnd leaps]
  · rw [named_of_not_leapsAtMinuteEnd leaps]
    have valid := instant.nanos_lt
    exact .inl (by simp only [moved]; omega)

/-- The second after a leap second inside a minute belongs to the minute, so to the same day. -/
theorem moved_fields (inside : ¬ instant.LeapsAtMinuteEnd) :
    instant.moved.seconds / 86400 = instant.seconds / 86400 ∧
    (instant.moved.seconds % 86400).toNat / 3600 = (instant.seconds % 86400).toNat / 3600 ∧
    (instant.moved.seconds % 86400).toNat / 60 % 60 =
      (instant.seconds % 86400).toNat / 60 % 60 ∧
    (instant.moved.seconds % 86400).toNat % 60 + instant.moved.nanos / 1000000000 =
      (instant.seconds % 86400).toNat % 60 + instant.nanos / 1000000000 ∧
    instant.moved.nanos % 1000000000 / 1000000 = instant.nanos % 1000000000 / 1000000 := by
  have valid := instant.nanos_lt
  unfold LeapsAtMinuteEnd at inside
  simp only [moved]
  omega

theorem date_named (instant : Timestamp) : instant.named.date = instant.date := by
  by_cases leaps : instant.LeapsAtMinuteEnd
  · rw [named_of_leapsAtMinuteEnd leaps]
  · rw [named_of_not_leapsAtMinuteEnd leaps, date, date, (moved_fields leaps).1]

theorem isoText_named (instant : Timestamp) : instant.named.isoText = instant.isoText := by
  by_cases leaps : instant.LeapsAtMinuteEnd
  · rw [named_of_leapsAtMinuteEnd leaps]
  · obtain ⟨day, hour, minute, second, millis⟩ := moved_fields leaps
    rw [named_of_not_leapsAtMinuteEnd leaps]
    simp only [isoText, day, hour, minute, second, millis]

end Named

/-! ## The text of an instant -/

namespace Rfc3339

theorem le_length_isoText (instant : Timestamp) : 19 ≤ instant.isoText.length := by
  have year : 4 ≤ (yearText instant.date.year).length := by
    unfold yearText
    split
    · rw [length_padded]
      exact Nat.le_max_left _ _
    · rw [String.length_append, length_padded]
      omega
  have marks : "-".length = 1 ∧ "T".length = 1 ∧ ":".length = 1 := by decide
  rw [date] at year
  simp only [isoText, String.length_append, length_padded, marks]
  omega

/-- The parts of the text of an instant in a year of four digits. -/
def isoParts (instant : Timestamp) : Parts where
  date := instant.date
  separator := 'T'
  hour := (instant.seconds % 86400).toNat / 3600
  minute := (instant.seconds % 86400).toNat / 60 % 60
  second := (instant.seconds % 86400).toNat % 60 + instant.nanos / 1000000000
  fraction := (padded 3 (instant.nanos % 1000000000 / 1000000)).toList
  zone := .utc 'Z'

theorem pointed_padded {width value : Nat} (positive : 0 < width) (fits : value < 10 ^ width) :
    Parts.pointed (padded width value).toList = '.' :: (padded width value).toList := by
  have length := length_toList_padded positive fits
  cases characters : (padded width value).toList with
  | nil =>
      rw [characters] at length
      exact absurd length positive.ne
  | cons first others => rfl

theorem isoText_eq_isoParts {instant : Timestamp} (fromZero : 0 ≤ instant.date.year)
    (fourDigits : instant.date.year ≤ 9999) :
    instant.isoText.toList = (isoParts instant).text := by
  have year : yearText instant.date.year = padded 4 instant.date.year.toNat :=
    if_pos ⟨fromZero, fourDigits⟩
  have millisFit : instant.nanos % 1000000000 / 1000000 < 10 ^ 3 := by omega
  have marks : "-".toList = ['-'] ∧ "T".toList = ['T'] ∧ ":".toList = [':'] ∧
      ".".toList = ['.'] ∧ "Z".toList = ['Z'] := by decide
  rw [date] at year
  simp only [isoText, year, Parts.text, isoParts, Zone.text, date, String.toList_append, marks,
    pointed_padded (by decide : 0 < 3) millisFit, List.append_assoc, List.cons_append,
    List.nil_append]

theorem fraction_isoParts (instant : Timestamp) :
    (isoParts instant).fraction = (padded 3 (instant.nanos % 1000000000 / 1000000)).toList := by
  dsimp only [isoParts]

theorem valid_isoParts {instant : Timestamp} (fromZero : 0 ≤ instant.date.year)
    (fourDigits : instant.date.year ≤ 9999) : (isoParts instant).Valid := by
  have valid := instant.nanos_lt
  have hour_lt : (instant.seconds % 86400).toNat / 3600 < 24 := by omega
  have minute_lt : (instant.seconds % 86400).toNat / 60 % 60 < 60 := by omega
  have second_le : (instant.seconds % 86400).toNat % 60 + instant.nanos / 1000000000 ≤ 60 := by
    omega
  have zone : (Zone.utc 'Z').Valid := .inl rfl
  have digits : ∀ c ∈ (isoParts instant).fraction, c.isDigit = true := by
    rw [fraction_isoParts]
    exact isDigit_of_mem_padded 3 _
  have onCalendar : instant.date.exists? = true := CivilDate.exists?_ofDayNumber _
  exact
    { fromZero, fourDigits, onCalendar, hour_lt, minute_lt, second_le, digits, zone
      separator := .inl rfl }

theorem names_isoParts {instant : Timestamp} (leaps : instant.LeapsAtMinuteEnd) :
    (isoParts instant).Names instant.truncated := by
  have valid := instant.nanos_lt
  have day : instant.date.dayNumber = instant.seconds / 86400 := CivilDate.dayNumber_ofDayNumber _
  have millisFit : instant.nanos % 1000000000 / 1000000 < 10 ^ 3 := by omega
  have second : (isoParts instant).second =
      (instant.seconds % 86400).toNat % 60 + instant.nanos / 1000000000 := rfl
  have fraction : Parts.nanosOf (isoParts instant).fraction =
      instant.nanos % 1000000000 / 1000000 * 10 ^ 9 / 10 ^ 3 := by
    rw [fraction_isoParts, Parts.nanosOf, ofDigitChars_padded,
      length_toList_padded (by decide : 0 < 3) millisFit]
  unfold LeapsAtMinuteEnd at leaps
  constructor
  · rw [second]
    change instant.seconds = instant.date.dayNumber * 86400 +
      ((instant.seconds % 86400).toNat / 3600 * 3600 +
        (instant.seconds % 86400).toNat / 60 % 60 * 60 + _ : Nat) - 0
    rw [day]
    omega
  · rw [fraction, second]
    change instant.nanos / 1000000 * 1000000 = _
    split <;> omega

/-- No text begins with the sign of a year. -/
theorem ofText?_of_sign {text : String} (long : 19 ≤ text.length) {sign : Char} {rest : List Char}
    (hasText : text.toList = sign :: rest) (notDigit : sign.isDigit = false) :
    ofText? text = .error .invalid := by
  have noShort : ¬ text.utf8ByteSize < 19 :=
    Nat.not_lt.mpr (long.trans (length_le_utf8ByteSize text))
  have refused : field 4 0 (sign :: rest) = .error .invalid := by
    rw [field, Numeral.digit?_eq, notDigit]
    rfl
  rw [ofText?, if_neg noShort, hasText, calendarDate, refused]
  rfl

/-- An instant whose leap second is second 60 of its minute is read as itself, to the
millisecond. Years without four digits are written with a sign, which no RFC 3339 text has. -/
theorem ofText?_isoText_of_leapsAtMinuteEnd {instant : Timestamp}
    (leaps : instant.LeapsAtMinuteEnd) :
    ofText? instant.isoText =
      if 0 ≤ instant.date.year ∧ instant.date.year ≤ 9999 then .ok instant.truncated
      else .error .invalid := by
  split
  next fourDigits =>
    exact ofText?_eq_ok_iff.mpr ⟨isoParts instant, valid_isoParts fourDigits.1 fourDigits.2,
      isoText_eq_isoParts fourDigits.1 fourDigits.2, names_isoParts leaps⟩
  next otherYear =>
    obtain ⟨sign, year, isSign, signed⟩ : ∃ sign year, (sign = '-' ∨ sign = '+') ∧
        (yearText instant.date.year).toList = sign :: year := by
      have signs : "-".toList = ['-'] ∧ "+".toList = ['+'] := by decide
      rw [yearText, if_neg otherYear, String.toList_append]
      split
      · rw [signs.1, List.singleton_append]
        exact ⟨_, _, .inl rfl, rfl⟩
      · rw [signs.2, List.singleton_append]
        exact ⟨_, _, .inr rfl, rfl⟩
    have notDigit : sign.isDigit = false := by
      obtain rfl | rfl := isSign <;> rfl
    obtain ⟨rest, hasText⟩ : ∃ rest, instant.isoText.toList = sign :: rest := by
      rw [date] at signed
      simp only [isoText, String.toList_append, signed, List.append_assoc, List.cons_append]
      exact ⟨_, rfl⟩
    exact ofText?_of_sign (le_length_isoText instant) hasText notDigit

/-- The text of an instant is read as the instant that it names, to the millisecond. -/
theorem ofText?_isoText (instant : Timestamp) :
    ofText? instant.isoText =
      if 0 ≤ instant.date.year ∧ instant.date.year ≤ 9999 then .ok instant.named.truncated
      else .error .invalid := by
  rw [← isoText_named, ofText?_isoText_of_leapsAtMinuteEnd instant.leapsAtMinuteEnd_named,
    date_named]

end Rfc3339

/-! ## Milliseconds -/

/-- The instants that milliseconds may denote are those of the years -262143 to 262142. -/
theorem inRange_iff_year (millis : Int) :
    (leastMillis ≤ millis ∧ millis ≤ greatestMillis) ↔
      -262143 ≤ (CivilDate.ofDayNumber (millis / 86400000)).year ∧
        (CivilDate.ofDayNumber (millis / 86400000)).year < 262143 := by
  have first : CivilDate.dayNumber ⟨-262143, 1, 1⟩ = -96465292 := by decide
  have last : CivilDate.dayNumber ⟨262143, 1, 1⟩ = 95026237 := by decide
  rw [← Int.not_le, CivilDate.le_year_ofDayNumber_iff, CivilDate.le_year_ofDayNumber_iff, first,
    last]
  unfold leastMillis greatestMillis
  omega

theorem exists_ofMillis? {millis : Int}
    (inRange : leastMillis ≤ millis ∧ millis ≤ greatestMillis) :
    ∃ instant, ofMillis? millis = some instant ∧ instant.nanos < 1000000000 ∧
      instant.seconds * 1000000000 + instant.nanos = millis * 1000000 := by
  refine ⟨_, if_pos inRange, ?_, ?_⟩
  · change (millis % 1000).toNat * 1000000 < 1000000000
    omega
  · change millis / 1000 * 1000000000 + ((millis % 1000).toNat * 1000000 : Nat) = millis * 1000000
    omega

end Timestamp

/-! ## Payloads -/

/-- The wrapper of a date. -/
def Json.dated (payload : Json) : Json :=
  .object [("$date", payload)]

namespace Value

theorem dateOfJson?_integer {millis : Int} (low : -(2 ^ 63) ≤ millis) (high : millis < 2 ^ 63) :
    dateOfJson? (.number (.integer millis)) =
      match Timestamp.ofMillis? millis with
      | some instant => .ok instant
      | none => .error (.datePayload (.number (.integer millis))) := by
  have given : millisOfJson? (.number (.integer millis)) = some millis :=
    if_pos ⟨low, high⟩
  rw [dateOfJson?, given]
  · rfl
  · exact fun text same => Json.noConfusion same

theorem dateOfJson?_numberLong {millis : Int} (low : -(2 ^ 63) ≤ millis) (high : millis < 2 ^ 63) :
    dateOfJson? (.object [("$numberLong", .string (toString millis))]) =
      match Timestamp.ofMillis? millis with
      | some instant => .ok instant
      | none => .error (.datePayload (.object [("$numberLong", .string (toString millis))])) := by
  have given : millisOfJson? (.object [("$numberLong", .string (toString millis))]) = some millis :=
    Numeral.int64?_toString low high
  rw [dateOfJson?, given]
  · rfl
  · exact fun text same => Json.noConfusion same

theorem ofExtendedJson?_dated (payload : Json) :
    ofExtendedJson? payload.dated = (dateOfJson? payload).map .date := by
  rw [Json.dated, ofExtendedJson?]
  rfl

/-- The text of an instant stands for the instant that it names, to the millisecond. -/
theorem ofExtendedJson?_dated_isoText (instant : Timestamp) :
    ofExtendedJson? (Json.dated (.string instant.isoText)) =
      if 0 ≤ instant.date.year ∧ instant.date.year ≤ 9999 then .ok (.date instant.named.truncated)
      else .error (.dateText instant.isoText .invalid) := by
  rw [ofExtendedJson?_dated, dateOfJson?, Timestamp.Rfc3339.ofText?_isoText]
  split <;> rfl

/-- The payloads of `$date` agree: milliseconds denote the same instant as a number and as a text,
if an instant so far away has a date, and the text of an instant denotes the instant to the
millisecond, if its year has four digits. The text of a leap second that does not end its minute
denotes the second after it. -/
theorem ofExtendedJson?_date :
    (∀ millis : Int, -(2 ^ 63) ≤ millis → millis < 2 ^ 63 →
      let number : Json := .number (.integer millis)
      let long : Json := .object [("$numberLong", .string (toString millis))]
      if Timestamp.leastMillis ≤ millis ∧ millis ≤ Timestamp.greatestMillis then
        ∃ instant : Timestamp, instant.nanos < 1000000000 ∧
          instant.seconds * 1000000000 + instant.nanos = millis * 1000000 ∧
          ofExtendedJson? number.dated = .ok (.date instant) ∧
          ofExtendedJson? long.dated = .ok (.date instant)
      else
        ofExtendedJson? number.dated = .error (.datePayload number) ∧
          ofExtendedJson? long.dated = .error (.datePayload long)) ∧
    ∀ instant : Timestamp,
      let decoded := ofExtendedJson? (Json.dated (.string instant.isoText))
      if 0 ≤ instant.date.year ∧ instant.date.year ≤ 9999 then
        (instant.LeapsAtMinuteEnd → decoded = .ok (.date instant.truncated)) ∧
        (¬ instant.LeapsAtMinuteEnd → decoded = .ok (.date instant.moved.truncated))
      else decoded = .error (.dateText instant.isoText .invalid) := by
  constructor
  · intro millis low high number long
    rw [ofExtendedJson?_dated, ofExtendedJson?_dated, dateOfJson?_integer low high,
      dateOfJson?_numberLong low high]
    split
    · rename_i inRange
      obtain ⟨instant, denoted, small, same⟩ := Timestamp.exists_ofMillis? inRange
      rw [denoted]
      exact ⟨instant, small, same, rfl, rfl⟩
    · rename_i outside
      have nothing : Timestamp.ofMillis? millis = none := if_neg outside
      rw [nothing]
      exact ⟨rfl, rfl⟩
  · intro instant decoded
    have isDecoded : decoded = _ := ofExtendedJson?_dated_isoText instant
    split
    · rename_i fourDigits
      rw [if_pos fourDigits] at isDecoded
      refine ⟨fun leaps => ?_, fun inside => ?_⟩
      · rw [isDecoded, Timestamp.named_of_leapsAtMinuteEnd leaps]
      · rw [isDecoded, Timestamp.named_of_not_leapsAtMinuteEnd inside]
    · rename_i otherYear
      rw [isDecoded, if_neg otherYear]

/-- The last millisecond before 1970, a number of milliseconds beyond the last date, an instant in
the leap second at the end of 2016, and one in a leap second inside a minute. -/
theorem ofExtendedJson?_date_of_leapSecond :
    let leapSecond : Timestamp := ⟨1483228799, 1500999999, by decide⟩
    let inside : Timestamp := ⟨86164, 1333333333, by decide⟩
    (∃ instant : Timestamp, instant.nanos < 1000000000 ∧
      instant.seconds * 1000000000 + instant.nanos = -1 * 1000000 ∧
      ofExtendedJson? (Json.dated (.number (.integer (-1)))) = .ok (.date instant) ∧
      ofExtendedJson? (Json.dated (.object [("$numberLong", .string (toString (-1 : Int)))])) =
        .ok (.date instant)) ∧
    ofExtendedJson? (Json.dated (.number (.integer 8210266876800000))) =
      .error (.datePayload (.number (.integer 8210266876800000))) ∧
    ofExtendedJson? (Json.dated (.string leapSecond.isoText)) =
      .ok (.date ⟨1483228799, 1500000000, by decide⟩) ∧
    ofExtendedJson? (Json.dated (.string inside.isoText)) =
      .ok (.date ⟨86165, 333000000, by decide⟩) := by
  intro leapSecond inside
  have beforeEpoch := ofExtendedJson?_date.1 (-1) (by decide) (by decide)
  have tooLate := ofExtendedJson?_date.1 8210266876800000 (by decide) (by decide)
  have readBack := ofExtendedJson?_date.2 leapSecond
  have readAsNext := ofExtendedJson?_date.2 inside
  dsimp only at beforeEpoch tooLate readBack readAsNext
  rw [if_pos (by decide)] at beforeEpoch readBack readAsNext
  rw [if_neg (by decide)] at tooLate
  have truncated : leapSecond.truncated = ⟨1483228799, 1500000000, by decide⟩ := by decide
  have moved : inside.moved.truncated = ⟨86165, 333000000, by decide⟩ := by decide
  rw [truncated] at readBack
  rw [moved] at readAsNext
  exact ⟨beforeEpoch, tooLate.1, readBack.1 (by decide), readAsNext.2 (by decide)⟩

/-- The text of a leap second inside a minute does not give the instant back. -/
theorem ofExtendedJson?_loses_leapSecond_inside_minute :
    let inside : Timestamp := ⟨86164, 1333333333, by decide⟩
    inside.isoText = "1970-01-01T23:56:05.333Z" ∧
      ofExtendedJson? (Json.dated (.string inside.isoText)) =
        .ok (.date ⟨86165, 333000000, by decide⟩) ∧
      ofExtendedJson? (Json.dated (.string inside.isoText)) ≠ .ok (.date inside.truncated) := by
  intro inside
  have decoded : ofExtendedJson? (Json.dated (.string inside.isoText)) =
      .ok (.date ⟨86165, 333000000, by decide⟩) := by
    have named : inside.named.truncated = ⟨86165, 333000000, by decide⟩ := by decide
    rw [ofExtendedJson?_dated_isoText, if_pos (by decide), named]
  refine ⟨by decide +kernel, decoded, ?_⟩
  rw [decoded]
  intro same
  have sameSeconds : (86165 : Int) = inside.truncated.seconds :=
    congrArg Timestamp.seconds (Value.date.inj (Except.ok.inj same))
  exact absurd sameSeconds (by decide)

end Value

end SchemaMatch
