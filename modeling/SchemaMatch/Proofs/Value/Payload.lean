import SchemaMatch.Proofs.Timestamp.Notation

/-!
Contract: what the payloads of wrappers denote, and why some denote nothing.

Owns:
- wrappers of dates and regexes;
- the milliseconds that a payload of a date gives, and the instants that milliseconds denote;
- the options of a pattern: the flags that they ask for, and the first that there is not;
- `Wrapper.denotes_iff` and `Wrapper.refused_iff`: what is read from a payload is what it denotes,
  and a payload that denotes nothing is refused for the reason that it has.

Patterns compile as their module says, and refused date texts carry the report of their reader.

Does not own: where wrappers stand in a document.
-/

namespace SchemaMatch

/-- The two kinds of wrappers, with what they wrap. -/
inductive Wrapper where
  | date (payload : Json)
  | regex (payload : Json)

namespace Json

theorem bind_string?_eq_some_iff {found : Option Json} {text : String} :
    found.bind string? = some text ↔ found = some (.string text) := by
  cases found with
  | none => simp
  | some document => cases document <;> simp [string?]

theorem bind_string?_eq_none_iff {found : Option Json} :
    found.bind string? = none ↔ ∀ text, found ≠ some (.string text) := by
  rw [Option.eq_none_iff_forall_ne_some]
  exact forall_congr' fun text => not_congr bind_string?_eq_some_iff

end Json

/-! ## Milliseconds -/

/-- An instant a number of milliseconds after 1970-01-01T00:00:00Z, in the years that dates have. -/
structure Timestamp.AtMillis (millis : Int) (instant : Timestamp) : Prop where
  fromYear : -262143 ≤ (CivilDate.ofDayNumber (millis / 86400000)).year
  belowYear : (CivilDate.ofDayNumber (millis / 86400000)).year < 262143
  nanos_lt : instant.nanos < 10 ^ 9
  sinceEpoch : instant.seconds * 10 ^ 9 + instant.nanos = millis * 10 ^ 6

theorem Timestamp.ofMillis?_eq_some_iff {millis : Int} {instant : Timestamp} :
    ofMillis? millis = some instant ↔ AtMillis millis instant := by
  constructor
  · intro read
    by_cases inRange : leastMillis ≤ millis ∧ millis ≤ greatestMillis
    · obtain ⟨other, isOther, nanos_lt, sinceEpoch⟩ := exists_ofMillis? inRange
      obtain rfl := Option.some.inj (read.symm.trans isOther)
      obtain ⟨fromYear, belowYear⟩ := (inRange_iff_year millis).mp inRange
      exact ⟨fromYear, belowYear, nanos_lt, sinceEpoch⟩
    · rw [ofMillis?, if_neg inRange] at read
      cases read
  · rintro ⟨fromYear, belowYear, nanos_lt, sinceEpoch⟩
    obtain ⟨other, isOther, otherNanos_lt, otherSinceEpoch⟩ :=
      exists_ofMillis? ((inRange_iff_year millis).mpr ⟨fromYear, belowYear⟩)
    rw [isOther]
    obtain ⟨seconds, nanos, valid⟩ := instant
    obtain ⟨otherSeconds, otherNanos, otherValid⟩ := other
    simp only [Option.some.injEq, Timestamp.mk.injEq]
    dsimp only at nanos_lt sinceEpoch otherNanos_lt otherSinceEpoch
    omega

/-- The number of milliseconds that a payload of a date gives: itself, or as a numeral. -/
inductive Json.GivesMillis : Json → Int → Prop where
  | number (millis : Int) : GivesMillis (.number (.integer millis)) millis
  | numberLong {payload : Json} {text : String} {millis : Int}
      (long : payload.member? "$numberLong" = some (.string text))
      (spells : Numeral.SpellsInt text millis) : GivesMillis payload millis

/-! ## Options of patterns -/

/-- The options that there are. All but `u` are flags; patterns are Unicode patterns anyway. -/
def patternOptions : List Char := ['i', 'm', 's', 'x', 'u']

/-- The flags that options ask for. -/
def flagsOf (options : List Char) : List Char :=
  options.filter (· ≠ 'u')

/-- Whether a payload of a regex has a pattern and the text of its options, which may be absent. -/
structure Json.GivesPattern (payload : Json) (pattern options : String) : Prop where
  pattern : payload.member? "pattern" = some (.string pattern)
  options : payload.member? "options" = some (.string options) ∨
    (∀ text, payload.member? "options" ≠ some (.string text)) ∧ options = ""

/-- A pattern under flags, which are written before it. -/
def underFlags : List Char → String → String
  | [], pattern => pattern
  | flags, pattern => "(?" ++ String.ofList flags ++ ")" ++ pattern

/-! ## Payloads -/

namespace Wrapper

/-- What a wrapper denotes. -/
inductive Denotes : Wrapper → Value → Prop where
  | dateText {text : String} {instant : Timestamp}
      (written : Timestamp.Rfc3339.Writes text instant) :
      Denotes (.date (.string text)) (.date instant)
  | dateMillis {payload : Json} {millis : Int} {instant : Timestamp}
      (given : payload.GivesMillis millis) (isInstant : Timestamp.AtMillis millis instant) :
      Denotes (.date payload) (.date instant)
  | regex {payload : Json} {pattern options : String} {compiled : Pattern}
      (given : payload.GivesPattern pattern options)
      (known : ∀ option ∈ options.toList, option ∈ patternOptions)
      (compiles : Pattern.compile (underFlags (flagsOf options.toList) pattern) = .ok compiled) :
      Denotes (.regex payload) (.regex compiled)

/-- Why a wrapper denotes nothing. -/
inductive Refused : Wrapper → ConversionError → Prop where
  | dateText {text : String} {cause : Rfc3339Error}
      (noInstant : ∀ instant, ¬ Timestamp.Rfc3339.Writes text instant)
      (report : Timestamp.Rfc3339.ofText? text = .error cause) :
      Refused (.date (.string text)) (.dateText text cause)
  | datePayload {payload : Json} (noText : ∀ text, payload ≠ .string text)
      (noInstant : ∀ millis instant, payload.GivesMillis millis →
        ¬ Timestamp.AtMillis millis instant) :
      Refused (.date payload) (.datePayload payload)
  | patternMissing {payload : Json}
      (missing : ∀ pattern, payload.member? "pattern" ≠ some (.string pattern)) :
      Refused (.regex payload) (.patternMissing payload)
  | patternOption {payload : Json} {pattern options : String} {before after : List Char}
      {option : Char} (given : payload.GivesPattern pattern options)
      (isOption : options.toList = before ++ option :: after)
      (known : ∀ earlier ∈ before, earlier ∈ patternOptions) (unknown : option ∉ patternOptions) :
      Refused (.regex payload) (.patternOption option)
  | patternSyntax {payload : Json} {pattern options report : String}
      (given : payload.GivesPattern pattern options)
      (known : ∀ option ∈ options.toList, option ∈ patternOptions)
      (refused : Pattern.compile (underFlags (flagsOf options.toList) pattern) = .error report) :
      Refused (.regex payload) (.patternSyntax report)

/-- What is read from a wrapper. -/
def read? : Wrapper → Except ConversionError Value
  | .date payload => (Value.dateOfJson? payload).map .date
  | .regex payload => (Value.regexOfJson? payload).map .regex

end Wrapper

/-! ## Dates -/

namespace Value

theorem millisOfJson?_eq_some_iff {payload : Json} {millis : Int} :
    millisOfJson? payload = some millis ↔
      payload.GivesMillis millis ∧ -(2 ^ 63) ≤ millis ∧ millis < 2 ^ 63 := by
  constructor
  · intro given
    unfold millisOfJson? at given
    split at given
    next amount =>
      cases amount with
      | integer value =>
          obtain ⟨fits, same⟩ := Option.ite_none_right_eq_some.mp given
          obtain rfl := Option.some.inj same
          exact ⟨.number value, fits⟩
      | double value => cases given
    next =>
      obtain ⟨text, isText, isNumeral⟩ := Option.bind_eq_some_iff.mp given
      obtain ⟨fits, spells⟩ := Numeral.int64?_eq_some_iff.mp isNumeral
      exact ⟨.numberLong (Json.bind_string?_eq_some_iff.mp isText) spells, fits⟩
  · rintro ⟨given, fits⟩
    cases given with
    | number => exact if_pos fits
    | numberLong long spells =>
        have read := Numeral.int64?_eq_some_iff.mpr ⟨fits, spells⟩
        unfold millisOfJson?
        split
        next => cases long
        next =>
          rw [long]
          exact read

/-- An instant in milliseconds is near enough for a 64-bit count of them. -/
theorem fits_of_atMillis {millis : Int} {instant : Timestamp}
    (isInstant : Timestamp.AtMillis millis instant) : -(2 ^ 63) ≤ millis ∧ millis < 2 ^ 63 := by
  obtain ⟨least, greatest⟩ :=
    (Timestamp.inRange_iff_year millis).mpr ⟨isInstant.fromYear, isInstant.belowYear⟩
  unfold Timestamp.leastMillis at least
  unfold Timestamp.greatestMillis at greatest
  omega

/-- A payload that is no text denotes the instant of its milliseconds. -/
theorem dateOfJson?_eq_ok_iff_of_millis {payload : Json} (noText : ∀ text, payload ≠ .string text)
    {instant : Timestamp} :
    dateOfJson? payload = .ok instant ↔
      ∃ millis, payload.GivesMillis millis ∧ Timestamp.AtMillis millis instant := by
  have isBind : dateOfJson? payload = .ok instant ↔
      (millisOfJson? payload).bind Timestamp.ofMillis? = some instant := by
    rw [dateOfJson?]
    · cases (millisOfJson? payload).bind Timestamp.ofMillis? <;> simp
    · exact noText
  rw [isBind, Option.bind_eq_some_iff]
  refine exists_congr fun millis => ?_
  rw [millisOfJson?_eq_some_iff, Timestamp.ofMillis?_eq_some_iff]
  constructor
  · rintro ⟨⟨given, -⟩, isInstant⟩
    exact ⟨given, isInstant⟩
  · rintro ⟨given, isInstant⟩
    exact ⟨⟨given, fits_of_atMillis isInstant⟩, isInstant⟩

/-- A payload that is no text and denotes nothing is refused as a whole. -/
theorem dateOfJson?_eq_error_iff_of_millis {payload : Json}
    (noText : ∀ text, payload ≠ .string text) {cause : ConversionError} :
    dateOfJson? payload = .error cause ↔
      cause = .datePayload payload ∧ ∀ instant, dateOfJson? payload ≠ .ok instant := by
  rw [dateOfJson?]
  · cases (millisOfJson? payload).bind Timestamp.ofMillis? with
    | some instant => simp
    | none => simp [eq_comm]
  · exact noText

/-! ## Regexes -/

section Flags

variable {option : Char} {rest : List Char}

theorem patternFlags?_cons_of_known (known : option ∈ patternOptions) :
    patternFlags? (option :: rest) =
      (patternFlags? rest).map fun flags => flagsOf [option] ++ flags := by
  simp only [patternOptions, List.mem_cons, List.not_mem_nil, or_false] at known
  obtain rfl | rfl | rfl | rfl | rfl := known <;>
    rw [patternFlags?] <;> cases patternFlags? rest <;> rfl

theorem patternFlags?_cons_of_unknown (unknown : option ∉ patternOptions) :
    patternFlags? (option :: rest) = .error (.patternOption option) := by
  simp only [patternOptions, List.mem_cons, List.not_mem_nil, or_false, not_or] at unknown
  obtain ⟨noI, noM, noS, noX, noU⟩ := unknown
  rw [patternFlags?, if_neg (by simp [noI, noM, noS, noX]), if_neg noU]

end Flags

/-- Known options give their flags. -/
theorem patternFlags?_of_known {options : List Char}
    (known : ∀ option ∈ options, option ∈ patternOptions) :
    patternFlags? options = .ok (flagsOf options) := by
  induction options with
  | nil => rfl
  | cons option rest inductionHypothesis =>
      obtain ⟨knownHere, knownLater⟩ := List.forall_mem_cons.mp known
      rw [patternFlags?_cons_of_known knownHere, inductionHypothesis knownLater, Except.map,
        flagsOf, flagsOf, flagsOf, ← List.filter_append, List.singleton_append]

/-- The first unknown option is the one that is refused. -/
theorem patternFlags?_of_unknown {before after : List Char} {option : Char}
    (known : ∀ earlier ∈ before, earlier ∈ patternOptions) (unknown : option ∉ patternOptions) :
    patternFlags? (before ++ option :: after) = .error (.patternOption option) := by
  induction before with
  | nil => exact patternFlags?_cons_of_unknown unknown
  | cons first rest inductionHypothesis =>
      obtain ⟨knownHere, knownLater⟩ := List.forall_mem_cons.mp known
      rw [List.cons_append, patternFlags?_cons_of_known knownHere, inductionHypothesis knownLater,
        Except.map]

/-- Either all options are known, or one is the first that is not. -/
theorem known_or_exists_first_unknown (options : List Char) :
    (∀ option ∈ options, option ∈ patternOptions) ∨
      ∃ before option after, options = before ++ option :: after ∧
        (∀ earlier ∈ before, earlier ∈ patternOptions) ∧ option ∉ patternOptions := by
  induction options with
  | nil => exact .inl (by simp)
  | cons first rest inductionHypothesis =>
      by_cases known : first ∈ patternOptions
      · rcases inductionHypothesis with knownLater | ⟨before, option, after, rfl, earlier, unknown⟩
        · exact .inl (List.forall_mem_cons.mpr ⟨known, knownLater⟩)
        · exact .inr ⟨first :: before, option, after, rfl,
            List.forall_mem_cons.mpr ⟨known, earlier⟩, unknown⟩
      · exact .inr ⟨[], first, rest, rfl, by simp, known⟩

theorem flaggedSource_eq (flags : List Char) (pattern : String) :
    flaggedSource flags pattern = underFlags flags pattern := by
  cases flags <;> rfl

/-- A payload with a pattern is read as the pattern under its flags. -/
theorem regexOfJson?_of_pattern {payload : Json} {pattern options : String}
    (given : payload.GivesPattern pattern options) :
    regexOfJson? payload = (patternFlags? options.toList >>= fun flags =>
      (Pattern.compile (underFlags flags pattern)).mapError .patternSyntax) := by
  have isPattern : (payload.member? "pattern").bind Json.string? = some pattern :=
    Json.bind_string?_eq_some_iff.mpr given.pattern
  have isOptions : ((payload.member? "options").bind Json.string?).getD "" = options := by
    rcases given.options with text | ⟨noText, rfl⟩
    · rw [Json.bind_string?_eq_some_iff.mpr text, Option.getD_some]
    · rw [Json.bind_string?_eq_none_iff.mpr noText, Option.getD_none]
  rw [regexOfJson?, isPattern]
  simp only [isOptions, flaggedSource_eq]

theorem exists_givesPattern {payload : Json} {pattern : String}
    (isPattern : payload.member? "pattern" = some (.string pattern)) :
    ∃ options, payload.GivesPattern pattern options := by
  cases found : (payload.member? "options").bind Json.string? with
  | none => exact ⟨"", isPattern, .inr ⟨Json.bind_string?_eq_none_iff.mp found, rfl⟩⟩
  | some options => exact ⟨options, isPattern, .inl (Json.bind_string?_eq_some_iff.mp found)⟩

end Value

/-! ## Wrappers -/

namespace Wrapper

open Value (dateOfJson? regexOfJson?)

/-- What a wrapper denotes is read from it. -/
theorem read?_of_denotes {wrapper : Wrapper} {value : Value} (denotes : wrapper.Denotes value) :
    wrapper.read? = .ok value := by
  cases denotes with
  | dateText written =>
      rw [read?, dateOfJson?, Timestamp.Rfc3339.ofText?_eq_ok_iff.mpr written]
      rfl
  | @dateMillis payload _ _ given isInstant =>
      have noText : ∀ text, payload ≠ .string text := by
        rintro text rfl
        cases given with
        | numberLong long spells => cases long
      rw [read?, (Value.dateOfJson?_eq_ok_iff_of_millis noText).mpr ⟨_, given, isInstant⟩]
      rfl
  | regex given known compiles =>
      rw [read?, Value.regexOfJson?_of_pattern given, Value.patternFlags?_of_known known, ok_bind,
        compiles]
      rfl

/-- A wrapper that is refused is not read, for the same reason. -/
theorem read?_of_refused {wrapper : Wrapper} {cause : ConversionError}
    (refused : wrapper.Refused cause) : wrapper.read? = .error cause := by
  cases refused with
  | dateText noInstant report =>
      rw [read?, dateOfJson?, report]
      rfl
  | @datePayload payload noText noInstant =>
      have nothing : ∀ instant, dateOfJson? payload ≠ .ok instant := by
        intro instant read
        obtain ⟨millis, given, isInstant⟩ := (Value.dateOfJson?_eq_ok_iff_of_millis noText).mp read
        exact noInstant millis instant given isInstant
      rw [read?, (Value.dateOfJson?_eq_error_iff_of_millis noText).mpr ⟨rfl, nothing⟩]
      rfl
  | patternMissing missing =>
      rw [read?, regexOfJson?, Json.bind_string?_eq_none_iff.mpr missing]
      rfl
  | patternOption given isOption known unknown =>
      rw [read?, Value.regexOfJson?_of_pattern given, isOption,
        Value.patternFlags?_of_unknown known unknown]
      rfl
  | patternSyntax given known refused =>
      rw [read?, Value.regexOfJson?_of_pattern given, Value.patternFlags?_of_known known, ok_bind,
        refused]
      rfl

/-- Every wrapper denotes something or is refused. -/
theorem denotes_or_refused (wrapper : Wrapper) :
    (∃ value, wrapper.Denotes value) ∨ ∃ cause, wrapper.Refused cause := by
  cases wrapper with
  | date payload =>
      by_cases isText : ∃ text, payload = .string text
      · obtain ⟨text, rfl⟩ := isText
        cases read : Timestamp.Rfc3339.ofText? text with
        | ok instant =>
            exact .inl ⟨_, .dateText (Timestamp.Rfc3339.ofText?_eq_ok_iff.mp read)⟩
        | error cause =>
            refine .inr ⟨_, .dateText (fun instant written => ?_) read⟩
            rw [Timestamp.Rfc3339.ofText?_eq_ok_iff.mpr written] at read
            cases read
      · by_cases denoted : ∃ millis instant, payload.GivesMillis millis ∧
          Timestamp.AtMillis millis instant
        · obtain ⟨millis, instant, given, isInstant⟩ := denoted
          exact .inl ⟨_, .dateMillis given isInstant⟩
        · refine .inr ⟨_, .datePayload (not_exists.mp isText) ?_⟩
          intro millis instant given isInstant
          exact denoted ⟨millis, instant, given, isInstant⟩
  | regex payload =>
      by_cases isPattern : ∃ pattern, payload.member? "pattern" = some (.string pattern)
      · obtain ⟨pattern, isPattern⟩ := isPattern
        obtain ⟨options, given⟩ := Value.exists_givesPattern isPattern
        rcases Value.known_or_exists_first_unknown options.toList with
          known | ⟨before, option, after, isOption, known, unknown⟩
        · cases compiles : Pattern.compile (underFlags (flagsOf options.toList) pattern) with
          | ok compiled => exact .inl ⟨_, .regex given known compiles⟩
          | error report => exact .inr ⟨_, .patternSyntax given known compiles⟩
        · exact .inr ⟨_, .patternOption given isOption known unknown⟩
      · exact .inr ⟨_, .patternMissing (not_exists.mp isPattern)⟩

/-- What is read from a wrapper is what it denotes. -/
theorem denotes_iff {wrapper : Wrapper} {value : Value} :
    wrapper.Denotes value ↔ wrapper.read? = .ok value := by
  refine ⟨read?_of_denotes, fun read => ?_⟩
  rcases wrapper.denotes_or_refused with ⟨other, denotes⟩ | ⟨cause, refused⟩
  · obtain rfl := Except.ok.inj ((read?_of_denotes denotes).symm.trans read)
    exact denotes
  · cases (read?_of_refused refused).symm.trans read

/-- A wrapper is refused for the reason that it denotes nothing. -/
theorem refused_iff {wrapper : Wrapper} {cause : ConversionError} :
    wrapper.Refused cause ↔ wrapper.read? = .error cause := by
  refine ⟨read?_of_refused, fun notRead => ?_⟩
  rcases wrapper.denotes_or_refused with ⟨value, denotes⟩ | ⟨other, refused⟩
  · cases (read?_of_denotes denotes).symm.trans notRead
  · obtain rfl := Except.error.inj ((read?_of_refused refused).symm.trans notRead)
    exact refused

theorem exists_refused_iff {wrapper : Wrapper} :
    (∃ cause, wrapper.Refused cause) ↔ ∀ value, ¬ wrapper.Denotes value := by
  simp only [refused_iff, denotes_iff]
  cases wrapper.read? <;> simp

end Wrapper

end SchemaMatch
