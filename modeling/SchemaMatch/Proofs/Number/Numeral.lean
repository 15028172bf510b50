import Mathlib.Data.List.Induction
import SchemaMatch.Number.Reader

/-!
Contract: decimal numerals denote the numbers they were written from.

Owns:
- what a row of digits denotes, in terms of `Nat.ofDigitChars`;
- `Numeral.natBelow?_eq_some_iff`: an unsigned numeral is the decimal text of its value with zeros
  and a plus sign before it, or without;
- `Numeral.int64?_eq_some_iff`: a 64-bit integer is read from its decimal text, with zeros before it
  and a sign before all, or without.

Does not own: fractions and exponents.
-/

namespace SchemaMatch.Numeral

theorem digit?_eq (character : Char) :
    digit? character =
      if character.isDigit then some (character.toNat - '0'.toNat) else none := by
  have bounds : character.isDigit = true ↔ '0' ≤ character ∧ character ≤ '9' := by
    simp [Char.isDigit, Char.le_def]
  simp only [digit?, bounds]

theorem isDigit_eq (character : Char) : isDigit character = character.isDigit := by
  rw [isDigit, digit?_eq]
  cases character.isDigit <;> rfl

theorem digit?_of_isDigit {character : Char} (digit : character.isDigit = true) :
    digit? character = some (character.toNat - '0'.toNat) := by
  rw [digit?_eq, if_pos digit]

theorem lt_ten_of_digit? {character : Char} {digit : Nat}
    (isDigit : digit? character = some digit) : digit < 10 := by
  obtain ⟨bounds, same⟩ := Option.ite_none_right_eq_some.mp isDigit
  obtain rfl := Option.some.inj same
  have atMost : character.toNat ≤ '9'.toNat := bounds.2
  have nine : '9'.toNat = '0'.toNat + 9 := rfl
  omega

/-- The digits read so far are the accumulator. -/
theorem foldlM_digit? {characters : List Char} (digits : ∀ c ∈ characters, c.isDigit = true)
    (total : Nat) :
    characters.foldlM (fun total character => do return total * 10 + (← digit? character)) total =
      some (Nat.ofDigitChars 10 characters total) := by
  induction characters generalizing total with
  | nil => rfl
  | cons character rest inductionHypothesis =>
      obtain ⟨digit, digitsOfRest⟩ := List.forall_mem_cons.mp digits
      rw [List.foldlM_cons, digit?_of_isDigit digit, Nat.ofDigitChars_cons, Nat.mul_comm 10]
      exact inductionHypothesis digitsOfRest _

theorem digits?_of_isDigit {characters : List Char}
    (digits : ∀ c ∈ characters, c.isDigit = true) :
    digits? characters = some (Nat.ofDigitChars 10 characters 0) :=
  foldlM_digit? digits 0

theorem isDigit_of_mem_toDigits (value : Nat) :
    ∀ c ∈ Nat.toDigits 10 value, c.isDigit = true :=
  fun _ member => Nat.isDigit_of_mem_toDigits (by decide) (by decide) member

/-! ## Numerals without sign -/

/-- Only digits make a numeral. -/
theorem isDigit_of_foldlM_digit? {characters : List Char} {total value : Nat}
    (read : characters.foldlM (fun total character => do return total * 10 + (← digit? character))
      total = some value) :
    ∀ c ∈ characters, c.isDigit = true := by
  induction characters generalizing total with
  | nil => simp
  | cons character rest inductionHypothesis =>
      rw [List.foldlM_cons] at read
      by_cases digit : character.isDigit = true
      · rw [digit?_of_isDigit digit] at read
        exact List.forall_mem_cons.mpr ⟨digit, inductionHypothesis read⟩
      · rw [digit?_eq, if_neg digit] at read
        cases read

/-- A digit is the text of its value. -/
theorem exists_toDigits_eq_singleton {character : Char} (digit : character.isDigit = true) :
    ∃ value < 10, Nat.toDigits 10 value = [character] ∧
      Nat.ofDigitChars 10 [character] 0 = value := by
  have bounds : 48 ≤ character.toNat ∧ character.toNat ≤ 57 := by
    simpa [Char.isDigit, Char.le_def, UInt32.le_iff_toNat_le] using digit
  have small : character.toNat - 48 < 10 := by omega
  have text : Nat.toDigits 10 (character.toNat - 48) = [character] := by
    rw [Nat.toDigits_of_lt_base small]
    refine congrArg (fun c => [c]) (Char.toNat_inj.mp ?_)
    rw [Nat.toNat_digitChar_of_lt_ten small]
    omega
  refine ⟨character.toNat - 48, small, text, ?_⟩
  rw [← text, Nat.ofDigitChars_ten_toDigits]

/-- A row of digits is the decimal text of what it denotes, with zeros before it. -/
theorem exists_zeros {characters : List Char} (nonempty : characters ≠ [])
    (digits : ∀ c ∈ characters, c.isDigit = true) :
    ∃ zeros, characters = List.replicate zeros '0' ++
      Nat.toDigits 10 (Nat.ofDigitChars 10 characters 0) := by
  induction characters using List.reverseRecOn with
  | nil => exact absurd rfl nonempty
  | append_singleton front last inductionHypothesis =>
      have digitsOfFront : ∀ c ∈ front, c.isDigit = true :=
        fun c member => digits c (List.mem_append_left _ member)
      obtain ⟨value, small, text, denotes⟩ :=
        exists_toDigits_eq_singleton (digits last (by simp))
      have total : Nat.ofDigitChars 10 (front ++ [last]) 0 =
          10 * Nat.ofDigitChars 10 front 0 + value := by
        rw [Nat.ofDigitChars_append, Nat.ofDigitChars_eq_ofDigitChars_zero, denotes]
        simp
      rw [total]
      by_cases alone : front = []
      · subst alone
        exact ⟨0, by simp [text]⟩
      · obtain ⟨zeros, isFront⟩ := inductionHypothesis alone digitsOfFront
        by_cases isZero : Nat.ofDigitChars 10 front 0 = 0
        · -- The front is all zeros, and the last digit is the whole text.
          rw [isZero, Nat.toDigits_zero] at isFront
          refine ⟨zeros + 1, ?_⟩
          rw [isZero, Nat.mul_zero, Nat.zero_add, text, List.replicate_succ', ← isFront]
        · refine ⟨zeros, ?_⟩
          rw [← Nat.toDigits_append_toDigits (by decide) (by omega) small, text,
            ← List.append_assoc, ← isFront]

/-- A row of digits denotes less than the power of ten of its length. -/
theorem ofDigitChars_lt {characters : List Char} (digits : ∀ c ∈ characters, c.isDigit = true) :
    Nat.ofDigitChars 10 characters 0 < 10 ^ characters.length := by
  by_cases empty : characters = []
  · rw [empty]
    exact Nat.one_pos
  · obtain ⟨zeros, isRow⟩ := exists_zeros empty digits
    refine (Nat.length_toDigits_le_iff (by decide) (List.length_pos_iff.mpr empty)).mp ?_
    have length := congrArg List.length isRow
    rw [List.length_append] at length
    omega

theorem nat?_zeros_toDigits (zeros value : Nat) :
    nat? (List.replicate zeros '0' ++ Nat.toDigits 10 value) = some value := by
  have digits : ∀ c ∈ List.replicate zeros '0' ++ Nat.toDigits 10 value, c.isDigit = true := by
    intro c member
    rcases List.mem_append.mp member with isZero | ofValue
    · rw [List.eq_of_mem_replicate isZero]
      rfl
    · exact isDigit_of_mem_toDigits value c ofValue
  rw [nat?, if_neg (by simp [Nat.toDigits_ne_nil]), digits?_of_isDigit digits,
    Nat.ofDigitChars_append, Nat.ofDigitChars_replicate_zero, Nat.mul_zero,
    Nat.ofDigitChars_ten_toDigits]

theorem nat?_toDigits (value : Nat) : nat? (Nat.toDigits 10 value) = some value :=
  nat?_zeros_toDigits 0 value

theorem nat?_eq_some_iff {characters : List Char} {value : Nat} :
    nat? characters = some value ↔
      ∃ zeros, characters = List.replicate zeros '0' ++ Nat.toDigits 10 value := by
  constructor
  · intro read
    by_cases empty : characters = []
    · subst empty
      cases read
    · rw [nat?, if_neg (by simpa using empty)] at read
      have digits := isDigit_of_foldlM_digit? read
      have denotes : Nat.ofDigitChars 10 characters 0 = value :=
        Option.some.inj ((digits?_of_isDigit digits).symm.trans read)
      rw [← denotes]
      exact exists_zeros empty digits
  · rintro ⟨zeros, rfl⟩
    exact nat?_zeros_toDigits zeros value

/-! ## Numerals with a plus sign -/

/-- A text spells a number if it is its decimal text, maybe with zeros before it and maybe with a
plus sign before all. -/
def Spells (text : String) (value : Nat) : Prop :=
  ∃ zeros,
    text.toList = List.replicate zeros '0' ++ Nat.toDigits 10 value ∨
      text.toList = '+' :: (List.replicate zeros '0' ++ Nat.toDigits 10 value)

theorem spells_toString (value : Nat) : Spells (toString value) value :=
  ⟨0, .inl Nat.toList_repr⟩

/-- A numeral that does not begin with a sign does not begin as one with a sign does. -/
theorem zeros_toDigits_ne_cons {sign : Char} (isSign : sign = '-' ∨ sign = '+')
    (zeros value : Nat) (rest : List Char) :
    List.replicate zeros '0' ++ Nat.toDigits 10 value ≠ sign :: rest := by
  intro same
  have digit : sign.isDigit = true := by
    have member : sign ∈ List.replicate zeros '0' ++ Nat.toDigits 10 value := by
      rw [same]
      exact List.mem_cons_self
    rcases List.mem_append.mp member with zero | ofValue
    · rw [List.eq_of_mem_replicate zero]
      rfl
    · exact isDigit_of_mem_toDigits value sign ofValue
  obtain rfl | rfl := isSign <;> exact absurd digit (by decide)

/-- What stands after a plus sign, or the whole text if there is none, is a numeral. -/
theorem nat?_afterPlus_eq_some_iff {text : String} {value : Nat} :
    nat? (match text.toList with
      | '+' :: rest => rest
      | characters => characters) = some value ↔ Spells text value := by
  rw [nat?_eq_some_iff]
  unfold Spells
  refine exists_congr fun zeros => ?_
  split
  next rest plus =>
    rw [plus, List.cons_inj_right]
    constructor
    · exact .inr
    · rintro (same | same)
      · exact absurd same.symm (zeros_toDigits_ne_cons (.inr rfl) zeros value rest)
      · exact same
  next characters noPlus =>
    constructor
    · exact .inl
    · rintro (same | same)
      · exact same
      · exact absurd same (noPlus _)

/-- A numeral is read as a number below the bound if it spells that number. -/
theorem natBelow?_eq_some_iff {bound value : Nat} {text : String} :
    natBelow? bound text = some value ↔ value < bound ∧ Spells text value := by
  rw [← nat?_afterPlus_eq_some_iff]
  constructor
  · intro read
    obtain ⟨other, isNumeral, inBounds⟩ := Option.bind_eq_some_iff.mp read
    obtain ⟨below, same⟩ := Option.ite_none_right_eq_some.mp inBounds
    obtain rfl := Option.some.inj same
    exact ⟨below, isNumeral⟩
  · rintro ⟨below, isNumeral⟩
    exact Option.bind_eq_some_iff.mpr ⟨value, isNumeral, if_pos below⟩

/-! ## Numerals with either sign -/

/-- A text spells an integer if, after at most one sign, it is the decimal text of the magnitude,
maybe with zeros before it. -/
def SpellsInt (text : String) (value : Int) : Prop :=
  0 ≤ value ∧ Spells text value.natAbs ∨
    value ≤ 0 ∧ ∃ zeros, text.toList =
      '-' :: (List.replicate zeros '0' ++ Nat.toDigits 10 value.natAbs)

theorem spellsInt_toString (value : Int) : SpellsInt (toString value) value := by
  cases value with
  | ofNat magnitude => exact .inl ⟨Int.natCast_nonneg magnitude, spells_toString magnitude⟩
  | negSucc magnitude =>
      have text : (toString (Int.negSucc magnitude)).toList =
          '-' :: Nat.toDigits 10 (magnitude + 1) := by
        change ("-" ++ Nat.repr (magnitude + 1)).toList = _
        rw [String.toList_append, Nat.toList_repr]
        rfl
      exact .inr ⟨Int.le_of_lt (Int.negSucc_lt_zero magnitude), 0, text⟩

theorem map_ofNat_nat?_eq_some_iff {characters : List Char} {value : Int} :
    (nat? characters).map Int.ofNat = some value ↔
      0 ≤ value ∧ nat? characters = some value.natAbs := by
  rw [Option.map_eq_some_iff]
  constructor
  · rintro ⟨magnitude, isNumeral, rfl⟩
    exact ⟨Int.natCast_nonneg magnitude, isNumeral⟩
  · rintro ⟨nonnegative, isNumeral⟩
    exact ⟨value.natAbs, isNumeral, Int.natAbs_of_nonneg nonnegative⟩

theorem int?_eq_some_iff {text : String} {value : Int} :
    int? text.toList = some value ↔ SpellsInt text value := by
  unfold SpellsInt
  rw [← nat?_afterPlus_eq_some_iff]
  cases characters : text.toList with
  | nil => simp [int?, nat?]
  | cons first rest =>
      by_cases minus : first = '-'
      · subst minus
        have noSpelling : nat? ('-' :: rest) ≠ some value.natAbs := by
          intro isNumeral
          obtain ⟨zeros, same⟩ := nat?_eq_some_iff.mp isNumeral
          exact zeros_toDigits_ne_cons (.inl rfl) zeros value.natAbs rest same.symm
        rw [int?, Option.map_eq_some_iff]
        simp only [List.cons_inj_right, ← nat?_eq_some_iff]
        constructor
        · rintro ⟨magnitude, isNumeral, rfl⟩
          refine .inr ⟨?_, ?_⟩
          · exact Int.neg_nonpos_of_nonneg (Int.natCast_nonneg magnitude)
          · rw [Int.natAbs_neg]
            exact isNumeral
        · rintro (⟨-, isNumeral⟩ | ⟨nonpositive, isNumeral⟩)
          · exact absurd isNumeral noSpelling
          · exact ⟨_, isNumeral, by change -(value.natAbs : Int) = value; omega⟩
      · have noMinus : ∀ zeros, first :: rest ≠
            '-' :: (List.replicate zeros '0' ++ Nat.toDigits 10 value.natAbs) :=
          fun zeros same => minus (List.cons.inj same).1
        have unsigned : int? (first :: rest) = (nat? (match first :: rest with
            | '+' :: rest => rest
            | characters => characters)).map Int.ofNat := by
          by_cases plus : first = '+'
          · rw [plus]
            rfl
          · rw [int?]
            · split
              next same => exact absurd (List.cons.inj same).1 plus
              next => rfl
            · exact fun others same => minus (List.cons.inj same).1
            · exact fun others same => plus (List.cons.inj same).1
        rw [unsigned, map_ofNat_nat?_eq_some_iff]
        constructor
        · exact .inl
        · rintro (isNumeral | ⟨-, zeros, same⟩)
          · exact isNumeral
          · exact absurd same (noMinus zeros)

theorem intBetween?_eq_some_iff {low high value : Int} {text : String} :
    intBetween? low high text = some value ↔
      (low ≤ value ∧ value ≤ high) ∧ SpellsInt text value := by
  rw [← int?_eq_some_iff]
  constructor
  · intro read
    obtain ⟨other, isNumeral, inBounds⟩ := Option.bind_eq_some_iff.mp read
    obtain ⟨between, same⟩ := Option.ite_none_right_eq_some.mp inBounds
    obtain rfl := Option.some.inj same
    exact ⟨between, isNumeral⟩
  · rintro ⟨between, isNumeral⟩
    exact Option.bind_eq_some_iff.mpr ⟨value, isNumeral, if_pos between⟩

theorem int64?_eq_some_iff {value : Int} {text : String} :
    int64? text = some value ↔ (-(2 ^ 63) ≤ value ∧ value < 2 ^ 63) ∧ SpellsInt text value := by
  rw [int64?, intBetween?_eq_some_iff, Int.le_sub_one_iff]

theorem int64?_toString {value : Int} (aboveLow : -(2 ^ 63) ≤ value) (belowHigh : value < 2 ^ 63) :
    int64? (toString value) = some value :=
  int64?_eq_some_iff.mpr ⟨⟨aboveLow, belowHigh⟩, spellsInt_toString value⟩

end SchemaMatch.Numeral
