import Mathlib.Order.Defs.Unbundled
import SchemaMatch.Proofs.Number.Integer
import SchemaMatch.Proofs.Value.ClassHandle
import SchemaMatch.Proofs.Value.Reordering
import SchemaMatch.Proofs.Value.Traversal

/-!
Contract: the laws of the two equalities of values.

Owns:
- the canonical form of a value, which is the same for equal values and for no others;
- `Value.equal_iff`: two values are equal if and only if they have one canonical form and there is
  no NaN in it;
- strict equality as equality outside of what both sides look into;
- `Value.equalities_lawful`: symmetry, transitivity and the exact failure of reflexivity, with the
  laws of classes that they rest on.

Does not own: what checks make of equal data.
-/

namespace SchemaMatch

/-! ## Numbers -/

namespace Binary64

variable {left right : Binary64}

/-- The sign stays unless it is that of a zero. -/
@[simp]
theorem unsignedZero_finite {negative : Bool} {significand : Nat} {exponent : Int}
    (canonical : Canonical significand exponent) :
    (finite negative significand exponent canonical).unsignedZero =
      finite (negative && significand != 0) significand exponent canonical := by
  by_cases isNegativeZero : (finite negative significand exponent canonical).isNegativeZero = true
  · have isZero := eq_zero_of_isNegativeZero isNegativeZero
    rw [unsignedZero, if_pos isNegativeZero]
    cases isZero
    rfl
  · rw [unsignedZero, if_neg isNegativeZero]
    cases negative with
    | false => rfl
    | true =>
        cases significand with
        | zero => exact absurd rfl isNegativeZero
        | succ _ => rfl

@[simp]
theorem unsignedZero_nan : unsignedZero .nan = .nan := rfl

@[simp]
theorem unsignedZero_infinite (negative : Bool) :
    (infinite negative).unsignedZero = .infinite negative := rfl

/-- Numbers are equal if they agree but for the sign of a zero. NaN is equal to no number. -/
theorem equal_iff :
    left.equal right = true ↔ left.unsignedZero = right.unsignedZero ∧ .nan ≠ left := by
  cases left with
  | nan => simp [equal]
  | infinite negative => cases right <;> simp [equal]
  | finite negative significand exponent canonical =>
      cases right with
      | nan => simp [equal]
      | infinite other => simp [equal]
      | finite other otherSignificand otherExponent otherCanonical =>
          rw [unsignedZero_finite, unsignedZero_finite, finite.injEq]
          simp only [equal, Bool.and_eq_true, Bool.or_eq_true, beq_iff_eq, ne_eq, reduceCtorEq,
            not_false_eq_true, and_true]
          constructor
          · rintro ⟨⟨rfl, rfl⟩, rfl | rfl⟩
            · exact ⟨rfl, rfl, rfl⟩
            · simp
          · rintro ⟨sameSign, rfl, rfl⟩
            refine ⟨⟨rfl, rfl⟩, ?_⟩
            by_cases isZero : significand = 0
            · exact .inr isZero
            · have nonzero : (significand != 0) = true := bne_iff_ne.mpr isZero
              rw [nonzero, Bool.and_true, Bool.and_true] at sameSign
              exact .inl sameSign

theorem nan_eq_unsignedZero_iff {number : Binary64} :
    .nan = number.unsignedZero ↔ .nan = number := by
  cases number <;> simp

end Binary64

namespace Value

/-! ## Canonical forms -/

mutual

/-- What equality sees of a value: no sign of a zero, of a regex only its source and of a function
only its identity. -/
def canonical : Value → Value
  | .number value => .number value.unsignedZero
  | .regex value => .regex { value with tree := .empty }
  | .function value => .function { value with name := none }
  | .array items => .array (canonicalItems items)
  | .object tag fields => .object tag (canonicalFields fields)
  | other => other

def canonicalItems : List Value → List Value
  | [] => []
  | item :: rest => canonical item :: canonicalItems rest

def canonicalFields : List (String × Value) → List (String × Value)
  | [] => []
  | (key, value) :: rest => (key, canonical value) :: canonicalFields rest

end

theorem sameTag_iff {left right : Option Class} : sameTag left right = true ↔ left = right := by
  cases left with
  | none => cases right <;> simp [sameTag]
  | some own => cases right <;> simp [sameTag, Class.same]

mutual

/-- Values are equal if they have one canonical form and there is no NaN in it. The induction goes
along the left value, and equality decides which constructor the right one has. -/
theorem equal_iff (left right : Value) :
    left.equal right = true ↔
      left.canonical = right.canonical ∧ .number .nan ∉ left.subvalues :=
  match left with
  | .array items => by
      cases right with
      | array others => simp [equal, canonical, subvalues, equalItems_iff items others]
      | _ => simp [equal, strictEqual, canonical]
  | .object tag fields => by
      cases right with
      | object otherTag others =>
          simp [equal, canonical, subvalues, sameTag_iff, equalFields_iff fields others, and_assoc]
      | _ => simp [equal, strictEqual, canonical]
  | .number value => by
      cases right with
      | number other => simp [equal, strictEqual, canonical, subvalues, Binary64.equal_iff]
      | _ => simp [equal, strictEqual, canonical]
  | .regex value => by
      cases right with
      | regex other => simp [equal, canonical, subvalues]
      | _ => simp [equal, strictEqual, canonical]
  | .undefined | .null | .bool _ | .string _ | .date _ | .function _ | .classTag _ => by
      cases right <;> simp [equal, strictEqual, canonical, subvalues, Class.same]

theorem equalItems_iff (items others : List Value) :
    equalItems items others = true ↔
      canonicalItems items = canonicalItems others ∧ .number .nan ∉ subvaluesOfItems items :=
  match items, others with
  | [], [] => by simp [equalItems, canonicalItems, subvaluesOfItems]
  | [], _ :: _ => by simp [equalItems, canonicalItems]
  | _ :: _, [] => by simp [equalItems, canonicalItems]
  | item :: rest, other :: otherRest => by
      simp only [equalItems, canonicalItems, subvaluesOfItems, Bool.and_eq_true,
        equal_iff item other, equalItems_iff rest otherRest, List.cons.injEq, List.mem_append,
        not_or]
      exact and_and_and_comm

theorem equalFields_iff (fields others : List (String × Value)) :
    equalFields fields others = true ↔
      canonicalFields fields = canonicalFields others ∧
        .number .nan ∉ subvaluesOfFields fields :=
  match fields, others with
  | [], [] => by simp [equalFields, canonicalFields, subvaluesOfFields]
  | [], _ :: _ => by simp [equalFields, canonicalFields]
  | _ :: _, [] => by simp [equalFields, canonicalFields]
  | (key, value) :: rest, (otherKey, other) :: otherRest => by
      simp only [equalFields, canonicalFields, subvaluesOfFields, Bool.and_eq_true, beq_iff_eq,
        equal_iff value other, equalFields_iff rest otherRest, List.cons.injEq, Prod.mk.injEq,
        List.mem_append, not_or, and_assoc]
      refine and_congr_right fun _ => and_congr_right fun _ => ?_
      exact and_left_comm

end

/-! ## Equality part by part -/

theorem equalItems_iff_forall₂ {items others : List Value} :
    equalItems items others = true ↔
      List.Forall₂ (fun item other => item.equal other = true) items others := by
  induction items generalizing others with
  | nil => cases others <;> simp [equalItems]
  | cons item rest inductionHypothesis =>
      cases others with
      | nil => simp [equalItems]
      | cons other otherRest => simp [equalItems, inductionHypothesis]

theorem equalFields_iff_forall₂ {fields others : List (String × Value)} :
    equalFields fields others = true ↔
      List.Forall₂ (Fields.Paired fun value other => value.equal other = true) fields others := by
  induction fields generalizing others with
  | nil => cases others <;> simp [equalFields]
  | cons field rest inductionHypothesis =>
      cases others with
      | nil => simp [equalFields]
      | cons other otherRest =>
          obtain ⟨key, value⟩ := field
          obtain ⟨otherKey, otherValue⟩ := other
          rw [List.forall₂_cons, equalFields, Bool.and_eq_true, Bool.and_eq_true, beq_iff_eq,
            inductionHypothesis]
          refine and_congr_left fun _ => ⟨?_, ?_⟩
          · rintro ⟨rfl, equal⟩
            exact .intro key equal
          · rintro ⟨_, equal⟩
            exact ⟨rfl, equal⟩

/-! ## Structural equality -/

mutual

/-- A value has a NaN in it where its canonical form has one. -/
theorem nan_mem_subvalues_canonical (value : Value) :
    .number .nan ∈ value.canonical.subvalues ↔ .number .nan ∈ value.subvalues :=
  match value with
  | .number value => by simp [canonical, subvalues, Binary64.nan_eq_unsignedZero_iff]
  | .array items => by simp [canonical, subvalues, nan_mem_subvalues_canonicalItems items]
  | .object tag fields => by simp [canonical, subvalues, nan_mem_subvalues_canonicalFields fields]
  | .function _ | .regex _ => by simp [canonical, subvalues]
  | .undefined | .null | .bool _ | .string _ | .date _ | .classTag _ => Iff.rfl

theorem nan_mem_subvalues_canonicalItems (items : List Value) :
    .number .nan ∈ subvaluesOfItems (canonicalItems items) ↔
      .number .nan ∈ subvaluesOfItems items :=
  match items with
  | [] => Iff.rfl
  | item :: rest => by
      rw [canonicalItems, subvaluesOfItems, subvaluesOfItems, List.mem_append, List.mem_append,
        nan_mem_subvalues_canonical item, nan_mem_subvalues_canonicalItems rest]

theorem nan_mem_subvalues_canonicalFields (fields : List (String × Value)) :
    .number .nan ∈ subvaluesOfFields (canonicalFields fields) ↔
      .number .nan ∈ subvaluesOfFields fields :=
  match fields with
  | [] => Iff.rfl
  | (key, value) :: rest => by
      rw [canonicalFields, subvaluesOfFields, subvaluesOfFields, List.mem_append, List.mem_append,
        nan_mem_subvalues_canonical value, nan_mem_subvalues_canonicalFields rest]

end

section Laws

variable {first second third left right : Value}

theorem equal_symm (equal : left.equal right = true) : right.equal left = true := by
  obtain ⟨sameForm, noNan⟩ := (equal_iff left right).mp equal
  rw [← nan_mem_subvalues_canonical, sameForm, nan_mem_subvalues_canonical] at noNan
  exact (equal_iff right left).mpr ⟨sameForm.symm, noNan⟩

theorem equal_comm (left right : Value) : left.equal right = right.equal left :=
  Bool.eq_iff_iff.mpr ⟨equal_symm, equal_symm⟩

theorem equal_trans (equal : first.equal second = true) (next : second.equal third = true) :
    first.equal third = true := by
  obtain ⟨sameForm, noNan⟩ := (equal_iff first second).mp equal
  obtain ⟨nextForm, -⟩ := (equal_iff second third).mp next
  exact (equal_iff first third).mpr ⟨sameForm.trans nextForm, noNan⟩

theorem equal_self_iff (value : Value) :
    value.equal value = true ↔ .number .nan ∉ value.subvalues := by
  rw [equal_iff]
  exact and_iff_right rfl

/-! ## Strict equality -/

/-- Two values that structural equality looks into and strict equality does not: both are dates,
both regexes, both arrays or both objects. -/
def bothStructured : Value → Value → Bool
  | .date _, .date _ => true
  | .regex _, .regex _ => true
  | .array _, .array _ => true
  | .object .., .object .. => true
  | _, _ => false

/-- The two equalities differ on dates, regexes, arrays and objects only. -/
theorem strictEqual_eq (left right : Value) :
    left.strictEqual right = if left.bothStructured right then false else left.equal right := by
  cases left <;> cases right <;> simp [strictEqual, bothStructured, equal]

/-- Strict equality is equality of values without properties. -/
theorem strictEqual_iff :
    left.strictEqual right = true ↔ left.equal right = true ∧ left.mayHaveProperties = false := by
  cases left <;> cases right <;> simp [strictEqual, mayHaveProperties, equal]

theorem mayHaveProperties_canonical (value : Value) :
    value.canonical.mayHaveProperties = value.mayHaveProperties := by
  cases value <;> rfl

theorem mayHaveProperties_of_equal (equal : left.equal right = true) :
    left.mayHaveProperties = right.mayHaveProperties := by
  rw [← mayHaveProperties_canonical, ((equal_iff left right).mp equal).1,
    mayHaveProperties_canonical]

theorem strictEqual_symm (equal : left.strictEqual right = true) :
    right.strictEqual left = true := by
  obtain ⟨equal, plain⟩ := strictEqual_iff.mp equal
  rw [mayHaveProperties_of_equal equal] at plain
  exact strictEqual_iff.mpr ⟨equal_symm equal, plain⟩

theorem strictEqual_comm (left right : Value) : left.strictEqual right = right.strictEqual left :=
  Bool.eq_iff_iff.mpr ⟨strictEqual_symm, strictEqual_symm⟩

theorem strictEqual_trans (equal : first.strictEqual second = true)
    (next : second.strictEqual third = true) : first.strictEqual third = true := by
  obtain ⟨equal, plain⟩ := strictEqual_iff.mp equal
  exact strictEqual_iff.mpr ⟨equal_trans equal (strictEqual_iff.mp next).1, plain⟩

end Laws

/-- Equality is symmetric and transitive, and a value equals itself unless there is a NaN in it.
Strict equality is symmetric and transitive too; it implies equality and differs from it only on
two dates, regexes, arrays or objects, which are never strictly equal. What both rest on is an
equivalence: sameness of classes, and of the handles of any program. It does not matter how often
a built-in class was obtained, and classes of the program are told apart whatever their names. -/
theorem equalities_lawful :
    (∀ left right : Value, left.equal right = right.equal left) ∧
      IsTrans Value (fun left right => left.equal right = true) ∧
      (∀ value : Value, value.equal value = true ↔ .number .nan ∉ value.subvalues) ∧
      (∀ left right : Value, left.strictEqual right = right.strictEqual left) ∧
      IsTrans Value (fun left right => left.strictEqual right = true) ∧
      (∀ left right : Value, left.strictEqual right = true → left.equal right = true) ∧
      (∀ left right : Value, left.strictEqual right =
        if left.bothStructured right then false else left.equal right) ∧
      Equivalence (fun left right : Class => left.same right = true) ∧
      ∀ store : ClassStore, Equivalence (fun left right => store.sameHandle left right = true) ∧
        (store.Built → ∀ left < store.length, ∀ right < store.length,
          ∃ first second, store.Denotes left first ∧ store.Denotes right second ∧
            store.sameHandle left right = first.same second) ∧
        (∀ left right kind, store.builtin? left = some kind → store.builtin? right = some kind →
          store.sameHandle left right = true) ∧
        (∀ left right, store.builtin? left = none →
          (store.sameHandle left right = true ↔ left = right)) := by
  refine ⟨equal_comm, ⟨fun _ _ _ => equal_trans⟩, equal_self_iff, strictEqual_comm,
    ⟨fun _ _ _ => strictEqual_trans⟩, fun left right strict => (strictEqual_iff.mp strict).1,
    strictEqual_eq, Class.equivalence_same, fun store => ⟨store.equivalence_sameHandle, ?_, ?_, ?_⟩⟩
  · intro built left leftPresent right rightPresent
    obtain ⟨first, denotesLeft⟩ := built.exists_denotes left leftPresent
    obtain ⟨second, denotesRight⟩ := built.exists_denotes right rightPresent
    refine ⟨first, second, denotesLeft, denotesRight, Bool.eq_iff_iff.mpr ?_⟩
    exact ClassStore.sameHandle_iff_of_denotes denotesLeft denotesRight
  · intro left right kind leftKind rightKind
    exact ClassStore.sameHandle_iff.mpr (.inr ⟨kind, leftKind, rightKind⟩)
  · intro left right isOwn
    exact ClassStore.sameHandle_iff_eq isOwn

end Value

end SchemaMatch
