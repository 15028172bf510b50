import Mathlib.Data.List.Nodup
import SchemaMatch.Proofs.Number.Numeral
import SchemaMatch.Proofs.Value.Rearrangement

/-!
Contract: look-up of properties against the listing of keys.

Owns:
- the indices that keys are read as;
- keys that spell an index of an array in another way than the array lists it;
- the laws of look-up: under a listed key there stands the part of that name, under an unlisted key
  nothing, unless it respells an index.

Does not own: checks, which look at data through its keys.
-/

namespace SchemaMatch

/-! ## Fields in a row -/

namespace Fields

variable {α : Type} {fields others : List (String × α)} {key : String}

theorem lookup?_eq_none_iff : lookup? key fields = none ↔ key ∉ keys fields := by
  induction fields with
  | nil => simp [lookup?, keys]
  | cons field rest inductionHypothesis =>
      rw [keys_cons, List.mem_cons, lookup?]
      by_cases same : field.1 = key
      · rw [if_pos same]
        exact iff_of_false (by simp) (by simp [same])
      · have different : key ≠ field.1 := fun equal => same equal.symm
        rw [if_neg same, inductionHypothesis]
        simp [different]

theorem lookup?_append :
    lookup? key (fields ++ others) = (lookup? key fields).or (lookup? key others) := by
  induction fields with
  | nil => rfl
  | cons field rest inductionHypothesis =>
      rw [List.cons_append, lookup?, lookup?, inductionHypothesis]
      split <;> rfl

end Fields

/-! ## Indices as keys -/

namespace Numeral

theorem toString_injective {left right : Nat} (same : toString left = toString right) :
    left = right := by
  have read := nat?_toDigits left
  have digits : Nat.toDigits 10 left = Nat.toDigits 10 right := by
    rw [← Nat.toList_repr, ← Nat.toList_repr]
    exact congrArg String.toList same
  rw [digits, nat?_toDigits] at read
  exact (Option.some.inj read).symm

end Numeral

namespace Value

/-- Whether all indices of a value fit into 64 bits. Arrays alone have indices. -/
def Addressable (value : Value) : Prop :=
  ∀ items, value = .array items → items.length ≤ 2 ^ 64

/-- A key respells an index of an array if it spells the index, but not as its decimal text. -/
def Respells (items : List Value) (key : String) : Prop :=
  ∃ index < items.length, Numeral.Spells key index ∧ key ≠ toString index

theorem index?_eq_some_iff {key : String} {index : Nat} :
    index? key = some index ↔ index < 2 ^ 64 ∧ Numeral.Spells key index :=
  Numeral.natBelow?_eq_some_iff

theorem mem_keys_array {items : List Value} {key : String} :
    key ∈ (Value.array items).keys ↔ ∃ index < items.length, key = toString index := by
  rw [keys, List.mem_map]
  simp only [List.mem_range, eq_comm]

theorem nodup_keys_array (items : List Value) : (Value.array items).keys.Nodup := by
  rw [keys]
  exact List.Nodup.map (fun _ _ same => Numeral.toString_injective same) List.nodup_range

/-! ## Look-up in arrays -/

section Arrays

variable {items : List Value} {key : String} {index : Nat}

/-- Whatever spells an index finds the element there. -/
theorem get_array_of_spells (addressable : items.length ≤ 2 ^ 64) (inside : index < items.length)
    (spells : Numeral.Spells key index) : (Value.array items).get key = items[index] := by
  have read : index? key = some index := index?_eq_some_iff.mpr ⟨by omega, spells⟩
  rw [get, read, Option.bind_some, List.getElem?_eq_getElem inside, Option.getD_some]

theorem get_array_of_not_spells (missing : ∀ index < items.length, ¬ Numeral.Spells key index) :
    (Value.array items).get key = .undefined := by
  rw [get]
  cases read : index? key with
  | none => rfl
  | some index =>
      have outside : items.length ≤ index := by
        by_contra inside
        exact missing index (by omega) (index?_eq_some_iff.mp read).2
      rw [Option.bind_some, List.getElem?_eq_none outside, Option.getD_none]

end Arrays

/-! ## Look-up against keys -/

variable {value : Value} {key : String}

/-- Under a listed key there stands the part of that name. -/
theorem lookup?_parts_of_mem_keys (addressable : value.Addressable) (listed : key ∈ value.keys) :
    Fields.lookup? key value.parts = some (value.get key) := by
  cases value with
  | object tag fields =>
      have found : Fields.lookup? key fields ≠ none := by
        rw [Ne, Fields.lookup?_eq_none_iff, not_not]
        exact listed
      obtain ⟨part, isPart⟩ := Option.ne_none_iff_exists'.mp found
      rw [parts, get, isPart, Option.getD_some]
  | array items =>
      obtain ⟨index, inside, rfl⟩ := mem_keys_array.mp listed
      have unique : (Fields.keys (Value.array items).parts).Nodup := by
        rw [Fields.keys, map_fst_parts]
        exact nodup_keys_array items
      refine Fields.lookup?_of_mem unique ?_
      rw [get_array_of_spells (addressable items rfl) inside (Numeral.spells_toString index)]
      exact List.mem_map.mpr ⟨(items[index], index),
        List.mem_zipIdx_iff_getElem?.mpr (List.getElem?_eq_getElem inside), rfl⟩
  | _ => cases listed

/-- Under an unlisted key there stands nothing, unless the key respells an index of an array. -/
theorem get_of_not_mem_keys (unlisted : key ∉ value.keys)
    (respellsNone : ∀ items, value = .array items → ¬ Respells items key) :
    value.get key = .undefined := by
  cases value with
  | object tag fields =>
      rw [get, Fields.lookup?_eq_none_iff.mpr unlisted, Option.getD_none]
  | array items =>
      refine get_array_of_not_spells fun index inside spells => ?_
      refine respellsNone items rfl ⟨index, inside, spells, fun same => unlisted ?_⟩
      exact mem_keys_array.mpr ⟨index, inside, same⟩
  | _ => rfl

end Value

end SchemaMatch
