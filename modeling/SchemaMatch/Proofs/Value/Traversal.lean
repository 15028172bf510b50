import SchemaMatch.Proofs.Outcome
import SchemaMatch.Value.Json

/-!
Contract: values in the order in which they are gone through.

Owns:
- a value and all values inside it, from the outside in and from left to right;
- `Value.cause?_convert`: a conversion that goes through the parts of a value in their order
  fails for the first of them that is an obstacle.

Does not own: what is an obstacle to a conversion.
-/

namespace SchemaMatch

namespace Value

/-! ## Parts at any depth -/

mutual

/-- A value and all values inside it, each before those inside it. -/
def subvalues : Value → List Value
  | .array items => .array items :: subvaluesOfItems items
  | .object tag fields => .object tag fields :: subvaluesOfFields fields
  | leaf => [leaf]

def subvaluesOfItems : List Value → List Value
  | [] => []
  | item :: rest => subvalues item ++ subvaluesOfItems rest

def subvaluesOfFields : List (String × Value) → List Value
  | [] => []
  | (_, value) :: rest => subvalues value ++ subvaluesOfFields rest

end

/-- Values without other values inside. -/
def isLeaf : Value → Bool
  | .array _ => false
  | .object .. => false
  | _ => true

theorem subvalues_of_isLeaf {value : Value} (leaf : value.isLeaf = true) :
    value.subvalues = [value] := by
  cases value with
  | array items => cases leaf
  | object tag fields => cases leaf
  | _ => rfl

/-! ## The first obstacle -/

section Conversions

variable {ε α : Type} {convert : Value → Except ε α} {obstacle? : Value → Option ε}

/-- A conversion goes through a value: what is inside an array or an object decides about it, the
first part before the later ones, and other values decide for themselves. -/
structure GoesThrough (convert : Value → Except ε α) (obstacle? : Value → Option ε) : Prop where
  leaf : ∀ value, value.isLeaf = true → cause? (convert value) = obstacle? value
  container : ∀ value, value.isLeaf = false → obstacle? value = none
  array : ∀ items, cause? (convert (.array items)) =
    items.findSome? fun item => cause? (convert item)
  object : ∀ tag fields, cause? (convert (.object tag fields)) =
    fields.findSome? fun field => cause? (convert field.2)

mutual

theorem cause?_convert (through : GoesThrough convert obstacle?) (value : Value) :
    cause? (convert value) = value.subvalues.findSome? obstacle? :=
  match value with
  | .array items => by
      rw [subvalues, List.findSome?_cons, through.container _ rfl, through.array]
      exact findSome?_cause?_items through items
  | .object tag fields => by
      rw [subvalues, List.findSome?_cons, through.container _ rfl, through.object]
      exact findSome?_cause?_fields through fields
  | .undefined | .null | .bool _ | .number _ | .string _ | .date _ | .regex _ | .function _
  | .classTag _ => by
      rw [subvalues_of_isLeaf rfl, through.leaf _ rfl]
      simp

theorem findSome?_cause?_items (through : GoesThrough convert obstacle?) (items : List Value) :
    (items.findSome? fun item => cause? (convert item)) =
      (subvaluesOfItems items).findSome? obstacle? :=
  match items with
  | [] => rfl
  | item :: rest => by
      rw [subvaluesOfItems, List.findSome?_append, ← cause?_convert through item,
        ← findSome?_cause?_items through rest, List.findSome?_cons]
      cases cause? (convert item) <;> rfl

theorem findSome?_cause?_fields (through : GoesThrough convert obstacle?)
    (fields : List (String × Value)) :
    (fields.findSome? fun field => cause? (convert field.2)) =
      (subvaluesOfFields fields).findSome? obstacle? :=
  match fields with
  | [] => rfl
  | (key, value) :: rest => by
      rw [subvaluesOfFields, List.findSome?_append, ← cause?_convert through value,
        ← findSome?_cause?_fields through rest, List.findSome?_cons]
      cases cause? (convert value) <;> rfl

end

theorem convert_eq_error_iff (through : GoesThrough convert obstacle?) {value : Value}
    {cause : ε} :
    convert value = .error cause ↔ value.subvalues.findSome? obstacle? = some cause := by
  rw [← cause?_convert through, cause?_eq_some_iff]

theorem exists_convert_iff (through : GoesThrough convert obstacle?) {value : Value} :
    (∃ result, convert value = .ok result) ↔
      ∀ part ∈ value.subvalues, obstacle? part = none := by
  rw [← cause?_eq_none_iff, cause?_convert through, List.findSome?_eq_none_iff]

end Conversions

end Value

end SchemaMatch
