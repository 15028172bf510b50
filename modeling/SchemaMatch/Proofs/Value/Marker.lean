import SchemaMatch.Proofs.Value.Property
import SchemaMatch.Proofs.Value.Reordering

/-!
Contract: values that differ in what stands under the marker of extra keys.

Owns:
- fields that agree in their names and, the marker aside, in their values;
- values whose parts agree in this way, for any relation of the parts: their keys, their kinds and
  what they have under each key but the marker;
- values that differ under markers only, at any depth.

Does not own: schemas, whose markers count in some places.
-/

namespace SchemaMatch

open SchemaForm (markerKey)

/-! ## Fields -/

/-- Fields of one name whose values are related, by a relation of its own under the marker. -/
inductive MarkedField (marker related : Value → Value → Prop) :
    String × Value → String × Value → Prop where
  | marker {value other : Value} (pair : marker value other) :
      MarkedField marker related (markerKey, value) (markerKey, other)
  | part {name : String} (notMarker : name ≠ markerKey) {value other : Value}
      (pair : related value other) : MarkedField marker related (name, value) (name, other)

namespace MarkedField

variable {marker related : Value → Value → Prop} {field partner : String × Value}
  {fields others : List (String × Value)}

theorem refl (sameMarker : ∀ value, marker value value) (samePart : ∀ value, related value value)
    (field : String × Value) : MarkedField marker related field field := by
  obtain ⟨name, value⟩ := field
  by_cases isMarker : name = markerKey
  · subst isMarker
    exact .marker (sameMarker value)
  · exact .part isMarker (samePart value)

theorem name_eq (pair : MarkedField marker related field partner) : partner.1 = field.1 := by
  cases pair <;> rfl

theorem mono {weakerMarker weaker : Value → Value → Prop}
    (ofMarker : ∀ value other, marker value other → weakerMarker value other)
    (ofPart : ∀ value other, related value other → weaker value other)
    (pair : MarkedField marker related field partner) :
    MarkedField weakerMarker weaker field partner := by
  cases pair with
  | marker pair => exact .marker (ofMarker _ _ pair)
  | part notMarker pair => exact .part notMarker (ofPart _ _ pair)

theorem keys_eq (each : List.Forall₂ (MarkedField marker related) fields others) :
    Fields.keys others = Fields.keys fields := by
  induction each with
  | nil => rfl
  | cons pair _ inductionHypothesis =>
      rw [Fields.keys_cons, Fields.keys_cons, pair.name_eq, inductionHypothesis]

theorem lookup?_marker (each : List.Forall₂ (MarkedField marker related) fields others) :
    Option.Rel marker (Fields.lookup? markerKey fields) (Fields.lookup? markerKey others) := by
  induction each with
  | nil => exact .none
  | cons pair _ inductionHypothesis =>
      cases pair with
      | marker pair =>
          rw [Fields.lookup?, Fields.lookup?, if_pos rfl, if_pos rfl]
          exact .some pair
      | part notMarker =>
          rw [Fields.lookup?, Fields.lookup?, if_neg notMarker, if_neg notMarker]
          exact inductionHypothesis

theorem lookup?_part (each : List.Forall₂ (MarkedField marker related) fields others)
    {key : String} (notMarker : key ≠ markerKey) :
    Option.Rel related (Fields.lookup? key fields) (Fields.lookup? key others) := by
  induction each with
  | nil => exact .none
  | cons pair _ inductionHypothesis =>
      cases pair with
      | marker pair =>
          rw [Fields.lookup?, Fields.lookup?, if_neg notMarker.symm, if_neg notMarker.symm]
          exact inductionHypothesis
      | part _ pair =>
          rw [Fields.lookup?, Fields.lookup?]
          split
          · exact .some pair
          · exact inductionHypothesis

end MarkedField

namespace Value

/-! ## Parts -/

/-- Values with related parts: the elements of arrays are related one by one, and the fields of
objects as marked fields. -/
inductive SameParts (marker related : Value → Value → Prop) : Value → Value → Prop where
  | same (value : Value) : SameParts marker related value value
  | array {items others : List Value} (each : List.Forall₂ related items others) :
      SameParts marker related (.array items) (.array others)
  | object (tag : Option Class) {fields others : List (String × Value)}
      (each : List.Forall₂ (MarkedField marker related) fields others) :
      SameParts marker related (.object tag fields) (.object tag others)

/-- No index is the marker. -/
theorem toString_ne_markerKey (index : Nat) : toString index ≠ markerKey := by
  intro same
  have digits : Nat.toDigits 10 index = markerKey.toList := by
    rw [← Nat.toList_repr]
    exact congrArg String.toList same
  have isDigit := Numeral.isDigit_of_mem_toDigits index '_' (by rw [digits]; decide)
  exact absurd isDigit (by decide)

namespace SameParts

variable {marker related : Value → Value → Prop} {value other : Value}

theorem mono {weakerMarker weaker : Value → Value → Prop}
    (ofMarker : ∀ value other, marker value other → weakerMarker value other)
    (ofPart : ∀ value other, related value other → weaker value other)
    (alike : SameParts marker related value other) :
    SameParts weakerMarker weaker value other := by
  cases alike with
  | same => exact .same value
  | array each => exact .array (each.imp ofPart)
  | object tag each => exact .object tag (each.imp fun _ _ => MarkedField.mono ofMarker ofPart)

theorem isUndefined_eq (alike : SameParts marker related value other) :
    other.isUndefined = value.isUndefined := by
  cases alike <;> rfl

theorem keys_eq (alike : SameParts marker related value other) : other.keys = value.keys := by
  cases alike with
  | same => rfl
  | array each => rw [keys, keys, each.length_eq]
  | object tag each => exact MarkedField.keys_eq each

section Reflexive

variable (sameMarker : ∀ value, marker value value) (samePart : ∀ value, related value value)

include samePart

theorem get (alike : SameParts marker related value other) {key : String}
    (notMarker : key ≠ markerKey) : related (value.get key) (other.get key) := by
  cases alike with
  | same => exact samePart _
  | array each =>
      refine rel_getD (samePart _) ?_
      cases index? key with
      | none => exact .none
      | some index => exact rel_getElem? each index
  | object tag each => exact rel_getD (samePart _) (MarkedField.lookup?_part each notMarker)

include sameMarker

/-- The parts of an array are named by their indices. -/
theorem parts (alike : SameParts marker related value other) :
    List.Forall₂ (MarkedField marker related) value.parts other.parts := by
  cases alike with
  | same => exact List.forall₂_same.mpr fun field _ => .refl sameMarker samePart field
  | array each =>
      rw [Value.parts, Value.parts, List.forall₂_map_left_iff, List.forall₂_map_right_iff,
        List.forall₂_iff_get]
      refine ⟨by simp [each.length_eq], fun index inItems inOthers => ?_⟩
      simp only [List.get_eq_getElem, List.getElem_zipIdx, Nat.zero_add]
      exact .part (toString_ne_markerKey index) ((List.forall₂_iff_get.mp each).2 index _ _)
  | object tag each => exact each

end Reflexive

end SameParts

/-! ## Values up to their markers -/

/-- Values that differ only in what their objects hold under the marker, at any depth. -/
inductive SameButMarkers : Value → Value → Prop where
  | of_parts {value other : Value} (alike : SameParts (fun _ _ => True) SameButMarkers value other) :
      SameButMarkers value other

theorem SameButMarkers.refl (value : Value) : SameButMarkers value value :=
  .of_parts (.same value)

end Value

end SchemaMatch
