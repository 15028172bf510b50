import SchemaMatch.Proofs.Schema.Reordering
import SchemaMatch.Proofs.Value.Marker

/-!
Contract: schemas that differ in what stands under the marker of extra keys.

Owns:
- what a marker keeps that sets the same policy;
- schemas that differ under markers only: in shorthand objects the markers keep their policy, and in
  the data of explicit items they are free;
- the reading of such schemas: items with the same fields, whose data has the same names and
  related parts, or the same violation.

Does not own: checks against such schemas.
-/

namespace SchemaMatch

open SchemaForm (markerKey isExplicit)
open Value (SameParts)

/-! ## Markers -/

/-- A marker that sets the same policy. It stays false and stays undefined, and is neither if it
was neither. -/
structure KeepsMarker (value other : Value) : Prop where
  isFalse : other = .bool false ↔ value = .bool false
  isUndefined : other.isUndefined = value.isUndefined

namespace KeepsMarker

theorem refl (value : Value) : KeepsMarker value value := ⟨Iff.rfl, rfl⟩

theorem ofMarker_eq_false_iff {value : Value} :
    Policy.ofMarker value = false ↔ value = .bool false := by
  cases value with
  | bool permits => cases permits <;> simp [Policy.ofMarker]
  | _ => simp [Policy.ofMarker]

theorem ofMarker_eq {value other : Value} (keeps : KeepsMarker value other) :
    Policy.ofMarker other = Policy.ofMarker value := by
  rw [Bool.eq_iff_iff, ← not_iff_not, Bool.not_eq_true, Bool.not_eq_true, ofMarker_eq_false_iff,
    ofMarker_eq_false_iff]
  exact keeps.isFalse

theorem defined? {value other : Value} (keeps : KeepsMarker value other) :
    Option.Rel KeepsMarker value.defined? other.defined? := by
  unfold Value.defined?
  rw [keeps.isUndefined]
  split
  · exact .none
  · exact .some keeps

theorem own?_eq {marker other : Option Value} (pair : Option.Rel KeepsMarker marker other)
    (setting : Option Bool) : Policy.own? other setting = Policy.own? marker setting := by
  cases pair with
  | none => rfl
  | some keeps => exact congrArg some keeps.ofMarker_eq

end KeepsMarker

/-! ## Schemas -/

/-- Fields of an explicit item that are the same, except that the parts of its data are related.
What stands under the marker there is free. -/
inductive ItemField (related : Value → Value → Prop) : String × Value → String × Value → Prop where
  | data {value other : Value} (alike : SameParts (fun _ _ => True) related value other) :
      ItemField related ("data", value) ("data", other)
  | kept (field : String × Value) : ItemField related field field

/-- Schemas that differ under markers only, and set the same policies. Shorthand may differ in its
parts, and explicit items of kind object or array in the parts of their data. -/
inductive SamePolicies : Value → Value → Prop where
  | same (schema : Value) : SamePolicies schema schema
  | shorthand {schema other : Value}
      (isShorthand : (SchemaForm.ofValue schema).isShorthand = true)
      (alike : SameParts KeepsMarker SamePolicies schema other) : SamePolicies schema other
  | explicit (tag : Option Class) {fields others : List (String × Value)}
      (explicit : isExplicit fields = true)
      (holdsParts : Fields.lookup? "type" fields = some (.string "object") ∨
        Fields.lookup? "type" fields = some (.string "array"))
      (each : List.Forall₂ (ItemField SamePolicies) fields others) :
      SamePolicies (.object tag fields) (.object tag others)

theorem SamePolicies.isUndefined_eq {schema other : Value} (policies : SamePolicies schema other) :
    other.isUndefined = schema.isUndefined := by
  cases policies with
  | same => rfl
  | shorthand _ alike => exact alike.isUndefined_eq
  | explicit => rfl

/-! ## Explicit items -/

namespace ItemField

variable {related : Value → Value → Prop} {fields others : List (String × Value)}

theorem keys_eq (each : List.Forall₂ (ItemField related) fields others) :
    Fields.keys others = Fields.keys fields := by
  induction each with
  | nil => rfl
  | cons pair _ inductionHypothesis =>
      rw [Fields.keys_cons, Fields.keys_cons, inductionHypothesis]
      cases pair <;> rfl

theorem lookup?_of_ne (each : List.Forall₂ (ItemField related) fields others) {key : String}
    (notData : key ≠ "data") : Fields.lookup? key others = Fields.lookup? key fields := by
  induction each with
  | nil => rfl
  | cons pair _ inductionHypothesis =>
      rw [Fields.lookup?, Fields.lookup?, inductionHypothesis]
      cases pair with
      | data => rw [if_neg notData.symm, if_neg notData.symm]
      | kept => rfl

theorem lookup?_data (each : List.Forall₂ (ItemField related) fields others) :
    Option.Rel (SameParts (fun _ _ => True) related)
      (Fields.lookup? "data" fields) (Fields.lookup? "data" others) := by
  induction each with
  | nil => exact .none
  | cons pair _ inductionHypothesis =>
      rw [Fields.lookup?, Fields.lookup?]
      cases pair with
      | data alike =>
          rw [if_pos rfl, if_pos rfl]
          exact .some alike
      | kept field =>
          split
          · exact .some (.same _)
          · exact inductionHypothesis

theorem isExplicit_eq (each : List.Forall₂ (ItemField related) fields others) :
    isExplicit others = isExplicit fields := by
  rw [isExplicit, isExplicit, keys_eq each, lookup?_of_ne each (by decide)]

theorem field?_of_ne (each : List.Forall₂ (ItemField related) fields others) {key : String}
    (notData : key ≠ "data") : Item.field? key others = Item.field? key fields := by
  rw [Item.field?, Item.field?, lookup?_of_ne each notData]

theorem field?_data (each : List.Forall₂ (ItemField related) fields others) :
    Option.Rel (SameParts (fun _ _ => True) related)
      (Item.field? "data" fields) (Item.field? "data" others) := by
  unfold Item.field?
  have pair := lookup?_data each
  generalize Fields.lookup? "data" fields = value at pair
  generalize Fields.lookup? "data" others = other at pair
  cases pair with
  | none => exact .none
  | some alike =>
      simp only [Option.bind_some, Value.defined?, alike.isUndefined_eq]
      split
      · exact .none
      · exact .some alike

/-- The data of an item is not examined with its fields. -/
theorem examineAll_eq (each : List.Forall₂ (ItemField related) fields others) :
    Item.examineAll (Item.definedFields others) = Item.examineAll (Item.definedFields fields) := by
  induction each with
  | nil => rfl
  | cons pair _ inductionHypothesis =>
      cases pair with
      | data =>
          rw [Item.examineAll_cons_of_ok _ rfl, Item.examineAll_cons_of_ok _ rfl,
            inductionHypothesis]
      | kept field =>
          unfold Item.definedFields at inductionHypothesis ⊢
          rw [List.filter_cons, List.filter_cons]
          split
          · rw [Item.examineAll, Item.examineAll, inductionHypothesis]
          · exact inductionHypothesis

theorem examineData_eq {marker : Value → Value → Prop} (kind : Kind) {data other : Option Value}
    (pair : Option.Rel (SameParts marker related) data other) :
    Item.examineData kind other = Item.examineData kind data := by
  cases pair with
  | none => rfl
  | some alike =>
      cases alike with
      | same => rfl
      | array => cases kind <;> rfl
      | object => cases kind <;> rfl

/-- The items that such fields stand for differ in their data only, and so do none that are
malformed. -/
theorem ofFields?_eq (each : List.Forall₂ (ItemField related) fields others) :
    Item.ofFields? others =
      (Item.ofFields? fields).map fun item =>
        { item with data := Item.field? "data" others } := by
  have sameData := fun kind => examineData_eq kind (field?_data each)
  simp only [Item.ofFields?, examineAll_eq each, sameData,
    field?_of_ne each (by decide : "type" ≠ "data"), field?_of_ne each (by decide : "class" ≠ "data"),
    field?_of_ne each (by decide : "calls" ≠ "data"),
    field?_of_ne each (by decide : "allowExtraKeys" ≠ "data")]
  cases Item.examineAll (Item.definedFields fields) with
  | error violation => rfl
  | ok _ =>
  cases Item.kind? ((Item.field? "type" fields).getD .undefined) with
  | error violation => rfl
  | ok kind =>
  simp only [bind, Except.bind]
  cases Item.examineData kind (Item.field? "data" fields) with
  | error violation => rfl
  | ok _ =>
  cases Item.optional Item.class? (Item.field? "class" fields) with
  | error violation => rfl
  | ok tag =>
  cases Item.optional Item.calls? (Item.field? "calls" fields) with
  | error violation => rfl
  | ok calls =>
  cases Item.optional Item.allowExtraKeys? (Item.field? "allowExtraKeys" fields) with
  | error violation => rfl
  | ok setting => rfl

end ItemField

/-! ## Items -/

/-- Items that differ in the parts of their data only, and there under markers or in schemas that
set the same policies. -/
structure Item.MarkedLike (item other : Item) : Prop where
  kind : other.kind = item.kind
  tag : other.tag = item.tag
  calls : other.calls = item.calls
  allowExtraKeys : other.allowExtraKeys = item.allowExtraKeys
  isSome : other.data.isSome = item.data.isSome
  data : item.kind ≠ .object → item.kind ≠ .array → other.data = item.data
  parts : List.Forall₂ (MarkedField (fun _ _ => True) SamePolicies) item.parts other.parts

namespace Item

/-- What a schema is read as, and what a schema is read as that sets the same policies. -/
inductive ReadAlike : Except Violation Item → Except Violation Item → Prop where
  | malformed (violation : Violation) : ReadAlike (.error violation) (.error violation)
  | wellFormed {item other : Item} (alike : item.MarkedLike other) :
      ReadAlike (.ok item) (.ok other)

theorem MarkedLike.refl (item : Item) : item.MarkedLike item where
  kind := rfl
  tag := rfl
  calls := rfl
  allowExtraKeys := rfl
  isSome := rfl
  data _ _ := rfl
  parts := List.forall₂_same.mpr fun part _ =>
    .refl (fun _ => trivial) (fun schema => .same schema) part

theorem ReadAlike.refl (read : Except Violation Item) : ReadAlike read read := by
  cases read with
  | error violation => exact .malformed violation
  | ok item => exact .wellFormed (.refl item)

/-- Data with related parts gives an item related parts. -/
theorem forall₂_parts {item other : Item}
    (pair : Option.Rel (SameParts (fun _ _ => True) SamePolicies) item.data other.data) :
    List.Forall₂ (MarkedField (fun _ _ => True) SamePolicies) item.parts other.parts := by
  unfold parts
  generalize item.data = data at pair
  generalize other.data = otherData at pair
  cases pair with
  | none => exact .nil
  | some alike => exact alike.parts (fun _ => trivial) fun schema => .same schema

theorem isSome_of_rel {α β : Type} {related : α → β → Prop} {value : Option α} {other : Option β}
    (pair : Option.Rel related value other) : other.isSome = value.isSome := by
  cases pair <;> rfl

theorem readAlike_of_itemFields {fields others : List (String × Value)}
    (holdsParts : Fields.lookup? "type" fields = some (.string "object") ∨
      Fields.lookup? "type" fields = some (.string "array"))
    (each : List.Forall₂ (ItemField SamePolicies) fields others) :
    ReadAlike (ofFields? fields) (ofFields? others) := by
  rw [ItemField.ofFields?_eq each]
  cases read : ofFields? fields with
  | error violation => exact .malformed violation
  | ok item =>
      obtain ⟨-, kind, data, -⟩ := ofFields?_eq_ok_iff.mp read
      have isKind : item.kind = .object ∨ item.kind = .array := by
        rcases holdsParts with isObject | isArray
        · rw [field?, isObject] at kind
          exact .inl (Except.ok.inj kind).symm
        · rw [field?, isArray] at kind
          exact .inr (Except.ok.inj kind).symm
      have pair : Option.Rel (SameParts (fun _ _ => True) SamePolicies) item.data
          (field? "data" others) := data ▸ ItemField.field?_data each
      refine .wellFormed ⟨rfl, rfl, rfl, rfl, isSome_of_rel pair, ?_, forall₂_parts pair⟩
      intro notObject notArray
      rcases isKind with isObject | isArray
      · exact absurd isObject notObject
      · exact absurd isArray notArray

theorem MarkedLike.of_shorthand {schema other : Value} (kind : Kind)
    (alike : SameParts KeepsMarker SamePolicies schema other)
    (leaf : kind ≠ .object → kind ≠ .array → other = schema) :
    (ofShorthand kind schema none).MarkedLike (ofShorthand kind other none) where
  kind := rfl
  tag := rfl
  calls := rfl
  allowExtraKeys := rfl
  isSome := by simp only [ofShorthand, Value.defined?, alike.isUndefined_eq]; split <;> rfl
  data notObject notArray := by rw [leaf notObject notArray]
  parts := by
    rw [parts_ofShorthand, parts_ofShorthand]
    refine (alike.parts .refl fun schema => .same schema).imp fun part partner pair => ?_
    cases pair with
    | marker => exact .marker trivial
    | part notMarker pair => exact .part notMarker pair

end Item

/-- The parts of an array item are named by their indices. -/
theorem Item.ne_markerKey_of_array {schema : Value} {item : Item}
    (read : Item.ofForm? (SchemaForm.ofValue schema) = .ok item) (isArray : item.kind = .array)
    {part : String × Value} (isPart : part ∈ item.parts) : part.1 ≠ markerKey := by
  rw [Item.parts_eq] at isPart
  rcases Item.data_of_array read isArray with absent | ⟨items, isItems⟩
  · rw [absent] at isPart
    cases isPart
  · rw [isItems] at isPart
    obtain ⟨entry, -, rfl⟩ := List.mem_map.mp isPart
    exact Value.toString_ne_markerKey entry.2

/-! ## Reading -/

namespace SchemaForm

section Parts

variable {marker related : Value → Value → Prop} {schema other : Value}
  (keepsUndefined : ∀ {value other}, related value other → other.isUndefined = value.isUndefined)

include keepsUndefined

theorem isExplicit_eq_of_markedFields {fields others : List (String × Value)}
    (each : List.Forall₂ (MarkedField marker related) fields others) :
    isExplicit others = isExplicit fields := by
  have pair := MarkedField.lookup?_part each (by decide : "type" ≠ markerKey)
  rw [isExplicit, isExplicit, MarkedField.keys_eq each]
  generalize Fields.lookup? "type" fields = value at pair
  generalize Fields.lookup? "type" others = other at pair
  cases pair with
  | none => rfl
  | some pair => simp only [keepsUndefined pair]

/-- Shorthand stays shorthand of its kind, and only that of objects and arrays has parts. -/
theorem exists_form_of_shorthand (isShorthand : (ofValue schema).isShorthand = true)
    (alike : SameParts marker related schema other) :
    ∃ kind, ofValue schema = .shorthand kind schema ∧ ofValue other = .shorthand kind other ∧
      (kind ≠ .object → kind ≠ .array → other = schema) := by
  cases alike with
  | same =>
      cases form : ofValue schema with
      | shorthand kind data =>
          obtain rfl := value_of_shorthand form
          exact ⟨kind, rfl, rfl, fun _ _ => rfl⟩
      | explicit => rw [form] at isShorthand; cases isShorthand
  | array each => exact ⟨.array, rfl, rfl, fun _ notArray => absurd rfl notArray⟩
  | object tag each =>
      rename_i fields others
      have notExplicit : isExplicit fields = false := by
        rw [ofValue_object] at isShorthand
        split at isShorthand
        · cases isShorthand
        next shorthand => exact Bool.eq_false_iff.mpr shorthand
      have otherNotExplicit : isExplicit others = false := by
        rw [isExplicit_eq_of_markedFields keepsUndefined each, notExplicit]
      refine ⟨.object, ?_, ?_, fun notObject _ => absurd rfl notObject⟩
      · rw [ofValue_object, if_neg (Bool.eq_false_iff.mp notExplicit)]
      · rw [ofValue_object, if_neg (Bool.eq_false_iff.mp otherNotExplicit)]

end Parts

/-- Shorthand whose marker sets the same policy says the same about extra keys. -/
theorem own?_eq_of_shorthand {related : Value → Value → Prop} {schema other : Value}
    (keepsUndefined : ∀ {value other}, related value other → other.isUndefined = value.isUndefined)
    (isShorthand : (ofValue schema).isShorthand = true)
    (alike : SameParts KeepsMarker related schema other) (setting : Option Bool) :
    Policy.own? (ofValue other).marker? setting = Policy.own? (ofValue schema).marker? setting := by
  obtain ⟨kind, form, otherForm, -⟩ := exists_form_of_shorthand keepsUndefined isShorthand alike
  rw [form, otherForm]
  cases alike with
  | same => rfl
  | array => cases kind <;> rfl
  | object tag each =>
      cases kind with
      | object =>
          refine KeepsMarker.own?_eq ?_ setting
          have pair := MarkedField.lookup?_marker each
          simp only [marker?]
          generalize Fields.lookup? markerKey _ = value at pair ⊢
          generalize Fields.lookup? markerKey _ = partner at pair ⊢
          cases pair with
          | none => exact .none
          | some keeps => exact keeps.defined?
      | _ => rfl

end SchemaForm

namespace SamePolicies

variable {schema other : Value}

/-- Schemas that set the same policies are read alike. -/
theorem readAlike (policies : SamePolicies schema other) :
    Item.ReadAlike (Item.ofForm? (SchemaForm.ofValue schema))
      (Item.ofForm? (SchemaForm.ofValue other)) := by
  cases policies with
  | same => exact .refl _
  | shorthand isShorthand alike =>
      obtain ⟨kind, form, otherForm, leaf⟩ :=
        SchemaForm.exists_form_of_shorthand SamePolicies.isUndefined_eq isShorthand alike
      rw [Item.ofForm?_of_shorthand form, Item.ofForm?_of_shorthand otherForm]
      exact .wellFormed (.of_shorthand kind alike leaf)
  | explicit tag explicit holdsParts each =>
      have otherExplicit := (ItemField.isExplicit_eq each).trans explicit
      rw [SchemaForm.ofValue_object, SchemaForm.ofValue_object, if_pos explicit,
        if_pos otherExplicit]
      exact Item.readAlike_of_itemFields holdsParts each

/-- Such schemas say the same about extra keys themselves. -/
theorem own?_eq (policies : SamePolicies schema other) (setting : Option Bool) :
    Policy.own? (SchemaForm.ofValue other).marker? setting =
      Policy.own? (SchemaForm.ofValue schema).marker? setting := by
  cases policies with
  | same => rfl
  | shorthand isShorthand alike =>
      exact SchemaForm.own?_eq_of_shorthand SamePolicies.isUndefined_eq isShorthand alike setting
  | explicit tag explicit _ each =>
      have otherExplicit := (ItemField.isExplicit_eq each).trans explicit
      rw [SchemaForm.ofValue_object, SchemaForm.ofValue_object, if_pos explicit,
        if_pos otherExplicit]
      rfl

end SamePolicies

end SchemaMatch
