import Mathlib.Data.List.Perm.Basic
import SchemaMatch.Proofs.Value.Rearrangement

/-!
Contract: values with the fields of their objects in another order.

Owns:
- the relation of a value and what permuting the fields of objects inside it makes of it;
- what a reordering keeps: unique names and, up to the same relation, the values under keys and
  indices.

Does not own: what checks make of reordered values.
-/

namespace SchemaMatch

theorem exists_of_rel_some {α β : Type} {related : α → β → Prop} {value : Option α} {other : β}
    (pair : Option.Rel related value (some other)) :
    ∃ original, value = some original ∧ related original other := by
  cases pair with
  | some pair => exact ⟨_, rfl, pair⟩

theorem rel_getElem? {α β : Type} {related : α → β → Prop} {items : List α} {others : List β}
    (each : List.Forall₂ related items others) (index : Nat) :
    Option.Rel related items[index]? others[index]? := by
  induction each generalizing index with
  | nil => exact .none
  | cons first _ inductionHypothesis =>
      cases index with
      | zero => exact .some first
      | succ index => exact inductionHypothesis index

/-- What is missing is undefined on both sides. -/
theorem rel_getD {related : Value → Value → Prop} (absent : related .undefined .undefined)
    {value other : Option Value} (pair : Option.Rel related value other) :
    related (value.getD .undefined) (other.getD .undefined) := by
  cases pair with
  | none => exact absent
  | some pair => exact pair

namespace Fields

variable {α : Type} {related : α → α → Prop} {fields others : List (String × α)}

/-- Fields of one name with related values. -/
inductive Paired (related : α → α → Prop) : String × α → String × α → Prop where
  | intro (name : String) {value other : α} (pair : related value other) :
      Paired related (name, value) (name, other)

theorem keys_of_paired (pairs : List.Forall₂ (Paired related) fields others) :
    keys fields = keys others := by
  induction pairs with
  | nil => rfl
  | cons pair _ inductionHypothesis =>
      obtain ⟨name, _⟩ := pair
      rw [keys_cons, keys_cons, inductionHypothesis]

theorem lookup?_of_paired (pairs : List.Forall₂ (Paired related) fields others) (key : String) :
    Option.Rel related (lookup? key fields) (lookup? key others) := by
  induction pairs with
  | nil => exact .none
  | cons pair _ inductionHypothesis =>
      obtain ⟨name, pair⟩ := pair
      rw [lookup?, lookup?]
      split
      · exact .some pair
      · exact inductionHypothesis

theorem lookup?_eq_some_iff {key : String} {value : α} (unique : (keys fields).Nodup) :
    lookup? key fields = some value ↔ (key, value) ∈ fields :=
  ⟨mem_of_lookup?, lookup?_of_mem unique⟩

/-- Where names are unique, their order does not matter to look-up. -/
theorem lookup?_perm (order : fields.Perm others) (unique : (keys fields).Nodup) (key : String) :
    lookup? key fields = lookup? key others := by
  have uniqueOthers : (keys others).Nodup := (order.map Prod.fst).nodup_iff.mp unique
  refine Option.ext fun value => ?_
  rw [lookup?_eq_some_iff unique, lookup?_eq_some_iff uniqueOthers, order.mem_iff]

end Fields

namespace Value

theorem namesUnique_get {value : Value} (unique : value.namesUnique = true) (key : String) :
    (value.get key).namesUnique = true :=
  everywhere_get rfl unique key

/-- Values that differ in the order of fields only, at any depth. Objects keep their class tags,
unlike those that are only equal up to order. -/
inductive Reordered : Value → Value → Prop where
  | same (value : Value) : Reordered value value
  | array {left right : List Value} (items : List.Forall₂ Reordered left right) :
      Reordered (.array left) (.array right)
  | object (tag : Option Class) {left middle right : List (String × Value)}
      (order : left.Perm middle) (values : List.Forall₂ (Fields.Paired Reordered) middle right) :
      Reordered (.object tag left) (.object tag right)

namespace Reordered

/-- The fields of the outermost object permuted. -/
theorem of_perm (tag : Option Class) {fields others : List (String × Value)}
    (order : fields.Perm others) : Reordered (.object tag fields) (.object tag others) :=
  .object tag order (List.forall₂_same.mpr fun field _ => .intro field.1 (.same field.2))

/-- Induction over a reordering. What is known of the parts comes pair by pair. -/
@[elab_as_elim]
theorem induct {motive : ∀ left right, Reordered left right → Prop}
    (same : ∀ value, motive value value (.same value))
    (array : ∀ {left right : List Value} (items : List.Forall₂ Reordered left right),
      List.Forall₂ (fun item other => ∃ pair, motive item other pair) left right →
      motive (.array left) (.array right) (.array items))
    (object : ∀ (tag : Option Class) {left middle right : List (String × Value)}
      (order : left.Perm middle) (values : List.Forall₂ (Fields.Paired Reordered) middle right),
      List.Forall₂ (Fields.Paired fun value other => ∃ pair, motive value other pair)
        middle right →
      motive (.object tag left) (.object tag right) (.object tag order values))
    {left right : Value} (reordered : Reordered left right) : motive left right reordered :=
  @Reordered.rec motive
    (fun left right _ => List.Forall₂ (fun item other => ∃ pair, motive item other pair) left right)
    (fun left right _ =>
      List.Forall₂ (Fields.Paired fun value other => ∃ pair, motive value other pair) left right)
    (fun field other _ =>
      Fields.Paired (fun value other => ∃ pair, motive value other pair) field other)
    same (fun items known => array items known)
    (fun tag _ _ _ order values known => object tag order values known)
    .nil (fun pair _ known rest => .cons ⟨pair, known⟩ rest)
    .nil (fun _ _ known rest => .cons known rest)
    (fun name _ _ pair known => .intro name ⟨pair, known⟩) left right reordered

variable {left right : Value}

theorem symm (reordered : Reordered left right) : Reordered right left := by
  induction reordered using induct with
  | same value => exact .same value
  | array items known => exact .array (known.imp fun _ _ ⟨_, back⟩ => back).flip
  | object tag order values known =>
      obtain ⟨middle, back, orderBack⟩ := List.perm_comp_forall₂ order known
      exact .object tag orderBack.symm
        (back.imp fun _ _ ⟨name, ⟨_, back⟩⟩ => Fields.Paired.intro name back).flip

/-- The fields of an object, as a reordering finds them. -/
theorem of_object {tag : Option Class} {fields : List (String × Value)}
    (reordered : Reordered (.object tag fields) right) :
    ∃ middle others, right = .object tag others ∧ fields.Perm middle ∧
      List.Forall₂ (Fields.Paired Reordered) middle others := by
  cases reordered with
  | same => exact ⟨fields, fields, rfl, .refl _, List.forall₂_same.mpr fun field _ =>
      .intro field.1 (.same field.2)⟩
  | object _ order values => exact ⟨_, _, rfl, order, values⟩

theorem of_array {items : List Value} (reordered : Reordered (.array items) right) :
    ∃ others, right = .array others ∧ List.Forall₂ Reordered items others := by
  cases reordered with
  | same => exact ⟨items, rfl, List.forall₂_same.mpr fun item _ => .same item⟩
  | array items => exact ⟨_, rfl, items⟩

/-- A reordering names no field twice if the value does not. -/
theorem namesUnique (reordered : Reordered left right) (unique : left.namesUnique = true) :
    right.namesUnique = true := by
  induction reordered using induct with
  | same => exact unique
  | array items known =>
      have inLeft := everywhereInItems_iff.mp unique
      refine everywhereInItems_iff.mpr fun item member => ?_
      obtain ⟨original, isOriginal, ⟨_, kept⟩⟩ := mem_of_forall₂ known member
      exact kept (inLeft original isOriginal)
  | object tag order values known =>
      obtain ⟨uniqueHere, uniqueBelow⟩ := Bool.and_eq_true_iff.mp unique
      have inLeft := everywhereInFields_iff.mp uniqueBelow
      have sameKeys := (order.map Prod.fst).nodup_iff.mp (of_decide_eq_true uniqueHere)
      refine Bool.and_eq_true_iff.mpr ⟨?_, everywhereInFields_iff.mpr fun field member => ?_⟩
      · refine decide_eq_true ?_
        rw [← Fields.keys_of_paired values]
        exact sameKeys
      · obtain ⟨original, isOriginal, ⟨name, ⟨_, kept⟩⟩⟩ := mem_of_forall₂ known member
        exact kept (inLeft _ (order.mem_iff.mpr isOriginal))

/-- Under each name there stands the same, up to order. -/
theorem lookup? {tag : Option Class} {fields others : List (String × Value)}
    (reordered : Reordered (.object tag fields) (.object tag others))
    (unique : (Value.object tag fields).namesUnique = true) (key : String) :
    Option.Rel Reordered (Fields.lookup? key fields) (Fields.lookup? key others) := by
  obtain ⟨middle, _, same, order, values⟩ := reordered.of_object
  cases same
  rw [Fields.lookup?_perm order (of_decide_eq_true (holds_of_everywhere unique))]
  exact Fields.lookup?_of_paired values key

theorem get (reordered : Reordered left right) (unique : left.namesUnique = true) (key : String) :
    Reordered (left.get key) (right.get key) := by
  cases left with
  | object tag fields =>
      obtain ⟨_, others, rfl, -, -⟩ := reordered.of_object
      exact rel_getD (.same _) (reordered.lookup? unique key)
  | array items =>
      obtain ⟨others, rfl, each⟩ := reordered.of_array
      refine rel_getD (.same _) ?_
      cases index? key with
      | none => exact .none
      | some index => exact rel_getElem? each index
  | _ => cases reordered; exact .same _

theorem keys_perm (reordered : Reordered left right) : left.keys.Perm right.keys := by
  cases reordered with
  | same => exact .refl _
  | array items => rw [keys, keys, items.length_eq]
  | object tag order values =>
      rw [keys, keys, ← Fields.keys_of_paired values]
      exact order.map Prod.fst

/-- Each part of a reordering is that of the value under the same name, up to order. -/
theorem exists_part (reordered : Reordered left right) {part : String × Value}
    (member : part ∈ right.parts) :
    ∃ value, (part.1, value) ∈ left.parts ∧ Reordered value part.2 := by
  cases reordered with
  | same => exact ⟨part.2, member, .same _⟩
  | array each =>
      obtain ⟨entry, isEntry, rfl⟩ := List.mem_map.mp member
      have found := rel_getElem? each entry.2
      rw [List.mem_zipIdx_iff_getElem?.mp isEntry] at found
      obtain ⟨original, isOriginal, pair⟩ := exists_of_rel_some found
      exact ⟨original, List.mem_map.mpr ⟨(original, entry.2),
        List.mem_zipIdx_iff_getElem?.mpr isOriginal, rfl⟩, pair⟩
  | object tag order values =>
      obtain ⟨original, isOriginal, ⟨name, pair⟩⟩ := mem_of_forall₂ values member
      exact ⟨_, order.mem_iff.mpr isOriginal, pair⟩

end Reordered

end Value

end SchemaMatch
