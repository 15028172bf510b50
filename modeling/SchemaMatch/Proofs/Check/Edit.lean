import SchemaMatch.Proofs.Check.Resemblance

/-!
Contract: edits of data where no schema looks.

Owns:
- coverage, which says which schemas are compared with which parts of a value;
- edited values: arrays keep their elements and objects their class and what is under declared
  keys, except objects that nothing is compared with;
- what an edit leaves as it is: what a check sees of the value itself and, up to edits below, the
  values under declared keys and indices.

Does not own: which parts of its data a check covers.
-/

namespace SchemaMatch

theorem Fields.lookup?_filter_of_ne {α : Type} {key other : String} (different : key ≠ other)
    (fields : List (String × α)) :
    lookup? other (fields.filter fun field => field.1 ≠ key) = lookup? other fields :=
  lookup?_filter (fun name => name ≠ key) (decide_eq_true different.symm) fields

/-! ## Coverage -/

/-- Which schemas are compared with which parts of a value. Segments lead to the part. -/
abbrev Coverage := List Segment → Value → Prop

/-- The element of an array that a segment leads to. Keys are indices if they read as such. -/
def Segment.index? : Segment → Option Nat
  | .index position => some position
  | .key name => Value.index? name

namespace Coverage

/-- What is compared below a segment. -/
def below (coverage : Coverage) (segment : Segment) : Coverage :=
  fun segments schema => coverage (segment :: segments) schema

/-- What is compared with an element of an array and its parts, by whatever segment. -/
def element (coverage : Coverage) (index : Nat) : Coverage :=
  fun segments schema => ∃ segment : Segment, segment.index? = some index ∧
    coverage (segment :: segments) schema

end Coverage

/-- A schema declares a key if it is an object item with that key in its data. The marker is not
declared. -/
def Value.Declares (schema : Value) (key : String) : Prop :=
  ∃ item, Item.ofForm? (SchemaForm.ofValue schema) = .ok item ∧ item.kind = .object ∧
    key ∈ Position.declaredKeys item ∧ key ≠ SchemaForm.markerKey

theorem Value.Declares.mem_declaredKeys {schema : Value} {key : String} {item : Item}
    (declares : schema.Declares key) (read : Item.ofForm? (SchemaForm.ofValue schema) = .ok item) :
    key ∈ Position.declaredKeys item := by
  obtain ⟨other, readAgain, -, declared, -⟩ := declares
  obtain rfl := Except.ok.inj (read.symm.trans readAgain)
  exact declared

/-! ## Edited values -/

/-- Values that differ only in fields that no schema compared with their object declares. -/
inductive Edited : Coverage → Value → Value → Prop where
  | same (coverage : Coverage) (value : Value) : Edited coverage value value
  | array {coverage : Coverage} {before after : List Value} (length : after.length = before.length)
      (elements : ∀ index left right, before[index]? = some left → after[index]? = some right →
        Edited (coverage.element index) left right) :
      Edited coverage (.array before) (.array after)
  | object {coverage : Coverage} (tag : Option Class) {before after : List (String × Value)}
      (declared : ∀ schema key, coverage [] schema → schema.Declares key →
        Edited (coverage.below (.key key))
          ((Value.object tag before).get key) ((Value.object tag after).get key)) :
      Edited coverage (.object tag before) (.object tag after)
  /-- Objects that no schema is compared with may become any others. -/
  | unreached {coverage : Coverage} (leftTag rightTag : Option Class)
      (before after : List (String × Value)) (unreached : ∀ schema, ¬ coverage [] schema) :
      Edited coverage (.object leftTag before) (.object rightTag after)

namespace Edited

variable {coverage fewer : Coverage} {before after : Value}

/-- Where less is compared, more edits go unseen. -/
theorem mono (edited : Edited coverage before after)
    (isFewer : ∀ segments schema, fewer segments schema → coverage segments schema) :
    Edited fewer before after := by
  induction edited generalizing fewer with
  | same coverage value => exact .same fewer value
  | array length _ inductionHypothesis =>
      refine .array length fun index left right isLeft isRight => ?_
      refine inductionHypothesis index left right isLeft isRight ?_
      rintro segments schema ⟨segment, leads, covered⟩
      exact ⟨segment, leads, isFewer _ _ covered⟩
  | object tag _ inductionHypothesis =>
      refine .object tag fun schema key covered declares => ?_
      exact inductionHypothesis schema key (isFewer _ _ covered) declares
        fun segments other => isFewer _ other
  | unreached leftTag rightTag before after unreached =>
      exact .unreached _ _ _ _ fun schema covered => unreached schema (isFewer _ _ covered)

/-- Edits after edits are edits. -/
theorem trans {between : Value} (first : Edited coverage before between)
    (second : Edited coverage between after) : Edited coverage before after := by
  induction first generalizing after with
  | same => exact second
  | @array coverage before between length elements inductionHypothesis =>
      cases second with
      | same => exact .array length elements
      | array lengthAfter elementsAfter =>
          refine .array (lengthAfter.trans length) fun index left right isLeft isRight => ?_
          obtain ⟨inAfter, -⟩ := List.getElem?_eq_some_iff.mp isRight
          have middle : between[index]? = some between[index] :=
            List.getElem?_eq_getElem (lengthAfter ▸ inAfter)
          exact inductionHypothesis index left _ isLeft middle
            (elementsAfter index _ right middle isRight)
  | object tag declared inductionHypothesis =>
      cases second with
      | same => exact .object tag declared
      | object _ declaredAfter =>
          refine .object tag fun schema key covered declares => ?_
          exact inductionHypothesis schema key covered declares
            (declaredAfter schema key covered declares)
      | unreached _ otherTag _ _ unreached => exact .unreached _ _ _ _ unreached
  | unreached leftTag rightTag before between unreached =>
      cases second with
      | same => exact .unreached _ _ _ _ unreached
      | object => exact .unreached _ _ _ _ unreached
      | unreached => exact .unreached _ _ _ _ unreached

/-! ### Single edits -/

/-- A field may be inserted or replaced whose key nothing declares. -/
theorem insert (tag : Option Class) {fields : List (String × Value)} {key : String} (value : Value)
    (undeclared : ∀ schema, coverage [] schema → ¬ schema.Declares key) :
    Edited coverage (.object tag fields) (.object tag (Fields.insert key value fields)) := by
  refine .object tag fun schema other covered declares => ?_
  have different : key ≠ other := by
    rintro rfl
    exact undeclared schema covered declares
  rw [Value.get, Value.get, Fields.lookup?_insert_of_ne different]
  exact .same _ _

/-- A field may be removed whose key nothing declares. -/
theorem remove (tag : Option Class) {fields : List (String × Value)} {key : String}
    (undeclared : ∀ schema, coverage [] schema → ¬ schema.Declares key) :
    Edited coverage (.object tag fields)
      (.object tag (fields.filter fun field => field.1 ≠ key)) := by
  refine .object tag fun schema other covered declares => ?_
  have different : key ≠ other := by
    rintro rfl
    exact undeclared schema covered declares
  rw [Value.get, Value.get, Fields.lookup?_filter_of_ne different]
  exact .same _ _

/-! ### What edits keep -/

theorem strictEqual_eq (edited : Edited coverage before after) (expected : Value) :
    after.strictEqual expected = before.strictEqual expected := by
  cases edited with
  | same => rfl
  | _ => cases expected <;> rfl

theorem hasKind_eq (edited : Edited coverage before after) (kind : Kind) :
    after.hasKind kind = before.hasKind kind := by
  cases edited with
  | same => rfl
  | _ => cases kind <;> rfl

theorem elements {items values : List Value}
    (edited : Edited coverage (.array items) (.array values)) :
    values.length = items.length ∧
      ∀ index left right, items[index]? = some left → values[index]? = some right →
        Edited (coverage.element index) left right := by
  cases edited with
  | same =>
      refine ⟨rfl, fun index left right isLeft isRight => ?_⟩
      obtain rfl := Option.some.inj (isLeft.symm.trans isRight)
      exact .same _ _
  | array length elements => exact ⟨length, elements⟩

theorem elementText_eq (edited : Edited coverage before after)
    (display : after.display = before.display) : after.elementText = before.elementText := by
  have blank : (after.isUndefined || after.isNull) = (before.isUndefined || before.isNull) := by
    cases edited <;> rfl
  rw [Value.elementText, Value.elementText, display, blank]

/-- The text of a value shows nothing of the fields inside. -/
theorem display_eq (edited : Edited coverage before after) : after.display = before.display := by
  induction edited with
  | @array coverage before after length elements inductionHypothesis =>
      -- The elements of an array are shown whether or not anything is compared with them.
      have sameTexts : after.map Value.elementText = before.map Value.elementText := by
        refine List.ext_getElem (by simp [length]) fun index inAfter inBefore => ?_
        rw [List.length_map] at inAfter inBefore
        have left := List.getElem?_eq_getElem inBefore
        have right := List.getElem?_eq_getElem inAfter
        rw [List.getElem_map, List.getElem_map]
        exact (elements index _ _ left right).elementText_eq
          (inductionHypothesis index _ _ left right)
      rw [Value.display, Value.display, Value.displayItems_eq_map, Value.displayItems_eq_map,
        sameTexts]
  | _ => rfl

/-- An object that a schema is compared with keeps its classes. -/
theorem hasInstance_eq (edited : Edited coverage before after) {schema : Value}
    (covered : coverage [] schema) (class_ : Class) :
    class_.hasInstance after = class_.hasInstance before := by
  cases edited with
  | same => rfl
  | array =>
      cases class_ with
      | builtin kind => cases kind <;> rfl
      | _ => rfl
  | object tag =>
      cases class_ with
      | builtin kind => cases kind <;> rfl
      | _ => cases tag <;> rfl
  | unreached _ _ _ _ unreached => exact absurd covered (unreached schema)

/-- A check that looks at edited data sees what it sees of the data. -/
theorem looksLike (edited : Edited coverage before after) {schema : Value}
    (covered : coverage [] schema) : before.LooksLike after where
  hasKind := edited.hasKind_eq
  strictEqual := edited.strictEqual_eq
  display := edited.display_eq
  hasInstance := edited.hasInstance_eq covered
  length isItems isOthers := by
    rw [isItems, isOthers] at edited
    exact edited.elements.1

/-- Under a declared key there stands the same, up to edits. -/
theorem get (edited : Edited coverage before after) {schema : Value} {key : String}
    (covered : coverage [] schema) (declares : schema.Declares key) :
    Edited (coverage.below (.key key)) (before.get key) (after.get key) := by
  cases edited with
  | same => exact .same _ _
  | @array _ before after length elements =>
      cases leads : Value.index? key with
      | none =>
          simp only [Value.get, leads]
          exact .same _ _
      | some index =>
          simp only [Value.get, leads, Option.bind_some]
          cases left : before[index]? with
          | none =>
              rw [List.getElem?_eq_none_iff] at left
              rw [List.getElem?_eq_none (by omega)]
              exact .same _ _
          | some value =>
              obtain ⟨inBefore, -⟩ := List.getElem?_eq_some_iff.mp left
              have right := List.getElem?_eq_getElem (l := after) (i := index) (by omega)
              rw [right]
              refine (elements index _ _ left right).mono fun segments other isBelow => ?_
              exact ⟨.key key, leads, isBelow⟩
  | object tag declared => exact declared schema key covered declares
  | unreached _ _ _ _ unreached => exact absurd covered (unreached schema)

end Edited

end SchemaMatch
