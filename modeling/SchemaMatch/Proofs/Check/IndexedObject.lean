import SchemaMatch.Proofs.Check.Resemblance
import SchemaMatch.Proofs.Value.Property

/-!
Contract: arrays that are checked as objects.

Owns:
- what an object item without class sees of its data: the keys of the data, and the values under
  the keys that it declares;
- the object whose fields are the elements of an array, with one field more for each declared key
  that finds an element without being listed;
- `Check.run_array_as_object`: an array has the outcome of that object.

Does not own: arrays under array items.
-/

namespace SchemaMatch

variable {σ : Type}

/-! ## Objects in place of arrays -/

namespace Value

/-- Fields under those names that a value does not list and yet finds something under. -/
def unlistedFields (value : Value) (names : List String) : List (String × Value) :=
  (names.filter fun name => !value.keys.contains name && !(value.get name).isUndefined).map
    fun name => (name, value.get name)

/-- The elements of an array as fields, in order, and after them what some names find without
being listed. -/
def indexedFields (items : List Value) (names : List String) : List (String × Value) :=
  (Value.array items).parts ++ (Value.array items).unlistedFields names

variable {value : Value} {items : List Value} {names : List String} {key : String}

theorem mem_keys_unlistedFields_iff :
    key ∈ Fields.keys (value.unlistedFields names) ↔
      key ∈ names ∧ key ∉ value.keys ∧ (value.get key).isUndefined = false := by
  have unlisted : (!value.keys.contains key) = true ↔ key ∉ value.keys := by simp
  simp only [Fields.keys, unlistedFields, List.map_map, Function.comp_def, List.map_id',
    List.mem_filter, Bool.and_eq_true, unlisted, Bool.not_eq_true']

theorem lookup?_unlistedFields (isName : key ∈ names) (unlisted : key ∉ value.keys) :
    (Fields.lookup? key (value.unlistedFields names)).getD .undefined = value.get key := by
  cases found : Fields.lookup? key (value.unlistedFields names) with
  | none =>
      have absent : ¬ (value.get key).isUndefined = false := fun something =>
        Fields.lookup?_eq_none_iff.mp found
          (mem_keys_unlistedFields_iff.mpr ⟨isName, unlisted, something⟩)
      cases nothing : value.get key with
      | undefined => rfl
      | _ => rw [nothing] at absent; exact absurd rfl absent
  | some part =>
      obtain ⟨name, -, same⟩ := List.mem_map.mp (Fields.mem_of_lookup? found)
      cases same
      rfl

theorem keys_indexedFields :
    Fields.keys (indexedFields items names) =
      (Value.array items).keys ++ Fields.keys ((Value.array items).unlistedFields names) := by
  rw [Fields.keys, indexedFields, List.map_append, map_fst_parts]
  rfl

/-- The object has under each name what the array has. -/
theorem get_indexedFields (addressable : items.length ≤ 2 ^ 64) (tag : Option Class)
    (isName : key ∈ names) :
    (Value.object tag (indexedFields items names)).get key = (Value.array items).get key := by
  rw [get, indexedFields, Fields.lookup?_append]
  by_cases listed : key ∈ (Value.array items).keys
  · have isAddressable : (Value.array items).Addressable := by
      intro others same
      cases same
      exact addressable
    rw [lookup?_parts_of_mem_keys isAddressable listed, Option.some_or, Option.getD_some]
  · have noPart : Fields.lookup? key (Value.array items).parts = none := by
      rw [Fields.lookup?_eq_none_iff, Fields.keys, map_fst_parts]
      exact listed
    rw [noPart, Option.none_or]
    exact lookup?_unlistedFields isName listed

/-- Where no name respells an index, the elements are all the fields. -/
theorem indexedFields_eq_parts (respellsNone : ∀ name ∈ names, ¬ Respells items name) :
    indexedFields items names = (Value.array items).parts := by
  have noField : (Value.array items).unlistedFields names = [] := by
    rw [unlistedFields, List.map_eq_nil_iff, List.filter_eq_nil_iff]
    intro name isName
    by_cases listed : name ∈ (Value.array items).keys
    · simp [listed]
    · have nothing : (Value.array items).get name = .undefined := by
        refine get_of_not_mem_keys listed fun others same => ?_
        cases same
        exact respellsNone name isName
      simp [nothing, isUndefined]
  rw [indexedFields, noField, List.append_nil]

end Value

/-! ## What object items see -/

namespace Position

variable {position twin : Position} {item : Item} {options : Options}

/-- Keys of the data that are declared do not count, and so may be added. -/
theorem firstFailure_keyObligations_of_append {extra : List String}
    (samePath : twin.path = position.path) (keys : twin.data.keys = position.data.keys ++ extra)
    (declared : ∀ key ∈ extra, key ∈ declaredKeys item) :
    firstFailure (twin.keyObligations item) = firstFailure (position.keyObligations item) := by
  have noneExtra : extra.find? (fun key => !(declaredKeys item).contains key) = none := by
    rw [List.find?_eq_none]
    intro key isExtra
    simp [declared key isExtra]
  have sameKey : Check.extraKey? twin.data (declaredKeys item) =
      Check.extraKey? position.data (declaredKeys item) := by
    rw [Check.extraKey?, Check.extraKey?, keys, List.find?_append, noneExtra, Option.or_none]
  rw [Check.firstFailure_keyObligations, Check.firstFailure_keyObligations, samePath, sameKey]

/-- An object item without class sees of its data that it may have properties, its keys and the
values under declared keys. -/
theorem firstFailure_allObligations_of_keys {extra : List String}
    (samePath : twin.path = position.path) (sameSchema : twin.schema = position.schema)
    (read : position.item? = .ok item) (isObject : item.kind = .object) (noClass : item.tag = none)
    (hasKind : position.data.hasKind .object = twin.data.hasKind .object)
    (keys : twin.data.keys = position.data.keys ++ extra)
    (declared : ∀ key ∈ extra, key ∈ declaredKeys item)
    (gets : ∀ key ∈ declaredKeys item, twin.data.get key = position.data.get key) :
    firstFailure (twin.allObligations options) =
      firstFailure (position.allObligations options) := by
  have twinRead : twin.item? = .ok item := (item?_of_schema_eq sameSchema).trans read
  have samePolicy := permitsExtraKeys_of_schema_eq sameSchema item options
  have own : firstFailure (twin.obligations options) =
      firstFailure (position.obligations options) := by
    rw [obligations_of_item read, obligations_of_item twinRead, contentObligations,
      contentObligations, isObject, classObligations, classObligations, noClass, samePath, hasKind,
      samePolicy]
    cases position.permitsExtraKeys item options with
    | true => rfl
    | false =>
        simp only [Option.toList_none, List.map_nil, List.nil_append, firstFailure,
          Bool.false_eq_true, if_false,
          firstFailure_keyObligations_of_append samePath keys declared]
  have below : twin.children.flatMap (allObligations options) =
      position.children.flatMap (allObligations options) := by
    simp only [children, read, twinRead, isObject, fieldPositions, List.flatMap_map]
    refine List.flatMap_congr fun part kept => ?_
    have isDeclared : part.1 ∈ declaredKeys item :=
      List.mem_map_of_mem (List.mem_of_mem_filter kept)
    -- The children differ in the value that holds them, which only calls would see.
    have sameChild : twin.child (.key part.1) (twin.data.get part.1) part.2 =
        { position.child (.key part.1) (position.data.get part.1) part.2 with
          parent := twin.data } := by
      rw [child, child, samePath, gets part.1 isDeclared]
    rw [sameChild, allObligations_heldBy]
  rw [allObligations_eq, allObligations_eq, firstFailure_append, firstFailure_append, own, below]

end Position

/-! ## Checks of arrays against object items -/

namespace Check

/-- Look-up agrees with the listing of keys, except for the keys that respell an index of an
array. Under a listed key there stands the part of that name, and under any other nothing; but
what respells an index finds the element. Hence a check of an array against an object item without
class, in a schema without calls, has the outcome of the object that has the elements as fields and
one field more for each declared key that respells an index. If there is no such key, that is the
object of the elements alone. -/
theorem run_array_as_object (host : Host σ) (options : Options) (session : Session σ) :
    let outcome (data schema : Value) := ((run host data schema options).finish session).1
    (∀ (value : Value) (key : String), value.Addressable →
      (key ∈ value.keys → Fields.lookup? key value.parts = some (value.get key)) ∧
      (key ∉ value.keys → (∀ items, value = .array items → ¬ Value.Respells items key) →
        value.get key = .undefined) ∧
      (∀ items index (inside : index < items.length), value = .array items →
        Numeral.Spells key index → value.get key = items[index])) ∧
    (∀ (items : List Value) (schema : Value) (item : Item), items.length ≤ 2 ^ 64 →
      CallFree schema → Item.ofForm? (SchemaForm.ofValue schema) = .ok item →
      item.kind = .object → item.tag = none →
      let declared := Position.declaredKeys item
      outcome (.array items) schema =
          outcome (.object none (Value.indexedFields items declared)) schema ∧
        ((∀ key ∈ declared, ¬ Value.Respells items key) →
          outcome (.array items) schema =
            outcome (.object none (Value.array items).parts) schema)) := by
  intro outcome
  refine ⟨fun value key addressable => ⟨?_, ?_, ?_⟩, ?_⟩
  · intro listed
    exact Value.lookup?_parts_of_mem_keys addressable listed
  · intro unlisted respellsNone
    exact Value.get_of_not_mem_keys unlisted respellsNone
  · rintro items index inside rfl spells
    exact Value.get_array_of_spells (addressable items rfl) inside spells
  · intro items schema item addressable callFree read isObject noClass declared
    have sameOutcome : outcome (.array items) schema =
        outcome (.object none (Value.indexedFields items declared)) schema := by
      have unlistedDeclared : ∀ key ∈ Fields.keys ((Value.array items).unlistedFields declared),
          key ∈ declared := fun key isField => (Value.mem_keys_unlistedFields_iff.mp isField).1
      have atRoot : (Position.root (.array items) schema).item? = .ok item := read
      have sameFailure :
          firstFailure ((Position.root (.object none (Value.indexedFields items declared))
            schema).allObligations options) =
          firstFailure ((Position.root (.array items) schema).allObligations options) := by
        refine Position.firstFailure_allObligations_of_keys rfl rfl atRoot isObject noClass rfl
          Value.keys_indexedFields unlistedDeclared fun key isDeclared => ?_
        exact Value.get_indexedFields addressable none isDeclared
      simp only [outcome, outcome_of_callFree host _ options session callFree, sameFailure]
    refine ⟨sameOutcome, fun respellsNone => ?_⟩
    rw [sameOutcome, Value.indexedFields_eq_parts respellsNone]

/-- Of three declared keys, one is an index and one respells it. The array is checked like the
object that has both. -/
theorem run_array_as_object_with_respelled_key :
    let host : Host Unit := ⟨fun _ _ _ _ => ⟨.ok .undefined, [], ()⟩⟩
    let outcome (data schema : Value) :=
      ((run host data schema ⟨some false⟩).finish ⟨(), []⟩).1
    let items : List Value := [.string "a", .string "b"]
    let schema : Value := .object none
      [("1", .string "b"), ("+01", .string "b"), ("0", .string "x")]
    outcome (.array items) schema =
        outcome (.object none [("0", .string "a"), ("1", .string "b"), ("+01", .string "b")])
          schema ∧
      outcome (.array items) schema = .error (.value ⟨[.key "0"]⟩ "a" "x") ∧
      (Value.array items).get "+01" = .string "b" := by
  intro host outcome items schema
  obtain ⟨look, indexed⟩ := run_array_as_object host ⟨some false⟩ ⟨(), []⟩
  have leaf : ∀ text, CallFree (.string text) := fun text => .of_item [] rfl rfl rfl (by simp)
  have callFree : CallFree schema :=
    .of_item [.string "b", .string "b", .string "x"] rfl rfl rfl (by simp [leaf])
  have addressable : (Value.array items).Addressable := by
    intro others same
    cases same
    decide
  have spells : Numeral.Spells "+01" 1 := ⟨1, .inr (by decide)⟩
  have sameOutcome := (indexed items schema _ (by decide) callFree rfl rfl rfl).1
  exact ⟨sameOutcome, rfl, (look _ "+01" addressable).2.2 items 1 (by decide) rfl spells⟩

/-- The array has no key `01`, and yet finds an element there, so it meets a schema that the object
of its elements does not. -/
theorem array_finds_unlisted_key :
    let host : Host Unit := ⟨fun _ _ _ _ => ⟨.ok .undefined, [], ()⟩⟩
    let outcome (data schema : Value) := ((run host data schema {}).finish ⟨(), []⟩).1
    let data : Value := .array [.string "a", .string "b"]
    let indexed : Value := .object none [("0", .string "a"), ("1", .string "b")]
    let schema : Value := .object none [("01", .string "b")]
    "01" ∉ data.keys ∧ data.get "01" = .string "b" ∧ outcome data schema = .ok () ∧
      outcome indexed schema = .error (.type ⟨[.key "01"]⟩ .string) := by
  intro host outcome data indexed schema
  have unlisted : "01" ∉ data.keys := by decide
  exact ⟨unlisted, rfl, rfl, rfl⟩

end Check

end SchemaMatch
