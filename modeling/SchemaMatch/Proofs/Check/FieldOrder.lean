import SchemaMatch.Proofs.Check.Unobserved
import SchemaMatch.Proofs.Schema.Reordering

/-!
Contract: the order of fields does not decide a verdict.

Owns:
- what a check sees of a reordered value, which is what it sees of the value;
- outcomes that agree up to the extra key they name;
- positions with reordered data, which fail alike, and positions with a reordered schema, which
  hold alike;
- `Check.run_reordered`: the outcome of a check without calls under reordering of its data and of
  its schema.

Does not own: the reading of reordered schemas.
-/

namespace SchemaMatch

open Value (Reordered)

/-! ## What a check sees of a value -/

namespace Value.Reordered

variable {left right : Value}

theorem strictEqual_expected_eq (reordered : Reordered left right) (data : Value) :
    data.strictEqual right = data.strictEqual left := by
  cases reordered with
  | same => rfl
  | _ => cases data <;> rfl

theorem mayEqualDate_eq (reordered : Reordered left right) :
    Check.mayEqualDate right = Check.mayEqualDate left := by
  cases reordered <;> rfl

/-- A check sees nothing of the order of fields, its keys aside. -/
theorem looksLike (reordered : Reordered left right) : left.LooksLike right := by
  induction reordered using induct with
  | same value => exact .refl value
  | array _ known => exact .array (known.imp fun _ _ ⟨_, looks⟩ => looks)
  | object tag => exact .object tag _ _

end Value.Reordered

/-! ## Outcomes up to the extra key -/

/-- Outcomes that are the same, except that they may name another extra key at the same path. -/
inductive Check.SameButKey : Except Mismatch Unit → Except Mismatch Unit → Prop where
  | same (outcome : Except Mismatch Unit) : SameButKey outcome outcome
  | extraKey (path : Path) (key other : String) :
      SameButKey (.error (.extraKey path key)) (.error (.extraKey path other))

namespace Check.SameButKey

variable {earlier earlierTwin later laterTwin : List Obligation}

theorem append
    (first : SameButKey (firstFailure earlier) (firstFailure earlierTwin))
    (second : SameButKey (firstFailure later) (firstFailure laterTwin)) :
    SameButKey (firstFailure (earlier ++ later)) (firstFailure (earlierTwin ++ laterTwin)) := by
  rw [firstFailure_append, firstFailure_append]
  generalize firstFailure earlier = outcome at first ⊢
  generalize firstFailure earlierTwin = outcomeTwin at first ⊢
  cases first with
  | same =>
      cases outcome with
      | ok => exact second
      | error mismatch => exact .same _
  | extraKey path key other => exact .extraKey path key other

theorem flatMap {related : Position → Position → Prop} {positions twins : List Position}
    {obligations : Position → List Obligation} (pairs : List.Forall₂ related positions twins)
    (alike : ∀ position ∈ positions, ∀ twin, related position twin →
      SameButKey (firstFailure (obligations position)) (firstFailure (obligations twin))) :
    SameButKey (firstFailure (positions.flatMap obligations))
      (firstFailure (twins.flatMap obligations)) := by
  induction pairs with
  | nil => exact .same _
  | cons pair _ inductionHypothesis =>
      rw [List.flatMap_cons, List.flatMap_cons]
      refine append (alike _ List.mem_cons_self _ pair) ?_
      exact inductionHypothesis fun position member =>
        alike position (List.mem_cons_of_mem _ member)

end Check.SameButKey

/-! ## Reordered data -/

namespace Position

/-- A position with reordered data. -/
structure DataReordered (position twin : Position) : Prop where
  path : twin.path = position.path
  schema : twin.schema = position.schema
  data : Reordered position.data twin.data
  unique : position.data.namesUnique = true

namespace DataReordered

variable {position twin : Position} (twins : DataReordered position twin)

include twins

/-- The keys of the data are the same, so there is an extra one in both or in none. -/
theorem keyObligations_sameButKey (item : Item) :
    Check.SameButKey (firstFailure (position.keyObligations item))
      (firstFailure (twin.keyObligations item)) := by
  have keys := twins.data.keys_perm
  have found : (Check.extraKey? position.data (declaredKeys item)).isSome =
      (Check.extraKey? twin.data (declaredKeys item)).isSome := by
    rw [Check.extraKey?, Check.extraKey?, Bool.eq_iff_iff, List.find?_isSome, List.find?_isSome]
    simp only [keys.mem_iff]
  rw [Check.firstFailure_keyObligations, Check.firstFailure_keyObligations, twins.path]
  cases key : Check.extraKey? position.data (declaredKeys item) with
  | none =>
      cases other : Check.extraKey? twin.data (declaredKeys item) with
      | none => exact .same _
      | some _ => rw [key, other] at found; cases found
  | some name =>
      cases other : Check.extraKey? twin.data (declaredKeys item) with
      | none => rw [key, other] at found; cases found
      | some otherName => exact .extraKey _ _ _

theorem contentObligations_sameButKey (options : Options) (item : Item) :
    Check.SameButKey (firstFailure (position.contentObligations options item))
      (firstFailure (twin.contentObligations options item)) := by
  by_cases isObject : item.kind = .object
  · have sameClass : twin.classObligations item = position.classObligations item := by
      simp only [classObligations, twins.path, twins.data.looksLike.hasInstance]
    have samePolicy := permitsExtraKeys_of_schema_eq twins.schema item options
    simp only [contentObligations, isObject, sameClass, samePolicy]
    refine .append (.same _) ?_
    split
    · exact .same _
    · exact twins.keyObligations_sameButKey item
  · rw [contentObligations_eq twins.path twins.data.looksLike (.refl item)
      (fun kind => absurd kind isObject) (fun kind => absurd kind isObject)]
    exact .same _

theorem item?_eq : twin.item? = position.item? :=
  item?_of_schema_eq twins.schema

theorem obligations_sameButKey (options : Options) :
    Check.SameButKey (firstFailure (position.obligations options))
      (firstFailure (twin.obligations options)) := by
  rw [obligations, obligations, twins.item?_eq]
  cases position.item? with
  | error violation => exact .same _
  | ok item =>
      dsimp only
      rw [twins.path, twins.data.looksLike.hasKind]
      exact @Check.SameButKey.append [_] [_] _ _ (.same _)
        (twins.contentObligations_sameButKey options item)

/-! ### Children -/

theorem forall₂_children : List.Forall₂ DataReordered position.children twin.children := by
  apply forall₂_children_of_schema_eq twins.schema twins.data.looksLike
  · intro _ _ _ part _ _
    exact ⟨by simp only [child, twins.path], rfl, twins.data.get twins.unique part.1,
      Value.namesUnique_get twins.unique part.1⟩
  · intro items others isItems isOthers index value counterpart schema isValue isCounterpart
    have uniqueItems := Value.everywhereInItems_iff.mp (isItems ▸ twins.unique)
    obtain ⟨_, same, each⟩ := (isItems ▸ twins.data).of_array
    obtain rfl := Value.array.inj (isOthers.symm.trans same)
    have pair := rel_getElem? each index
    rw [isValue, isCounterpart] at pair
    cases pair with
    | some pair =>
        exact ⟨by simp only [child, twins.path], rfl, pair,
          uniqueItems _ (List.mem_of_getElem? isValue)⟩

end DataReordered

/-- Positions with reordered data fail alike, except that they may name different extra keys. -/
theorem DataReordered.allObligations_sameButKey {position twin : Position}
    (twins : DataReordered position twin) (options : Options) :
    Check.SameButKey (firstFailure (position.allObligations options))
      (firstFailure (twin.allObligations options)) := by
  rw [allObligations_eq, allObligations_eq]
  refine .append (twins.obligations_sameButKey options) (.flatMap twins.forall₂_children ?_)
  intro child isChild childTwin pair
  have smaller := sizeOf_schema_child_lt isChild
  exact pair.allObligations_sameButKey options
termination_by sizeOf position.schema

/-! ## Reordered schemas -/

/-- Whether all obligations of a position and of the positions below it hold. -/
def AllHold (options : Options) (position : Position) : Prop :=
  ∀ obligation ∈ position.allObligations options, obligation.holds = true

theorem allHold_iff {options : Options} {position : Position} :
    position.AllHold options ↔
      (∀ obligation ∈ position.obligations options, obligation.holds = true) ∧
        ∀ child ∈ position.children, child.AllHold options := by
  unfold AllHold
  rw [allObligations_eq, List.forall_mem_append]
  simp only [List.mem_flatMap, forall_exists_index, and_imp]
  exact and_congr_right fun _ => ⟨fun allHold child isChild obligation isBelow =>
      allHold obligation child isChild isBelow,
    fun allHold obligation child isChild isBelow => allHold child isChild obligation isBelow⟩

theorem mem_itemPositions_iff {position child : Position} {item : Item} :
    child ∈ position.itemPositions item ↔
      ∃ values index value schema, position.data = .array values ∧
        values.length = item.parts.length ∧ values[index]? = some value ∧
        (item.parts.map Prod.snd)[index]? = some schema ∧
        child = position.child (.index index) value schema := by
  unfold itemPositions
  split
  next values isValues =>
    have sameValues {others : List Value} (isOthers : position.data = .array others) :
        others = values := Value.array.inj (isOthers.symm.trans isValues)
    by_cases sameLength : values.length = item.parts.length
    · rw [if_pos sameLength, elementPositions, List.mem_map]
      constructor
      · rintro ⟨entry, isEntry, rfl⟩
        obtain ⟨isValue, isSchema⟩ :=
          List.getElem?_zip_eq_some.mp (List.mem_zipIdx_iff_getElem?.mp isEntry)
        exact ⟨values, entry.2, _, _, isValues, sameLength, isValue, isSchema, rfl⟩
      · rintro ⟨others, index, value, schema, isOthers, -, isValue, isSchema, rfl⟩
        obtain rfl := sameValues isOthers
        exact ⟨((value, schema), index), List.mem_zipIdx_iff_getElem?.mpr
          (List.getElem?_zip_eq_some.mpr ⟨isValue, isSchema⟩), rfl⟩
    · rw [if_neg sameLength]
      refine iff_of_false (by simp) ?_
      rintro ⟨others, -, -, -, isOthers, length, -⟩
      exact sameLength (sameValues isOthers ▸ length)
  next notArray =>
    refine iff_of_false (by simp) ?_
    rintro ⟨values, -, -, -, isValues, -⟩
    exact notArray values isValues

/-- A position with a reordered schema. -/
structure SchemaReordered (position twin : Position) : Prop where
  data : twin.data = position.data
  schema : Reordered position.schema twin.schema
  unique : position.schema.namesUnique = true

/-- What is expected is compared alike. -/
theorem holds_of_expected {make makeTwin : Value → Obligation} {data other : Option Value}
    (pair : Option.Rel Reordered data other)
    (alike : ∀ value other, Reordered value other → (makeTwin other).holds = (make value).holds)
    (allHold : ∀ obligation ∈ data.toList.map make, obligation.holds = true) :
    ∀ obligation ∈ other.toList.map makeTwin, obligation.holds = true := by
  cases pair with
  | none => exact allHold
  | @some value other pair =>
      intro obligation member
      rw [List.mem_singleton.mp member, alike value other pair]
      exact allHold _ (List.mem_singleton_self _)

namespace SchemaReordered

variable {position twin : Position} (twins : SchemaReordered position twin) {options : Options}
  {item other : Item} (alike : item.Alike other)

include twins alike

theorem valueObligations_hold :
    (∀ obligation ∈ position.valueObligations item, obligation.holds = true) →
      ∀ obligation ∈ twin.valueObligations other, obligation.holds = true :=
  holds_of_expected alike.data fun value other pair => by
    simp only [twins.data, pair.strictEqual_expected_eq]

theorem stringObligations_hold
    (allHold : ∀ obligation ∈ (Schema.stringChecks item.data).map position.stringObligation,
      obligation.holds = true) :
    ∀ obligation ∈ (Schema.stringChecks other.data).map twin.stringObligation,
      obligation.holds = true := by
  rw [List.forall_mem_map] at allHold ⊢
  intro check member
  obtain ⟨original, isOriginal, pair⟩ := alike.exists_stringCheck member
  have holds := allHold original isOriginal
  have same : (twin.stringObligation check).holds = (position.stringObligation original).holds := by
    cases pair with
    | same => cases check <;> simp only [stringObligation, twins.data]
    | _ => simp only [stringObligation, twins.data]; cases position.data <;> rfl
  rw [same, holds]

theorem permitsExtraKeys_eq :
    twin.permitsExtraKeys other options = position.permitsExtraKeys item options := by
  rw [permitsExtraKeys_eq_policy, permitsExtraKeys_eq_policy, Policy.permitsExtraKeys,
    Policy.permitsExtraKeys,
    alike.allowExtraKeys, Policy.own?_reordered twins.schema twins.unique]

theorem keyObligations_hold
    (allHold : ∀ obligation ∈ position.keyObligations item, obligation.holds = true) :
    ∀ obligation ∈ twin.keyObligations other, obligation.holds = true := by
  have declared := alike.declaredKeys_perm
  unfold keyObligations at allHold ⊢
  rw [twins.data]
  rw [List.forall_mem_map] at allHold ⊢
  intro key isKey
  have found := allHold key isKey
  rw [List.contains_iff_mem] at found ⊢
  exact declared.mem_iff.mp found

theorem objectObligations_hold
    (allHold : ∀ obligation ∈ position.classObligations item ++
        (if position.permitsExtraKeys item options then [] else position.keyObligations item),
      obligation.holds = true) :
    ∀ obligation ∈ twin.classObligations other ++
        (if twin.permitsExtraKeys other options then [] else twin.keyObligations other),
      obligation.holds = true := by
  rw [List.forall_mem_append] at allHold ⊢
  obtain ⟨classHolds, keysHold⟩ := allHold
  constructor
  · unfold classObligations at classHolds ⊢
    rw [List.forall_mem_map] at classHolds ⊢
    rw [alike.tag, twins.data]
    exact classHolds
  · rw [twins.permitsExtraKeys_eq alike]
    split at keysHold
    next permits => rw [if_pos permits]; exact keysHold
    next forbids => rw [if_neg forbids]; exact twins.keyObligations_hold alike keysHold

theorem contentObligations_hold :
    (∀ obligation ∈ position.contentObligations options item, obligation.holds = true) →
      ∀ obligation ∈ twin.contentObligations options other, obligation.holds = true := by
  unfold contentObligations
  rw [alike.kind]
  cases kind : item.kind with
  | boolean => exact twins.valueObligations_hold alike
  | number => exact twins.valueObligations_hold alike
  | undefined => exact twins.valueObligations_hold alike
  | string => exact twins.stringObligations_hold alike
  | null => exact id
  | date =>
      exact holds_of_expected alike.data fun value other pair => by
        simp only [twins.data, pair.mayEqualDate_eq, pair.looksLike.display]
  | function =>
      exact holds_of_expected alike.data fun value other pair => by
        simp only [twins.data, pair.strictEqual_expected_eq]
  | array =>
      dsimp only
      unfold lengthObligations
      rw [twins.data]
      split
      · exact holds_of_expected alike.data fun value other pair => by
          simp only [alike.length_parts]
      · exact id
  | object => exact twins.objectObligations_hold alike

/-- Each child under the reordered schema has a partner under the schema. -/
theorem exists_child (read : position.item? = .ok item) (otherRead : twin.item? = .ok other)
    {child : Position} (member : child ∈ twin.children) :
    ∃ partner ∈ position.children, SchemaReordered partner child := by
  have uniqueBelow {below : Value} (isBelow : below ∈ item.parts.map Prod.snd) :
      below.namesUnique = true := Item.namesUnique_below read twins.unique isBelow
  simp only [children, read, otherRead, alike.kind] at member ⊢
  cases kind : item.kind with
  | object =>
      simp only [kind] at member ⊢
      obtain ⟨part, kept, rfl⟩ := List.mem_map.mp member
      obtain ⟨isPart, notMarker⟩ := List.mem_filter.mp kept
      obtain ⟨value, isOriginal, pair⟩ := alike.exists_part isPart
      refine ⟨_, List.mem_map.mpr ⟨(part.1, value), List.mem_filter.mpr ⟨isOriginal, notMarker⟩,
        rfl⟩, ?_, pair, uniqueBelow (List.mem_map_of_mem isOriginal)⟩
      simp only [child, twins.data]
  | array =>
      simp only [kind] at member ⊢
      obtain ⟨values, index, value, schema, isValues, length, isValue, isSchema, rfl⟩ :=
        mem_itemPositions_iff.mp member
      obtain ⟨original, isOriginal, pair⟩ := alike.exists_element read kind isSchema
      rw [twins.data] at isValues
      exact ⟨_, mem_itemPositions_iff.mpr ⟨values, index, value, original, isValues,
        length.trans alike.length_parts.symm, isValue, isOriginal, rfl⟩, rfl, pair,
        uniqueBelow (List.mem_of_getElem? isOriginal)⟩
  | _ => simp only [kind] at member; cases member

end SchemaReordered

/-- Where all obligations hold, the schema is well formed. -/
theorem exists_item_of_hold {position : Position} {options : Options}
    (allHold : ∀ obligation ∈ position.obligations options, obligation.holds = true) :
    ∃ item, position.item? = .ok item := by
  cases read : position.item? with
  | error violation =>
      have fails := allHold { holds := false, failure := .malformedSchema violation }
        (by simp [obligations, read])
      cases fails
  | ok item => exact ⟨item, rfl⟩

/-- If all holds under a schema, all holds under a reordering of it. -/
theorem SchemaReordered.allHold {position twin : Position} {options : Options}
    (twins : SchemaReordered position twin) (allHold : position.AllHold options) :
    twin.AllHold options := by
  rw [allHold_iff] at allHold ⊢
  obtain ⟨here, below⟩ := allHold
  obtain ⟨item, read⟩ := exists_item_of_hold here
  obtain ⟨other, otherRead, alike⟩ := Item.ofForm?_reordered twins.schema twins.unique read
  refine ⟨?_, fun child isChild => ?_⟩
  · rw [obligations_of_item read, List.forall_mem_cons] at here
    rw [obligations_of_item otherRead, List.forall_mem_cons, twins.data, alike.kind]
    exact ⟨here.1, twins.contentObligations_hold alike here.2⟩
  · have smaller := sizeOf_schema_child_lt isChild
    obtain ⟨partner, isPartner, pair⟩ := twins.exists_child alike read otherRead isChild
    exact pair.allHold (below partner isPartner)
termination_by sizeOf twin.schema

end Position

/-- Below an item like another there stand its schemas, up to the order of fields. -/
theorem Item.Alike.exists_below {item other : Item} (alike : item.Alike other)
    {otherBelow : Value} (member : otherBelow ∈ other.below) :
    ∃ below ∈ item.below, Reordered below otherBelow := by
  unfold Item.below at member ⊢
  rw [alike.kind] at member
  split at member
  · obtain ⟨part, kept, rfl⟩ := List.mem_map.mp member
    obtain ⟨isPart, notMarker⟩ := List.mem_filter.mp kept
    obtain ⟨value, isOriginal, pair⟩ := alike.exists_part isPart
    exact ⟨value, List.mem_map.mpr ⟨_, List.mem_filter.mpr ⟨isOriginal, notMarker⟩, rfl⟩, pair⟩
  · obtain ⟨part, isPart, rfl⟩ := List.mem_map.mp member
    obtain ⟨value, isOriginal, pair⟩ := alike.exists_part isPart
    exact ⟨value, List.mem_map_of_mem isOriginal, pair⟩
  · cases member

/-- Reordering a schema adds no calls to it. -/
theorem CallFree.reordered {schema other : Value} (callFree : CallFree schema)
    (reordered : Reordered schema other) (unique : schema.namesUnique = true) :
    CallFree other := by
  induction callFree generalizing other with
  | intro schema noCalls below inductionHypothesis =>
      have alike : ∀ otherItem, Item.ofForm? (SchemaForm.ofValue other) = .ok otherItem →
          ∃ item, Item.ofForm? (SchemaForm.ofValue schema) = .ok item ∧ item.Alike otherItem := by
        intro otherItem otherRead
        obtain ⟨item, read, alike⟩ :=
          Item.ofForm?_reordered reordered.symm (reordered.namesUnique unique) otherRead
        exact ⟨item, read, alike.symm⟩
      refine .intro other (fun otherItem otherRead => ?_) fun otherItem otherRead _ isBelow => ?_
      · obtain ⟨item, read, alike⟩ := alike otherItem otherRead
        rw [← Option.not_isSome_iff_eq_none, alike.calls, noCalls item read]
        exact Bool.false_ne_true
      · obtain ⟨item, read, alike⟩ := alike otherItem otherRead
        obtain ⟨original, isOriginal, pair⟩ := alike.exists_below isBelow
        exact inductionHypothesis item read original isOriginal pair
          (Item.namesUnique_below read unique (Item.mem_parts_of_mem_below isOriginal))

/-! ## Checks of reordered values -/

namespace Check

variable {σ : Type}

/-- The order of fields does not decide a verdict. Against a schema without calls, reordered data
has the same outcome, except that another extra key may be named at the same path; and a
reordered schema is met by the same data. -/
theorem run_reordered (host : Host σ) (options : Options) (session : Session σ)
    {data otherData schema otherSchema : Value} (callFree : CallFree schema)
    (uniqueInData : data.namesUnique = true) (uniqueInSchema : schema.namesUnique = true)
    (dataReordered : Reordered data otherData) (schemaReordered : Reordered schema otherSchema) :
    let outcome (data schema : Value) := ((run host data schema options).finish session).1
    SameButKey (outcome data schema) (outcome otherData schema) ∧
      (outcome data schema = .ok () ↔ outcome data otherSchema = .ok ()) := by
  intro outcome
  have otherCallFree := callFree.reordered schemaReordered uniqueInSchema
  have decided {data schema : Value} (callFree : CallFree schema) :
      outcome data schema = firstFailure ((Position.root data schema).allObligations options) :=
    outcome_of_callFree host data options session callFree
  have dataThere : Position.DataReordered (.root data schema) (.root otherData schema) :=
    ⟨rfl, rfl, dataReordered, uniqueInData⟩
  have there : Position.SchemaReordered (.root data schema) (.root data otherSchema) :=
    ⟨rfl, schemaReordered, uniqueInSchema⟩
  have back : Position.SchemaReordered (.root data otherSchema) (.root data schema) :=
    ⟨rfl, schemaReordered.symm, schemaReordered.namesUnique uniqueInSchema⟩
  rw [decided callFree, decided callFree, decided otherCallFree, firstFailure_eq_ok_iff,
    firstFailure_eq_ok_iff]
  exact ⟨dataThere.allObligations_sameButKey options, there.allHold, back.allHold⟩

/-- Both objects of the data are reversed, and so another of the two extra keys is found. The item
of the user tolerates extra keys whether or not its setting comes first. -/
theorem run_reordered_with_two_extra_keys :
    let host : Host Unit := ⟨fun _ _ _ _ => ⟨.ok .undefined, [], ()⟩⟩
    let outcome (data schema : Value) := ((run host data schema ⟨some false⟩).finish ⟨(), []⟩).1
    let data : Value := .object none
      [("first", .null), ("user", .object none [("name", .null), ("age", .null)]),
        ("last", .null)]
    let otherData : Value := .object none
      [("last", .null), ("user", .object none [("age", .null), ("name", .null)]),
        ("first", .null)]
    let schema : Value := .object none
      [("user", .object none [("type", .string "object"),
        ("data", .object none [("name", .null)]), ("allowExtraKeys", .bool true)])]
    let otherSchema : Value := .object none
      [("user", .object none [("allowExtraKeys", .bool true),
        ("data", .object none [("name", .null)]), ("type", .string "object")])]
    CallFree schema ∧ data.namesUnique = true ∧ schema.namesUnique = true ∧
      Reordered data otherData ∧ Reordered schema otherSchema ∧
      outcome data schema = .error (.extraKey Path.root "first") ∧
      outcome otherData schema = .error (.extraKey Path.root "last") ∧
      SameButKey (outcome data schema) (outcome otherData schema) ∧
      (outcome data schema = .ok () ↔ outcome data otherSchema = .ok ()) := by
  intro host outcome data otherData schema otherSchema
  have name : CallFree .null := .of_item [] rfl rfl rfl (by simp)
  have user : CallFree (.object none [("type", .string "object"),
      ("data", .object none [("name", .null)]), ("allowExtraKeys", .bool true)]) :=
    .of_item [.null] rfl rfl rfl (by simpa using name)
  have callFree : CallFree schema := .of_item [_] rfl rfl rfl (by simpa using user)
  have uniqueInData : data.namesUnique = true := by decide
  have uniqueInSchema : schema.namesUnique = true := by decide
  have userReordered : Reordered (.object none [("name", .null), ("age", .null)])
      (.object none [("age", .null), ("name", .null)]) := .of_perm none (.swap ..)
  have dataReordered : Reordered data otherData :=
    .object none (List.reverse_perm _).symm
      (.cons (.intro _ (.same _))
        (.cons (.intro _ userReordered) (.cons (.intro _ (.same _)) .nil)))
  have itemReordered : Reordered
      (.object none [("type", .string "object"), ("data", .object none [("name", .null)]),
        ("allowExtraKeys", .bool true)])
      (.object none [("allowExtraKeys", .bool true), ("data", .object none [("name", .null)]),
        ("type", .string "object")]) := .of_perm none (List.reverse_perm _).symm
  have schemaReordered : Reordered schema otherSchema :=
    .object none (.refl _) (.cons (.intro _ itemReordered) .nil)
  exact ⟨callFree, uniqueInData, uniqueInSchema, dataReordered, schemaReordered, rfl, rfl,
    run_reordered host ⟨some false⟩ ⟨(), []⟩ callFree uniqueInData uniqueInSchema dataReordered
      schemaReordered⟩

end Check

end SchemaMatch
