import SchemaMatch.Proofs.Check.Edit

/-!
Contract: what a check that tolerates extra keys does not see.

Owns:
- schemas all of whose object nodes tolerate extra keys;
- the schemas that a check compares with the parts of its data before it fails;
- positions and their twins in edited data, whose obligations are the same;
- `Check.outcome_of_edited`: edits where no schema looks leave the outcome as it is, with its
  mismatch.

Does not own: the log, which shows the data of a failed check.
-/

namespace SchemaMatch

variable {σ : Type}

/-! ## Tolerant schemas -/

/-- Every object node that a check may reach tolerates extra keys. -/
inductive Permissive (options : Options) : Value → Prop where
  | intro (schema : Value)
      (permits : ∀ item, Item.ofForm? (SchemaForm.ofValue schema) = .ok item →
        item.kind = .object →
        Policy.permitsExtraKeys (SchemaForm.ofValue schema).marker? item.allowExtraKeys options)
      (below : ∀ item, Item.ofForm? (SchemaForm.ofValue schema) = .ok item →
        ∀ other ∈ item.below, Permissive options other) :
      Permissive options schema

/-- How to see that a well-formed schema tolerates extra keys: by the schemas right below it. -/
theorem Permissive.of_item {options : Options} {schema : Value} {item : Item}
    (schemas : List Value) (read : Item.ofForm? (SchemaForm.ofValue schema) = .ok item)
    (permits : Policy.permitsExtraKeys (SchemaForm.ofValue schema).marker? item.allowExtraKeys
      options = true)
    (below : item.below = schemas) (permissive : ∀ other ∈ schemas, Permissive options other) :
    Permissive options schema := by
  refine .intro schema (fun other readAgain _ => ?_) (fun other readAgain => ?_)
  · obtain rfl : item = other := Except.ok.inj (read.symm.trans readAgain)
    exact permits
  · obtain rfl : item = other := Except.ok.inj (read.symm.trans readAgain)
    rw [below]
    exact permissive

/-! ## The first failure, child by child -/

/-- Two rows of obligations fail alike if each entry of one fails like its partner in the other,
once all entries before it have passed. -/
theorem firstFailure_flatMap_eq {α β : Type} {related : α → β → Prop} {entries : List α}
    {partners : List β} {own : α → List Obligation} {partner : β → List Obligation}
    (pairs : List.Forall₂ related entries partners)
    (alike : ∀ earlier entry later other, entries = earlier ++ entry :: later →
      (∀ passed ∈ earlier, firstFailure (own passed) = .ok ()) → related entry other →
      firstFailure (partner other) = firstFailure (own entry)) :
    firstFailure (partners.flatMap partner) = firstFailure (entries.flatMap own) := by
  induction pairs with
  | nil => rfl
  | @cons entry other rest others pair pairs inductionHypothesis =>
      rw [List.flatMap_cons, List.flatMap_cons, firstFailure_append, firstFailure_append,
        alike [] entry rest other rfl (by simp) pair]
      cases passes : firstFailure (own entry) with
      | error mismatch => rfl
      | ok _ =>
          refine inductionHypothesis fun earlier next later partnerOfNext split passed => ?_
          refine alike (entry :: earlier) next later partnerOfNext (by rw [split]; rfl) ?_
          simpa [passes] using passed

namespace Position

/-! ## What a check compares -/

/-- What a check compares with the parts of the data of a position before it fails. Below a
position where every obligation holds it comes to a child once all children before have
passed. -/
inductive Compares (options : Options) : Position → List Segment → Value → Prop where
  | here (position : Position) : Compares options position [] position.schema
  | child {position child : Position} {earlier later : List Position} {segment : Segment}
      {segments : List Segment} {schema : Value}
      (passes : firstFailure (position.obligations options) = .ok ())
      (split : position.children = earlier ++ child :: later)
      (passed : ∀ before ∈ earlier, firstFailure (before.allObligations options) = .ok ())
      (leads : child.path = position.path.child segment)
      (compares : Compares options child segments schema) :
      Compares options position (segment :: segments) schema

theorem Compares.schema_eq {options : Options} {position : Position} {schema : Value}
    (compares : position.Compares options [] schema) : schema = position.schema := by
  cases compares
  rfl

/-- Below an object node a check compares what the declared keys name. -/
theorem Compares.exists_part {options : Options} {position : Position} {segment : Segment}
    {segments : List Segment} {schema : Value} {item : Item}
    (compares : position.Compares options (segment :: segments) schema)
    (read : position.item? = .ok item) (isObject : item.kind = .object) :
    ∃ part ∈ item.parts, segment = .key part.1 ∧
      (position.child segment (position.data.get part.1) part.2).Compares options segments
        schema := by
  cases compares with
  | @child _ child earlier later _ _ _ passes split passed leads compares =>
      have isChild : child ∈ position.children := by simp [split]
      obtain ⟨other, readAgain, ⟨-, part, isPart, -, rfl⟩ | ⟨isArray, -⟩⟩ :=
        cases_of_mem_children isChild
      · obtain rfl := Except.ok.inj (read.symm.trans readAgain)
        have same : segment = .key part.1 := by simpa [Position.child, Path.child] using leads.symm
        subst same
        exact ⟨part, isPart, rfl, compares⟩
      · obtain rfl := Except.ok.inj (read.symm.trans readAgain)
        cases isObject.symm.trans isArray

/-! ## Twins -/

/-- A position with edited data. What holds the data may be edited as well. -/
structure Twin (coverage : Coverage) (position twin : Position) : Prop where
  path : twin.path = position.path
  schema : twin.schema = position.schema
  edited : Edited coverage position.data twin.data

/-- Twins one segment below a position. -/
def TwinsBelow (coverage : Coverage) (position child twin : Position) : Prop :=
  ∃ segment, child.path = position.path.child segment ∧ Twin (coverage.below segment) child twin

namespace Twin

variable {coverage : Coverage} {position twin : Position} {options : Options}

theorem obligations_eq (twins : Twin coverage position twin)
    (covered : coverage [] position.schema) (permissive : Permissive options position.schema) :
    twin.obligations options = position.obligations options := by
  apply obligations_eq_of_schema_eq twins.path twins.schema (twins.edited.looksLike covered)
  intro item read isObject forbids
  obtain ⟨_, permits, -⟩ := permissive
  exact absurd (permits item read isObject) (by simpa [permitsExtraKeys_eq_policy] using forbids)

theorem forall₂_children (twins : Twin coverage position twin)
    (covered : coverage [] position.schema) :
    List.Forall₂ (TwinsBelow coverage position) position.children twin.children := by
  apply forall₂_children_of_schema_eq twins.schema (twins.edited.looksLike covered)
  · intro item read isObject part isPart notMarker
    have declares : position.schema.Declares part.1 :=
      ⟨item, read, isObject, List.mem_map_of_mem isPart, notMarker⟩
    refine ⟨.key part.1, rfl, ?_, rfl, twins.edited.get covered declares⟩
    simp only [child, twins.path]
  · intro before after isBefore isAfter index value counterpart schema isValue isCounterpart
    obtain ⟨-, elements⟩ := Edited.elements (isBefore ▸ isAfter ▸ twins.edited)
    refine ⟨.index index, rfl, by simp only [child, twins.path], rfl, ?_⟩
    exact (elements index _ _ isValue isCounterpart).mono
      fun segments schema isBelow => ⟨.index index, rfl, isBelow⟩

/-- Twins fail alike: what the one compares before it fails is edited unseen in the other. -/
theorem firstFailure_eq {position twin : Position} (options : Options)
    (twins : Twin (position.Compares options) position twin)
    (permissive : Permissive options position.schema) :
    firstFailure (twin.allObligations options) = firstFailure (position.allObligations options) := by
  have own := twins.obligations_eq (.here position) permissive
  rw [allObligations_eq, allObligations_eq, firstFailure_append, firstFailure_append, own]
  cases passes : firstFailure (position.obligations options) with
  | error mismatch => rfl
  | ok _ =>
      -- A child that the check comes to is reached because all children before it have passed.
      refine firstFailure_flatMap_eq (twins.forall₂_children (.here position)) ?_
      rintro earlier child later other split passed ⟨segment, leads, path, schema, edited⟩
      have isChild : child ∈ position.children := by simp [split]
      have smaller := sizeOf_schema_child_lt isChild
      obtain ⟨item, read, isBelow⟩ := schema_of_mem_children isChild
      obtain ⟨_, -, below⟩ := permissive
      refine firstFailure_eq options ⟨path, schema, ?_⟩ (below item read child.schema isBelow)
      exact edited.mono fun segments other compares => .child passes split passed leads compares
termination_by sizeOf position.schema

end Twin

end Position

/-! ## Checks of edited data -/

namespace Check

/-- Data may be edited wherever no schema looks that a check compares before it ends. If the
schema declares no calls and tolerates extra keys, the outcome is the same. -/
theorem outcome_of_edited (host : Host σ) {data edited schema : Value} (options : Options)
    (session : Session σ) (callFree : CallFree schema) (permissive : Permissive options schema)
    (unseen : Edited ((Position.root data schema).Compares options) data edited) :
    ((run host edited schema options).finish session).1 =
      ((run host data schema options).finish session).1 := by
  have decided : ∀ value, ((run host value schema options).finish session).1 =
      firstFailure ((Position.root value schema).allObligations options) := by
    intro value
    rw [outcome_run, Position.steps_of_callFree options (Position.root value schema) callFree,
      Step.performAll_require, Run.finish_settle]
    rfl
  rw [decided, decided]
  exact Position.Twin.firstFailure_eq options ⟨rfl, rfl, unseen⟩ permissive

/-- A field that the user's node does not declare is removed and another inserted, and the marker
is dropped. The array is compared as an object that declares its first index only, so the object
at its second index is free. -/
theorem outcome_with_unseen_edits :
    let host : Host Unit := ⟨fun _ _ _ _ => ⟨.ok .undefined, [], ()⟩⟩
    let user : Value := .object none [("name", .null)]
    let pair : Value := .object none
      [("type", .string "object"), ("data", .array [.null]), ("allowExtraKeys", .bool true)]
    let schema : Value := .object none [("user", user), ("pair", pair), ("done", .bool true)]
    let data : Value := .object none
      [(SchemaForm.markerKey, .bool false),
        ("user", .object none [("name", .null), ("age", .null)]),
        ("pair", .array [.null, .object none [("secret", .null)]]), ("done", .bool false)]
    let edited : Value := .object none
      [("user", .object none [("name", .null), ("mail", .string "x")]),
        ("pair", .array [.null, .object (some (.builtin .date)) []]), ("done", .bool false),
        ("extra", .array [])]
    let outcome (value : Value) := ((run host value schema {}).finish ⟨(), []⟩).1
    CallFree schema ∧ Permissive {} schema ∧
      Edited ((Position.root data schema).Compares {}) data edited ∧
      outcome data = .error (.value ⟨[.key "done"]⟩ "false" "true") ∧
      outcome edited = outcome data := by
  intro host user pair schema data edited outcome
  have callFree : CallFree schema := by
    have null : CallFree .null := .of_item [] rfl rfl rfl (by simp)
    have userFree : CallFree user := .of_item [.null] rfl rfl rfl (by simpa using null)
    have pairFree : CallFree pair := .of_item [.null] rfl rfl rfl (by simpa using null)
    have doneFree : CallFree (.bool true) := .of_item [] rfl rfl rfl (by simp)
    exact .of_item [_, _, _] rfl rfl rfl (by simpa using ⟨userFree, pairFree, doneFree⟩)
  have permissive : Permissive {} schema := by
    have null : Permissive {} .null := .of_item [] rfl rfl rfl (by simp)
    have userPermits : Permissive {} user := .of_item [.null] rfl rfl rfl (by simpa using null)
    have pairPermits : Permissive {} pair := .of_item [.null] rfl rfl rfl (by simpa using null)
    have donePermits : Permissive {} (.bool true) := .of_item [] rfl rfl rfl (by simp)
    exact .of_item [_, _, _] rfl rfl rfl (by simpa using ⟨userPermits, pairPermits, donePermits⟩)
  let compared : Coverage := (Position.root data schema).Compares {}
  have atUser : ∀ other, compared [.key "user"] other → other = user := by
    intro other compares
    obtain ⟨part, isPart, same, below⟩ := Position.Compares.exists_part compares rfl rfl
    have isPart : part ∈ [("user", user), ("pair", pair), ("done", .bool true)] := isPart
    simp only [List.mem_cons, List.not_mem_nil, or_false] at isPart
    rcases isPart with rfl | rfl | rfl
    · exact below.schema_eq
    · simp at same
    · simp at same
  have atSecond : ∀ (segment : Segment) other, segment.index? = some 1 →
      ¬ compared [.key "pair", segment] other := by
    intro segment other second compares
    obtain ⟨part, isPart, same, below⟩ := Position.Compares.exists_part compares rfl rfl
    have isPart : part ∈ [("user", user), ("pair", pair), ("done", .bool true)] := isPart
    simp only [List.mem_cons, List.not_mem_nil, or_false] at isPart
    rcases isPart with rfl | rfl | rfl
    · simp at same
    · obtain ⟨element, isElement, rfl, -⟩ := below.exists_part rfl rfl
      cases List.mem_singleton.mp isElement
      cases second
    · simp at same
  have userEdited : Edited (compared.below (.key "user"))
      (.object none [("name", .null), ("age", .null)])
      (.object none [("name", .null), ("mail", .string "x")]) := by
    have undeclared : ∀ key, key ≠ "name" → ∀ other, compared.below (.key "user") [] other →
        ¬ other.Declares key := by
      intro key notName other compares declares
      obtain rfl := atUser other compares
      exact notName (List.mem_singleton.mp (declares.mem_declaredKeys rfl))
    exact .trans (@Edited.remove _ none _ "age" (undeclared "age" (by decide)))
      (@Edited.insert _ none _ "mail" _ (undeclared "mail" (by decide)))
  have pairEdited : Edited (compared.below (.key "pair"))
      (.array [.null, .object none [("secret", .null)]])
      (.array [.null, .object (some (.builtin .date)) []]) := by
    refine .array rfl fun index left right isLeft isRight => ?_
    match index with
    | 0 => cases isLeft; cases isRight; exact .same _ _
    | 1 =>
        cases isLeft
        cases isRight
        exact .unreached _ _ _ _ fun other ⟨segment, second, compares⟩ =>
          atSecond segment other second compares
    | index + 2 => cases isLeft
  have unseen : Edited compared data edited := by
    refine .object none fun other key compares declares => ?_
    obtain rfl := Position.Compares.schema_eq compares
    have declared : key ∈ ["user", "pair", "done"] := declares.mem_declaredKeys rfl
    simp only [List.mem_cons, List.not_mem_nil, or_false] at declared
    rcases declared with rfl | rfl | rfl
    · exact userEdited
    · exact pairEdited
    · exact .same _ _
  exact ⟨callFree, permissive, unseen, rfl,
    outcome_of_edited host {} ⟨(), []⟩ callFree permissive unseen⟩

end Check

end SchemaMatch
