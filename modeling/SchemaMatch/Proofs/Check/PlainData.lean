import SchemaMatch.Proofs.Check.FirstFailure
import SchemaMatch.Proofs.Value.Rearrangement

/-!
Contract: a check of data without callables finds the first obligation that fails.

Owns:
- values without callables, which is what documents hold;
- the outcome of a check of such data, which no host has a part in: calls may be declared, but
  the node that declares them fails for the kind of its data first.

Does not own: schemas without calls, whose data may hold callables.
-/

namespace SchemaMatch

variable {σ : Type}

namespace Value

/-- Whether no callable is in a value, at any depth. -/
def isPlain : Value → Bool :=
  everywhere fun part => !part.isCallable

theorem isCallable_of_isPlain {value : Value} (plain : value.isPlain = true) :
    value.isCallable = false := by
  simpa using holds_of_everywhere plain

/-! ## Documents -/

theorem isPlain_of_wrapped? {fields : List (String × Json)} {value : Value}
    (wrapped : wrapped? fields = some (.ok value)) : value.isPlain = true := by
  unfold wrapped? at wrapped
  split at wrapped
  next payload =>
    cases read : dateOfJson? payload with
    | error cause => rw [read] at wrapped; cases wrapped
    | ok instant => rw [read] at wrapped; cases wrapped; rfl
  next payload =>
    cases read : regexOfJson? payload with
    | error cause => rw [read] at wrapped; cases wrapped
    | ok pattern => rw [read] at wrapped; cases wrapped; rfl
  next => cases wrapped

mutual

/-- Documents hold no callables, extended or not. -/
theorem isPlain_of_ofExtendedJson? (document : Json) {value : Value}
    (read : ofExtendedJson? document = .ok value) : value.isPlain = true :=
  match document with
  | .null | .bool _ | .number _ | .string _ => by
      cases read
      rfl
  | .array items => by
      rw [ofExtendedJson?] at read
      obtain ⟨values, itemsRead, same⟩ := bind_eq_ok_iff.mp read
      cases same
      exact everywhereInItems_iff.mpr (isPlain_of_ofExtendedItems? items itemsRead)
  | .object fields => by
      rw [ofExtendedJson?] at read
      split at read
      next result isWrapper =>
        rw [read] at isWrapper
        exact isPlain_of_wrapped? isWrapper
      next =>
        obtain ⟨pairs, fieldsRead, same⟩ := bind_eq_ok_iff.mp read
        cases same
        refine everywhereInFields_iff.mpr fun field isField => ?_
        have isPair : field ∈ pairs := Fields.mem_of_mem_ofPairs isField
        exact isPlain_of_ofExtendedFields? fields fieldsRead field isPair

theorem isPlain_of_ofExtendedItems? (items : List Json) {values : List Value}
    (read : ofExtendedItems? items = .ok values) : ∀ value ∈ values, value.isPlain = true :=
  match items with
  | [] => by
      cases read
      simp
  | item :: rest => by
      rw [ofExtendedItems?] at read
      obtain ⟨value, itemRead, restRead⟩ := bind_eq_ok_iff.mp read
      obtain ⟨others, othersRead, same⟩ := bind_eq_ok_iff.mp restRead
      cases same
      exact List.forall_mem_cons.mpr
        ⟨isPlain_of_ofExtendedJson? item itemRead, isPlain_of_ofExtendedItems? rest othersRead⟩

theorem isPlain_of_ofExtendedFields? (fields : List (String × Json))
    {pairs : List (String × Value)} (read : ofExtendedFields? fields = .ok pairs) :
    ∀ pair ∈ pairs, pair.2.isPlain = true :=
  match fields with
  | [] => by
      cases read
      simp
  | (key, field) :: rest => by
      rw [ofExtendedFields?] at read
      obtain ⟨value, fieldRead, restRead⟩ := bind_eq_ok_iff.mp read
      obtain ⟨others, othersRead, same⟩ := bind_eq_ok_iff.mp restRead
      cases same
      exact List.forall_mem_cons.mpr
        ⟨isPlain_of_ofExtendedJson? field fieldRead, isPlain_of_ofExtendedFields? rest othersRead⟩

end

end Value

/-! ## Checks of plain data -/

namespace Position

/-- The data below plain data is plain. -/
theorem isPlain_of_mem_preorder {position : Position} (plain : position.data.isPlain = true) :
    ∀ below ∈ position.preorder, below.data.isPlain = true := by
  refine forall_mem_preorder ?_ plain
  intro position plain child member
  obtain ⟨item, -, ⟨-, part, -, -, rfl⟩ |
    ⟨-, values, index, value, schema, isValues, isValue, -, rfl⟩⟩ := cases_of_mem_children member
  · exact Value.everywhere_get rfl plain part.1
  · rw [isValues] at plain
    exact Value.everywhereInItems_iff.mp plain value (List.mem_of_getElem? isValue)

/-- Of the steps at plain data only the obligations matter: where calls follow them, the first
obligation fails, since the data is no function. -/
theorem performAll_ownSteps_of_isPlain (host : Host σ) (options : Options) {position : Position}
    (plain : position.data.isPlain = true) :
    Step.performAll host (position.ownSteps options) =
      Run.settle (firstFailure (position.obligations options)) := by
  rw [ownSteps, Step.performAll_append, Step.performAll_require]
  by_cases declaresCalls : ∃ item, position.item? = .ok item ∧ item.kind = .function
  · obtain ⟨item, read, isFunction⟩ := declaresCalls
    have notFunction : position.data.hasKind .function = false := by
      have notCallable := Value.isCallable_of_isPlain plain
      cases isData : position.data with
      | function _ => rw [isData] at notCallable; cases notCallable
      | classTag _ => rw [isData] at notCallable; cases notCallable
      | _ => rfl
    rw [obligations_of_item read, isFunction, firstFailure, notFunction]
    rfl
  · have noCalls : position.callSites = [] := by
      cases read : position.item? with
      | error violation => simp [callSites, read]
      | ok item =>
          exact callSites_of_not_function read fun isFunction =>
            declaresCalls ⟨item, read, isFunction⟩
    rw [noCalls]
    cases firstFailure (position.obligations options) <;> rfl

theorem settle_firstFailure_append (first later : List Obligation) :
    (do Run.settle (σ := σ) (firstFailure first); Run.settle (firstFailure later)) =
      Run.settle (firstFailure (first ++ later)) := by
  rw [← Step.performAll_require ⟨fun _ _ _ state => ⟨.ok .undefined, [], state⟩⟩ (first ++ later),
    List.map_append, Step.performAll_append, Step.performAll_require, Step.performAll_require]

/-- The steps at positions with plain data come to the first obligation that fails. -/
theorem performAll_flatMap_of_isPlain (host : Host σ) (options : Options)
    {positions : List Position} (plain : ∀ position ∈ positions, position.data.isPlain = true) :
    Step.performAll host (positions.flatMap (ownSteps options)) =
      Run.settle (firstFailure (positions.flatMap (obligations options))) := by
  induction positions with
  | nil => rfl
  | cons position rest inductionHypothesis =>
      obtain ⟨first, later⟩ := List.forall_mem_cons.mp plain
      rw [List.flatMap_cons, List.flatMap_cons, Step.performAll_append,
        performAll_ownSteps_of_isPlain host options first, inductionHypothesis later,
        settle_firstFailure_append]

end Position

namespace Check

/-- A check of plain data comes to the first obligation that fails, in every host and session. -/
theorem outcome_of_isPlain (host : Host σ) {data : Value} (plain : data.isPlain = true)
    (schema : Value) (options : Options) (session : Session σ) :
    ((run host data schema options).finish session).1 =
      firstFailure
        ((Position.root data schema).preorder.flatMap (Position.obligations options)) := by
  have below : ∀ position ∈ (Position.root data schema).preorder,
      position.data.isPlain = true :=
    @Position.isPlain_of_mem_preorder (Position.root data schema) plain
  rw [outcome_run, Position.steps, Position.performAll_flatMap_of_isPlain host options below,
    Run.finish_settle]

end Check

end SchemaMatch
