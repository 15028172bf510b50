import SchemaMatch.Proofs.Check.Walk

/-!
Contract: a check without calls finds the first obligation that fails.

Owns:
- schemas none of whose items declares calls;
- the outcome of a check against such a schema: success if every obligation of every position
  holds, and otherwise the failure of the first one in pre-order.

Does not own: checks that make calls, whose outcome also depends on the host.
-/

namespace SchemaMatch

variable {σ : Type}

/-! ## Schemas without calls -/

/-- No item that a check may reach declares calls. -/
inductive CallFree : Value → Prop where
  | intro (schema : Value)
      (noCalls : ∀ item, Item.ofForm? (SchemaForm.ofValue schema) = .ok item → item.calls = none)
      (below : ∀ item, Item.ofForm? (SchemaForm.ofValue schema) = .ok item →
        ∀ other ∈ item.below, CallFree other) :
      CallFree schema

/-- How to see that a well-formed schema is free of calls: by the schemas right below it. -/
theorem CallFree.of_item {schema : Value} {item : Item} (schemas : List Value)
    (read : Item.ofForm? (SchemaForm.ofValue schema) = .ok item) (noCalls : item.calls = none)
    (below : item.below = schemas) (callFree : ∀ other ∈ schemas, CallFree other) :
    CallFree schema := by
  refine .intro schema (fun other readAgain => ?_) (fun other readAgain => ?_)
  · obtain rfl : item = other := Except.ok.inj (read.symm.trans readAgain)
    exact noCalls
  · obtain rfl : item = other := Except.ok.inj (read.symm.trans readAgain)
    rw [below]
    exact callFree

theorem Position.callSites_of_callFree {position : Position}
    (callFree : CallFree position.schema) : position.callSites = [] := by
  obtain ⟨_, noCalls, -⟩ := callFree
  cases read : position.item? with
  | error violation => simp [Position.callSites, read]
  | ok item =>
      simp only [Position.callSites, read, noCalls item read]
      split <;> rfl

/-- Without calls, the steps are the obligations. -/
theorem Position.steps_of_callFree (options : Options) (position : Position)
    (callFree : CallFree position.schema) :
    position.steps options =
      (position.preorder.flatMap (obligations options)).map Step.require := by
  have below : ∀ child ∈ position.children,
      child.steps options = (child.preorder.flatMap (obligations options)).map Step.require := by
    intro child member
    obtain ⟨item, read, isBelow⟩ := schema_of_mem_children member
    have callFreeBelow : CallFree child.schema := by
      obtain ⟨_, -, below⟩ := callFree
      exact below item read child.schema isBelow
    exact steps_of_callFree options child callFreeBelow
  rw [steps_eq, preorder_eq, ownSteps, callSites_of_callFree callFree, List.flatMap_cons,
    List.map_append, List.map_nil, List.append_nil, List.flatMap_assoc, List.map_flatMap]
  congr 1
  exact List.flatMap_congr below
termination_by sizeOf position.schema
decreasing_by exact sizeOf_schema_child_lt member

/-! ## The first failure -/

/-- The first of some obligations that does not hold fails with a mismatch. -/
def FailsFirst (obligations : List Obligation) (mismatch : Mismatch) : Prop :=
  ∃ before failing after, obligations = before ++ failing :: after ∧
    (∀ earlier ∈ before, earlier.holds = true) ∧
    failing.holds = false ∧ failing.failure = mismatch

theorem firstFailure_eq_find? (obligations : List Obligation) :
    firstFailure obligations =
      (obligations.find? fun obligation => !obligation.holds).elim (.ok ())
        fun failing => .error failing.failure := by
  induction obligations with
  | nil => rfl
  | cons obligation rest inductionHypothesis =>
      rw [firstFailure, List.find?_cons, inductionHypothesis]
      cases obligation.holds <;> rfl

theorem firstFailure_append (earlier later : List Obligation) :
    firstFailure (earlier ++ later) =
      match firstFailure earlier with
      | .ok () => firstFailure later
      | .error mismatch => .error mismatch := by
  induction earlier with
  | nil => rfl
  | cons obligation rest inductionHypothesis =>
      rw [List.cons_append, firstFailure, firstFailure]
      cases obligation.holds with
      | true => exact inductionHypothesis
      | false => rfl

theorem firstFailure_eq_ok_iff {obligations : List Obligation} :
    firstFailure obligations = .ok () ↔ ∀ obligation ∈ obligations, obligation.holds = true := by
  rw [firstFailure_eq_find?]
  cases found : obligations.find? fun obligation => !obligation.holds with
  | none => simpa using List.find?_eq_none.mp found
  | some failing =>
      have fails : failing.holds = false := by simpa using List.find?_some found
      have member := List.mem_of_find?_eq_some found
      constructor
      · intro impossible
        cases impossible
      · intro allHold
        rw [allHold failing member] at fails
        cases fails

theorem firstFailure_flatMap_eq_ok_iff {α : Type} {entries : List α}
    {obligations : α → List Obligation} :
    firstFailure (entries.flatMap obligations) = .ok () ↔
      ∀ entry ∈ entries, ∀ obligation ∈ obligations entry, obligation.holds = true := by
  rw [firstFailure_eq_ok_iff, List.forall_mem_flatMap]

theorem firstFailure_eq_error_iff {obligations : List Obligation} {mismatch : Mismatch} :
    firstFailure obligations = .error mismatch ↔ FailsFirst obligations mismatch := by
  rw [firstFailure_eq_find?]
  constructor
  · intro reported
    cases found : obligations.find? fun obligation => !obligation.holds with
    | none => rw [found] at reported; cases reported
    | some failing =>
        rw [found] at reported
        cases reported
        obtain ⟨fails, before, after, split, allHold⟩ := List.find?_eq_some_iff_append.mp found
        exact ⟨before, failing, after, split, by simpa using allHold, by simpa using fails, rfl⟩
  · rintro ⟨before, failing, after, split, allHold, fails, rfl⟩
    have found : obligations.find? (fun obligation => !obligation.holds) = some failing :=
      List.find?_eq_some_iff_append.mpr
        ⟨by simpa using fails, before, after, split, by simpa using allHold⟩
    rw [found]
    rfl

namespace Position

/-- The obligations of a position and of all positions below it. -/
def allObligations (options : Options) (position : Position) : List Obligation :=
  position.preorder.flatMap (obligations options)

theorem allObligations_eq (options : Options) (position : Position) :
    position.allObligations options =
      position.obligations options ++ position.children.flatMap (allObligations options) := by
  rw [allObligations, preorder_eq, List.flatMap_cons, List.flatMap_assoc]
  rfl

/-- What holds the data is not asked for. -/
theorem allObligations_heldBy (options : Options) (position : Position) (parent : Value) :
    ({ position with parent := parent } : Position).allObligations options =
      position.allObligations options := by
  rw [allObligations_eq, allObligations_eq]
  rfl

end Position

namespace Check

/-- The outcome of a check is that of its steps. -/
theorem run_eq_reporting_steps (host : Host σ) (data schema : Value) (options : Options) :
    run host data schema options =
      reporting data (Step.performAll host ((Position.root data schema).steps options)) := by
  rw [run, ← node_eq_performAll host options (Position.root data schema)]
  rfl

theorem outcome_run (host : Host σ) (data schema : Value) (options : Options)
    (session : Session σ) :
    ((run host data schema options).finish session).1 =
      ((Step.performAll host ((Position.root data schema).steps options)).finish session).1 := by
  rw [run_eq_reporting_steps, Run.finish_reporting]
  cases (Step.performAll host ((Position.root data schema).steps options)).finish session with
  | mk result later => cases result <;> rfl

theorem outcome_of_callFree (host : Host σ) (data : Value) {schema : Value} (options : Options)
    (session : Session σ) (callFree : CallFree schema) :
    ((run host data schema options).finish session).1 =
      firstFailure ((Position.root data schema).allObligations options) := by
  rw [outcome_run, Position.steps_of_callFree options (Position.root data schema) callFree,
    Step.performAll_require, Run.finish_settle]
  rfl

end Check

end SchemaMatch
