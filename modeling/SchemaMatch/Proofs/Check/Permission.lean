import SchemaMatch.Proofs.Check.History

/-!
Contract: what the options of a check decide.

Owns:
- the obligations that strict options add, which are those on the keys of objects whose nodes
  set no policy;
- runs of steps among which further obligations stand: they go the same way, or fail at one of
  those;
- `Check.run_under_options`, which compares the three runs that options tell apart.

Does not own: how a node comes to its own policy.
-/

namespace SchemaMatch

variable {σ : Type}

/-! ## Additional obligations -/

/-- Steps among which further obligations stand. -/
inductive Adds (additional : Obligation → Prop) : List Step → List Step → Prop where
  | nil : Adds additional [] []
  | keep {steps stricter : List Step} (step : Step) (rest : Adds additional steps stricter) :
      Adds additional (step :: steps) (step :: stricter)
  | insert {steps stricter : List Step} (obligation : Obligation)
      (isAdditional : additional obligation) (rest : Adds additional steps stricter) :
      Adds additional steps (.require obligation :: stricter)

namespace Adds

variable {additional : Obligation → Prop}

theorem refl (steps : List Step) : Adds additional steps steps := by
  induction steps with
  | nil => exact .nil
  | cons step rest inductionHypothesis => exact .keep step inductionHypothesis

theorem append {steps stricter others strictOthers : List Step}
    (first : Adds additional steps stricter) (second : Adds additional others strictOthers) :
    Adds additional (steps ++ others) (stricter ++ strictOthers) := by
  induction first with
  | nil => exact second
  | keep step _ inductionHypothesis => exact .keep step inductionHypothesis
  | insert obligation isAdditional _ inductionHypothesis =>
      exact .insert obligation isAdditional inductionHypothesis

/-- Additional obligations may stand between two parts of the steps. -/
theorem between {further : List Obligation}
    (areAdditional : ∀ obligation ∈ further, additional obligation) (first last : List Step) :
    Adds additional (first ++ last) (first ++ (further.map Step.require ++ last)) := by
  apply append (refl first)
  induction further with
  | nil => exact refl last
  | cons obligation rest inductionHypothesis =>
      apply insert obligation (areAdditional obligation List.mem_cons_self)
      apply inductionHypothesis
      intro other member
      exact areAdditional other (List.mem_cons_of_mem _ member)

theorem flatMap {α : Type} {entries : List α} {steps stricter : α → List Step}
    (each : ∀ entry ∈ entries, Adds additional (steps entry) (stricter entry)) :
    Adds additional (entries.flatMap steps) (entries.flatMap stricter) := by
  induction entries with
  | nil => exact .nil
  | cons entry rest inductionHypothesis =>
      rw [List.flatMap_cons, List.flatMap_cons]
      apply append (each entry List.mem_cons_self)
      apply inductionHypothesis
      intro other member
      exact each other (List.mem_cons_of_mem _ member)

/-- With further obligations a run goes the same way, or one of them fails it. -/
theorem finish {steps stricter : List Step} (adds : Adds additional steps stricter)
    (host : Host σ) (session : Session σ) :
    (Step.performAll host stricter).finish session =
        (Step.performAll host steps).finish session ∨
      ∃ obligation, additional obligation ∧ obligation.holds = false ∧
        ((Step.performAll host stricter).finish session).1 = .error obligation.failure := by
  induction adds generalizing session with
  | nil => exact .inl rfl
  | keep step _ inductionHypothesis =>
      rw [Step.performAll, Step.performAll, Run.finish_bind, Run.finish_bind]
      cases (step.perform host).finish session with
      | mk result later =>
          cases result with
          | error mismatch => exact .inl rfl
          | ok _ => exact inductionHypothesis later
  | insert obligation isAdditional _ inductionHypothesis =>
      rw [Step.performAll, Step.perform, firstFailure]
      cases holds : obligation.holds with
      | true => exact inductionHypothesis session
      | false => exact .inr ⟨obligation, isAdditional, holds, rfl⟩

/-- With further obligations a run makes the same calls, as far as it gets. -/
theorem history_prefix {steps stricter : List Step} (adds : Adds additional steps stricter)
    (host : Host σ) (session : Session σ) :
    history host stricter session <+: history host steps session := by
  induction adds generalizing session with
  | nil => exact List.prefix_rfl
  | keep step _ inductionHypothesis =>
      cases step with
      | require obligation =>
          rw [history, history]
          split
          · exact inductionHypothesis session
          · exact List.prefix_rfl
      | make site =>
          simp only [history]
          rw [List.prefix_cons_inj]
          split
          · exact inductionHypothesis _
          · exact List.prefix_rfl
  | insert obligation isAdditional _ inductionHypothesis =>
      rw [history]
      split
      · exact inductionHypothesis session
      · exact List.nil_prefix

end Adds

/-! ## Obligations under options -/

namespace Policy

theorem permitsExtraKeys_unset (marker : Option Value) (setting : Option Bool) :
    permitsExtraKeys marker setting ⟨none⟩ = permitsExtraKeys marker setting ⟨some true⟩ := by
  unfold permitsExtraKeys resolve
  cases own? marker setting <;> rfl

/-- Strict and permissive options differ where neither a marker nor a setting decides. -/
theorem permitsExtraKeys_strict (marker : Option Value) (setting : Option Bool) :
    permitsExtraKeys marker setting ⟨some false⟩ = permitsExtraKeys marker setting ⟨some true⟩ ∨
      permitsExtraKeys marker setting ⟨some false⟩ = false ∧
        permitsExtraKeys marker setting ⟨some true⟩ = true ∧ marker = none ∧ setting = none := by
  cases marker with
  | some value => exact .inl rfl
  | none =>
      cases setting with
      | some permits => exact .inl rfl
      | none => exact .inr ⟨rfl, rfl, rfl, rfl⟩

end Policy

namespace Position

variable {position : Position}

theorem obligations_unset (position : Position) :
    position.obligations ⟨none⟩ = position.obligations ⟨some true⟩ := by
  unfold obligations contentObligations
  simp only [permitsExtraKeys_eq_policy, Policy.permitsExtraKeys_unset]

theorem steps_unset (position : Position) :
    position.steps ⟨none⟩ = position.steps ⟨some true⟩ := by
  unfold steps ownSteps
  simp only [obligations_unset]

/-- A position is an object node that sets no policy. -/
structure Unsettled (position : Position) (item : Item) : Prop where
  read : position.item? = .ok item
  isObject : item.kind = .object
  noMarker : (SchemaForm.ofValue position.schema).marker? = none
  noSetting : item.allowExtraKeys = none

/-- The obligations on keys that apply only under strict options. -/
def UnsettledKey (position : Position) (obligation : Obligation) : Prop :=
  ∃ item, position.Unsettled item ∧ obligation ∈ position.keyObligations item

/-- Where such an obligation fails, the data has a key that its node does not declare. -/
theorem UnsettledKey.extraKey {obligation : Obligation}
    (unsettled : position.UnsettledKey obligation) (fails : obligation.holds = false) :
    ∃ item key, position.Unsettled item ∧ key ∈ position.data.keys ∧
      key ∉ declaredKeys item ∧ obligation.failure = .extraKey position.path key := by
  obtain ⟨item, isUnsettled, member⟩ := unsettled
  obtain ⟨key, isKey, rfl⟩ := List.mem_map.mp member
  have undeclared : key ∉ declaredKeys item := by simpa using fails
  exact ⟨item, key, isUnsettled, isKey, undeclared, rfl⟩

theorem contentObligations_strict {item : Item} (read : position.item? = .ok item) :
    ∃ further, position.contentObligations ⟨some false⟩ item =
        position.contentObligations ⟨some true⟩ item ++ further ∧
      ∀ obligation ∈ further, position.UnsettledKey obligation := by
  by_cases isObject : item.kind = .object
  · simp only [contentObligations, isObject]
    rcases Policy.permitsExtraKeys_strict (SchemaForm.ofValue position.schema).marker?
      item.allowExtraKeys with same | ⟨strict, permissive, noMarker, noSetting⟩
    · refine ⟨[], ?_, by simp⟩
      rw [permitsExtraKeys_eq_policy, permitsExtraKeys_eq_policy, same, List.append_nil]
    · refine ⟨position.keyObligations item, ?_, fun obligation member => ?_⟩
      · rw [permitsExtraKeys_eq_policy, permitsExtraKeys_eq_policy, strict, permissive,
          List.append_assoc]
        rfl
      · exact ⟨item, ⟨read, isObject, noMarker, noSetting⟩, member⟩
  · refine ⟨[], ?_, by simp⟩
    unfold contentObligations
    cases kind : item.kind with
    | object => cases isObject kind
    | _ => simp

theorem obligations_strict (position : Position) :
    ∃ further, position.obligations ⟨some false⟩ =
        position.obligations ⟨some true⟩ ++ further ∧
      ∀ obligation ∈ further, position.UnsettledKey obligation := by
  cases read : position.item? with
  | error violation => exact ⟨[], by simp [obligations, read], by simp⟩
  | ok item =>
      obtain ⟨further, split, areUnsettled⟩ := contentObligations_strict read
      refine ⟨further, ?_, areUnsettled⟩
      rw [obligations_of_item read, obligations_of_item read, split]
      rfl

/-- Strict options add obligations on the keys of unsettled nodes, and no others. -/
theorem adds_steps_strict (position : Position) :
    Adds (fun obligation => ∃ below ∈ position.preorder, below.UnsettledKey obligation)
      (position.steps ⟨some true⟩) (position.steps ⟨some false⟩) := by
  refine Adds.flatMap fun below member => ?_
  obtain ⟨further, split, areUnsettled⟩ := below.obligations_strict
  unfold ownSteps
  rw [split, List.map_append, List.append_assoc]
  apply Adds.between
  intro obligation isFurther
  exact ⟨below, member, areUnsettled obligation isFurther⟩

end Position

/-- An outcome is the report of a key that the data has at a position, and that the node there
does not declare, although it sets no policy. -/
def ReportsUnsettledKey (data schema : Value) (outcome : Except Mismatch Unit) : Prop :=
  ∃ position ∈ (Position.root data schema).preorder, ∃ item key,
    outcome = .error (.extraKey position.path key) ∧
    key ∈ (data.at position.path.below).keys ∧
    position.Unsettled item ∧ key ∉ Position.declaredKeys item

namespace Check

theorem finish_strict (host : Host σ) (data schema : Value) (session : Session σ) :
    (run host data schema ⟨some false⟩).finish session =
        (run host data schema ⟨some true⟩).finish session ∨
      ReportsUnsettledKey data schema ((run host data schema ⟨some false⟩).finish session).1 := by
  have adds := (Position.root data schema).adds_steps_strict
  rcases adds.finish host session with
    same | ⟨obligation, ⟨position, isPosition, unsettled⟩, fails, outcome⟩
  · refine .inl ?_
    simp only [run_eq_reporting_steps, Run.finish_reporting, same]
  · obtain ⟨item, key, isUnsettled, isKey, undeclared, failure⟩ := unsettled.extraKey fails
    refine .inr ⟨position, isPosition, item, key, ?_, ?_, isUnsettled, undeclared⟩
    · rw [outcome_run, outcome, failure]
    · rwa [← (Position.place_of_mem_preorder_root isPosition).1]

/-- Without a setting the options permit extra keys. Under strict options a check goes as it
does under permissive ones, or reports a key of the data that its node does not declare, where
the node itself sets no policy. Up to there it makes the same calls, and each of them comes to
the same. -/
theorem run_under_options (host : Host σ) (data schema : Value) (session : Session σ) :
    let ran (allowExtraKeys : Option Bool) :=
      (run host data schema ⟨allowExtraKeys⟩).finish session
    let made (allowExtraKeys : Option Bool) :=
      history host ((Position.root data schema).steps ⟨allowExtraKeys⟩) session
    ran none = ran (some true) ∧
    (ran (some false) = ran (some true) ∨
      ReportsUnsettledKey data schema (ran (some false)).1) ∧
    ((ran (some false)).1 = .ok () → ran (some true) = ran (some false)) ∧
    made none = made (some true) ∧
    made (some false) <+: made (some true) := by
  intro ran made
  have adds := (Position.root data schema).adds_steps_strict
  have strict := finish_strict host data schema session
  refine ⟨?_, strict, ?_, ?_, adds.history_prefix host session⟩
  · simp only [ran, run_eq_reporting_steps, Position.steps_unset]
  · intro passes
    rcases strict with same | ⟨position, -, item, key, fails, -⟩
    · exact same.symm
    · cases fails.symm.trans passes
  · simp only [made, Position.steps_unset]

end Check

end SchemaMatch
