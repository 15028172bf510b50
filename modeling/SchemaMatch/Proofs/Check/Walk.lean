import SchemaMatch.Proofs.Check.Position
import SchemaMatch.Proofs.Check.Run

/-!
Contract: a check performs its steps in order.

Owns:
- the performance of steps, one after the other, until one fails;
- the comparison of each kind of node with the obligations of its position;
- `Check.node_eq_performAll`: the walk down the tree of a schema performs the steps of its
  position.

Everything that is said about the order of a check follows from that equation.

Does not own: what the steps of a position are.
-/

namespace SchemaMatch

variable {σ : Type}

/-! ## Performing steps -/

/-- Make a declared call, and check its result in a run of its own with default options. -/
def CallSite.make (host : Host σ) (site : CallSite) : Run σ Unit := do
  Run.emit (.verifyingCall site.path site.index site.call.args.length)
  let returned ← Check.invoke host site.target site.receiver site.call.args
  let failure ← Run.attempt (Check.run host returned site.call.result {})
  if failure.isSome then
    throw (.callResult site.path site.index returned.display site.call.result.display)

namespace Step

def perform (host : Host σ) : Step → Run σ Unit
  | .require obligation => Run.settle (firstFailure [obligation])
  | .make site => site.make host

/-- Perform steps in order. A step that fails ends the run. -/
def performAll (host : Host σ) : List Step → Run σ Unit
  | [] => pure ()
  | step :: rest => do
      step.perform host
      performAll host rest

theorem performAll_append (host : Host σ) (earlier later : List Step) :
    performAll host (earlier ++ later) =
      (do performAll host earlier; performAll host later) := by
  induction earlier with
  | nil => simp [performAll]
  | cons step rest inductionHypothesis =>
      simp only [List.cons_append, performAll, inductionHypothesis, bind_assoc]

theorem performAll_require (host : Host σ) (obligations : List Obligation) :
    performAll host (obligations.map require) = Run.settle (firstFailure obligations) := by
  induction obligations with
  | nil => rfl
  | cons obligation rest inductionHypothesis =>
      rw [List.map_cons, performAll, inductionHypothesis, perform]
      cases holds : obligation.holds <;> simp only [firstFailure, holds] <;> rfl

end Step

namespace Check

theorem verifyCalls_eq_performAll (host : Host σ) (path : Path) (parent data : Value)
    (calls : List Call) (index : Nat) :
    verifyCalls host path parent data index
        (calls.map fun call => (call, Schema.ofValue call.result)) =
      Step.performAll host
        (((calls.zipIdx index).map fun entry =>
          (⟨path, entry.2, data, parent, entry.1⟩ : CallSite)).map Step.make) := by
  induction calls generalizing index with
  | nil => rw [List.map_nil, verifyCalls]; rfl
  | cons call rest inductionHypothesis =>
      rw [List.map_cons, verifyCalls, inductionHypothesis, List.zipIdx_cons, List.map_cons,
        List.map_cons, Step.performAll]
      simp only [Step.perform, CallSite.make, Check.run, bind_assoc]
      congr 1; funext _; congr 1; funext returned; congr 1; funext failure
      split <;> simp

/-! ## One node against the obligations of its position -/

section Nodes

variable (position : Position) (item : Item)

theorem matchScalar_eq_firstFailure (kind : ScalarKind) :
    matchScalar position.path kind item.data position.data =
      firstFailure
        ({ holds := position.data.hasKind kind.toKind
           failure := .type position.path kind.toKind } :: position.valueObligations item) := by
  have sameKind : (scalarKind? position.data = some kind) ↔
      position.data.hasKind kind.toKind = true := by
    cases position.data <;> cases kind <;> simp [scalarKind?, Value.hasKind, ScalarKind.toKind]
  unfold matchScalar
  by_cases isKind : scalarKind? position.data = some kind
  · rw [if_neg (by simpa using isKind), firstFailure, if_pos (sameKind.mp isKind)]
    cases data : item.data with
    | none => simp [Position.valueObligations, data, firstFailure]
    | some expected => simp [Position.valueObligations, data, firstFailure]
  · rw [if_pos isKind, firstFailure, if_neg (fun holds => isKind (sameKind.mpr holds))]

/-- The mismatch that a failed check of a string is reported as. -/
def stringMismatch (path : Path) : StringFailure → Mismatch
  | .pattern actual source => .pattern path actual source
  | .literal actual expected => .value path actual expected

theorem runStringCheck_eq_firstFailure {actual : String} (check : Value)
    (isString : position.data = .string actual) :
    (runStringCheck actual check).mapError (stringMismatch position.path) =
      firstFailure [position.stringObligation check] := by
  cases check with
  | regex pattern =>
      simp only [runStringCheck, Position.stringObligation, isString, Value.display, firstFailure]
      split <;> rfl
  | string literal =>
      simp only [runStringCheck, Position.stringObligation, isString, Value.display, firstFailure,
        Value.strictEqual, beq_iff_eq, eq_comm (a := literal)]
      split <;> rfl
  | _ => simp [runStringCheck, Position.stringObligation, isString, Value.display, firstFailure,
      Value.strictEqual, Except.mapError, stringMismatch]

theorem runStringChecks_eq_firstFailure {actual : String} (checks : List Value)
    (isString : position.data = .string actual) :
    (runStringChecks actual checks).mapError (stringMismatch position.path) =
      firstFailure (checks.map position.stringObligation) := by
  induction checks with
  | nil => rfl
  | cons check rest inductionHypothesis =>
      have first := runStringCheck_eq_firstFailure position check isString
      rw [List.map_cons, firstFailure, ← inductionHypothesis, runStringChecks]
      simp only [firstFailure] at first
      cases passes : runStringCheck actual check with
      | ok _ =>
          rw [passes] at first
          split at first
          · rw [if_pos ‹_›]; rfl
          · cases first
      | error failure =>
          rw [passes] at first
          split at first
          · cases first
          · rw [if_neg ‹_›]; exact first

theorem matchString_eq_firstFailure (checks : List Value) :
    matchString position.path checks position.data =
      firstFailure
        ({ holds := position.data.hasKind .string, failure := .type position.path .string } ::
          checks.map position.stringObligation) := by
  cases data : position.data with
  | string actual =>
      rw [firstFailure, ← runStringChecks_eq_firstFailure position checks data]
      rfl
  | _ => rfl

theorem matchNull_eq_firstFailure :
    matchNull position.path position.data =
      firstFailure
        [{ holds := position.data.hasKind .null, failure := .type position.path .null }] := by
  cases position.data <;> rfl

theorem matchDate_eq_firstFailure :
    matchDate position.path item.data position.data =
      firstFailure
        ({ holds := position.data.hasKind .date, failure := .type position.path .date } ::
          position.dateObligations item) := by
  cases data : position.data with
  | date instant =>
      cases expectation : item.data with
      | none => simp [matchDate, Position.dateObligations, expectation, firstFailure,
          Value.hasKind]
      | some expected => simp [matchDate, Position.dateObligations, expectation, firstFailure,
          Value.hasKind, data, Value.display]
  | _ => rfl

theorem matchFunction_eq_firstFailure :
    matchFunction position.path item.data position.data =
      firstFailure
        ({ holds := position.data.hasKind .function
           failure := .type position.path .function } :: position.functionObligations item) := by
  have callable : position.data.isCallable = position.data.hasKind .function := by
    cases position.data <;> rfl
  unfold matchFunction
  rw [callable, firstFailure]
  cases position.data.hasKind .function with
  | false => rfl
  | true =>
      cases expectation : item.data with
      | none => simp [Position.functionObligations, expectation, firstFailure]
      | some expected => simp [Position.functionObligations, expectation, firstFailure]

theorem firstFailure_keyObligations :
    firstFailure (position.keyObligations item) =
      (extraKey? position.data (Position.declaredKeys item)).elim (.ok ())
        fun key => .error (.extraKey position.path key) := by
  simp only [Position.keyObligations, extraKey?]
  induction position.data.keys with
  | nil => rfl
  | cons key rest inductionHypothesis =>
      simp only [List.map_cons, firstFailure, List.find?_cons, inductionHypothesis]
      cases (Position.declaredKeys item).contains key <;> simp

theorem matchObject_eq_firstFailure (permits : Bool) :
    matchObject position.path item.tag permits (Position.declaredKeys item) position.data =
      firstFailure
        ({ holds := position.data.hasKind .object, failure := .type position.path .object } ::
          (position.classObligations item ++
            if permits then [] else position.keyObligations item)) := by
  have objectLike : (!position.data.mayHaveProperties && !position.data.isNull) =
      !position.data.hasKind .object := by
    cases position.data <;> rfl
  have extraKeys : firstFailure (if permits then [] else position.keyObligations item) =
      if permits then .ok ()
      else (extraKey? position.data (Position.declaredKeys item)).elim (.ok ())
        fun key => .error (.extraKey position.path key) := by
    rw [← firstFailure_keyObligations]
    cases permits <;> rfl
  unfold matchObject
  rw [objectLike, firstFailure]
  cases position.data.hasKind .object with
  | false => rfl
  | true =>
      generalize extraKey? position.data (Position.declaredKeys item) = found at extraKeys ⊢
      cases tag : item.tag with
      | none => cases found <;> simp [Position.classObligations, tag, extraKeys]
      | some class_ =>
          cases instanceOf : class_.hasInstance position.data <;> cases found <;>
            simp [Position.classObligations, tag, firstFailure, instanceOf, extraKeys]

end Nodes

/-! ## The walk -/

section Walk

variable (host : Host σ) (options : Options)

/-- The walk from a position performs the steps of the position. -/
def WalksInSteps (position : Position) : Prop :=
  node host options position.path position.parent position.data
      (Schema.ofValue position.schema) =
    Step.performAll host (position.steps options)

theorem fields_eq_performAll (position : Position) (parts : List (String × Value))
    (below : ∀ child ∈ position.fieldPositions parts, WalksInSteps host options child) :
    fields host options position.path position.data
        (parts.map fun part => (part.1, Schema.ofValue part.2)) =
      Step.performAll host ((position.fieldPositions parts).flatMap (Position.steps options)) := by
  induction parts with
  | nil => rw [List.map_nil, fields]; rfl
  | cons part rest inductionHypothesis =>
      rw [List.map_cons, fields]
      by_cases isMarker : part.1 = SchemaForm.markerKey
      · have skipped : position.fieldPositions (part :: rest) = position.fieldPositions rest := by
          simp [Position.fieldPositions, isMarker]
        rw [skipped] at below ⊢
        simp [isMarker, inductionHypothesis below]
      · have compared : position.fieldPositions (part :: rest) =
            position.child (.key part.1) (position.data.get part.1) part.2 ::
              position.fieldPositions rest := by
          simp [Position.fieldPositions, isMarker]
        rw [compared] at below ⊢
        have first := below _ List.mem_cons_self
        have later := inductionHypothesis fun child member =>
          below child (List.mem_cons_of_mem _ member)
        rw [if_pos isMarker, later, List.flatMap_cons, Step.performAll_append, ← first]
        rfl

theorem elements_eq_performAll (position : Position) (values schemas : List Value)
    (index : Nat)
    (below : ∀ child ∈ position.elementPositions index values schemas,
      WalksInSteps host options child) :
    elements host options position.path position.data index values
        (schemas.map Schema.ofValue) =
      Step.performAll host
        ((position.elementPositions index values schemas).flatMap (Position.steps options)) := by
  induction values generalizing schemas index with
  | nil => simp [elements, Position.elementPositions, Step.performAll]
  | cons value values inductionHypothesis =>
      cases schemas with
      | nil => simp [elements, Position.elementPositions, Step.performAll]
      | cons schema schemas =>
          have compared : position.elementPositions index (value :: values) (schema :: schemas) =
              position.child (.index index) value schema ::
                position.elementPositions (index + 1) values schemas := rfl
          rw [compared] at below ⊢
          have first := below _ List.mem_cons_self
          have later := inductionHypothesis schemas (index + 1) fun child member =>
            below child (List.mem_cons_of_mem _ member)
          rw [List.map_cons, elements, later, List.flatMap_cons, Step.performAll_append,
            ← first]
          rfl

/-- A node performs the obligations of its position, then its calls, then the steps below. -/
theorem performAll_steps (position : Position) :
    Step.performAll host (position.steps options) = (do
      Run.settle (firstFailure (position.obligations options))
      Step.performAll host (position.callSites.map Step.make)
      Step.performAll host (position.children.flatMap (Position.steps options))) := by
  rw [Position.steps_eq, Position.ownSteps, Step.performAll_append, Step.performAll_append,
    Step.performAll_require, bind_assoc]

/-- Primitive nodes have nothing below them and no calls. -/
theorem performAll_steps_of_primitive {position : Position} {item : Item}
    (read : position.item? = .ok item) (notObject : item.kind ≠ .object)
    (notArray : item.kind ≠ .array) (notFunction : item.kind ≠ .function) :
    Step.performAll host (position.steps options) =
      Run.settle (firstFailure (position.obligations options)) := by
  have leaf : position.children = [] := by
    simp only [Position.children, read]
  have noCalls := Position.callSites_of_not_function read notFunction
  rw [performAll_steps, noCalls, leaf]
  simp [Step.performAll]

theorem node_array_eq_performAll {position : Position} {item : Item}
    (read : position.item? = .ok item) (isArray : item.kind = .array)
    (below : ∀ child ∈ position.children, WalksInSteps host options child) :
    node host options position.path position.parent position.data
        (.array (item.data.map fun _ => item.parts.map fun part => Schema.ofValue part.2)) =
      Step.performAll host (position.steps options) := by
  have noCalls := Position.callSites_of_not_function read (by simp [isArray])
  have children : position.children = position.itemPositions item := by
    simp [Position.children, read, isArray]
  have obligations : position.obligations options =
      { holds := position.data.hasKind .array, failure := .type position.path .array } ::
        position.lengthObligations item := by
    rw [Position.obligations_of_item read, Position.contentObligations, isArray]
  have schemas : item.parts.map (fun part => Schema.ofValue part.2) =
      (item.parts.map Prod.snd).map Schema.ofValue := by
    simp [Function.comp_def]
  rw [performAll_steps, noCalls, children, obligations, schemas]
  rw [children] at below
  cases data : position.data with
  | array values =>
      have isKind : (Value.array values).hasKind .array = true := rfl
      rw [firstFailure, if_pos isKind]
      cases expectation : item.data with
      | none =>
          have noParts : item.parts = [] := by simp [Item.parts, expectation]
          have leaf : position.itemPositions item = [] := by
            simp [Position.itemPositions, Position.elementPositions, data, noParts]
          rw [leaf, Position.lengthObligations, data, expectation]
          rfl
      | some expected =>
          by_cases sameLength : values.length = item.parts.length
          · have elementsBelow : position.itemPositions item =
                position.elementPositions 0 values (item.parts.map Prod.snd) := by
              simp [Position.itemPositions, data, sameLength]
            have noFailure : firstFailure (position.lengthObligations item) = .ok () := by
              simp [Position.lengthObligations, data, expectation, sameLength, firstFailure]
            rw [elementsBelow] at below ⊢
            have walked := elements_eq_performAll host options position values
              (item.parts.map Prod.snd) 0 below
            rw [data] at walked
            rw [noFailure, ← walked, Option.map_some, node,
              if_neg (by simpa using sameLength)]
            rfl
          · have failure : firstFailure (position.lengthObligations item) =
                .error (.length position.path values.length item.parts.length) := by
              simp [Position.lengthObligations, data, expectation, sameLength, firstFailure]
            rw [failure, Option.map_some, node, if_pos (by simpa using sameLength)]
            simp only [List.length_map]
            rfl
  | _ => rfl

theorem node_object_eq_performAll {position : Position} {item : Item}
    (read : position.item? = .ok item) (isObject : item.kind = .object)
    (below : ∀ child ∈ position.children, WalksInSteps host options child) :
    node host options position.path position.parent position.data
        (.object item.tag
          (Policy.own? (SchemaForm.ofValue position.schema).marker? item.allowExtraKeys)
          (item.parts.map fun part => (part.1, Schema.ofValue part.2))) =
      Step.performAll host (position.steps options) := by
  have noCalls := Position.callSites_of_not_function read (by simp [isObject])
  have children : position.children = position.fieldPositions item.parts := by
    simp [Position.children, read, isObject]
  have obligations : position.obligations options =
      { holds := position.data.hasKind .object, failure := .type position.path .object } ::
        (position.classObligations item ++
          if position.permitsExtraKeys item options then [] else position.keyObligations item) := by
    rw [Position.obligations_of_item read, Position.contentObligations, isObject]
  have permits := Position.permitsExtraKeys_eq_policy position item options
  have declared : (item.parts.map fun part => (part.1, Schema.ofValue part.2)).map Prod.fst =
      Position.declaredKeys item := by
    simp [Position.declaredKeys, Function.comp_def]
  rw [children] at below
  rw [performAll_steps, noCalls, children, obligations, permits, ← matchObject_eq_firstFailure,
    node, declared, fields_eq_performAll host options position item.parts below]
  rfl

theorem node_function_eq_performAll {position : Position} {item : Item}
    (read : position.item? = .ok item) (isFunction : item.kind = .function) :
    node host options position.path position.parent position.data
        (.function item.data
          ((item.calls.getD []).map fun call => (call, Schema.ofValue call.result))) =
      Step.performAll host (position.steps options) := by
  have leaf : position.children = [] := by simp [Position.children, read, isFunction]
  have calls : position.callSites = (item.calls.getD []).zipIdx.map fun entry =>
      ⟨position.path, entry.2, position.data, position.parent, entry.1⟩ := by
    simp [Position.callSites, read, isFunction]
  have obligations : position.obligations options =
      { holds := position.data.hasKind .function, failure := .type position.path .function } ::
        position.functionObligations item := by
    rw [Position.obligations_of_item read, Position.contentObligations, isFunction]
  rw [performAll_steps, leaf, calls, obligations, ← matchFunction_eq_firstFailure, node,
    verifyCalls_eq_performAll]
  simp [Step.performAll]

theorem node_scalar_eq_performAll {position : Position} {item : Item} (kind : ScalarKind)
    (read : position.item? = .ok item) (isScalar : item.kind = kind.toKind) :
    node host options position.path position.parent position.data (.scalar kind item.data) =
      Step.performAll host (position.steps options) := by
  have obligations : position.obligations options =
      { holds := position.data.hasKind kind.toKind
        failure := .type position.path kind.toKind } :: position.valueObligations item := by
    rw [Position.obligations_of_item read, Position.contentObligations, isScalar]
    cases kind <;> rfl
  rw [performAll_steps_of_primitive host options read, obligations, node,
    matchScalar_eq_firstFailure]
  all_goals
    rw [isScalar]
    cases kind <;> simp [ScalarKind.toKind]

/-- **The walk is the sequence of its steps.** -/
theorem node_eq_performAll (position : Position) : WalksInSteps host options position := by
  unfold WalksInSteps
  cases read : position.item? with
  | error violation =>
      have leaf : position.children = [] := by simp [Position.children, read]
      have noCalls : position.callSites = [] := by simp [Position.callSites, read]
      rw [Schema.ofValue_of_violation read, node, performAll_steps, leaf, noCalls]
      simp only [Position.obligations, read]
      rfl
  | ok item =>
      have below : ∀ child ∈ position.children, WalksInSteps host options child :=
        fun child member => node_eq_performAll child
      rw [Schema.ofValue_of_item read, Schema.ofWellFormed]
      cases kind : item.kind with
      | boolean => exact node_scalar_eq_performAll host options .boolean read kind
      | number => exact node_scalar_eq_performAll host options .number read kind
      | undefined => exact node_scalar_eq_performAll host options .undefined read kind
      | array => exact node_array_eq_performAll host options read kind below
      | object => exact node_object_eq_performAll host options read kind below
      | function => exact node_function_eq_performAll host options read kind
      | string =>
          rw [performAll_steps_of_primitive host options read (by simp [kind]) (by simp [kind])
            (by simp [kind]), node, matchString_eq_firstFailure position,
            Position.obligations_of_item read, Position.contentObligations, kind]
      | null =>
          rw [performAll_steps_of_primitive host options read (by simp [kind]) (by simp [kind])
            (by simp [kind]), node, matchNull_eq_firstFailure position,
            Position.obligations_of_item read, Position.contentObligations, kind]
      | date =>
          rw [performAll_steps_of_primitive host options read (by simp [kind]) (by simp [kind])
            (by simp [kind]), node, matchDate_eq_firstFailure position item,
            Position.obligations_of_item read, Position.contentObligations, kind]
termination_by sizeOf position.schema
decreasing_by exact Position.sizeOf_schema_child_lt member

end Walk

end Check

end SchemaMatch
