import SchemaMatch.Proofs.Check.Invocation

/-!
Contract: where the history of a check ends.

Owns:
- what the calls of a check are made on, and what a schema declares for them;
- the histories of runs that pass, which have every declared call, and of runs that fail, which
  end with the step that failed;
- `Check.run_history`, which ties the invocations of a check, its history and its outcome to
  one another.

Does not own: the order of steps.
-/

namespace SchemaMatch

variable {σ : Type}

/-! ## Declared calls -/

/-- A schema declares a call under an index of its `calls`. -/
def Declares (schema : Value) (index : Nat) (call : Call) : Prop :=
  ∃ tag fields entryTag entryFields,
    schema = .object tag fields ∧
    (Item.callEntries fields)[index]? = some (.object entryTag entryFields) ∧
    call = Call.ofFields entryFields

theorem not_declares_of_shorthand {schema data : Value} {kind : Kind} {index : Nat}
    {call : Call} (form : SchemaForm.ofValue schema = .shorthand kind data)
    (notObject : kind ≠ .object) : ¬ Declares schema index call := by
  rintro ⟨tag, fields, _, _, rfl, -, -⟩
  exact notObject (SchemaForm.of_shorthand_object form).1

/-- The calls of a function item are those its schema declares. -/
theorem declares_iff {schema : Value} {item : Item} {index : Nat} {call : Call}
    (read : Item.ofForm? (SchemaForm.ofValue schema) = .ok item)
    (isFunction : item.kind = .function) :
    Declares schema index call ↔ (item.calls.getD [])[index]? = some call := by
  cases form : SchemaForm.ofValue schema with
  | shorthand kind data =>
      rw [form] at read
      cases read
      have notObject : kind ≠ .object := by
        intro isObject
        cases isObject.symm.trans isFunction
      simp [not_declares_of_shorthand form notObject]
  | explicit tag fields =>
      rw [form] at read
      have readAll := Item.forall₂_callEntries read
      constructor
      · rintro ⟨_, _, entryTag, entryFields, same, found, rfl⟩
        cases (SchemaForm.value_of_explicit form).symm.trans same
        obtain ⟨inEntries, isEntry⟩ := List.getElem?_eq_some_iff.mp found
        have inCalls : index < (item.calls.getD []).length := readAll.length_eq ▸ inEntries
        have related := readAll.get inEntries inCalls
        rw [List.get_eq_getElem, isEntry] at related
        obtain ⟨_, _, same, isCall⟩ := Item.ofFields_of_call? related
        cases same
        exact List.getElem?_eq_some_iff.mpr ⟨inCalls, isCall⟩
      · intro found
        obtain ⟨inCalls, isCall⟩ := List.getElem?_eq_some_iff.mp found
        have inEntries : index < (Item.callEntries fields).length :=
          readAll.length_eq.symm ▸ inCalls
        obtain ⟨entryTag, entryFields, isEntry, related⟩ :=
          Item.ofFields_of_call? (readAll.get inEntries inCalls)
        exact ⟨tag, fields, entryTag, entryFields, SchemaForm.value_of_explicit form,
          List.getElem?_eq_some_iff.mpr ⟨inEntries, isEntry⟩, isCall.symm.trans related⟩

namespace Position

/-- The calls of a function node are those its schema declares, made on the data. -/
theorem mem_callSites_iff {position : Position} {site : CallSite} :
    site ∈ position.callSites ↔
      (∃ item, position.item? = .ok item ∧ item.kind = .function) ∧
      Declares position.schema site.index site.call ∧ site.path = position.path ∧
      site.target = position.data ∧ site.receiver = position.parent := by
  cases read : position.item? with
  | error violation => simp [callSites, read]
  | ok item =>
      by_cases isFunction : item.kind = .function
      · simp only [callSites, read, isFunction, List.mem_map, List.mem_zipIdx_iff_getElem?,
          declares_iff read isFunction, Except.ok.injEq, exists_eq_left', true_and]
        constructor
        · rintro ⟨entry, found, rfl⟩
          exact ⟨found, rfl, rfl, rfl⟩
        · obtain ⟨path, index, target, receiver, call⟩ := site
          rintro ⟨found, rfl, rfl, rfl⟩
          exact ⟨(call, index), found, rfl⟩
      · simp [callSites_of_not_function read isFunction, isFunction]

/-- The calls of a node stand in the order of their indices. -/
theorem map_index_callSites (position : Position) :
    position.callSites.map CallSite.index = List.range position.callSites.length := by
  cases read : position.item? with
  | error violation => simp [callSites, read]
  | ok item =>
      by_cases isFunction : item.kind = .function
      · simp only [callSites, read, isFunction, List.map_map, Function.comp_def, List.length_map,
          List.length_zipIdx, List.range_eq_range']
        exact List.zipIdx_map_snd 0 (item.calls.getD [])
      · rw [callSites_of_not_function read isFunction]
        rfl

end Position

/-! ## Steps that pass and steps that fail -/

theorem Step.exists_failing {host : Host σ} {steps : List Step} {session final : Session σ}
    {mismatch : Mismatch}
    (fails : (performAll host steps).finish session = (.error mismatch, final)) :
    ∃ done failing rest between, steps = done ++ failing :: rest ∧
      (performAll host done).finish session = (.ok (), between) ∧
      (failing.perform host).finish between = (.error mismatch, final) := by
  induction steps generalizing session with
  | nil => cases fails
  | cons step rest inductionHypothesis =>
      rw [performAll, Run.finish_bind] at fails
      cases first : (step.perform host).finish session with
      | mk result later =>
          rw [first] at fails
          cases result with
          | error other => exact ⟨[], step, rest, session, rfl, rfl, first.trans fails⟩
          | ok _ =>
              obtain ⟨done, failing, others, between, split, passes, failsThere⟩ :=
                inductionHypothesis fails
              refine ⟨step :: done, failing, others, between, by rw [split]; rfl, ?_, failsThere⟩
              rw [performAll, Run.finish_bind, first]
              exact passes

/-- A history has every call among some steps, and none of them ended the check. -/
structure AllMade (made : List MadeCall) (steps : List Step) : Prop where
  sites : made.map MadeCall.site = Step.sites steps
  pass : ∀ call ∈ made, call.outcome = .ok ()

theorem AllMade.append {made others : List MadeCall} {steps rest : List Step}
    (first : AllMade made steps) (second : AllMade others rest) :
    AllMade (made ++ others) (steps ++ rest) where
  sites := by rw [List.map_append, first.sites, second.sites, Step.sites_append]
  pass := by
    intro call member
    rcases List.mem_append.mp member with earlier | later
    · exact first.pass call earlier
    · exact second.pass call later

/-- A step that passes has its call, if it is one, in the history, which goes on after it. -/
theorem allMade_of_perform_ok {host : Host σ} {step : Step} {session later : Session σ}
    (passes : (step.perform host).finish session = (.ok (), later)) (rest : List Step) :
    ∃ made, history host (step :: rest) session = made ++ history host rest later ∧
      AllMade made [step] := by
  cases step with
  | require obligation =>
      rw [Step.perform, Run.finish_settle, firstFailure] at passes
      rw [history]
      split at passes
      next holds =>
        cases passes
        exact ⟨[], by rw [if_pos holds]; rfl, rfl, by simp⟩
      next => cases passes
  | make site =>
      rw [Step.perform, CallSite.finish_make] at passes
      obtain ⟨outcome, rfl⟩ := Prod.mk.inj passes
      refine ⟨[⟨site, (site.ending host session).1⟩], ?_, rfl, ?_⟩
      · simp only [history, outcome]
        rfl
      · intro call member
        rw [List.mem_singleton.mp member]
        exact outcome

/-- After steps that pass, a history has all their calls, and goes on where they end. -/
theorem history_append_of_ok {host : Host σ} {done : List Step} {session between : Session σ}
    (passes : (Step.performAll host done).finish session = (.ok (), between))
    (rest : List Step) :
    ∃ made, history host (done ++ rest) session = made ++ history host rest between ∧
      AllMade made done := by
  induction done generalizing session with
  | nil =>
      cases passes
      exact ⟨[], rfl, rfl, by simp⟩
  | cons step others inductionHypothesis =>
      rw [Step.performAll, Run.finish_bind] at passes
      cases first : (step.perform host).finish session with
      | mk result later =>
          rw [first] at passes
          cases result with
          | error mismatch => cases passes
          | ok _ =>
              obtain ⟨made, here, isMade⟩ := allMade_of_perform_ok first (others ++ rest)
              obtain ⟨madeLater, after, areMade⟩ := inductionHypothesis passes
              refine ⟨made ++ madeLater, ?_, isMade.append areMade⟩
              rw [List.cons_append, here, after, List.append_assoc]

/-- A history ends with a step that fails, and with its call if it is one. -/
theorem history_cons_of_error {host : Host σ} {step : Step} {session final : Session σ}
    {mismatch : Mismatch}
    (fails : (step.perform host).finish session = (.error mismatch, final))
    (rest : List Step) :
    (∃ obligation, step = .require obligation ∧ obligation.failure = mismatch ∧
      history host (step :: rest) session = []) ∨
    (∃ made : MadeCall, step = .make made.site ∧ made.outcome = .error mismatch ∧
      history host (step :: rest) session = [made]) := by
  cases step with
  | require obligation =>
      rw [Step.perform, Run.finish_settle, firstFailure] at fails
      rw [history]
      split at fails
      next => cases fails
      next violated =>
        cases fails
        exact .inl ⟨obligation, rfl, rfl, if_neg violated⟩
  | make site =>
      rw [Step.perform, CallSite.finish_make] at fails
      have outcome := (Prod.mk.inj fails).1
      refine .inr ⟨⟨site, (site.ending host session).1⟩, rfl, outcome, ?_⟩
      simp only [history, outcome]

/-- How a history ends that has the calls of some steps which pass, before one that fails: with
the last of those calls if what fails is an obligation, and otherwise with the failing call. -/
inductive EndsAt (mismatch : Mismatch) : List MadeCall → List Step → Step → Prop where
  | obligation {made : List MadeCall} {done : List Step} (failing : Obligation)
      (allMade : AllMade made done) (failure : failing.failure = mismatch) :
      EndsAt mismatch made done (.require failing)
  | call {made : List MadeCall} {done : List Step} (last : MadeCall)
      (allMade : AllMade made done) (outcome : last.outcome = .error mismatch) :
      EndsAt mismatch (made ++ [last]) done (.make last.site)

theorem EndsAt.sites {mismatch : Mismatch} {made : List MadeCall} {done : List Step}
    {failing : Step} (ends : EndsAt mismatch made done failing) :
    made.map MadeCall.site = Step.sites (done ++ [failing]) := by
  cases ends with
  | obligation failing allMade failure =>
      rw [Step.sites_append, ← allMade.sites]
      exact (List.append_nil _).symm
  | call last allMade outcome =>
      rw [Step.sites_append, ← allMade.sites, List.map_append]
      rfl

/-- A run that fails does so at one of its steps, and its history ends there. -/
theorem exists_endsAt {host : Host σ} {steps : List Step} {session final : Session σ}
    {mismatch : Mismatch}
    (fails : (Step.performAll host steps).finish session = (.error mismatch, final)) :
    ∃ done failing rest between, steps = done ++ failing :: rest ∧
      (Step.performAll host done).finish session = (.ok (), between) ∧
      (failing.perform host).finish between = (.error mismatch, final) ∧
      EndsAt mismatch (history host steps session) done failing := by
  obtain ⟨done, failing, rest, between, rfl, passes, failsThere⟩ := Step.exists_failing fails
  refine ⟨done, failing, rest, between, rfl, passes, failsThere, ?_⟩
  obtain ⟨made, split, allMade⟩ := history_append_of_ok passes (failing :: rest)
  rw [split]
  rcases history_cons_of_error failsThere rest with
    ⟨obligation, rfl, failure, nothing⟩ | ⟨last, rfl, outcome, isLast⟩
  · rw [nothing, List.append_nil]
    exact .obligation obligation allMade failure
  · rw [isLast]
    exact .call last allMade outcome

theorem allMade_of_ok {host : Host σ} {steps : List Step} {session final : Session σ}
    (passes : (Step.performAll host steps).finish session = (.ok (), final)) :
    AllMade (history host steps session) steps := by
  obtain ⟨made, split, allMade⟩ := history_append_of_ok passes []
  rw [List.append_nil, history, List.append_nil] at split
  rwa [split]

/-- A history is a first part of the calls among the steps. -/
theorem sites_history_prefix (host : Host σ) (steps : List Step) (session : Session σ) :
    (history host steps session).map MadeCall.site <+: Step.sites steps := by
  cases ran : (Step.performAll host steps).finish session with
  | mk result final =>
      cases result with
      | ok _ =>
          have all := (allMade_of_ok ran).sites
          exact ⟨[], by rw [all, List.append_nil]⟩
      | error mismatch =>
          obtain ⟨done, failing, rest, -, split, -, -, ends⟩ := exists_endsAt ran
          refine ⟨Step.sites rest, ?_⟩
          rw [ends.sites, ← Step.sites_append, split, List.append_assoc, List.singleton_append]

/-! ## Mismatches of calls -/

/-- The mismatches that a call ends with. -/
def Mismatch.isOfCall : Mismatch → Bool
  | .call _ => true
  | .callResult .. => true
  | _ => false

namespace MadeCall

theorem outcome_eq_call_iff {made : MadeCall} {error : CallError} :
    made.outcome = .error (.call error) ↔ made.ending = .failed error := by
  unfold outcome
  split <;> simp_all

theorem outcome_eq_callResult_iff {made : MadeCall} {path : Path} {index : Nat}
    {returned expected : String} :
    made.outcome = .error (.callResult path index returned expected) ↔
      ∃ value mismatch within, made.ending = .checked value (.error mismatch) within ∧
        path = made.site.path ∧ index = made.site.index ∧ returned = value.display ∧
        expected = made.site.call.result.display := by
  unfold outcome
  split <;> simp_all [eq_comm]

end MadeCall

namespace Position

variable {position : Position} {obligation : Obligation}

/-- No obligation fails the way a call does. -/
theorem isOfCall_of_mem_obligations {options : Options}
    (member : obligation ∈ position.obligations options) :
    obligation.failure.isOfCall = false := by
  cases asks_of_mem_obligations member <;> rfl

theorem isOfCall_of_require_mem_steps {options : Options}
    (member : .require obligation ∈ position.steps options) :
    obligation.failure.isOfCall = false := by
  obtain ⟨below, -, isOwn⟩ := List.mem_flatMap.mp member
  rcases List.mem_append.mp isOwn with isObligation | isCall
  · obtain ⟨other, isOther, same⟩ := List.mem_map.mp isObligation
    cases same
    exact isOfCall_of_mem_obligations isOther
  · obtain ⟨site, -, impossible⟩ := List.mem_map.mp isCall
    cases impossible

end Position

/-- The last call among some steps tells whether a call ended their run. -/
theorem finish_eq_error_iff_last {host : Host σ} {steps : List Step} {session : Session σ}
    (noneOfCall : ∀ obligation, .require obligation ∈ steps →
      obligation.failure.isOfCall = false)
    {mismatch : Mismatch} (ofCall : mismatch.isOfCall = true) :
    ((Step.performAll host steps).finish session).1 = .error mismatch ↔
      ∃ last, (history host steps session).getLast? = some last ∧
        last.outcome = .error mismatch := by
  constructor
  · intro fails
    obtain ⟨done, failing, rest, between, split, -, -, ends⟩ :=
      exists_endsAt (Prod.ext fails rfl)
    generalize history host steps session = made at ends
    cases ends with
    | obligation failing allMade failure =>
        have notOfCall := noneOfCall failing (by rw [split]; simp)
        rw [failure, ofCall] at notOfCall
        cases notOfCall
    | call last allMade outcome => exact ⟨last, List.getLast?_concat, outcome⟩
  · rintro ⟨last, isLast, outcome⟩
    cases ran : (Step.performAll host steps).finish session with
    | mk result final =>
        cases result with
        | ok _ =>
            have passed := (allMade_of_ok ran).pass last (List.mem_of_getLast? isLast)
            cases passed.symm.trans outcome
        | error other =>
            obtain ⟨done, failing, rest, between, split, -, -, ends⟩ := exists_endsAt ran
            generalize history host steps session = made at ends isLast
            cases ends with
            | obligation failing allMade failure =>
                have passed := allMade.pass last (List.mem_of_getLast? isLast)
                cases passed.symm.trans outcome
            | call final allMade ended =>
                rw [List.getLast?_concat] at isLast
                cases isLast
                exact ended.symm.trans outcome

namespace Check

/-- What a check invokes, and how that tells its outcome. The invocations are those of the calls
in its history, in order. The history is a first part of the declared calls: all of them if the
check passes, and otherwise those up to the step that fails. The check fails with the failure
of an invocation exactly if the last call failed so, and for the result of a call exactly if
that call was the last and its result failed its check. -/
theorem run_history (host : Host σ) (data schema : Value) (options : Options)
    (session : Session σ) :
    let root := Position.root data schema
    let made := history host (root.steps options) session
    let ran := (run host data schema options).finish session
    (∀ record, (run host.recording data schema options).finish (session.withRecord record) =
      (ran.1, ran.2.withRecord (record ++ made.flatMap MadeCall.invocations))) ∧
    made.map MadeCall.site <+: root.allCallSites ∧
    root.allCallSites = root.preorder.flatMap Position.callSites ∧
    (∀ position : Position, position.callSites.map CallSite.index =
      List.range position.callSites.length) ∧
    (∀ site, site ∈ root.allCallSites ↔ ∃ position ∈ root.preorder,
      (∃ item, position.item? = .ok item ∧ item.kind = .function) ∧
      Declares position.schema site.index site.call ∧ site.path = position.path ∧
      site.target = data.at position.path.below ∧
      site.receiver = data.holderAt position.path.below) ∧
    (ran.1 = .ok () → made.map MadeCall.site = root.allCallSites) ∧
    (∀ mismatch, ran.1 = .error mismatch → ∃ done failing rest between,
      root.steps options = done ++ failing :: rest ∧
      (Step.performAll host done).finish session = (.ok (), between) ∧
      ((failing.perform host).finish between).1 = .error mismatch ∧
      EndsAt mismatch made done failing ∧
      made.map MadeCall.site = Step.sites (done ++ [failing])) ∧
    (∀ error, ran.1 = .error (.call error) ↔
      ∃ last, made.getLast? = some last ∧ last.ending = .failed error) ∧
    (∀ path index returned expected,
      ran.1 = .error (.callResult path index returned expected) ↔
        ∃ last value mismatch within, made.getLast? = some last ∧
          last.ending = .checked value (.error mismatch) within ∧
          path = last.site.path ∧ index = last.site.index ∧ returned = value.display ∧
          expected = last.site.call.result.display) := by
  intro root made ran
  have outcome : ran.1 = ((Step.performAll host (root.steps options)).finish session).1 :=
    outcome_run host data schema options session
  have onlyCalls : ∀ mismatch : Mismatch, mismatch.isOfCall = true →
      (ran.1 = .error mismatch ↔
        ∃ last, made.getLast? = some last ∧ last.outcome = .error mismatch) := by
    intro mismatch ofCall
    rw [outcome]
    exact finish_eq_error_iff_last
      (fun obligation => Position.isOfCall_of_require_mem_steps) ofCall
  refine ⟨run_recording host data schema options session, ?_, rfl,
    Position.map_index_callSites, ?_, ?_, ?_, ?_, ?_⟩
  · rw [← Position.sites_steps options]
    exact sites_history_prefix host (root.steps options) session
  · intro site
    refine List.mem_flatMap.trans (exists_congr fun position => and_congr_right fun member => ?_)
    have place := Position.place_of_mem_preorder_root member
    rw [Position.mem_callSites_iff, place.1, place.2]
  · intro passes
    rw [outcome] at passes
    rw [← Position.sites_steps options]
    exact (allMade_of_ok (Prod.ext passes rfl)).sites
  · intro mismatch fails
    rw [outcome] at fails
    obtain ⟨done, failing, rest, between, split, passes, failsThere, ends⟩ :=
      exists_endsAt (Prod.ext fails rfl)
    exact ⟨done, failing, rest, between, split, passes, congrArg Prod.fst failsThere, ends,
      ends.sites⟩
  · intro error
    rw [onlyCalls _ rfl]
    simp only [MadeCall.outcome_eq_call_iff]
  · intro path index returned expected
    rw [onlyCalls _ rfl]
    simp only [MadeCall.outcome_eq_callResult_iff, exists_and_left]

end Check

end SchemaMatch
