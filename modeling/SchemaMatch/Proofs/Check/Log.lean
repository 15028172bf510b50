import SchemaMatch.Proofs.Check.History

/-!
Contract: what a check writes to the log.

Owns:
- functions that write nothing to the log themselves;
- the trail of steps: the calls they make, those of nested checks in their places, and the
  values whose checks are running when a step fails;
- `Check.run_log`: the log of a check announces the calls of its trail, and after a failure
  shows those values and the data.

A call whose result fails its check ends all checks that are running, from the innermost out, and
each of them shows its own data. So no call is announced after data has been shown.

Does not own: the lines that records become.
-/

namespace SchemaMatch

variable {σ : Type}

/-! ## Silent functions and announced calls -/

/-- A function writes nothing to the log, whatever it is called with. -/
def Host.LogsNothing (host : Host σ) (function : Function) : Prop :=
  ∀ receiver args state, (host.invoke function receiver args state).events = []

/-- The event that announces a call. -/
def CallSite.announcement (site : CallSite) : CheckEvent :=
  .verifyingCall site.path site.index site.call.args.length

/-- A call invokes a function in just this way. -/
structure CallSite.Invokes (site : CallSite) (invocation : Invocation) : Prop where
  target : site.target = .function invocation.function
  receiver : invocation.receiver = site.receiver
  args : invocation.args = site.call.args

theorem CallSite.ownInvocations_of_function {site : CallSite} {function : Function}
    (isFunction : site.target = .function function) :
    site.ownInvocations = [⟨function, site.receiver, site.call.args⟩] := by
  rw [ownInvocations, isFunction]

/-- Calls of functions are made one by one, each as it is declared. -/
theorem forall₂_invokes {calls : List CallSite}
    (functions : ∀ call ∈ calls, ∃ function, call.target = .function function) :
    List.Forall₂ CallSite.Invokes calls (calls.flatMap CallSite.ownInvocations) := by
  induction calls with
  | nil => exact .nil
  | cons call rest inductionHypothesis =>
      obtain ⟨function, isFunction⟩ := functions call List.mem_cons_self
      rw [List.flatMap_cons, CallSite.ownInvocations_of_function isFunction]
      exact .cons ⟨isFunction, rfl, rfl⟩
        (inductionHypothesis fun other member => functions other (List.mem_cons_of_mem _ member))

/-- A silent function leaves the log as it is, and so does a class, which refuses. -/
theorem events_respond {host : Host σ} {site : CallSite}
    (quiet : ∀ invocation ∈ site.ownInvocations, host.LogsNothing invocation.function)
    (session : Session σ) :
    (Run.respond host site.target site.receiver site.call.args session).2.events =
      session.events := by
  cases target : site.target with
  | function function =>
      have silent : host.LogsNothing function :=
        quiet ⟨function, site.receiver, site.call.args⟩
          (by rw [CallSite.ownInvocations_of_function target]; exact List.mem_singleton_self _)
      simp only [Run.respond, silent _ _ _, List.append_nil]
  | _ => rfl

/-- Only functions answer. -/
theorem function_of_respond_ok {host : Host σ} {site : CallSite} {session later : Session σ}
    {returned : Value}
    (responds : Run.respond host site.target site.receiver site.call.args session =
      (.ok returned, later)) : ∃ function, site.target = .function function := by
  cases target : site.target with
  | function function => exact ⟨function, rfl⟩
  | _ => rw [target] at responds; cases responds

/-! ## Trails -/

/-- What there is to say about steps that are performed in a session: the calls they make, in
order, each followed by those that the check of its result makes; and the returned values whose
checks were running when a step failed, the innermost first. -/
inductive Trail (host : Host σ) : List Step → Session σ → List CallSite → List Value → Prop where
  | finished (session : Session σ) : Trail host [] session [] []
  | holds {obligation : Obligation} {rest : List Step} {session : Session σ}
      {calls : List CallSite} {running : List Value} (holds : obligation.holds = true)
      (later : Trail host rest session calls running) :
      Trail host (.require obligation :: rest) session calls running
  | violated {obligation : Obligation} (rest : List Step) (session : Session σ)
      (violated : obligation.holds = false) :
      Trail host (.require obligation :: rest) session [] []
  /-- The invocation itself fails. -/
  | refused {site : CallSite} (rest : List Step) {session between : Session σ} {error : CallError}
      (responds : Run.respond host site.target site.receiver site.call.args
        (site.announced session) = (.error error, between)) :
      Trail host (.make site :: rest) session [site] []
  /-- The result passes its check. -/
  | passed {site : CallSite} {rest : List Step} {session between after : Session σ}
      {returned : Value} {within calls : List CallSite} {running : List Value}
      (responds : Run.respond host site.target site.receiver site.call.args
        (site.announced session) = (.ok returned, between))
      (nested : Trail host ((Position.root returned site.call.result).steps {}) between within [])
      (passes : (Check.run host returned site.call.result {}).finish between = (.ok (), after))
      (later : Trail host rest after calls running) :
      Trail host (.make site :: rest) session (site :: within ++ calls) running
  /-- The result fails its check. -/
  | rejected {site : CallSite} (rest : List Step) {session between after : Session σ}
      {returned : Value} {within : List CallSite} {running : List Value} {mismatch : Mismatch}
      (responds : Run.respond host site.target site.receiver site.call.args
        (site.announced session) = (.ok returned, between))
      (nested : Trail host ((Position.root returned site.call.result).steps {}) between within
        running)
      (fails : (Check.run host returned site.call.result {}).finish between =
        (.error mismatch, after)) :
      Trail host (.make site :: rest) session (site :: within) (running ++ [returned])

/-- Steps follow their trail: the log announces its calls and then shows its values, the calls
are the invocations that are made, and there are values exactly if the result of a call is what
fails. -/
structure Follows (host : Host σ) (steps : List Step) (session : Session σ)
    (calls : List CallSite) (running : List Value) : Prop where
  trail : Trail host steps session calls running
  events : ((Step.performAll host steps).finish session).2.events =
    session.events ++ (calls.map CallSite.announcement ++ running.map CheckEvent.ofFailure)
  invocations : (history host steps session).flatMap MadeCall.invocations =
    calls.flatMap CallSite.ownInvocations
  running_ne_nil_iff : running ≠ [] ↔ ∃ path index returned expected,
    ((Step.performAll host steps).finish session).1 =
      .error (.callResult path index returned expected)
  functions_of_ok : ((Step.performAll host steps).finish session).1 = .ok () →
    ∀ call ∈ calls, ∃ function, call.target = .function function

theorem Follows.running_eq_nil_of_ok {host : Host σ} {steps : List Step} {session : Session σ}
    {calls : List CallSite} {running : List Value}
    (follows : Follows host steps session calls running)
    (passes : ((Step.performAll host steps).finish session).1 = .ok ()) : running = [] := by
  by_contra nonempty
  obtain ⟨_, _, _, _, fails⟩ := follows.running_ne_nil_iff.mp nonempty
  cases passes.symm.trans fails

/-- The log of a check is that of its steps, and a failed check shows its data. -/
theorem Check.events_run (host : Host σ) (data schema : Value) (options : Options)
    (session : Session σ) :
    ((run host data schema options).finish session).2.events =
      ((Step.performAll host ((Position.root data schema).steps options)).finish
        session).2.events ++
        match ((run host data schema options).finish session).1 with
        | .ok () => []
        | .error _ => [.ofFailure data] := by
  rw [run_eq_reporting_steps, Run.finish_reporting]
  cases (Step.performAll host ((Position.root data schema).steps options)).finish session with
  | mk result later => cases result <;> simp

/-- The recorded invocations of a check are those of its history. -/
theorem Check.invocations_eq (host : Host σ) (data schema : Value) (options : Options)
    (session : Session σ) :
    invocations host data schema options session =
      (history host ((Position.root data schema).steps options) session).flatMap
        MadeCall.invocations := by
  rw [invocations, run_recording]
  rfl

/-- Every check against a schema follows a trail, if the functions it calls are silent. -/
def LeavesTrail (schema : Value) : Prop :=
  ∀ (σ : Type) (host : Host σ) (data : Value) (options : Options) (session : Session σ),
    (∀ invocation ∈ Check.invocations host data schema options session,
      host.LogsNothing invocation.function) →
    ∃ calls running,
      Follows host ((Position.root data schema).steps options) session calls running

/-! ## One call -/

section Calls

variable {host : Host σ} {site : CallSite} {session between : Session σ}

theorem CallSite.ending_of_error {error : CallError}
    (responds : Run.respond host site.target site.receiver site.call.args
      (site.announced session) = (.error error, between)) :
    site.ending host session = (.failed error, between) := by
  rw [ending, responds]

theorem CallSite.ending_of_ok {returned : Value}
    (responds : Run.respond host site.target site.receiver site.call.args
      (site.announced session) = (.ok returned, between)) :
    site.ending host session =
      (.checked returned ((Check.run host returned site.call.result {}).finish between).1
          (Check.invocations host returned site.call.result {} between),
        ((Check.run host returned site.call.result {}).finish between).2) := by
  rw [ending, responds]

/-- Between the announcement of a call and the check of its result nothing is logged. -/
theorem events_between {response : Except CallError Value}
    (responds : Run.respond host site.target site.receiver site.call.args
      (site.announced session) = (response, between))
    (quiet : ∀ invocation ∈ site.ownInvocations, host.LogsNothing invocation.function) :
    between.events = session.events ++ [site.announcement] := by
  have events := events_respond quiet (site.announced session)
  rw [responds] at events
  exact events

variable {rest : List Step}

theorem Follows.holds {obligation : Obligation} {calls : List CallSite} {running : List Value}
    (later : Follows host rest session calls running) (holds : obligation.holds = true) :
    Follows host (.require obligation :: rest) session calls running := by
  have finished : (Step.performAll host (.require obligation :: rest)).finish session =
      (Step.performAll host rest).finish session := by
    rw [Step.performAll, Run.finish_bind, Step.perform, Run.finish_settle, firstFailure,
      if_pos holds]
    rfl
  have made : history host (.require obligation :: rest) session = history host rest session := by
    rw [history, if_pos holds]
  refine ⟨.holds holds later.trail, ?_, ?_, ?_, ?_⟩
  · rw [finished, later.events]
  · rw [made, later.invocations]
  · rw [finished, later.running_ne_nil_iff]
  · rw [finished]
    exact later.functions_of_ok

variable (rest)

theorem Follows.violated {obligation : Obligation} (violated : obligation.holds = false)
    (notOfCall : obligation.failure.isOfCall = false) :
    Follows host (.require obligation :: rest) session [] [] := by
  have finished : (Step.performAll host (.require obligation :: rest)).finish session =
      (.error obligation.failure, session) := by
    rw [Step.performAll, Run.finish_bind, Step.perform, Run.finish_settle, firstFailure,
      if_neg (by simp [violated])]
  refine ⟨.violated rest session violated, ?_, ?_, ?_, ?_⟩
  · simp [finished]
  · rw [history, if_neg (by simp [violated])]
    rfl
  · rw [finished]
    refine iff_of_false (by simp) ?_
    rintro ⟨_, _, _, _, fails⟩
    rw [Except.error.inj fails] at notOfCall
    cases notOfCall
  · simp [finished]

theorem Follows.refused {error : CallError}
    (responds : Run.respond host site.target site.receiver site.call.args
      (site.announced session) = (.error error, between))
    (quiet : ∀ invocation ∈ site.ownInvocations, host.LogsNothing invocation.function) :
    Follows host (.make site :: rest) session [site] [] := by
  have finished : (Step.performAll host (.make site :: rest)).finish session =
      (.error (.call error), between) := by
    rw [Step.performAll, Run.finish_bind, Step.perform, CallSite.finish_make,
      CallSite.ending_of_error responds]
    rfl
  have made : history host (.make site :: rest) session = [⟨site, .failed error⟩] := by
    simp only [history, CallSite.ending_of_error responds, MadeCall.outcome]
  refine ⟨.refused rest responds, ?_, ?_, ?_, ?_⟩
  · rw [finished, events_between responds quiet]
    rfl
  · rw [made]
    simp [MadeCall.invocations]
  · simp [finished]
  · simp [finished]

theorem Follows.rejected {returned : Value} {within : List CallSite} {running : List Value}
    {mismatch : Mismatch} {after : Session σ}
    (responds : Run.respond host site.target site.receiver site.call.args
      (site.announced session) = (.ok returned, between))
    (quiet : ∀ invocation ∈ site.ownInvocations, host.LogsNothing invocation.function)
    (fails : (Check.run host returned site.call.result {}).finish between =
      (.error mismatch, after))
    (nested : Follows host ((Position.root returned site.call.result).steps {}) between within
      running) :
    Follows host (.make site :: rest) session (site :: within) (running ++ [returned]) := by
  have finished : (Step.performAll host (.make site :: rest)).finish session =
      (.error (.callResult site.path site.index returned.display site.call.result.display),
        after) := by
    rw [Step.performAll, Run.finish_bind, Step.perform, CallSite.finish_make,
      CallSite.ending_of_ok responds, fails]
    rfl
  have made : history host (.make site :: rest) session =
      [⟨site, .checked returned (.error mismatch)
        (Check.invocations host returned site.call.result {} between)⟩] := by
    simp only [history, CallSite.ending_of_ok responds, fails, MadeCall.outcome]
  have events := Check.events_run host returned site.call.result {} between
  rw [fails, nested.events, events_between responds quiet] at events
  refine ⟨.rejected rest responds nested.trail fails, ?_, ?_, ?_, ?_⟩
  · rw [finished]
    simp only at events ⊢
    rw [events]
    simp
  · rw [made, List.flatMap_singleton, MadeCall.invocations, List.flatMap_cons,
      ← nested.invocations, Check.invocations_eq]
  · simp [finished]
  · simp [finished]

variable {rest}

theorem Follows.passed {returned : Value} {within calls : List CallSite} {running : List Value}
    {after : Session σ}
    (responds : Run.respond host site.target site.receiver site.call.args
      (site.announced session) = (.ok returned, between))
    (quiet : ∀ invocation ∈ site.ownInvocations, host.LogsNothing invocation.function)
    (passes : (Check.run host returned site.call.result {}).finish between = (.ok (), after))
    (nested : Follows host ((Position.root returned site.call.result).steps {}) between within
      [])
    (later : Follows host rest after calls running) :
    Follows host (.make site :: rest) session (site :: within ++ calls) running := by
  have finished : (Step.performAll host (.make site :: rest)).finish session =
      (Step.performAll host rest).finish after := by
    rw [Step.performAll, Run.finish_bind, Step.perform, CallSite.finish_make,
      CallSite.ending_of_ok responds, passes]
    rfl
  have made : history host (.make site :: rest) session =
      ⟨site, .checked returned (.ok ())
        (Check.invocations host returned site.call.result {} between)⟩ ::
          history host rest after := by
    simp only [history, CallSite.ending_of_ok responds, passes, MadeCall.outcome]
  have events := Check.events_run host returned site.call.result {} between
  rw [passes, nested.events, events_between responds quiet] at events
  have isFunction := function_of_respond_ok responds
  have nestedPasses : ((Step.performAll host
      ((Position.root returned site.call.result).steps {})).finish between).1 = .ok () := by
    rw [← Check.outcome_run, passes]
  refine ⟨.passed responds nested.trail passes later.trail, ?_, ?_, ?_, ?_⟩
  · rw [finished, later.events]
    simp only at events
    rw [events]
    simp
  · rw [made, List.flatMap_cons, MadeCall.invocations, later.invocations, List.cons_append,
      List.flatMap_cons, List.flatMap_append, ← nested.invocations, Check.invocations_eq,
      List.append_assoc]
  · rw [finished]
    exact later.running_ne_nil_iff
  · rw [finished, List.cons_append]
    intro laterPasses call member
    rcases List.mem_cons.mp member with rfl | member
    · exact isFunction
    · rcases List.mem_append.mp member with inside | outside
      · exact nested.functions_of_ok nestedPasses call inside
      · exact later.functions_of_ok laterPasses call outside

end Calls

/-! ## All steps -/

/-- Steps whose results are checked against schemas that leave trails follow one themselves. -/
theorem exists_follows {host : Host σ} {steps : List Step} {session : Session σ}
    (leaveTrails : ∀ site ∈ Step.sites steps, LeavesTrail site.call.result)
    (noneOfCall : ∀ obligation, .require obligation ∈ steps →
      obligation.failure.isOfCall = false)
    (quiet : ∀ invocation ∈ (history host steps session).flatMap MadeCall.invocations,
      host.LogsNothing invocation.function) :
    ∃ calls running, Follows host steps session calls running := by
  induction steps generalizing session with
  | nil => exact ⟨[], [], .finished session, by simp [Step.performAll], rfl,
      by simp [Step.performAll], by simp⟩
  | cons step rest inductionHypothesis =>
      have noneLater : ∀ obligation, .require obligation ∈ rest →
          obligation.failure.isOfCall = false :=
        fun obligation member => noneOfCall obligation (List.mem_cons_of_mem _ member)
      cases step with
      | require obligation =>
          cases holds : obligation.holds with
          | true =>
              rw [history, if_pos holds] at quiet
              obtain ⟨calls, running, later⟩ := inductionHypothesis leaveTrails noneLater quiet
              exact ⟨calls, running, later.holds holds⟩
          | false =>
              exact ⟨[], [], .violated rest holds (noneOfCall obligation List.mem_cons_self)⟩
      | make site =>
          have leavesTrail := leaveTrails site List.mem_cons_self
          have leaveLater : ∀ other ∈ Step.sites rest, LeavesTrail other.call.result :=
            fun other member => leaveTrails other (List.mem_cons_of_mem _ member)
          rw [history, List.flatMap_cons, MadeCall.invocations] at quiet
          simp only [List.mem_append] at quiet
          have ownQuiet : ∀ invocation ∈ site.ownInvocations,
              host.LogsNothing invocation.function :=
            fun invocation member => quiet invocation (.inl (.inl member))
          cases responds : Run.respond host site.target site.receiver site.call.args
              (site.announced session) with
          | mk response between =>
              cases response with
              | error error => exact ⟨[site], [], .refused rest responds ownQuiet⟩
              | ok returned =>
                  rw [CallSite.ending_of_ok responds] at quiet
                  obtain ⟨within, running, nested⟩ := leavesTrail σ host returned {} between
                    fun invocation member => quiet invocation (.inl (.inr member))
                  cases checked : (Check.run host returned site.call.result {}).finish between with
                  | mk outcome after =>
                      cases outcome with
                      | error mismatch =>
                          exact ⟨_, _, .rejected rest responds ownQuiet checked nested⟩
                      | ok _ =>
                          have nestedPasses := Check.outcome_run host returned site.call.result {}
                            between
                          rw [checked] at nestedPasses
                          obtain rfl := nested.running_eq_nil_of_ok nestedPasses.symm
                          rw [checked] at quiet
                          obtain ⟨calls, running, later⟩ := inductionHypothesis leaveLater
                            noneLater fun invocation member => quiet invocation (.inr member)
                          exact ⟨_, _, .passed responds ownQuiet checked nested later⟩

theorem leavesTrail (schema : Value) : LeavesTrail schema := by
  intro σ host data options session quiet
  rw [Check.invocations_eq] at quiet
  refine exists_follows (fun site member => ?_)
    (fun obligation => Position.isOfCall_of_require_mem_steps) quiet
  rw [Position.sites_steps] at member
  have smaller : sizeOf site.call.result < sizeOf schema :=
    Position.sizeOf_result_lt_of_mem_allCallSites member
  exact leavesTrail site.call.result
termination_by sizeOf schema

namespace CheckEvent

/-- What a failed check shows of its data: a warning with the document, or a note for the
debugging reader why there is none. -/
theorem toRecord_ofFailure (data : Value) :
    (∀ document, data.toJson? = .ok document →
      (ofFailure data).toRecord.level = .warn ∧
      (ofFailure data).toRecord.message = "deepCheck data: " ++ document.render) ∧
    (∀ cause, data.toJson? = .error cause →
      (ofFailure data).toRecord.level = .debug ∧
      (ofFailure data).toRecord.message =
        "unable to serialize deepCheck data: " ++ cause.message) := by
  constructor
  · intro document rendered
    rw [ofFailure, rendered]
    exact ⟨rfl, rfl⟩
  · intro cause refused
    rw [ofFailure, refused]
    exact ⟨rfl, rfl⟩

end CheckEvent

namespace Check

/-- The log of a check whose functions write nothing themselves. It announces the calls of the
trail, which are the invocations that are made; after a failure it shows the values whose checks
were running, the innermost first, and then the data. More than the data is shown exactly if the
result of a call is what fails. If the check passes, nothing is shown, and each announced call is
one invocation. -/
theorem run_log (host : Host σ) (data schema : Value) (options : Options) (session : Session σ)
    (quiet : ∀ invocation ∈ invocations host data schema options session,
      host.LogsNothing invocation.function) :
    let ran := (run host data schema options).finish session
    let made := invocations host data schema options session
    ∃ calls running shown,
      Trail host ((Position.root data schema).steps options) session calls running ∧
      ran.2.events = session.events ++
        (calls.map CallSite.announcement ++ shown.map CheckEvent.ofFailure) ∧
      (shown = [] ↔ ran.1 = .ok ()) ∧
      (ran.1 ≠ .ok () → shown = running ++ [data]) ∧
      (2 ≤ shown.length ↔ ∃ path index returned expected,
        ran.1 = .error (.callResult path index returned expected)) ∧
      made = calls.flatMap CallSite.ownInvocations ∧
      (ran.1 = .ok () → List.Forall₂ CallSite.Invokes calls made) ∧
      (∀ value ∈ shown,
        (∀ document, value.toJson? = .ok document →
          (CheckEvent.ofFailure value).toRecord.level = .warn ∧
          (CheckEvent.ofFailure value).toRecord.message =
            "deepCheck data: " ++ document.render) ∧
        (∀ cause, value.toJson? = .error cause →
          (CheckEvent.ofFailure value).toRecord.level = .debug ∧
          (CheckEvent.ofFailure value).toRecord.message =
            "unable to serialize deepCheck data: " ++ cause.message)) := by
  intro ran made
  obtain ⟨calls, running, follows⟩ := leavesTrail schema σ host data options session quiet
  have outcome : ran.1 =
      ((Step.performAll host ((Position.root data schema).steps options)).finish session).1 :=
    outcome_run host data schema options session
  have events : ran.2.events = session.events ++ (calls.map CallSite.announcement ++
      (running.map CheckEvent.ofFailure ++
        match ran.1 with
        | .ok () => []
        | .error _ => [.ofFailure data])) := by
    rw [← List.append_assoc, ← List.append_assoc, List.append_assoc session.events,
      ← follows.events]
    exact events_run host data schema options session
  have isMade : made = calls.flatMap CallSite.ownInvocations :=
    (invocations_eq host data schema options session).trans follows.invocations
  have forResult := follows.running_ne_nil_iff
  rw [← outcome] at forResult
  cases ended : ran.1 with
  | ok _ =>
      have passes := outcome.symm.trans ended
      obtain rfl := follows.running_eq_nil_of_ok passes
      refine ⟨calls, [], [], follows.trail, ?_, by simp, by simp, by simp, isMade, fun _ => ?_,
        by simp⟩
      · rw [events, ended]
        rfl
      · rw [isMade]
        exact forall₂_invokes (follows.functions_of_ok passes)
  | error mismatch =>
      refine ⟨calls, running, running ++ [data], follows.trail, ?_, by simp, fun _ => rfl, ?_,
        isMade, by simp, fun value _ => CheckEvent.toRecord_ofFailure value⟩
      · rw [events, ended, List.map_append]
        rfl
      · rw [← ended, ← forResult]
        cases running <;> simp

/-- A function whose result is a function, the result of which fails its check. Three checks are
running then, and two of them show functions, which no document holds. A function that logs is
around, but nothing calls it. -/
theorem run_log_of_nested_calls :
    let maker : Function := ⟨1, some "maker"⟩
    let answer : Function := ⟨2, none⟩
    let host : Host Unit :=
      ⟨fun function _ _ _ =>
        if function = maker then ⟨.ok (.function answer), [], ()⟩
        else if function = answer then ⟨.ok (.bool true), [], ()⟩
        else ⟨.ok .undefined, [.dump .null], ()⟩⟩
    let calling (result : Value) : Value := .object none
      [("type", .string "function"),
        ("calls", .array [.object none [("args", .array [.null]), ("result", result)]])]
    let schema := calling (calling (.bool false))
    let ran := (run host (.function maker) schema {}).finish ⟨(), []⟩
    (∀ invocation ∈ invocations host (.function maker) schema {} ⟨(), []⟩,
      host.LogsNothing invocation.function) ∧
    ran.1 = .error (.callResult Path.root 0 "[Function (anonymous)]" "[object Object]") ∧
    ran.2.events =
      [.verifyingCall Path.root 0 1, .verifyingCall Path.root 0 1, .dump (.bool true),
        .noDump (.unsupportedType "function"), .noDump (.unsupportedType "function")] ∧
    ∃ (calls : List CallSite) (shown : List Value),
      ran.2.events = calls.map CallSite.announcement ++ shown.map CheckEvent.ofFailure ∧
      2 ≤ shown.length := by
  intro maker answer host calling schema ran
  have quiet : ∀ invocation ∈ invocations host (.function maker) schema {} ⟨(), []⟩,
      host.LogsNothing invocation.function := by
    have made : invocations host (.function maker) schema {} ⟨(), []⟩ =
        [⟨maker, .undefined, [.null]⟩, ⟨answer, .undefined, [.null]⟩] := rfl
    rw [made]
    simp [Host.LogsNothing, host, maker, answer]
  obtain ⟨calls, running, shown, -, events, -, -, more, -⟩ :=
    run_log host (.function maker) schema {} ⟨(), []⟩ quiet
  exact ⟨quiet, rfl, rfl, calls, shown, events, more.mpr ⟨_, _, _, _, rfl⟩⟩

end Check

end SchemaMatch
