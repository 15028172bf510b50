import SchemaMatch.Proofs.Check.FirstFailure
import SchemaMatch.Proofs.Check.Place

/-!
Contract: the invocations a check makes.

Owns:
- a host that records the invocations it receives, and otherwise behaves like the host it wraps;
- the history of a check: the declared calls it made, in order, each with what it came to;
- `Check.run_recording`: the invocations that are recorded are those of the history.

A call comes to an end in one of two ways. The invocation fails, or its result is checked in a
run of its own, whose invocations follow the call before the next call is made.

Does not own: what a host's functions do, and where a history ends.
-/

namespace SchemaMatch

variable {σ : Type}

/-! ## Recording -/

/-- A function as a host is asked to call it. -/
structure Invocation where
  function : Function
  receiver : Value
  args : List Value

/-- The host that keeps a list of what it is asked to call. -/
def Host.recording (host : Host σ) : Host (σ × List Invocation) where
  invoke function receiver args state :=
    let reply := host.invoke function receiver args state.1
    { outcome := reply.outcome
      events := reply.events
      state := (reply.state, state.2 ++ [⟨function, receiver, args⟩]) }

/-- A session with invocations recorded so far. -/
def Session.withRecord (session : Session σ) (record : List Invocation) :
    Session (σ × List Invocation) :=
  ⟨(session.host, record), session.events⟩

/-- The invocations that a check makes which starts in a session. -/
def Check.invocations (host : Host σ) (data schema : Value) (options : Options)
    (session : Session σ) : List Invocation :=
  ((run host.recording data schema options).finish (session.withRecord [])).2.host.2

/-! ## Calls that were made -/

/-- What a declared call came to. -/
inductive CallEnd where
  /-- The invocation itself failed. -/
  | failed (error : CallError)
  /-- The result was checked, with an outcome, and the check made invocations. -/
  | checked (returned : Value) (outcome : Except Mismatch Unit) (within : List Invocation)

/-- A declared call that was made. -/
structure MadeCall where
  site : CallSite
  ending : CallEnd

/-- The function at a site is invoked with the declared arguments on the value that holds it. A
class is never invoked: it refuses. -/
def CallSite.ownInvocations (site : CallSite) : List Invocation :=
  match site.target with
  | .function function => [⟨function, site.receiver, site.call.args⟩]
  | _ => []

/-- The session in which a call is made: it has been announced. -/
def CallSite.announced (site : CallSite) (session : Session σ) : Session σ :=
  { session with
    events := session.events ++ [.verifyingCall site.path site.index site.call.args.length] }

/-- What a declared call comes to in a session, and the session after it. The result is checked
with default options. -/
def CallSite.ending (host : Host σ) (site : CallSite) (session : Session σ) :
    CallEnd × Session σ :=
  match Run.respond host site.target site.receiver site.call.args (site.announced session) with
  | (.error error, later) => (.failed error, later)
  | (.ok returned, later) =>
      let check := (Check.run host returned site.call.result {}).finish later
      (.checked returned check.1 (Check.invocations host returned site.call.result {} later),
        check.2)

namespace MadeCall

/-- How a call lets the check go on. A failed check of the result is reported by the texts of
the result and of what was expected. -/
def outcome (made : MadeCall) : Except Mismatch Unit :=
  match made.ending with
  | .failed error => .error (.call error)
  | .checked _ (.ok ()) _ => .ok ()
  | .checked returned (.error _) _ =>
      .error (.callResult made.site.path made.site.index returned.display
        made.site.call.result.display)

/-- The invocation of the function at the site, then those that checking its result made. -/
def invocations (made : MadeCall) : List Invocation :=
  made.site.ownInvocations ++
    match made.ending with
    | .failed _ => []
    | .checked _ _ within => within

end MadeCall

/-- The calls that performing steps makes. After a step that fails there are no more. -/
def history (host : Host σ) : List Step → Session σ → List MadeCall
  | [], _ => []
  | .require obligation :: rest, session =>
      if obligation.holds then history host rest session else []
  | .make site :: rest, session =>
      let made : MadeCall := ⟨site, (site.ending host session).1⟩
      made ::
        match made.outcome with
        | .ok () => history host rest (site.ending host session).2
        | .error _ => []

/-! ## One call -/

theorem CallSite.finish_make (host : Host σ) (site : CallSite) (session : Session σ) :
    (site.make host).finish session =
      (MadeCall.outcome ⟨site, (site.ending host session).1⟩, (site.ending host session).2) := by
  rw [CallSite.make, Run.finish_bind, Run.finish_emit]
  show (Check.invoke host site.target site.receiver site.call.args >>= _).finish
    (site.announced session) = _
  rw [Run.finish_bind, Run.finish_invoke, CallSite.ending]
  cases Run.respond host site.target site.receiver site.call.args (site.announced session) with
  | mk response later =>
      cases response with
      | error error => rfl
      | ok returned =>
          simp only
          rw [Run.finish_bind, Run.finish_attempt]
          cases (Check.run host returned site.call.result {}).finish later with
          | mk result final => cases result <;> rfl

/-! ## Recording changes nothing else -/

theorem respond_recording (host : Host σ) (site : CallSite) (session : Session σ)
    (record : List Invocation) :
    Run.respond host.recording site.target site.receiver site.call.args
        (session.withRecord record) =
      ((Run.respond host site.target site.receiver site.call.args session).1,
        (Run.respond host site.target site.receiver site.call.args session).2.withRecord
          (record ++ site.ownInvocations)) := by
  unfold CallSite.ownInvocations
  cases site.target with
  | function function => rfl
  | _ => simp [Run.respond]

/-- Recording the invocations of a run adds them to the record, and the run ends as it would
without. -/
def RecordsFaithfully (schema : Value) : Prop :=
  ∀ (σ : Type) (host : Host σ) (data : Value) (options : Options) (session : Session σ)
    (record : List Invocation),
    (Check.run host.recording data schema options).finish (session.withRecord record) =
      (((Check.run host data schema options).finish session).1,
        ((Check.run host data schema options).finish session).2.withRecord
          (record ++ Check.invocations host data schema options session))

theorem finish_make_recording (host : Host σ) (site : CallSite)
    (faithful : RecordsFaithfully site.call.result) (session : Session σ)
    (record : List Invocation) :
    (site.make host.recording).finish (session.withRecord record) =
      (((site.make host).finish session).1,
        ((site.make host).finish session).2.withRecord
          (record ++ MadeCall.invocations ⟨site, (site.ending host session).1⟩)) := by
  have announced : site.announced (session.withRecord record) =
      (site.announced session).withRecord record := rfl
  rw [CallSite.finish_make, CallSite.finish_make]
  simp only [CallSite.ending, announced, respond_recording, MadeCall.invocations]
  cases Run.respond host site.target site.receiver site.call.args (site.announced session) with
  | mk response later =>
      cases response with
      | error error => simp [MadeCall.outcome]
      | ok returned =>
          simp only [faithful σ host returned {} later, List.append_assoc]
          cases (Check.run host returned site.call.result {}).finish later with
          | mk result final => cases result <;> rfl

theorem performAll_recording (host : Host σ) (steps : List Step)
    (faithful : ∀ site ∈ Step.sites steps, RecordsFaithfully site.call.result)
    (session : Session σ) (record : List Invocation) :
    (Step.performAll host.recording steps).finish (session.withRecord record) =
      (((Step.performAll host steps).finish session).1,
        ((Step.performAll host steps).finish session).2.withRecord
          (record ++ (history host steps session).flatMap MadeCall.invocations)) := by
  induction steps generalizing session record with
  | nil => simp [Step.performAll, history]
  | cons step rest inductionHypothesis =>
      cases step with
      | require obligation =>
          have later := inductionHypothesis faithful
          rw [Step.performAll, Step.performAll, Step.perform, Step.perform, history, firstFailure]
          cases obligation.holds with
          | false => simp [Run.settle_error_bind]
          | true => exact later session record
      | make site =>
          have first := faithful site List.mem_cons_self
          have later := inductionHypothesis fun other member =>
            faithful other (List.mem_cons_of_mem _ member)
          rw [Step.performAll, Step.performAll, Step.perform, Step.perform, history,
            Run.finish_bind, Run.finish_bind, finish_make_recording host site first,
            CallSite.finish_make]
          simp only [List.flatMap_cons]
          cases MadeCall.outcome ⟨site, (site.ending host session).1⟩ with
          | error mismatch => simp
          | ok _ => simp [later, List.append_assoc]

namespace Check

/-- A check whose results are checked faithfully is recorded by its history. -/
theorem run_recording_of_faithfully (host : Host σ) (data schema : Value) (options : Options)
    (session : Session σ) (record : List Invocation)
    (faithful : ∀ site ∈ (Position.root data schema).allCallSites,
      RecordsFaithfully site.call.result) :
    (run host.recording data schema options).finish (session.withRecord record) =
      (((run host data schema options).finish session).1,
        ((run host data schema options).finish session).2.withRecord
          (record ++ (history host ((Position.root data schema).steps options) session).flatMap
            MadeCall.invocations)) := by
  have steps := performAll_recording host ((Position.root data schema).steps options)
    (by rwa [Position.sites_steps]) session record
  rw [run_eq_reporting_steps, run_eq_reporting_steps, Run.finish_reporting,
    Run.finish_reporting, steps]
  cases (Step.performAll host ((Position.root data schema).steps options)).finish session with
  | mk result later => cases result <;> rfl

theorem recordsFaithfully (schema : Value) : RecordsFaithfully schema := by
  intro σ host data options session record
  have faithful : ∀ site ∈ (Position.root data schema).allCallSites,
      RecordsFaithfully site.call.result := by
    intro site member
    have smaller : sizeOf site.call.result < sizeOf schema :=
      Position.sizeOf_result_lt_of_mem_allCallSites member
    exact recordsFaithfully site.call.result
  have recorded := run_recording_of_faithfully host data schema options session [] faithful
  rw [run_recording_of_faithfully host data schema options session record faithful, invocations,
    recorded]
  simp [Session.withRecord]
termination_by sizeOf schema

/-- The invocations of a check are those of its history. -/
theorem run_recording (host : Host σ) (data schema : Value) (options : Options)
    (session : Session σ) (record : List Invocation) :
    (run host.recording data schema options).finish (session.withRecord record) =
      (((run host data schema options).finish session).1,
        ((run host data schema options).finish session).2.withRecord
          (record ++ (history host ((Position.root data schema).steps options) session).flatMap
            MadeCall.invocations)) :=
  run_recording_of_faithfully host data schema options session record fun site _ =>
    recordsFaithfully site.call.result

end Check

end SchemaMatch
