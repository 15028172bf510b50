import SchemaMatch.Check.Engine

/-!
Contract: what the steps of a check do to a session.

Owns:
- the end of a run: its outcome and the session it leaves;
- one equation for each step a walk is made of, so that no proof about a walk opens the monad
  of runs.

Does not own: which steps a walk takes.
-/

namespace SchemaMatch.Run

variable {σ α β : Type}

/-- How a run ends that starts in a session: its outcome and the session it leaves. -/
def finish (run : Run σ α) (session : Session σ) : Except Mismatch α × Session σ :=
  Id.run (StateT.run (ExceptT.run run) session)

@[simp]
theorem finish_pure (value : α) (session : Session σ) :
    (pure value : Run σ α).finish session = (.ok value, session) := rfl

@[simp]
theorem finish_throw (mismatch : Mismatch) (session : Session σ) :
    (throw mismatch : Run σ α).finish session = (.error mismatch, session) := rfl

theorem finish_bind (first : Run σ α) (next : α → Run σ β) (session : Session σ) :
    (first >>= next).finish session =
      match first.finish session with
      | (.ok value, later) => (next value).finish later
      | (.error mismatch, later) => (.error mismatch, later) := by
  show (match first.finish session with
    | (result, later) => Run.finish (ExceptT.mk (ExceptT.bindCont next result)) later) = _
  cases first.finish session with
  | mk result later => cases result <;> rfl

@[simp]
theorem finish_settle (result : Except Mismatch Unit) (session : Session σ) :
    (settle result).finish session = (result, session) := rfl

theorem settle_error_bind (mismatch : Mismatch) (next : Unit → Run σ α) :
    (settle (.error mismatch) >>= next) = throw mismatch := rfl

@[simp]
theorem finish_emit (event : CheckEvent) (session : Session σ) :
    (emit event).finish session =
      (.ok (), { session with events := session.events ++ [event] }) := rfl

@[simp]
theorem finish_get (session : Session σ) :
    (get : Run σ (Session σ)).finish session = (.ok session, session) := rfl

@[simp]
theorem finish_set (later session : Session σ) :
    (set later : Run σ PUnit).finish session = (.ok ⟨⟩, later) := rfl

theorem finish_attempt (run : Run σ Unit) (session : Session σ) :
    run.attempt.finish session =
      match run.finish session with
      | (.ok (), later) => (.ok none, later)
      | (.error mismatch, later) => (.ok (some mismatch), later) := by
  unfold attempt finish
  rw [ExceptT.run_mk, StateT.run_bind]
  cases StateT.run (ExceptT.run run) session with
  | mk result later => cases result <;> rfl

/-! ## Calls and reports -/

/-- What an invocation comes to, and the session after it. Only functions reach the host; a
class refuses, and so does what is no callable. -/
def respond (host : Host σ) (target receiver : Value) (args : List Value)
    (session : Session σ) : Except CallError Value × Session σ :=
  match target with
  | .function function =>
      let reply := host.invoke function receiver args session.host
      (reply.outcome, ⟨reply.state, session.events ++ reply.events⟩)
  | .classTag tag =>
      (.error ⟨"Class constructor " ++ tag.name ++ " cannot be invoked without 'new'"⟩, session)
  | other => (.error ⟨other.display ++ " is not a function"⟩, session)

theorem finish_invoke (host : Host σ) (target receiver : Value) (args : List Value)
    (session : Session σ) :
    (Check.invoke host target receiver args).finish session =
      match respond host target receiver args session with
      | (.ok value, later) => (.ok value, later)
      | (.error error, later) => (.error (.call error), later) := by
  cases target with
  | function function =>
      simp only [Check.invoke, finish_bind, finish_get, finish_set, respond]
      cases (host.invoke function receiver args session.host).outcome <;> rfl
  | _ => rfl

theorem finish_reporting (data : Value) (run : Run σ Unit) (session : Session σ) :
    (Check.reporting data run).finish session =
      match run.finish session with
      | (.ok (), later) => (.ok (), later)
      | (.error mismatch, later) =>
          (.error mismatch, { later with events := later.events ++ [.ofFailure data] }) := by
  rw [Check.reporting, finish_bind, finish_attempt]
  cases run.finish session with
  | mk result later => cases result <;> rfl

end SchemaMatch.Run
