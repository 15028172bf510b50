import SchemaMatch.Proofs.Check.History

/-!
Contract: where the mismatches of a check come from.

Owns:
- the position that the failure of an obligation names;
- the obligation behind a mismatch that no call ended with;
- the obligation at the root behind a mismatch that names the root, and the mismatch of a root
  where an obligation fails.

Does not own: which of several failing positions comes first.
-/

namespace SchemaMatch

variable {σ : Type}

namespace Position

variable {position : Position} {obligation : Obligation} {options : Options}

/-! ## Failures name their position -/

/-- An obligation fails at its position, or because of a malformed item. -/
theorem path?_of_mem_obligations (member : obligation ∈ position.obligations options) :
    obligation.failure.path? = some position.path ∨
      ∃ violation, obligation.failure = .malformedSchema violation := by
  cases asks_of_mem_obligations member with
  | wellFormed violation => exact .inr ⟨violation, rfl⟩
  | _ => exact .inl rfl

/-- Paths grow on the way down, so a position shares its path with none below it. -/
theorem eq_of_path_eq {below : Position} (member : below ∈ position.preorder)
    (samePath : below.path = position.path) : below = position := by
  rw [preorder_eq, List.mem_cons, List.mem_flatMap] at member
  rcases member with same | ⟨child, isChild, member⟩
  · exact same
  · obtain ⟨segment, path, -, -⟩ := segment_of_mem_children isChild
    obtain ⟨segments, leads⟩ := leadsTo_of_mem_preorder member
    have longer := congrArg List.length leads.path
    rw [samePath, path] at longer
    simp only [Path.child, List.length_append, List.length_singleton] at longer
    omega

end Position

/-! ## Mismatches and their obligations -/

theorem isOfCall_of_outcome {made : MadeCall} {mismatch : Mismatch}
    (fails : made.outcome = .error mismatch) : mismatch.isOfCall = true := by
  unfold MadeCall.outcome at fails
  split at fails
  · cases fails; rfl
  · cases fails
  · cases fails; rfl

namespace Check

variable {host : Host σ} {data schema : Value} {options : Options} {session : Session σ}
  {mismatch : Mismatch}

/-- A check that no call ended fails at an obligation of one of its positions. -/
theorem exists_failing_obligation
    (fails : ((run host data schema options).finish session).1 = .error mismatch)
    (notOfCall : mismatch.isOfCall = false) :
    ∃ position ∈ (Position.root data schema).preorder,
      ∃ obligation ∈ position.obligations options,
        obligation.holds = false ∧ obligation.failure = mismatch := by
  rw [outcome_run] at fails
  obtain ⟨done, failing, rest, between, split, -, failsThere, -⟩ :=
    exists_endsAt (Prod.ext fails rfl)
  have isStep : failing ∈ (Position.root data schema).steps options := by
    rw [split]
    simp
  obtain ⟨position, isPosition, isOwn⟩ := List.mem_flatMap.mp isStep
  cases failing with
  | require obligation =>
      refine ⟨position, isPosition, obligation, ?_, ?_⟩
      · rcases List.mem_append.mp isOwn with isObligation | isCall
        · obtain ⟨other, isOther, same⟩ := List.mem_map.mp isObligation
          cases same
          exact isOther
        · obtain ⟨site, -, impossible⟩ := List.mem_map.mp isCall
          cases impossible
      · rw [Step.perform, Run.finish_settle, firstFailure] at failsThere
        cases holds : obligation.holds with
        | true => rw [holds] at failsThere; cases failsThere
        | false => rw [holds] at failsThere; cases failsThere; exact ⟨rfl, rfl⟩
  | make site =>
      rw [Step.perform, CallSite.finish_make] at failsThere
      have ofCall := isOfCall_of_outcome (congrArg Prod.fst failsThere)
      cases ofCall.symm.trans notOfCall

/-- A mismatch that names the root is the failure of an obligation there. -/
theorem exists_failing_obligation_at_root
    (fails : ((run host data schema options).finish session).1 = .error mismatch)
    (notOfCall : mismatch.isOfCall = false) (atRoot : mismatch.path? = some Path.root) :
    ∃ obligation ∈ (Position.root data schema).obligations options,
      obligation.holds = false ∧ obligation.failure = mismatch := by
  obtain ⟨position, isPosition, obligation, isOwn, fails, failure⟩ :=
    exists_failing_obligation fails notOfCall
  have samePath : position.path = (Position.root data schema).path := by
    rcases Position.path?_of_mem_obligations isOwn with named | ⟨violation, malformed⟩
    · rw [failure, atRoot] at named
      exact (Option.some.inj named).symm
    · rw [← failure, malformed] at atRoot
      cases atRoot
  rw [Position.eq_of_path_eq isPosition samePath] at isOwn
  exact ⟨obligation, isOwn, fails, failure⟩

/-- The obligations of the root come first. -/
theorem outcome_eq_of_firstFailure
    (fails : firstFailure ((Position.root data schema).obligations options) = .error mismatch) :
    ((run host data schema options).finish session).1 = .error mismatch := by
  rw [outcome_run, performAll_steps, fails]
  rfl

end Check

end SchemaMatch
