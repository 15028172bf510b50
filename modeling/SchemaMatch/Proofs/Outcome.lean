import Mathlib.Data.List.Forall2

/-!
Contract: outcomes, which are results or causes.

Owns:
- what the outcome of one step, of a step after another and of a renamed step are;
- the cause of an outcome without result;
- rows that are read entry by entry: all results, or the cause of the first entry without one.

Does not own: any step of the library.
-/

namespace SchemaMatch

variable {ε δ α β γ : Type}

/-! ## One step after another -/

/-- A step with a result hands it on. -/
theorem ok_bind (value : α) (next : α → Except ε β) : (Except.ok value >>= next) = next value := rfl

theorem bind_eq_ok_iff {first : Except ε α} {next : α → Except ε β} {result : β} :
    (first >>= next) = .ok result ↔ ∃ value, first = .ok value ∧ next value = .ok result := by
  cases first with
  | error cause => simp [bind, Except.bind]
  | ok value => simp [bind, Except.bind]

theorem bind_eq_error_iff {first : Except ε α} {next : α → Except ε β} {cause : ε} :
    (first >>= next) = .error cause ↔
      first = .error cause ∨ ∃ value, first = .ok value ∧ next value = .error cause := by
  cases first <;> simp [bind, Except.bind]

/-- A step under a condition. -/
theorem ite_error_eq_ok_iff {condition : Prop} [Decidable condition] {outcome : Except ε α}
    {cause : ε} {result : α} :
    (if condition then outcome else .error cause) = .ok result ↔
      condition ∧ outcome = .ok result := by
  split
  next holds => simp [holds]
  next fails => simp [fails]

/-! ## Renamed results and causes -/

theorem map_eq_ok_iff {outcome : Except ε α} {change : α → β} {result : β} :
    outcome.map change = .ok result ↔ ∃ value, outcome = .ok value ∧ change value = result := by
  cases outcome <;> simp [Except.map]

theorem map_eq_error_iff {outcome : Except ε α} {change : α → β} {cause : ε} :
    outcome.map change = .error cause ↔ outcome = .error cause := by
  cases outcome <;> simp [Except.map]

theorem mapError_eq_ok_iff {outcome : Except ε α} {change : ε → δ} {value : α} :
    outcome.mapError change = .ok value ↔ outcome = .ok value := by
  cases outcome <;> simp [Except.mapError]

theorem mapError_eq_error_iff {outcome : Except ε α} {change : ε → δ} {failure : δ} :
    outcome.mapError change = .error failure ↔
      ∃ cause, outcome = .error cause ∧ change cause = failure := by
  cases outcome <;> simp [Except.mapError]

theorem map_bind_pure (outcome : Except ε α) (extend : α → β) (finish : β → γ) :
    (outcome >>= fun value => pure (extend value)).map finish =
      outcome.map fun value => finish (extend value) := by
  cases outcome <;> rfl

/-! ## Causes -/

/-- Why there is no result. -/
def cause? : Except ε α → Option ε
  | .ok _ => none
  | .error cause => some cause

theorem cause?_eq_some_iff {outcome : Except ε α} {cause : ε} :
    cause? outcome = some cause ↔ outcome = .error cause := by
  cases outcome <;> simp [cause?]

theorem cause?_eq_none_iff {outcome : Except ε α} :
    cause? outcome = none ↔ ∃ result, outcome = .ok result := by
  cases outcome <;> simp [cause?]

theorem cause?_bind_pure (outcome : Except ε α) (finish : α → β) :
    cause? (outcome >>= fun result => pure (finish result)) = cause? outcome := by
  cases outcome <;> rfl

theorem cause?_bind_bind_pure (first : Except ε α) (later : Except ε β) (combine : α → β → γ) :
    cause? (first >>= fun value => later >>= fun rest => pure (combine value rest)) =
      (cause? first).or (cause? later) := by
  cases first with
  | error cause => rfl
  | ok value => cases later <;> rfl

theorem cause?_map (outcome : Except ε α) (change : α → β) :
    cause? (outcome.map change) = cause? outcome := by
  cases outcome <;> rfl

/-! ## Rows -/

section Rows

variable {read : α → Except ε β} {entries : List α}

theorem cause?_mapM (read : α → Except ε β) (entries : List α) :
    cause? (entries.mapM read) = entries.findSome? fun entry => cause? (read entry) := by
  induction entries with
  | nil => rfl
  | cons entry rest inductionHypothesis =>
      rw [List.mapM_cons, cause?_bind_bind_pure, inductionHypothesis, List.findSome?_cons]
      cases cause? (read entry) <;> rfl

theorem exists_mapM_eq_error_iff :
    (∃ cause, entries.mapM read = .error cause) ↔
      ∃ entry ∈ entries, ∃ cause, read entry = .error cause := by
  simp only [← cause?_eq_some_iff, cause?_mapM, ← Option.isSome_iff_exists,
    List.findSome?_isSome_iff]

theorem forall₂_of_mapM_eq_ok {results : List β} (readAll : entries.mapM read = .ok results) :
    List.Forall₂ (fun entry result => read entry = .ok result) entries results := by
  induction entries generalizing results with
  | nil =>
      obtain rfl : [] = results := Except.ok.inj readAll
      exact .nil
  | cons entry rest inductionHypothesis =>
      simp only [List.mapM_cons, bind_eq_ok_iff] at readAll
      obtain ⟨result, readEntry, others, readRest, same⟩ := readAll
      obtain rfl : result :: others = results := Except.ok.inj same
      exact .cons readEntry (inductionHypothesis readRest)

theorem exists_mapM_eq_ok (readEach : ∀ entry ∈ entries, ∃ result, read entry = .ok result) :
    ∃ results, entries.mapM read = .ok results := by
  induction entries with
  | nil => exact ⟨[], rfl⟩
  | cons entry rest inductionHypothesis =>
      obtain ⟨⟨result, readEntry⟩, readOthers⟩ := List.forall_mem_cons.mp readEach
      obtain ⟨results, readRest⟩ := inductionHypothesis readOthers
      refine ⟨result :: results, ?_⟩
      rw [List.mapM_cons, readEntry, readRest]
      rfl

/-- Entries that are read alike may take each other's places. -/
theorem mapM_append_cons_congr {entry other : α} (same : read entry = read other)
    (before after : List α) :
    (before ++ entry :: after).mapM read = (before ++ other :: after).mapM read := by
  induction before with
  | nil => rw [List.nil_append, List.nil_append, List.mapM_cons, List.mapM_cons, same]
  | cons first rest inductionHypothesis =>
      rw [List.cons_append, List.cons_append, List.mapM_cons, List.mapM_cons, inductionHypothesis]

/-- A row that cannot be read has a first entry that cannot. -/
theorem exists_first_error {cause : ε} (failed : entries.mapM read = .error cause) :
    ∃ before bad after, entries = before ++ bad :: after ∧
      (∀ earlier ∈ before, ∃ result, read earlier = .ok result) ∧ read bad = .error cause := by
  induction entries with
  | nil => cases failed
  | cons entry rest inductionHypothesis =>
      rw [List.mapM_cons] at failed
      rcases bind_eq_error_iff.mp failed with refused | ⟨result, readEntry, failedLater⟩
      · exact ⟨[], entry, rest, rfl, by simp, refused⟩
      · rcases bind_eq_error_iff.mp failedLater with failedRest | ⟨_, -, impossible⟩
        · obtain ⟨before, bad, after, rfl, readable, refused⟩ := inductionHypothesis failedRest
          exact ⟨entry :: before, bad, after, rfl,
            List.forall_mem_cons.mpr ⟨⟨result, readEntry⟩, readable⟩, refused⟩
        · cases impossible

/-- What comes after the first entry that cannot be read plays no part. -/
theorem mapM_append_cons_eq_error {before : List α} {bad : α} {cause : ε}
    (readable : ∀ earlier ∈ before, ∃ result, read earlier = .ok result)
    (refused : read bad = .error cause) (after : List α) :
    (before ++ bad :: after).mapM read = .error cause := by
  induction before with
  | nil =>
      rw [List.nil_append, List.mapM_cons, refused]
      rfl
  | cons entry rest inductionHypothesis =>
      obtain ⟨result, isRead⟩ := readable entry List.mem_cons_self
      rw [List.cons_append, List.mapM_cons, isRead,
        inductionHypothesis fun earlier member => readable earlier (List.mem_cons_of_mem _ member)]
      rfl

end Rows

end SchemaMatch
