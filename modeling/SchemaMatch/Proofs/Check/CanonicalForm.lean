import Mathlib.Data.Finset.Basic
import Mathlib.Data.Fintype.EquivFin
import SchemaMatch.Proofs.Check.Origin
import SchemaMatch.Proofs.Schema.Expansion

/-!
Contract: checks against the canonical form of a schema, which is the schema classified and
written out again.

Owns:
- the stability of canonical forms: writing one out again changes nothing;
- the item of a canonical form, which is the item of the schema, without the marker;
- `Check.run_canonicalForm_iff`: a check tells a schema from its canonical form exactly if the
  schema has a marker that decides otherwise than the options do.

The marker is read in shorthand only. The canonical form is no shorthand, and keeps the marker
inside its data, where nothing reads it. `Value.expand` is the form that carries it over, as the
setting of the item.

Does not own: canonical forms at every depth.
-/

namespace SchemaMatch

variable {σ : Type}

/-! ## Canonical forms -/

/-- A schema classified and written out again. -/
def Value.canonicalForm (schema : Value) : Value :=
  (SchemaForm.ofValue schema).toValue

namespace SchemaForm

theorem canonicalForm_of_shorthand {schema data : Value} {kind : Kind}
    (form : ofValue schema = .shorthand kind data) :
    schema.canonicalForm = .writeOut kind schema none := by
  obtain rfl := value_of_shorthand form
  rw [Value.canonicalForm, form]
  rfl

theorem canonicalForm_of_explicit {schema : Value} {tag : Option Class}
    {fields : List (String × Value)} (form : ofValue schema = .explicit tag fields) :
    schema.canonicalForm = schema := by
  rw [Value.canonicalForm, form]
  exact (value_of_explicit form).symm

theorem canonicalForm_canonicalForm (schema : Value) :
    schema.canonicalForm.canonicalForm = schema.canonicalForm := by
  cases form : ofValue schema with
  | explicit tag fields =>
      have unchanged := canonicalForm_of_explicit form
      rw [unchanged, unchanged]
  | shorthand kind data =>
      obtain ⟨fields, formOut, -⟩ := Item.form_writeOut kind schema none
      rw [canonicalForm_of_shorthand form]
      exact canonicalForm_of_explicit formOut

/-- Only shorthand objects have a marker. -/
theorem of_marker?_eq_some {schema marker : Value}
    (found : (ofValue schema).marker? = some marker) :
    ofValue schema = .shorthand .object schema := by
  cases form : ofValue schema with
  | explicit tag fields =>
      rw [form] at found
      cases found
  | shorthand kind data =>
      obtain rfl := value_of_shorthand form
      cases schema with
      | object tag fields => rw [(of_shorthand_object form).1]
      | _ => cases form; cases found

end SchemaForm

/-! ## Items of canonical forms -/

section Shorthand

variable {schema data : Value} {kind : Kind}

theorem Item.ofForm?_canonicalForm (form : SchemaForm.ofValue schema = .shorthand kind data) :
    ofForm? (SchemaForm.ofValue schema.canonicalForm) = .ok (ofShorthand kind schema none) := by
  rw [SchemaForm.canonicalForm_of_shorthand form]
  exact ofForm?_writeOut none (Schema.examineData_of_shorthand form)

theorem SchemaForm.marker?_canonicalForm (form : ofValue schema = .shorthand kind data) :
    (ofValue schema.canonicalForm).marker? = none := by
  obtain ⟨fields, formOut, -⟩ := Item.form_writeOut kind schema none
  rw [canonicalForm_of_shorthand form, formOut]
  rfl

/-- The tree of a canonical form sets no policy, and is otherwise the tree of the schema. -/
theorem Schema.ofValue_canonicalForm (form : SchemaForm.ofValue schema = .shorthand kind data) :
    ofValue schema.canonicalForm = ofWellFormed (Item.ofShorthand kind schema none) none := by
  rw [ofValue_of_item (Item.ofForm?_canonicalForm form), SchemaForm.marker?_canonicalForm form]
  rfl

end Shorthand

theorem Schema.ofValue_canonicalForm_of_marker?_eq_none {schema : Value}
    (noMarker : (SchemaForm.ofValue schema).marker? = none) :
    ofValue schema.canonicalForm = ofValue schema := by
  cases form : SchemaForm.ofValue schema with
  | explicit tag fields => rw [SchemaForm.canonicalForm_of_explicit form]
  | shorthand kind data =>
      rw [ofValue_canonicalForm form, ofValue_of_item (Item.ofForm?_of_shorthand form), noMarker]
      rfl

/-! ## Policies that checks tell apart -/

namespace Check

variable {host : Host σ} {options : Options} {session : Session σ} {schema other : Value}
  {item : Item}

/-- A node that permits extra keys reports none at the root. -/
theorem outcome_ne_extraKey {data : Value} {key : String}
    (read : (Position.root data schema).item? = .ok item) (isObject : item.kind = .object)
    (permits : Policy.permitsExtraKeys (SchemaForm.ofValue schema).marker? item.allowExtraKeys
      options = true) :
    ((run host data schema options).finish session).1 ≠ .error (.extraKey Path.root key) := by
  intro fails
  have permitsAtRoot : (Position.root data schema).permitsExtraKeys item options = true :=
    (Position.permitsExtraKeys_eq_policy _ _ _).trans permits
  obtain ⟨obligation, isOwn, -, failure⟩ := exists_failing_obligation_at_root fails rfl rfl
  simp only [Position.obligations_of_item read, Position.contentObligations, isObject,
    permitsAtRoot, if_true, List.append_nil, List.mem_cons] at isOwn
  rcases isOwn with rfl | ofClass
  · cases failure
  · obtain ⟨tag, -, rfl⟩ := List.mem_map.mp ofClass
    cases failure

/-- A strict node without a class reports the only key of an object, if it does not declare
it. -/
theorem outcome_eq_extraKey {key : String} {value : Value}
    (read : Item.ofForm? (SchemaForm.ofValue schema) = .ok item) (isObject : item.kind = .object)
    (noClass : item.tag = none) (undeclared : key ∉ Position.declaredKeys item)
    (strict : Policy.permitsExtraKeys (SchemaForm.ofValue schema).marker? item.allowExtraKeys
      options = false) :
    ((run host (.object none [(key, value)]) schema options).finish session).1 =
      .error (.extraKey Path.root key) := by
  have atRoot : (Position.root (.object none [(key, value)]) schema).item? = .ok item := read
  have strictAtRoot : (Position.root (.object none [(key, value)]) schema).permitsExtraKeys item
      options = false := (Position.permitsExtraKeys_eq_policy _ _ _).trans strict
  apply outcome_eq_of_firstFailure
  rw [Position.obligations_of_item atRoot, Position.contentObligations, isObject]
  simp only [strictAtRoot, Position.classObligations, noClass]
  simp [firstFailure, Position.keyObligations, Position.root, Value.keys, Fields.keys,
    Value.hasKind, undeclared]

/-- Where two schemas have one item, of kind object and without class, checks against them tell
their policies apart: a key that neither declares is reported by the strict one. -/
theorem permitsExtraKeys_eq_of_outcomes_eq
    (read : Item.ofForm? (SchemaForm.ofValue schema) = .ok item)
    (readOther : Item.ofForm? (SchemaForm.ofValue other) = .ok item)
    (isObject : item.kind = .object) (noClass : item.tag = none)
    (same : ∀ data, ((run host data other options).finish session).1 =
      ((run host data schema options).finish session).1) :
    Policy.permitsExtraKeys (SchemaForm.ofValue other).marker? item.allowExtraKeys options =
      Policy.permitsExtraKeys (SchemaForm.ofValue schema).marker? item.allowExtraKeys options := by
  obtain ⟨key, isFresh⟩ :=
    Infinite.exists_notMem_finset (Position.declaredKeys item).toFinset
  have undeclared : key ∉ Position.declaredKeys item := by simpa using isFresh
  have agree := same (.object none [(key, .undefined)])
  cases permits : Policy.permitsExtraKeys (SchemaForm.ofValue schema).marker?
      item.allowExtraKeys options <;>
    cases otherPermits : Policy.permitsExtraKeys (SchemaForm.ofValue other).marker?
      item.allowExtraKeys options
  · rfl
  · rw [outcome_eq_extraKey read isObject noClass undeclared permits] at agree
    cases outcome_ne_extraKey readOther isObject otherPermits agree
  · rw [outcome_eq_extraKey readOther isObject noClass undeclared otherPermits] at agree
    cases outcome_ne_extraKey read isObject permits agree.symm
  · rfl

/-- An object node asks for its own policy only together with the options. -/
theorem node_object_congr {own setting : Option Bool} (path : Path) (parent data : Value)
    (tag : Option Class) (children : List (String × Schema))
    (same : Policy.resolve own options = Policy.resolve setting options) :
    node host options path parent data (.object tag own children) =
      node host options path parent data (.object tag setting children) := by
  rw [node, node, same]

/-- A marker that decides as the options do may be left out. -/
theorem run_canonicalForm_of_marker {marker : Value} (data : Value)
    (found : (SchemaForm.ofValue schema).marker? = some marker)
    (agrees : Policy.ofMarker marker = Policy.resolve none options) :
    run host data schema.canonicalForm options = run host data schema options := by
  have form := SchemaForm.of_marker?_eq_some found
  have resolved : Policy.resolve none options =
      Policy.resolve (Policy.own? (some marker) none) options := agrees.symm
  rw [run, run, Schema.ofValue_canonicalForm form,
    Schema.ofValue_of_item (Item.ofForm?_of_shorthand form), found]
  exact congrArg (reporting data) (node_object_congr _ _ _ _ _ resolved)

/-- Checks against the canonical form of a schema go as checks against the schema, whatever the
data, exactly if the schema has no marker or one that decides as the options do. Writing out the
canonical form changes nothing. -/
theorem run_canonicalForm_iff (host : Host σ) (schema : Value) (options : Options)
    (session : Session σ) :
    ((∀ data, (run host data schema.canonicalForm options).finish session =
        (run host data schema options).finish session) ↔
      ∀ marker, (SchemaForm.ofValue schema).marker? = some marker →
        Policy.ofMarker marker = Policy.resolve none options) ∧
    schema.canonicalForm.canonicalForm = schema.canonicalForm := by
  refine ⟨⟨fun same marker found => ?_, fun agrees data => ?_⟩,
    SchemaForm.canonicalForm_canonicalForm schema⟩
  · have form := SchemaForm.of_marker?_eq_some found
    have samePolicy := permitsExtraKeys_eq_of_outcomes_eq (Item.ofForm?_of_shorthand form)
      (Item.ofForm?_canonicalForm form) rfl rfl fun data => congrArg Prod.fst (same data)
    rw [SchemaForm.marker?_canonicalForm form, found] at samePolicy
    exact samePolicy.symm
  · cases found : (SchemaForm.ofValue schema).marker? with
    | none => rw [run, run, Schema.ofValue_canonicalForm_of_marker?_eq_none found]
    | some marker => rw [run_canonicalForm_of_marker data found (agrees marker found)]

/-- The marker makes the schema strict. Its canonical form has the marker in its data, and lets
the key pass. -/
theorem canonicalForm_loses_strict_marker :
    let schema : Value := .object none [("_deepCheck_allowExtraKeys", .bool false)]
    let data : Value := .object none [("extra", .null)]
    let host : Host Unit := ⟨fun _ _ _ _ => ⟨.ok .undefined, [], ()⟩⟩
    schema.canonicalForm = .object none [("type", .string "object"), ("data", schema)] ∧
    ((run host data schema {}).finish ⟨(), []⟩).1 = .error (.extraKey Path.root "extra") ∧
    ((run host data schema.canonicalForm {}).finish ⟨(), []⟩).1 = .ok () :=
  ⟨rfl, rfl, rfl⟩

end Check

end SchemaMatch
