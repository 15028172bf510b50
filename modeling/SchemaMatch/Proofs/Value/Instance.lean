import Mathlib.Logic.Relation
import SchemaMatch.Proofs.Check.Origin
import SchemaMatch.Value.Object

/-!
Contract: which classes have an instance in an object that was built for a class.

Owns:
- the ancestors of a class, as steps to the parent, and their agreement with its lineage;
- objects built as instances with fields inserted afterwards, which keep their class;
- `Class.hasInstance_instanceWith_iff`: the classes that such an object is an instance of, and the
  checks that fail because it is not one of another class.

A built-in class asks for the type of a value and never for its class. So every object is an
instance of the built-in class of objects, and none is one of another built-in class, not even if
it was built as an instance of that class or of a class that extends it.

Does not own: values other than objects.
-/

namespace SchemaMatch

variable {σ : Type}

/-! ## Ancestors -/

namespace Class

/-- A class comes from another by zero or more steps to the parent. -/
def HasAncestor (descendant ancestor : Class) : Prop :=
  Relation.ReflTransGen (fun tag parent => tag.parent? = some parent) descendant ancestor

def isBuiltin : Class → Bool
  | .builtin _ => true
  | _ => false

theorem hasAncestor_iff {descendant ancestor : Class} :
    descendant.HasAncestor ancestor ↔
      ancestor = descendant ∨
        ∃ parent, descendant.parent? = some parent ∧ parent.HasAncestor ancestor := by
  rw [HasAncestor, Relation.ReflTransGen.cases_head_iff, eq_comm]
  rfl

theorem mem_lineage_iff {descendant ancestor : Class} :
    ancestor ∈ descendant.lineage ↔ descendant.HasAncestor ancestor := by
  rw [hasAncestor_iff]
  induction descendant with
  | builtin kind => simp [lineage, parent?]
  | defined id name => simp [lineage, parent?]
  | extending id name parent inductionHypothesis =>
      rw [lineage, List.mem_cons, inductionHypothesis, ← hasAncestor_iff]
      simp [parent?]

theorem descendsFrom_iff {descendant ancestor : Class} :
    descendant.descendsFrom ancestor = true ↔ descendant.HasAncestor ancestor := by
  rw [← mem_lineage_iff, descendsFrom, List.any_eq_true]
  constructor
  · rintro ⟨tag, isAncestor, same⟩
    rwa [← beq_iff_eq.mp same]
  · intro isAncestor
    exact ⟨ancestor, isAncestor, beq_self_eq_true ancestor⟩

/-- Every object is an instance of the built-in class of objects. Of another class it is one if
that is no built-in class and an ancestor of the object's class. -/
theorem hasInstance_object_iff {class_ own : Class} {fields : List (String × Value)} :
    class_.hasInstance (.object (some own) fields) = true ↔
      class_ = .builtin .object ∨ class_.isBuiltin = false ∧ own.HasAncestor class_ := by
  cases class_ with
  | builtin kind => cases kind <;> simp [hasInstance, isBuiltin, Value.mayHaveProperties]
  | defined id name => simp [hasInstance, isBuiltin, descendsFrom_iff]
  | extending id name parent => simp [hasInstance, isBuiltin, descendsFrom_iff]

end Class

/-! ## Objects built as instances -/

namespace Object

/-- An instance of a class with pairs inserted one after the other. -/
def instanceWith (own : Class) (pairs : List (String × Value)) : Object :=
  pairs.foldl (fun object pair => object.adding pair.1 pair.2) (instanceOf own)

/-- Insertion keeps the class of an object. -/
theorem tag_adding (object : Object) (key : String) (value : Value) :
    (object.adding key value).tag = object.tag := rfl

theorem tag_foldl_adding (object : Object) (pairs : List (String × Value)) :
    (pairs.foldl (fun object pair => object.adding pair.1 pair.2) object).tag = object.tag := by
  induction pairs generalizing object with
  | nil => rfl
  | cons pair rest inductionHypothesis =>
      rw [List.foldl_cons, inductionHypothesis, tag_adding]

theorem toValue_instanceWith (own : Class) (pairs : List (String × Value)) :
    (instanceWith own pairs).toValue = .object (some own) (instanceWith own pairs).fields := by
  have tag : (instanceWith own pairs).tag = some own := tag_foldl_adding (instanceOf own) pairs
  rw [toValue, tag]

end Object

/-! ## Checks of a class -/

namespace Check

variable {host : Host σ} {data schema : Value} {options : Options} {session : Session σ}
  {item : Item} {class_ : Class}

/-- Against an object item with a class, a check of data that may be an object fails for the
class exactly if the data is no instance of it. -/
theorem outcome_eq_class_iff (read : Item.ofForm? (SchemaForm.ofValue schema) = .ok item)
    (isObject : item.kind = .object) (hasClass : item.tag = some class_)
    (hasKind : data.hasKind .object = true) :
    ((run host data schema options).finish session).1 = .error (.class_ Path.root) ↔
      class_.hasInstance data = false := by
  have atRoot : (Position.root data schema).item? = .ok item := read
  have obligations := Position.obligations_of_item atRoot options
  rw [Position.contentObligations, isObject] at obligations
  constructor
  · intro fails
    obtain ⟨obligation, isOwn, violated, failure⟩ := exists_failing_obligation_at_root fails rfl rfl
    rw [obligations] at isOwn
    rcases List.mem_cons.mp isOwn with rfl | ofContent
    · cases failure
    · rcases List.mem_append.mp ofContent with ofClass | ofKeys
      · simp only [Position.classObligations, hasClass, Option.toList_some, List.map_singleton,
          List.mem_singleton] at ofClass
        rw [ofClass] at violated
        exact violated
      · split at ofKeys
        · cases ofKeys
        · obtain ⟨key, -, rfl⟩ := List.mem_map.mp ofKeys
          cases failure
  · intro rejected
    apply outcome_eq_of_firstFailure
    have hasKindAtRoot : (Position.root data schema).data.hasKind .object = true := hasKind
    have rejectedAtRoot : class_.hasInstance (Position.root data schema).data = false := rejected
    rw [obligations]
    simp [firstFailure, hasKindAtRoot, Position.classObligations, hasClass, rejectedAtRoot]
    rfl

end Check

namespace Class

/-- An object that was built as an instance of `own`, whatever was inserted, is an instance of the
built-in class of objects and of those ancestors of `own`, itself included, that are not built-in.
A check of the object against an item with a class fails for the class exactly if the class is
none of these. -/
theorem hasInstance_instanceWith_iff (class_ own : Class) (pairs : List (String × Value)) :
    let value := (Object.instanceWith own pairs).toValue
    (class_.hasInstance value = true ↔
      class_ = .builtin .object ∨ class_.isBuiltin = false ∧ own.HasAncestor class_) ∧
    (∀ (host : Host σ) (session : Session σ) (options : Options) (schema : Value) (item : Item),
      Item.ofForm? (SchemaForm.ofValue schema) = .ok item → item.kind = .object →
      item.tag = some class_ →
      (((Check.run host value schema options).finish session).1 = .error (.class_ Path.root) ↔
        ¬ (class_ = .builtin .object ∨ class_.isBuiltin = false ∧ own.HasAncestor class_))) := by
  intro value
  have decided : class_.hasInstance value = true ↔
      class_ = .builtin .object ∨ class_.isBuiltin = false ∧ own.HasAncestor class_ := by
    simp only [value, Object.toValue_instanceWith]
    exact hasInstance_object_iff
  have hasKind : value.hasKind .object = true := by
    simp only [value, Object.toValue_instanceWith, Value.hasKind]
  refine ⟨decided, fun host session options schema item read isObject hasClass => ?_⟩
  rw [Check.outcome_eq_class_iff read isObject hasClass hasKind, ← decided, Bool.not_eq_true]

/-- The object's class extends dates, and the object is no instance of dates. -/
theorem date_rejects_descendant_instance :
    let zoned : Class := .extending 0 "ZonedDate" (.builtin .date)
    let value := (Object.instanceWith zoned [("zone", .string "UTC")]).toValue
    let schema : Value := .object none
      [("type", .string "object"), ("class", .classTag (.builtin .date))]
    let host : Host Unit := ⟨fun _ _ _ _ => ⟨.ok .undefined, [], ()⟩⟩
    zoned.HasAncestor (.builtin .date) ∧
    (Class.builtin .date).hasInstance value = false ∧
    ((Check.run host value schema {}).finish ⟨(), []⟩).1 = .error (.class_ Path.root) :=
  ⟨.single rfl, rfl, rfl⟩

end Class

end SchemaMatch
