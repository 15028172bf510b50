import Mathlib.Data.Finset.Card
import SchemaMatch.Proofs.Value.Equality
import SchemaMatch.Proofs.Value.Property
import SchemaMatch.Value.Object

/-!
Contract: objects as maps in the order of insertion.

Owns:
- histories of objects: how one begins and what is inserted into it afterwards;
- what an object shows of its history, which every single insertion keeps up;
- `Object.History.insertion_ordered`: the laws of an object with any history, and equality of two
  objects with any histories.

An object is a row of fields to which uniqueness of names is not built in. All laws come from what
one insertion does to the names and to look-up.

Does not own: fields that were not inserted, such as those of a value that is taken as it is.
-/

namespace SchemaMatch

namespace Fields

variable {α : Type}

/-- Rows of fields agree pair by pair if they have the same names in order and under each name there
stand related values. -/
theorem forall₂_paired_iff {related : α → α → Prop} {fields others : List (String × α)}
    (unique : (keys fields).Nodup) :
    List.Forall₂ (Paired related) fields others ↔
      keys fields = keys others ∧
        ∀ key, Option.Rel related (lookup? key fields) (lookup? key others) := by
  constructor
  · intro pairs
    exact ⟨keys_of_paired pairs, lookup?_of_paired pairs⟩
  · rintro ⟨sameKeys, values⟩
    induction fields generalizing others with
    | nil =>
        obtain rfl := List.map_eq_nil_iff.mp sameKeys.symm
        exact .nil
    | cons field rest inductionHypothesis =>
        obtain ⟨name, value⟩ := field
        cases others with
        | nil => cases sameKeys
        | cons other otherRest =>
            obtain ⟨otherName, otherValue⟩ := other
            rw [keys_cons, keys_cons] at sameKeys
            obtain ⟨rfl, sameRest⟩ := List.cons.inj sameKeys
            obtain ⟨isNew, uniqueRest⟩ := List.nodup_cons.mp unique
            have here := values name
            rw [lookup?, lookup?, if_pos rfl, if_pos rfl] at here
            have later : ∀ key, Option.Rel related (lookup? key rest) (lookup? key otherRest) := by
              intro key
              by_cases same : name = key
              · -- The name does not come back, on neither side.
                subst same
                rw [lookup?_eq_none_iff.mpr isNew, lookup?_eq_none_iff.mpr (sameRest ▸ isNew)]
                exact .none
              · have below := values key
                rwa [lookup?, lookup?, if_neg same, if_neg same] at below
            cases here with
            | some pair =>
                exact .cons (.intro name pair) (inductionHypothesis uniqueRest sameRest later)

theorem length_keys (fields : List (String × α)) : (keys fields).length = fields.length :=
  List.length_map ..

theorem keys_append (fields others : List (String × α)) :
    keys (fields ++ others) = keys fields ++ keys others :=
  List.map_append ..

end Fields

namespace Object

/-! ## Histories -/

/-- How an object begins. -/
inductive Origin where
  | new
  | instanceOf (tag : Class)
  | collected (pairs : List (String × Value))

/-- The operations that put a value under a key: in place, or as a further object. -/
inductive Change where
  | insert (key : String) (value : Value)
  | adding (key : String) (value : Value)

def Origin.object : Origin → Object
  | .new => .empty
  | .instanceOf tag => .instanceOf tag
  | .collected pairs => .ofPairs pairs

def Origin.tag? : Origin → Option Class
  | .instanceOf tag => some tag
  | _ => none

def Origin.inserted : Origin → List (String × Value)
  | .collected pairs => pairs
  | _ => []

def Change.apply (object : Object) : Change → Object
  | .insert key value => (object.insert key value).2
  | .adding key value => object.adding key value

def Change.inserted : Change → String × Value
  | .insert key value => (key, value)
  | .adding key value => (key, value)

/-- What happened to an object, in order. -/
structure History where
  origin : Origin
  changes : List Change

/-- The object that a history leads to. -/
def History.object (history : History) : Object :=
  history.changes.foldl Change.apply history.origin.object

/-- All pairs that were inserted, in order and with those that were replaced since. -/
def History.inserted (history : History) : List (String × Value) :=
  history.origin.inserted ++ history.changes.map Change.inserted

/-! ## What an object shows of its history -/

/-- An object reflects the pairs that were inserted: it has their names once each, in the order of
their first insertion, and under a name the value of its last insertion. -/
structure Reflects (object : Object) (tag : Option Class) (inserted : List (String × Value)) :
    Prop where
  tag : object.tag = tag
  unique : (Fields.keys object.fields).Nodup
  keys : Fields.keys object.fields = (Fields.keys inserted).eraseDups
  get? : ∀ key, object.get? key = inserted.reverse.lookup key

namespace Reflects

variable {object : Object} {tag : Option Class} {inserted : List (String × Value)}

theorem of_no_fields (tag : Option Class) : Reflects ⟨tag, []⟩ tag [] where
  tag := rfl
  unique := List.nodup_nil
  keys := rfl
  get? _ := rfl

theorem mem_keys_iff (reflects : Reflects object tag inserted) {key : String} :
    key ∈ Fields.keys object.fields ↔ key ∈ Fields.keys inserted := by
  rw [reflects.keys, List.mem_eraseDups]

/-- One insertion: a new name comes last, a name that is present keeps its place. -/
theorem insert (reflects : Reflects object tag inserted) (key : String) (value : Value) :
    Reflects (object.insert key value).2 tag (inserted ++ [(key, value)]) where
  tag := reflects.tag
  unique := Fields.nodup_keys_insert reflects.unique
  keys := by
    have insertedKeys : Fields.keys (inserted ++ [(key, value)]) = Fields.keys inserted ++ [key] :=
      Fields.keys_append ..
    rw [insertedKeys, List.eraseDups_append, ← reflects.keys]
    simp only [Object.insert, Fields.keys_insert, reflects.mem_keys_iff]
    by_cases present : key ∈ Fields.keys inserted
    · simp [present, List.cons_removeAll]
    · simp [present, List.cons_removeAll, List.eraseDups_cons]
  get? other := by
    rw [List.reverse_append, List.reverse_singleton, List.singleton_append, List.lookup_cons,
      ← reflects.get?]
    by_cases same : key = other
    · subst same
      simp [Object.get?, Object.insert]
    · have different : (other == key) = false := beq_eq_false_iff_ne.mpr (Ne.symm same)
      simp [Object.get?, Object.insert, Fields.lookup?_insert_of_ne same, different]

/-- Any number of insertions, one after the other. -/
theorem foldl_adding (reflects : Reflects object tag inserted) (pairs : List (String × Value)) :
    Reflects (pairs.foldl (fun object pair => object.adding pair.1 pair.2) object) tag
      (inserted ++ pairs) := by
  induction pairs generalizing object inserted with
  | nil => rwa [List.append_nil]
  | cons pair rest inductionHypothesis =>
      have next := inductionHypothesis (reflects.insert pair.1 pair.2)
      rwa [List.append_assoc] at next

theorem get?_eq_none_iff (reflects : Reflects object tag inserted) {key : String} :
    object.get? key = none ↔ key ∉ Fields.keys inserted := by
  rw [← reflects.mem_keys_iff]
  exact Fields.lookup?_eq_none_iff

/-- An object has as many fields as names were inserted, each counted once. -/
theorem size_eq (reflects : Reflects object tag inserted) :
    object.size = (Fields.keys inserted).toFinset.card := by
  have sameNames : (Fields.keys inserted).toFinset = (Fields.keys object.fields).toFinset := by
    ext key
    rw [List.mem_toFinset, List.mem_toFinset, reflects.mem_keys_iff]
  rw [sameNames, List.toFinset_card_of_nodup reflects.unique]
  exact (Fields.length_keys object.fields).symm

/-- Collected anew, the fields are the same and the class is lost. -/
theorem ofPairs_fields (reflects : Reflects object tag inserted) :
    Object.ofPairs object.fields = { object with tag := none } := by
  rw [Object.ofPairs, Fields.ofPairs_of_nodup reflects.unique]

/-- Objects are equal if their classes are the same, their names are the same in order and their
values are equal name by name. -/
theorem equal_iff {other : Object} (reflects : Reflects object tag inserted) :
    object.toValue.equal other.toValue = true ↔
      Value.sameTag object.tag other.tag = true ∧
        Fields.keys object.fields = Fields.keys other.fields ∧
        ∀ key, Option.Rel (fun value counterpart => value.equal counterpart = true)
          (object.get? key) (other.get? key) := by
  rw [toValue, toValue, Value.equal, Bool.and_eq_true, Value.equalFields_iff_forall₂,
    Fields.forall₂_paired_iff reflects.unique]
  rfl

end Reflects

/-! ## Any history -/

theorem ofPairs_eq_foldl (pairs : List (String × Value)) :
    ofPairs pairs = pairs.foldl (fun object pair => object.adding pair.1 pair.2) empty := by
  have fromFields : ∀ fields : List (String × Value),
      Object.mk none (pairs.foldl (fun fields pair => Fields.insert pair.1 pair.2 fields) fields) =
        pairs.foldl (fun object pair => object.adding pair.1 pair.2) ⟨none, fields⟩ := by
    induction pairs with
    | nil => exact fun fields => rfl
    | cons pair rest inductionHypothesis =>
        exact fun fields => inductionHypothesis (Fields.insert pair.1 pair.2 fields)
  exact fromFields []

theorem Origin.reflects (origin : Origin) :
    Reflects origin.object origin.tag? origin.inserted := by
  cases origin with
  | new => exact .of_no_fields none
  | instanceOf tag => exact .of_no_fields (some tag)
  | collected pairs =>
      rw [object, ofPairs_eq_foldl]
      exact (Reflects.of_no_fields none).foldl_adding pairs

/-- Both operations insert one pair. -/
theorem Change.apply_eq (object : Object) (change : Change) :
    change.apply object = object.adding change.inserted.1 change.inserted.2 := by
  cases change <;> rfl

namespace History

theorem reflects (history : History) :
    Reflects history.object history.origin.tag? history.inserted := by
  have asInsertions : history.object =
      (history.changes.map Change.inserted).foldl
        (fun object pair => object.adding pair.1 pair.2) history.origin.object := by
    rw [object, List.foldl_map]
    congr 1
    funext object change
    exact change.apply_eq object
  rw [asInsertions]
  exact history.origin.reflects.foldl_adding _

/-- Objects are maps in the order of insertion, whatever their history. No name occurs twice; names
stand in the order of their first insertion; under a name there is the value inserted last, and
nothing if none was; a further insertion reports that value; there are as many fields as different
names; the class is that of the beginning. The fields collected anew are the same without the class.
Two objects are equal if and only if their classes agree and they have the same names in the same
order with equal values. -/
theorem insertion_ordered (history : History) :
    let object := history.object
    (Fields.keys object.fields).Nodup ∧
      Fields.keys object.fields = (Fields.keys history.inserted).eraseDups ∧
      (∀ key, object.get? key = history.inserted.reverse.lookup key ∧
        (object.get? key = none ↔ key ∉ Fields.keys history.inserted)) ∧
      (∀ key value, (object.insert key value).1 = history.inserted.reverse.lookup key) ∧
      object.size = (Fields.keys history.inserted).toFinset.card ∧
      object.tag = history.origin.tag? ∧
      Object.ofPairs object.fields = { object with tag := none } ∧
      ∀ other : History, object.toValue.equal other.object.toValue = true ↔
        Value.sameTag object.tag other.object.tag = true ∧
          Fields.keys object.fields = Fields.keys other.object.fields ∧
          ∀ key, Option.Rel (fun value counterpart => value.equal counterpart = true)
            (object.get? key) (other.object.get? key) := by
  intro object
  have reflects : Reflects object history.origin.tag? history.inserted := history.reflects
  refine ⟨reflects.unique, reflects.keys, ?_, ?_, reflects.size_eq, reflects.tag,
    reflects.ofPairs_fields, fun other => reflects.equal_iff⟩
  · exact fun key => ⟨reflects.get? key, reflects.get?_eq_none_iff⟩
  · exact fun key _ => reflects.get? key

/-- The name that comes back keeps its place and takes the later value. -/
example :
    let history : History := ⟨.instanceOf (.defined 0 "Row"),
      [.insert "a" .null, .adding "b" .null, .insert "a" (.bool true)]⟩
    history.object = ⟨some (.defined 0 "Row"), [("a", .bool true), ("b", .null)]⟩ := rfl

end History

end Object

end SchemaMatch
