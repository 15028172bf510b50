import Mathlib.Logic.Relation
import SchemaMatch.Script.Function

/-!
Contract: receivers go into scripts as if they held no callables.

Owns:
- `Value.withoutCallables`: a value whose callable fields are gone at every depth and whose other
  callables have become null;
- the removal of one callable field somewhere in a value, and values that differ in such fields;
- `ScriptFunction.call_of_receiver`: the lenient conversion of a receiver is the strict conversion
  of the receiver without its callables, so no call sees which callable fields its receiver has.

Does not own: the strict conversion, which fails for callables.
-/

namespace SchemaMatch

open ScriptValue (Callables convert convertItems convertFields ofValue? ofReceiver?)

namespace Value

/-! ## Removal of callables -/

mutual

/-- A value without callables. An object loses the fields that hold one; elsewhere null takes the
place of a callable. -/
def withoutCallables : Value → Value
  | .array items => .array (withoutCallablesInItems items)
  | .object tag fields => .object tag (withoutCallablesInFields fields)
  | .function _ => .null
  | .classTag _ => .null
  | other => other

def withoutCallablesInItems : List Value → List Value
  | [] => []
  | item :: rest => withoutCallables item :: withoutCallablesInItems rest

def withoutCallablesInFields : List (String × Value) → List (String × Value)
  | [] => []
  | (key, value) :: rest =>
      if value.isCallable then withoutCallablesInFields rest
      else (key, withoutCallables value) :: withoutCallablesInFields rest

end

theorem withoutCallablesInItems_append (before after : List Value) :
    withoutCallablesInItems (before ++ after) =
      withoutCallablesInItems before ++ withoutCallablesInItems after := by
  induction before with
  | nil => rfl
  | cons item rest inductionHypothesis =>
      rw [List.cons_append, withoutCallablesInItems, withoutCallablesInItems, inductionHypothesis,
        List.cons_append]

theorem withoutCallablesInFields_append (before after : List (String × Value)) :
    withoutCallablesInFields (before ++ after) =
      withoutCallablesInFields before ++ withoutCallablesInFields after := by
  induction before with
  | nil => rfl
  | cons field rest inductionHypothesis =>
      obtain ⟨key, value⟩ := field
      rw [List.cons_append, withoutCallablesInFields, withoutCallablesInFields,
        inductionHypothesis]
      by_cases callable : value.isCallable = true
      · rw [if_pos callable, if_pos callable]
      · rw [if_neg callable, if_neg callable, List.cons_append]

/-! ## The two uses of the conversion -/

mutual

/-- Skipping callables is rejecting them once they are gone. -/
theorem convert_skip (value : Value) :
    convert .skip value = convert .reject value.withoutCallables :=
  match value with
  | .undefined | .null | .bool _ | .number _ | .string _ | .date _ | .regex _ | .function _
  | .classTag _ => rfl
  | .array items => by
      rw [withoutCallables, convert, convert, convertItems_skip items]
  | .object tag fields => by
      rw [withoutCallables, convert, convert, convertFields_skip fields]

theorem convertItems_skip (items : List Value) :
    convertItems .skip items = convertItems .reject (withoutCallablesInItems items) :=
  match items with
  | [] => rfl
  | item :: rest => by
      rw [withoutCallablesInItems, convertItems, convertItems, convert_skip item,
        convertItems_skip rest]

theorem convertFields_skip (fields : List (String × Value)) :
    convertFields .skip fields = convertFields .reject (withoutCallablesInFields fields) :=
  match fields with
  | [] => rfl
  | (key, value) :: rest => by
      have leavesOut : Callables.skip.leavesOut value = value.isCallable := rfl
      rw [withoutCallablesInFields, convertFields, leavesOut, convertFields_skip rest]
      by_cases callable : value.isCallable = true
      · rw [if_pos callable, if_pos callable]
      · rw [if_neg callable, if_neg callable, convertFields, convert_skip value]
        rfl

end

mutual

/-- Where callables are skipped, nothing is in the way. -/
theorem exists_convert_skip (value : Value) : ∃ script, convert .skip value = .ok script :=
  match value with
  | .undefined | .null | .bool _ | .number _ | .string _ | .date _ | .regex _ | .function _
  | .classTag _ => ⟨_, rfl⟩
  | .array items => by
      obtain ⟨scripts, itemsGoIn⟩ := exists_convertItems_skip items
      rw [convert, itemsGoIn]
      exact ⟨_, rfl⟩
  | .object tag fields => by
      obtain ⟨pairs, fieldsGoIn⟩ := exists_convertFields_skip fields
      rw [convert, fieldsGoIn]
      exact ⟨_, rfl⟩

theorem exists_convertItems_skip (items : List Value) :
    ∃ scripts, convertItems .skip items = .ok scripts :=
  match items with
  | [] => ⟨[], rfl⟩
  | item :: rest => by
      obtain ⟨script, itemGoesIn⟩ := exists_convert_skip item
      obtain ⟨scripts, restGoesIn⟩ := exists_convertItems_skip rest
      rw [convertItems, itemGoesIn, restGoesIn]
      exact ⟨_, rfl⟩

theorem exists_convertFields_skip (fields : List (String × Value)) :
    ∃ pairs, convertFields .skip fields = .ok pairs :=
  match fields with
  | [] => ⟨[], rfl⟩
  | (key, value) :: rest => by
      obtain ⟨pairs, restGoesIn⟩ := exists_convertFields_skip rest
      rw [convertFields, restGoesIn]
      split
      · exact ⟨_, rfl⟩
      · obtain ⟨script, valueGoesIn⟩ := exists_convert_skip value
        rw [valueGoesIn]
        exact ⟨_, rfl⟩

end

/-- Receivers that are the same without callables go in as the same script value. -/
theorem ofReceiver?_congr {value other : Value}
    (same : other.withoutCallables = value.withoutCallables) :
    ofReceiver? other = ofReceiver? value := by
  rw [ofReceiver?, ofReceiver?, convert_skip, convert_skip, same]

/-! ## Callable fields come and go -/

/-- One of the objects in a value loses a field that holds a callable. -/
inductive LosesCallableField : Value → Value → Prop where
  | here (tag : Option Class) (before : List (String × Value)) (key : String) {callable : Value}
      (isCallable : callable.isCallable = true) (after : List (String × Value)) :
      LosesCallableField (.object tag (before ++ (key, callable) :: after))
        (.object tag (before ++ after))
  | inItem (before : List Value) {item other : Value} (loses : LosesCallableField item other)
      (after : List Value) :
      LosesCallableField (.array (before ++ item :: after)) (.array (before ++ other :: after))
  | inField (tag : Option Class) (before : List (String × Value)) (key : String)
      {value other : Value} (loses : LosesCallableField value other)
      (after : List (String × Value)) :
      LosesCallableField (.object tag (before ++ (key, value) :: after))
        (.object tag (before ++ (key, other) :: after))

/-- What loses a field is a container before and after. -/
theorem LosesCallableField.isCallable_eq {value other : Value}
    (loses : LosesCallableField value other) : other.isCallable = value.isCallable := by
  cases loses <;> rfl

/-- The field that is lost would go anyway. -/
theorem LosesCallableField.withoutCallables_eq {value other : Value}
    (loses : LosesCallableField value other) :
    other.withoutCallables = value.withoutCallables := by
  induction loses with
  | here tag before key isCallable after =>
      rw [withoutCallables, withoutCallables, withoutCallablesInFields_append,
        withoutCallablesInFields_append, withoutCallablesInFields, if_pos isCallable]
  | inItem before loses after inductionHypothesis =>
      rw [withoutCallables, withoutCallables, withoutCallablesInItems_append,
        withoutCallablesInItems_append, withoutCallablesInItems, withoutCallablesInItems,
        inductionHypothesis]
  | inField tag before key loses after inductionHypothesis =>
      rw [withoutCallables, withoutCallables, withoutCallablesInFields_append,
        withoutCallablesInFields_append, withoutCallablesInFields, withoutCallablesInFields,
        loses.isCallable_eq, inductionHypothesis]

/-- Values that come from one another by adding and removing callable fields, wherever and however
often. -/
abbrev SameButCallableFields : Value → Value → Prop :=
  Relation.EqvGen LosesCallableField

theorem withoutCallables_eq_of_sameButCallableFields {value other : Value}
    (alike : SameButCallableFields value other) :
    other.withoutCallables = value.withoutCallables := by
  induction alike with
  | rel value other loses => exact loses.withoutCallables_eq
  | refl value => rfl
  | symm value other _ inductionHypothesis => exact inductionHypothesis.symm
  | trans value middle other _ _ first second => exact second.trans first

end Value

namespace ScriptFunction

open Value (SameButCallableFields LosesCallableField)

/-- Receivers go in leniently: always, and as the receiver without its callables goes in strictly.
So whatever callable fields are added to a receiver or removed from it, at any depth, each function
comes to the same with the same arguments. -/
theorem call_of_receiver (receiver : Value) :
    (∃ script, ofReceiver? receiver = .ok script ∧
      ofValue? receiver.withoutCallables = .ok script) ∧
    ∀ other, SameButCallableFields receiver other →
      ∀ (function : ScriptFunction) (arguments : List Value),
        function.call other arguments = function.call receiver arguments := by
  constructor
  · obtain ⟨script, goesIn⟩ := Value.exists_convert_skip receiver
    refine ⟨script, goesIn, ?_⟩
    rwa [Value.convert_skip] at goesIn
  · intro other alike function arguments
    have same := Value.withoutCallables_eq_of_sameButCallableFields alike
    rw [ScriptFunction.call, ScriptFunction.call, Value.ofReceiver?_congr same]

/-- The function under verification and a class inside a row leave the receiver, and another
function joins it. The callable element of the row stays, as unit. -/
theorem call_of_receiver_with_row :
    let join : Value := .function ⟨0, some "join"⟩
    let widget : Value := .classTag (.defined 0 "Widget")
    let row (fields : List (String × Value)) : Value := .array [.object none fields, join]
    let receiver : Value := .object (some (.defined 1 "Cart"))
      [("join", join), ("row", row [("kind", widget), ("count", .null)]), ("mark", .bool true)]
    let other : Value := .object (some (.defined 1 "Cart"))
      [("row", row [("count", .null)]), ("mark", .bool true), ("size", join)]
    SameButCallableFields receiver other ∧
      receiver.withoutCallables = .object (some (.defined 1 "Cart"))
        [("row", .array [.object none [("count", .null)], .null]), ("mark", .bool true)] ∧
      ofReceiver? receiver = .ok (.map
        [("mark", .bool true), ("row", .array [.map [("count", .unit)], .unit])]) ∧
      ∀ (function : ScriptFunction) (arguments : List Value),
        function.call other arguments = function.call receiver arguments := by
  intro join widget row receiver other
  have withoutJoin : LosesCallableField receiver (.object (some (.defined 1 "Cart"))
      [("row", row [("kind", widget), ("count", .null)]), ("mark", .bool true)]) :=
    .here _ [] "join" rfl _
  have withoutWidget : LosesCallableField (row [("kind", widget), ("count", .null)])
      (row [("count", .null)]) :=
    .inItem [] (.here none [] "kind" rfl [("count", .null)]) [join]
  have withoutBoth : LosesCallableField (.object (some (.defined 1 "Cart"))
        [("row", row [("kind", widget), ("count", .null)]), ("mark", .bool true)])
      (.object (some (.defined 1 "Cart")) [("row", row [("count", .null)]), ("mark", .bool true)]) :=
    .inField _ [] "row" withoutWidget [("mark", .bool true)]
  have joined : LosesCallableField other
      (.object (some (.defined 1 "Cart")) [("row", row [("count", .null)]), ("mark", .bool true)]) :=
    .here _ [("row", row [("count", .null)]), ("mark", .bool true)] "size" rfl []
  have alike : SameButCallableFields receiver other :=
    .trans _ _ _ (.rel _ _ withoutJoin)
      (.trans _ _ _ (.rel _ _ withoutBoth) (.symm _ _ (.rel _ _ joined)))
  exact ⟨alike, rfl, rfl, (call_of_receiver receiver).2 other alike⟩

end ScriptFunction

end SchemaMatch
