import SchemaMatch.Proofs.Number.Integer
import SchemaMatch.Proofs.Script.NameOrder
import SchemaMatch.Proofs.Value.Traversal
import SchemaMatch.Script.Function

/-!
Contract: values on their way into scripts and back.

Owns:
- what keeps a value out of scripts: a callable;
- `Value.bridged`: what comes back of a value that goes into a script;
- `Value.ofValue?_bridged`: a value goes into scripts unless one of its parts is a callable, it
  comes back bridged, and what comes back goes in as the same script value again, so that no
  script can tell the two from one another.

Does not own: what scripts do with their arguments.
-/

namespace SchemaMatch

open ScriptValue (ofNumber convert convertItems convertFields ofValue? ofReceiver? toValue? toItems?
  toFields?)

namespace Value

/-! ## What stays outside -/

/-- Why a value does not go into scripts, whatever is inside it. -/
def scriptObstacle? (part : Value) : Option ConversionError :=
  if part.isCallable then some (.unsupportedType part.typeName) else none

/-- The first part that is an obstacle is the first callable. -/
theorem findSome?_scriptObstacle? (parts : List Value) :
    parts.findSome? scriptObstacle? =
      (parts.find? isCallable).map fun callable =>
        ConversionError.unsupportedType callable.typeName := by
  induction parts with
  | nil => rfl
  | cons part rest inductionHypothesis =>
      rw [List.findSome?_cons, List.find?_cons, scriptObstacle?]
      cases part.isCallable with
      | false => exact inductionHypothesis
      | true => rfl

theorem cause?_convertItems (items : List Value) :
    cause? (convertItems .reject items) =
      items.findSome? fun item => cause? (convert .reject item) := by
  induction items with
  | nil => rfl
  | cons item rest inductionHypothesis =>
      rw [convertItems, cause?_bind_bind_pure, inductionHypothesis, List.findSome?_cons]
      cases cause? (convert .reject item) <;> rfl

/-- Where callables are rejected, no field is left out. -/
theorem convertFields_reject_cons (key : String) (value : Value) (rest : List (String × Value)) :
    convertFields .reject ((key, value) :: rest) = do
      let script ← convert .reject value
      return (key, script) :: (← convertFields .reject rest) := by
  rw [convertFields]
  rfl

theorem convertFields_reject (fields : List (String × Value)) :
    convertFields .reject fields = Fields.readAll (convert .reject) fields := by
  induction fields with
  | nil => rfl
  | cons field rest inductionHypothesis =>
      obtain ⟨key, value⟩ := field
      rw [convertFields_reject_cons, Fields.readAll, inductionHypothesis]

theorem cause?_convertFields (fields : List (String × Value)) :
    cause? (convertFields .reject fields) =
      fields.findSome? fun field => cause? (convert .reject field.2) := by
  induction fields with
  | nil => rfl
  | cons field rest inductionHypothesis =>
      obtain ⟨key, value⟩ := field
      rw [convertFields_reject] at inductionHypothesis ⊢
      rw [Fields.readAll, cause?_bind_bind_pure, inductionHypothesis, List.findSome?_cons]
      cases cause? (convert .reject value) <;> rfl

theorem convert_goesThrough : GoesThrough (convert .reject) scriptObstacle? where
  leaf value leaf := by
    cases value with
    | array items => cases leaf
    | object tag fields => cases leaf
    | _ => rfl
  container value container := by
    cases value with
    | array items => rfl
    | object tag fields => rfl
    | _ => cases container
  array items := by rw [convert, cause?_bind_pure, cause?_convertItems]
  object tag fields := by rw [convert, cause?_bind_pure, cause?_convertFields]

/-! ## What comes back -/

mutual

/-- What comes back of a value that goes into a script: no class tag, fields in the order of their
names, one value that says that there is none, and texts for dates and regexes. Numbers lose the
sign of a zero. -/
def bridged : Value → Value
  | .undefined => .null
  | .number value => .number value.unsignedZero
  | .date value => .string value.isoText
  | .regex value => .string value.source
  | .array items => .array (bridgedItems items)
  | .object _ fields => .object none (Fields.inOrder (bridgedFields fields))
  | value => value

def bridgedItems : List Value → List Value
  | [] => []
  | item :: rest => bridged item :: bridgedItems rest

def bridgedFields : List (String × Value) → List (String × Value)
  | [] => []
  | (key, value) :: rest => (key, bridged value) :: bridgedFields rest

end

theorem keys_bridgedFields (fields : List (String × Value)) :
    Fields.keys (bridgedFields fields) = Fields.keys fields := by
  induction fields with
  | nil => rfl
  | cons field rest inductionHypothesis =>
      obtain ⟨key, value⟩ := field
      rw [bridgedFields, Fields.keys_cons, Fields.keys_cons, inductionHypothesis]

/-- An integer and a float come back as one number. -/
theorem toValue?_ofNumber (number : Binary64) :
    toValue? (ofNumber number) = .ok (.number number.unsignedZero) := by
  have asFloat : number.isNegativeZero = false →
      toValue? (.float number) = .ok (.number number.unsignedZero) := by
    intro notNegativeZero
    rw [Binary64.unsignedZero, notNegativeZero]
    rfl
  by_cases isZero : number.isNegativeZero = true
  · obtain rfl := Binary64.eq_zero_of_isNegativeZero isZero
    have whole : (Binary64.zero true).toInt? = some 0 := by decide +kernel
    rw [ofNumber, whole]
    rfl
  · have notNegativeZero := Bool.eq_false_iff.mpr isZero
    unfold ofNumber
    split
    next value isInteger =>
      split
      next small => rw [toValue?, Binary64.ofInt_of_toInt? isInteger small]
      next => exact asFloat notNegativeZero
    next => exact asFloat notNegativeZero

/-- Zeros go in as one integer, whatever their signs. -/
theorem ofNumber_unsignedZero (number : Binary64) :
    ofNumber number.unsignedZero = ofNumber number := by
  unfold Binary64.unsignedZero
  split
  next isZero =>
    rw [Binary64.eq_zero_of_isNegativeZero isZero]
    have whole : (Binary64.zero true).toInt? = some 0 := by decide +kernel
    have wholeToo : (Binary64.zero false).toInt? = some 0 := by decide +kernel
    rw [ofNumber, ofNumber, whole, wholeToo]
    rfl
  next => rfl

/-- Equality does not tell a number that comes back from the one that went in. What is no number
comes back as it is. -/
theorem equal_unsignedZero_or_nan (number : Binary64) :
    number.unsignedZero.equal number = true ∨
      number = .nan ∧ number.unsignedZero = .nan := by
  cases isNumber : number.isNaN with
  | false => exact .inl (Binary64.equal_unsignedZero isNumber)
  | true =>
      cases number with
      | nan => exact .inr ⟨rfl, rfl⟩
      | _ => cases isNumber

/-! ## Maps -/

theorem toFields?_eq_readAll (entries : List (String × ScriptValue)) :
    toFields? entries = Fields.readAll toValue? entries := by
  induction entries with
  | nil => rfl
  | cons entry rest inductionHypothesis =>
      obtain ⟨key, value⟩ := entry
      rw [toFields?, Fields.readAll, inductionHypothesis]

theorem ofPairs_eq_map {pairs : List (String × ScriptValue)}
    (unique : (Fields.keys pairs).Nodup) :
    ScriptValue.ofPairs pairs = .map (Fields.inOrder pairs) :=
  congrArg ScriptValue.map (Fields.foldl_insertSorted unique)

/-- A map comes back with its entries in their order. -/
theorem toValue?_map {pairs : List (String × ScriptValue)} {fields : List (String × Value)}
    (unique : (Fields.keys pairs).Nodup) (cameBack : toFields? pairs = .ok fields) :
    toValue? (.map (Fields.inOrder pairs)) = .ok (.object none (Fields.inOrder fields)) := by
  rw [toFields?_eq_readAll] at cameBack
  have sameNames : Fields.keys pairs = Fields.keys fields :=
    Fields.keys_of_readAs (Fields.readAll_eq_ok_iff.mp cameBack)
  have uniqueInOrder : (Fields.keys (Fields.inOrder fields)).Nodup :=
    Fields.nodup_keys_inOrder (sameNames ▸ unique)
  have sorted : toFields? (Fields.inOrder pairs) = .ok (Fields.inOrder fields) := by
    rw [toFields?_eq_readAll]
    exact Fields.readAll_inOrder unique cameBack
  rw [toValue?, sorted]
  exact congrArg (fun fields => Except.ok (Value.object none fields))
    (Fields.ofPairs_of_nodup uniqueInOrder)

/-- Fields in order go in as the same map. -/
theorem convert_object_inOrder {pairs : List (String × ScriptValue)}
    {fields : List (String × Value)} (unique : (Fields.keys fields).Nodup)
    (wentIn : convertFields .reject fields = .ok pairs) :
    convert .reject (.object none (Fields.inOrder fields)) = .ok (.map (Fields.inOrder pairs)) := by
  rw [convertFields_reject] at wentIn
  have sameNames : Fields.keys fields = Fields.keys pairs :=
    Fields.keys_of_readAs (Fields.readAll_eq_ok_iff.mp wentIn)
  have uniquePairs : (Fields.keys pairs).Nodup := sameNames ▸ unique
  have sorted : convertFields .reject (Fields.inOrder fields) = .ok (Fields.inOrder pairs) := by
    rw [convertFields_reject]
    exact Fields.readAll_inOrder unique wentIn
  rw [convert, sorted]
  refine congrArg Except.ok ?_
  rw [ofPairs_eq_map (Fields.nodup_keys_inOrder uniquePairs), Fields.inOrder_inOrder uniquePairs]

/-! ## There and back -/

mutual

/-- What goes in comes back bridged, and that goes in as the same again. -/
theorem there_and_back (value : Value) (unique : value.namesUnique = true) {script : ScriptValue}
    (wentIn : convert .reject value = .ok script) :
    toValue? script = .ok value.bridged ∧ convert .reject value.bridged = .ok script :=
  match value with
  | .undefined | .null | .bool _ | .string _ | .date _ | .regex _ => by
      cases wentIn
      exact ⟨rfl, rfl⟩
  | .number value => by
      cases wentIn
      refine ⟨toValue?_ofNumber value, ?_⟩
      rw [bridged, convert, ofNumber_unsignedZero]
  | .array items => by
      rw [convert] at wentIn
      obtain ⟨scripts, itemsWentIn, same⟩ := bind_eq_ok_iff.mp wentIn
      cases same
      obtain ⟨cameBack, again⟩ :=
        there_and_back_items items (everywhereInItems_iff.mp unique) itemsWentIn
      rw [toValue?, bridged, convert, cameBack, again]
      exact ⟨rfl, rfl⟩
  | .object tag fields => by
      rw [convert] at wentIn
      obtain ⟨pairs, fieldsWentIn, same⟩ := bind_eq_ok_iff.mp wentIn
      cases same
      obtain ⟨here, below⟩ := Bool.and_eq_true_iff.mp unique
      have uniqueNames : (Fields.keys fields).Nodup := of_decide_eq_true here
      obtain ⟨cameBack, again⟩ :=
        there_and_back_fields fields (everywhereInFields_iff.mp below) fieldsWentIn
      have uniqueBridged : (Fields.keys (bridgedFields fields)).Nodup := by
        rwa [keys_bridgedFields]
      have uniquePairs : (Fields.keys pairs).Nodup := by
        rw [convertFields_reject] at fieldsWentIn
        rwa [← Fields.keys_of_readAs (Fields.readAll_eq_ok_iff.mp fieldsWentIn)]
      rw [ofPairs_eq_map uniquePairs]
      exact ⟨toValue?_map uniquePairs cameBack, convert_object_inOrder uniqueBridged again⟩
  | .function _ | .classTag _ => by cases wentIn

theorem there_and_back_items (items : List Value)
    (unique : ∀ item ∈ items, item.namesUnique = true) {scripts : List ScriptValue}
    (wentIn : convertItems .reject items = .ok scripts) :
    toItems? scripts = .ok (bridgedItems items) ∧
      convertItems .reject (bridgedItems items) = .ok scripts :=
  match items with
  | [] => by
      cases wentIn
      exact ⟨rfl, rfl⟩
  | item :: rest => by
      obtain ⟨uniqueItem, uniqueRest⟩ := List.forall_mem_cons.mp unique
      rw [convertItems] at wentIn
      obtain ⟨script, itemWentIn, restWentIn⟩ := bind_eq_ok_iff.mp wentIn
      obtain ⟨others, othersWentIn, same⟩ := bind_eq_ok_iff.mp restWentIn
      cases same
      obtain ⟨itemCameBack, itemAgain⟩ := there_and_back item uniqueItem itemWentIn
      obtain ⟨restCameBack, restAgain⟩ := there_and_back_items rest uniqueRest othersWentIn
      rw [toItems?, bridgedItems, convertItems, itemCameBack, itemAgain, restCameBack, restAgain]
      exact ⟨rfl, rfl⟩

theorem there_and_back_fields (fields : List (String × Value))
    (unique : ∀ field ∈ fields, field.2.namesUnique = true)
    {pairs : List (String × ScriptValue)} (wentIn : convertFields .reject fields = .ok pairs) :
    toFields? pairs = .ok (bridgedFields fields) ∧
      convertFields .reject (bridgedFields fields) = .ok pairs :=
  match fields with
  | [] => by
      cases wentIn
      exact ⟨rfl, rfl⟩
  | (key, value) :: rest => by
      obtain ⟨uniqueValue, uniqueRest⟩ := List.forall_mem_cons.mp unique
      rw [convertFields_reject_cons] at wentIn
      obtain ⟨script, valueWentIn, restWentIn⟩ := bind_eq_ok_iff.mp wentIn
      obtain ⟨others, othersWentIn, same⟩ := bind_eq_ok_iff.mp restWentIn
      cases same
      obtain ⟨valueCameBack, valueAgain⟩ := there_and_back value uniqueValue valueWentIn
      obtain ⟨restCameBack, restAgain⟩ := there_and_back_fields rest uniqueRest othersWentIn
      rw [toFields?, bridgedFields, convertFields_reject_cons, valueCameBack, valueAgain,
        restCameBack, restAgain]
      exact ⟨rfl, rfl⟩

end

/-! ## Calls -/

mutual

/-- A receiver without callables goes in as an argument does. -/
theorem convert_skip_of_reject (value : Value) {script : ScriptValue}
    (wentIn : convert .reject value = .ok script) : convert .skip value = .ok script :=
  match value with
  | .undefined | .null | .bool _ | .number _ | .string _ | .date _ | .regex _ => wentIn
  | .array items => by
      rw [convert] at wentIn ⊢
      obtain ⟨scripts, itemsWentIn, same⟩ := bind_eq_ok_iff.mp wentIn
      rw [convertItems_skip_of_reject items itemsWentIn]
      exact same
  | .object tag fields => by
      rw [convert] at wentIn ⊢
      obtain ⟨pairs, fieldsWentIn, same⟩ := bind_eq_ok_iff.mp wentIn
      rw [convertFields_skip_of_reject fields fieldsWentIn]
      exact same
  | .function _ | .classTag _ => by cases wentIn

theorem convertItems_skip_of_reject (items : List Value) {scripts : List ScriptValue}
    (wentIn : convertItems .reject items = .ok scripts) :
    convertItems .skip items = .ok scripts :=
  match items with
  | [] => wentIn
  | item :: rest => by
      rw [convertItems] at wentIn ⊢
      obtain ⟨script, itemWentIn, restWentIn⟩ := bind_eq_ok_iff.mp wentIn
      obtain ⟨others, othersWentIn, same⟩ := bind_eq_ok_iff.mp restWentIn
      rw [convert_skip_of_reject item itemWentIn, convertItems_skip_of_reject rest othersWentIn]
      exact same

theorem convertFields_skip_of_reject (fields : List (String × Value))
    {pairs : List (String × ScriptValue)} (wentIn : convertFields .reject fields = .ok pairs) :
    convertFields .skip fields = .ok pairs :=
  match fields with
  | [] => wentIn
  | (key, value) :: rest => by
      rw [convertFields] at wentIn ⊢
      obtain ⟨script, valueWentIn, restWentIn⟩ := bind_eq_ok_iff.mp wentIn
      obtain ⟨others, othersWentIn, same⟩ := bind_eq_ok_iff.mp restWentIn
      have kept : ScriptValue.Callables.skip.leavesOut value = false := by
        cases value with
        | function _ => cases valueWentIn
        | classTag _ => cases valueWentIn
        | _ => rfl
      rw [if_neg (Bool.eq_false_iff.mp kept), convert_skip_of_reject value valueWentIn,
        convertFields_skip_of_reject rest othersWentIn]
      exact same

end

/-- What goes into a call as itself or bridged, it does alike as an argument and as the receiver. -/
theorem call_bridged {value : Value} {script : ScriptValue} (wentIn : ofValue? value = .ok script)
    (again : ofValue? value.bridged = .ok script) (function : ScriptFunction) (receiver : Value)
    (before after : List Value) :
    function.call receiver (before ++ value.bridged :: after) =
        function.call receiver (before ++ value :: after) ∧
      function.call value.bridged before = function.call value before := by
  constructor
  · rw [ScriptFunction.call, ScriptFunction.call,
      mapM_append_cons_congr (again.trans wentIn.symm) before after]
  · rw [ScriptFunction.call, ScriptFunction.call, ofReceiver?, ofReceiver?,
      convert_skip_of_reject _ again, convert_skip_of_reject _ wentIn]

/-- Conversion into scripts and back. A value goes in unless a callable is somewhere in it, and
the first callable gives the type that the failure names. A value that goes in comes back bridged,
with its numbers the same to equality, and what comes back goes in as the same script value. So
calls of scripts come to the same with either, as an argument and as the receiver. -/
theorem ofValue?_bridged (value : Value) (unique : value.namesUnique = true) :
    ((∃ cause, ofValue? value = .error cause) ↔
      ∃ part ∈ value.subvalues, part.isCallable = true) ∧
    (∀ cause, ofValue? value = .error cause ↔ ∃ callable,
      value.subvalues.find? isCallable = some callable ∧
        cause = .unsupportedType callable.typeName) ∧
    (∀ script, ofValue? value = .ok script →
      toValue? script = .ok value.bridged ∧ ofValue? value.bridged = .ok script ∧
        ∀ (function : ScriptFunction) (receiver : Value) (before after : List Value),
          function.call receiver (before ++ value.bridged :: after) =
            function.call receiver (before ++ value :: after) ∧
          function.call value.bridged before = function.call value before) ∧
    (∀ number : Binary64, (Value.number number).bridged = .number number.unsignedZero ∧
      (number.unsignedZero.equal number = true ∨
        number = .nan ∧ number.unsignedZero = .nan)) := by
  have failure (cause : ConversionError) : ofValue? value = .error cause ↔ ∃ callable,
      value.subvalues.find? isCallable = some callable ∧
        cause = .unsupportedType callable.typeName := by
    rw [ofValue?, convert_eq_error_iff convert_goesThrough, findSome?_scriptObstacle?,
      Option.map_eq_some_iff]
    exact exists_congr fun callable => and_congr_right fun _ => eq_comm
  refine ⟨?_, failure, ?_, fun number => ⟨rfl, equal_unsignedZero_or_nan number⟩⟩
  · constructor
    · rintro ⟨cause, failed⟩
      obtain ⟨callable, isFirst, -⟩ := (failure cause).mp failed
      exact ⟨callable, List.mem_of_find?_eq_some isFirst, List.find?_some isFirst⟩
    · rintro ⟨part, isPart, callable⟩
      cases isFirst : value.subvalues.find? isCallable with
      | none => exact absurd callable (List.find?_eq_none.mp isFirst part isPart)
      | some first => exact ⟨_, (failure _).mpr ⟨first, isFirst, rfl⟩⟩
  · intro script wentIn
    obtain ⟨cameBack, again⟩ := there_and_back value unique wentIn
    exact ⟨cameBack, again, call_bridged wentIn again⟩

/-- The fields of the tagged order come back by name, with its undefined note as null and its
moment as a text. Zero comes back without its sign, and what is no number as it is. -/
theorem ofValue?_bridged_of_order :
    let value : Value := .object (some (.defined 0 "Order"))
      [("placed", .date ⟨0, 0, by decide⟩), ("amounts", .array [.number (.zero true), .number .nan]),
        ("note", .undefined)]
    let script : ScriptValue := .map
      [("amounts", .array [.int 0, .float .nan]), ("note", .unit),
        ("placed", .string (Timestamp.isoText ⟨0, 0, by decide⟩))]
    let back : Value := .object none
      [("amounts", .array [.number (.zero false), .number .nan]), ("note", .null),
        ("placed", .string (Timestamp.isoText ⟨0, 0, by decide⟩))]
    value.namesUnique = true ∧ ofValue? value = .ok script ∧ toValue? script = .ok back ∧
      ofValue? back = .ok script := by
  intro value script back
  have unique : value.namesUnique = true := by decide
  have wholeZero : (Binary64.zero true).toInt? = some 0 := by decide +kernel
  have wentIn : ofValue? value = .ok script := by
    simp only [value, ofValue?, convert, convertFields, convertItems, ofNumber, wholeZero]
    rfl
  obtain ⟨-, -, success, -⟩ := ofValue?_bridged value unique
  obtain ⟨cameBack, again, -⟩ := success script wentIn
  have isBack : toValue? script = .ok back := by
    simp only [script, toValue?, toFields?, toItems?]
    rfl
  have same : value.bridged = back := Except.ok.inj (cameBack.symm.trans isBack)
  rw [same] at cameBack again
  exact ⟨unique, wentIn, cameBack, again⟩

end Value

end SchemaMatch
