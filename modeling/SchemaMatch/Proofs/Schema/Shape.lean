import SchemaMatch.Proofs.Schema.WellFormed
import SchemaMatch.Proofs.Value.Rearrangement

/-!
Contract: the shape of items, decided on documents.

Owns:
- rules on documents, a fragment of JSON Schema, with their errors in the order in which a
  document is gone through;
- the rules for items, and the document that an item is shown to them as;
- the typed view of an item whose document is accepted, read from the item itself;
- `Shape.validate_eq`: examining the fields one by one comes to the same;
- `Shape.ofForm?_explicit`: the explicit items that are accepted are the well-formed ones, and the
  others are refused for the first field that offends.

Does not own: which items are well formed.
-/

namespace SchemaMatch.Shape

open Item (definedFields field? foreignNames quoted examine examineAll examineData kind? class?
  allowExtraKeys? args? call? calls? ofFields? optional field?_cons field?_of_not_mem
  mem_definedFields cause?_call?_object cause?_examineAll cause?_ofFields? exists_read
  kind?_eq_ok_iff class?_eq_ok_iff args?_eq_ok_iff allowExtraKeys?_eq_ok_iff exists_type)

/-! ## Rules -/

/-- A keyword of a schema for documents. -/
inductive Rule where
  | type (expected : JsonType)
  | required (name : String)
  | constant (text : String)
  | oneOf (texts : List String)
  /-- What is under a declared name follows the rules for it. If the rules are closed, there are
  no other names. -/
  | properties (declared : List (String × List Rule)) (closed : Bool)
  | items (rules : List Rule)
  | ifThen (condition consequence : List Rule)

/-- What is wrong with a document. -/
inductive RuleError where
  | wrongType (found : Json) (expected : JsonType)
  | missing (name : String)
  | notConstant (text : String)
  | notOneOf (found : Json) (texts : List String)
  /-- Names that are not declared. There is at least one. -/
  | additional (first : String) (others : List String)

namespace RuleError

def message : RuleError → String
  | .wrongType found expected =>
      found.render ++ " is not of type " ++ Json.quote expected.name
  | .missing name => Json.quote name ++ " is a required property"
  | .notConstant text => Json.quote text ++ " was expected"
  | .notOneOf found texts =>
      found.render ++ " is not one of " ++ Violation.candidatesText texts
  | .additional first others =>
      "Additional properties are not allowed (" ++
        String.intercalate ", " ((first :: others).map fun name => "'" ++ name ++ "'") ++
        (if others.isEmpty then " was" else " were") ++ " unexpected)"

end RuleError

def hasType : JsonType → Json → Bool
  | .string, .string _ => true
  | .array, .array _ => true
  | .object, .object _ => true
  | .boolean, .bool _ => true
  | _, _ => false

/-- The names of an object that are not declared, as one error. -/
def additionalErrors (declared names : List String) : List RuleError :=
  match names.filter fun name => !declared.contains name with
  | [] => []
  | first :: others => [.additional first others]

mutual

/-- The errors of a document under a rule. The fields of an object and the items of an array are
gone through in their order; names that are not declared come last. -/
def errors : Rule → Json → List RuleError
  | .type expected, document =>
      if hasType expected document then [] else [.wrongType document expected]
  | .required name, .object fields =>
      if (Fields.keys fields).contains name then [] else [.missing name]
  | .constant text, document =>
      if document.string? = some text then [] else [.notConstant text]
  | .oneOf texts, document =>
      if document.string?.any texts.contains then [] else [.notOneOf document texts]
  | .properties declared closed, .object fields =>
      (fields.flatMap fun field => fieldErrors declared field.1 field.2) ++
        if closed then additionalErrors (Fields.keys declared) (Fields.keys fields) else []
  | .items rules, .array items => items.flatMap (allErrors rules)
  | .ifThen condition consequence, document =>
      if (allErrors condition document).isEmpty then allErrors consequence document else []
  | _, _ => []

def allErrors : List Rule → Json → List RuleError
  | [], _ => []
  | rule :: rest, document => errors rule document ++ allErrors rest document

/-- The errors of what is under a name. -/
def fieldErrors : List (String × List Rule) → String → Json → List RuleError
  | [], _, _ => []
  | (name, rules) :: rest, key, document =>
      if name = key then allErrors rules document else fieldErrors rest key document

end

/-! ## The shape of items -/

def kindRules : List Rule := [.type .string, .oneOf (Kind.all.map Kind.name)]

/-- Classes are shown by their mark. -/
def classRules : List Rule :=
  [.type .object, .properties [("$kind", [.constant "class"])] false, .required "$kind"]

/-- The rules for the fields of a call. -/
def declaredInCall : List (String × List Rule) := [("args", [.type .array]), ("result", [])]

def callRules : List Rule :=
  [.type .object, .properties declaredInCall true]

/-- The rules for the fields of an item. -/
def declaredFields : List (String × List Rule) :=
  [("type", kindRules), ("data", []), ("class", classRules),
    ("calls", [.type .array, .items callRules]), ("allowExtraKeys", [.type .boolean])]

/-- The data of an item for arrays is an array. -/
def dataRule : Rule :=
  .ifThen [.properties [("type", [.constant "array"])] false, .required "type"]
    [.properties [("data", [.type .array])] false]

def itemRules : List Rule :=
  [.type .object, .required "type", .properties declaredFields true, dataRule]

/-- The defined fields, each in the view that is taken of it. -/
def shownFields (view : String → Value → Json) (fields : List (String × Value)) :
    List (String × Json) :=
  (definedFields fields).map fun field => (field.1, view field.1 field.2)

theorem keys_shownFields (view : String → Value → Json) (fields : List (String × Value)) :
    Fields.keys (shownFields view fields) = Fields.keys (definedFields fields) := by
  rw [Fields.keys, shownFields, List.map_map]
  rfl

/-- A call as a document, whose fields are shown one level deep. -/
def callDocument : Value → Json
  | .object _ fields => .object (shownFields (fun _ => quoted) fields)
  | other => quoted other

/-- A field as a document one level deep, or two if it holds the calls. -/
def fieldDocument (key : String) (value : Value) : Json :=
  match key, value with
  | "calls", .array entries => .array (entries.map callDocument)
  | _, value => quoted value

/-- An item as a document, without its undefined fields. -/
def itemDocument (fields : List (String × Value)) : Json :=
  .object (shownFields fieldDocument fields)

/-! ## The typed view -/

/-- Why an item has no typed view, although its document is accepted. -/
inductive Fault where
  | noKind
  | notClass (typeName : String)
  | callsNotArray
  | settingNotBoolean
  | callNotObject (index : Nat)
  | argsNotArray (index : Nat)

namespace Fault

def message : Fault → String
  | .noKind => "Field 'type' is required"
  | .notClass typeName => "Field 'class' must be a class, got " ++ typeName
  | .callsNotArray => "Field 'calls' must be an array"
  | .settingNotBoolean => "Field 'allowExtraKeys' must be a boolean"
  | .callNotObject index => "'calls." ++ toString index ++ "' must be an object"
  | .argsNotArray index => "'calls." ++ toString index ++ ".args' must be an array"

end Fault

def extractCall (index : Nat) : Value → Except Fault Call
  | .object _ fields => do
      let args ← match field? "args" fields with
        | none => .ok []
        | some (.array args) => .ok args
        | some _ => .error (.argsNotArray index)
      return ⟨args, (Fields.lookup? "result" fields).getD .undefined⟩
  | _ => .error (.callNotObject index)

def extractEntries (index : Nat) : List Value → Except Fault (List Call)
  | [] => .ok []
  | entry :: rest => do
      let call ← extractCall index entry
      return call :: (← extractEntries (index + 1) rest)

def extractKind (given : Option Value) : Except Fault Kind :=
  match given.bind fun value => value.string?.bind Kind.ofName? with
  | some kind => .ok kind
  | none => .error .noKind

def extractClass : Option Value → Except Fault (Option Class)
  | none => .ok none
  | some (.classTag tag) => .ok (some tag)
  | some other => .error (.notClass other.typeName)

def extractCalls : Option Value → Except Fault (Option (List Call))
  | none => .ok none
  | some (.array entries) => (extractEntries 0 entries).map some
  | some _ => .error .callsNotArray

def extractSetting : Option Value → Except Fault (Option Bool)
  | none => .ok none
  | some (.bool permits) => .ok (some permits)
  | some _ => .error .settingNotBoolean

/-- The typed view of an item, read from its fields and not from its document. -/
def extract (fields : List (String × Value)) : Except Fault Item := do
  let kind ← extractKind (Fields.lookup? "type" fields)
  let tag ← extractClass (field? "class" fields)
  let calls ← extractCalls (field? "calls" fields)
  let allowExtraKeys ← extractSetting (field? "allowExtraKeys" fields)
  return ⟨kind, field? "data" fields, tag, calls, allowExtraKeys⟩

/-- Why an item is refused: its document has an error, or there is no typed view. -/
inductive Refusal where
  | shape (error : RuleError)
  | fault (cause : Fault)

namespace Refusal

def message : Refusal → String
  | .shape error => "Validation Error\r\n\t" ++ error.message
  | .fault cause => "Validation Error\r\n\t" ++ cause.message

end Refusal

/-- The typed view of an item whose document has no error, or its first error. -/
def validate (fields : List (String × Value)) : Except Refusal Item :=
  match (allErrors itemRules (itemDocument fields)).head? with
  | some error => .error (.shape error)
  | none => (extract fields).mapError .fault

/-! ## First errors -/

/-- The error that stands for a violation. -/
def RuleError.ofViolation : Violation → RuleError
  | .wrongType found expected => .wrongType found expected
  | .unknownKind found => .notOneOf found (Kind.all.map Kind.name)
  | .missingClassMark => .missing "$kind"
  | .notClass => .notConstant "class"
  | .unexpectedFields first others => .additional first others

theorem RuleError.message_ofViolation (violation : Violation) :
    (RuleError.ofViolation violation).message = violation.detail := by
  cases violation <;> rfl

theorem Refusal.message_shape_ofViolation (violation : Violation) :
    (Refusal.shape (RuleError.ofViolation violation)).message = violation.message :=
  congrArg ("Validation Error\r\n\t" ++ ·) (RuleError.message_ofViolation violation)

/-- A document has no error where an outcome succeeds, and where it fails, its first error stands
for the violation. -/
def FirstError {α : Type} (found : List RuleError) (outcome : Except Violation α) : Prop :=
  found.head? = (cause? outcome).map RuleError.ofViolation

theorem FirstError.map {α β : Type} {found : List RuleError} {outcome : Except Violation α}
    (first : FirstError found outcome) (change : α → β) :
    FirstError found (outcome.map change) := by
  rw [FirstError, cause?_map]
  exact first

theorem findSome?_congr {α β : Type} {entries : List α} {left right : α → Option β}
    (same : ∀ entry ∈ entries, left entry = right entry) :
    entries.findSome? left = entries.findSome? right := by
  induction entries with
  | nil => rfl
  | cons entry rest inductionHypothesis =>
      obtain ⟨here, later⟩ := List.forall_mem_cons.mp same
      rw [List.findSome?_cons, List.findSome?_cons, here, inductionHypothesis later]

/-- The first error of a row of documents is that of the first entry that fails. -/
theorem head?_flatMap {α β : Type} {entries : List α} {found : α → List RuleError}
    {examined : α → Except Violation β}
    (each : ∀ entry ∈ entries, FirstError (found entry) (examined entry)) :
    (entries.flatMap found).head? =
      (entries.findSome? fun entry => cause? (examined entry)).map RuleError.ofViolation := by
  rw [List.head?_flatMap, List.map_findSome?]
  exact findSome?_congr each

/-- The errors of shown fields: those of the views, and then the names that are not declared. -/
theorem errors_properties (declared : List (String × List Rule)) (closed : Bool)
    (view : String → Value → Json) (fields : List (String × Value)) :
    errors (.properties declared closed) (.object (shownFields view fields)) =
      ((definedFields fields).flatMap fun field =>
        fieldErrors declared field.1 (view field.1 field.2)) ++
        if closed then additionalErrors (Fields.keys declared) (Fields.keys (definedFields fields))
        else [] := by
  rw [errors, keys_shownFields, shownFields, List.flatMap_map]

/-! ## Fields one level deep -/

theorem hasType_number (expected : JsonType) (value : Binary64) :
    hasType expected (quoted (.number value)) = false := by
  rw [quoted]
  split <;> cases expected <;> rfl

/-- A type that is wrong is the first error, whatever the other rules are. -/
theorem firstError_of_type {α : Type} {expected : JsonType} {value : Value}
    (noType : hasType expected (quoted value) = false) (rest : List Rule) :
    FirstError (allErrors (.type expected :: rest) (quoted value))
      (.error (.wrongType (quoted value) expected) : Except Violation α) := by
  rw [FirstError, allErrors, errors, noType]
  rfl

theorem firstError_kind (value : Value) :
    FirstError (allErrors kindRules (quoted value)) (kind? value) := by
  cases value with
  | number value => exact firstError_of_type (hasType_number _ value) _
  | string name =>
      have found : allErrors kindRules (quoted (.string name)) =
          if (Kind.all.map Kind.name).contains name then []
          else [.notOneOf (.string name) (Kind.all.map Kind.name)] := by
        simp [kindRules, allErrors, errors, hasType, quoted, Json.string?]
      rw [found, kind?]
      cases isKind : Kind.ofName? name with
      | some kind =>
          have isName : kind.name = name := by simpa using List.find?_some isKind
          have listed : (Kind.all.map Kind.name).contains name = true :=
            List.contains_iff_mem.mpr
              (List.mem_map.mpr ⟨kind, List.mem_of_find?_eq_some isKind, isName⟩)
          rw [if_pos listed]
          rfl
      | none =>
          have unlisted : ¬ (Kind.all.map Kind.name).contains name = true := by
            rw [List.contains_iff_mem, List.mem_map]
            rintro ⟨kind, isListed, rfl⟩
            have isOther := List.find?_eq_none.mp isKind kind isListed
            simp at isOther
          rw [if_neg unlisted]
          rfl
  | _ => rfl

theorem firstError_class (value : Value) :
    FirstError (allErrors classRules (quoted value)) (class? value) := by
  cases value with
  | number value => exact firstError_of_type (hasType_number _ value) _
  | _ => rfl

theorem firstError_setting (value : Value) :
    FirstError (allErrors [.type .boolean] (quoted value)) (allowExtraKeys? value) := by
  cases value with
  | number value => exact firstError_of_type (hasType_number _ value) _
  | _ => rfl

theorem firstError_args (value : Value) :
    FirstError (allErrors [.type .array] (quoted value)) (args? value) := by
  cases value with
  | number value => exact firstError_of_type (hasType_number _ value) _
  | _ => rfl

/-! ## Calls -/

/-- Where only one name matters, the defined fields are asked for what is under it. -/
theorem findSome?_definedFields {β : Type} {key : String} {fields : List (String × Value)}
    (unique : (Fields.keys fields).Nodup) {find : String → Value → Option β}
    (others : ∀ name value, name ≠ key → find name value = none) :
    ((definedFields fields).findSome? fun field => find field.1 field.2) =
      (field? key fields).bind (find key) := by
  induction fields with
  | nil => rfl
  | cons field rest inductionHypothesis =>
      obtain ⟨isNew, uniqueRest⟩ := List.nodup_cons.mp unique
      have later := inductionHypothesis uniqueRest
      rw [field?_cons]
      by_cases same : field.1 = key
      · rw [field?_of_not_mem (same ▸ isNew)] at later
        rw [if_pos same, Value.defined?, definedFields, List.filter_cons]
        by_cases undefined : field.2.isUndefined = true
        · rw [undefined]
          exact later
        · rw [if_neg undefined, Bool.eq_false_iff.mpr undefined]
          show (field :: definedFields rest).findSome? _ = find key field.2
          rw [List.findSome?_cons, later, same]
          cases find key field.2 <;> rfl
      · rw [if_neg same, ← later, definedFields, List.filter_cons]
        split
        · rw [List.findSome?_cons, others field.1 field.2 same]
          rfl
        · rfl

/-- The names of a call that are not declared are its foreign ones. -/
theorem additionalErrors_call (fields : List (String × Value)) :
    additionalErrors (Fields.keys declaredInCall) (Fields.keys (definedFields fields)) =
      match foreignNames fields with
      | [] => []
      | first :: others => [.additional first others] := by
  have foreign (name : String) : (!(Fields.keys declaredInCall).contains name) =
      (name != "args" && name != "result") := by
    simp only [declaredInCall, Fields.keys, List.map_cons, List.map_nil, List.contains_cons,
      List.contains_nil, Bool.or_false, Bool.not_or, bne]
  rw [additionalErrors, foreignNames]
  simp only [foreign]

/-- The arguments are the one field of a call that may have an error. -/
theorem head?_fieldErrors_call {fields : List (String × Value)}
    (unique : (Fields.keys fields).Nodup) :
    ((definedFields fields).flatMap fun field =>
        fieldErrors declaredInCall field.1 (quoted field.2)).head? =
      ((field? "args" fields).bind fun value => cause? (args? value)).map
        RuleError.ofViolation := by
  let examined (name : String) (value : Value) : Except Violation (List Value) :=
    if name = "args" then args? value else .ok []
  have each : ∀ field ∈ definedFields fields,
      FirstError (fieldErrors declaredInCall field.1 (quoted field.2))
        (examined field.1 field.2) := by
    intro field _
    by_cases isArgs : field.1 = "args"
    · simp only [examined, declaredInCall, fieldErrors, isArgs, if_true]
      exact firstError_args field.2
    · simp only [examined, declaredInCall, fieldErrors, if_neg isArgs, if_neg (Ne.symm isArgs)]
      split <;> rfl
  have others : ∀ name value, name ≠ "args" → cause? (examined name value) = none := by
    intro name value isOther
    simp only [examined, if_neg isOther]
    rfl
  rw [head?_flatMap each, findSome?_definedFields unique others]
  rfl

theorem firstError_call {entry : Value} (unique : entry.namesUnique = true) :
    FirstError (allErrors callRules (callDocument entry)) (call? entry) := by
  cases entry with
  | number value => exact firstError_of_type (hasType_number _ value) _
  | object tag fields =>
      have uniqueNames : (Fields.keys fields).Nodup :=
        of_decide_eq_true (Value.holds_of_everywhere unique)
      have isObject : errors (.type .object) (callDocument (.object tag fields)) = [] := rfl
      rw [FirstError, callRules, allErrors, allErrors, allErrors, isObject, List.nil_append,
        List.append_nil, callDocument, errors_properties, if_pos rfl, List.head?_append,
        head?_fieldErrors_call uniqueNames, additionalErrors_call, cause?_call?_object]
      cases (field? "args" fields).bind fun value => cause? (args? value) with
      | some violation => rfl
      | none => cases foreignNames fields <;> rfl
  | _ => rfl

theorem firstError_calls {value : Value} (unique : value.namesUnique = true) :
    FirstError (allErrors [.type .array, .items callRules] (fieldDocument "calls" value))
      (calls? value) := by
  cases value with
  | number value => exact firstError_of_type (hasType_number _ value) _
  | array entries =>
      have uniqueEntries := Value.everywhereInItems_iff.mp unique
      have found : allErrors [.type .array, .items callRules]
          (fieldDocument "calls" (.array entries)) =
            entries.flatMap fun entry => allErrors callRules (callDocument entry) := by
        simp only [fieldDocument, allErrors, errors, hasType, if_true, List.nil_append,
          List.append_nil, List.flatMap_map]
      have each : ∀ entry ∈ entries,
          FirstError (allErrors callRules (callDocument entry)) (call? entry) :=
        fun entry member => firstError_call (uniqueEntries entry member)
      rw [FirstError, found, head?_flatMap each, calls?, cause?_mapM]
  | _ => rfl

/-! ## Items -/

theorem firstError_field {key : String} {value : Value} (unique : value.namesUnique = true) :
    FirstError (fieldErrors declaredFields key (fieldDocument key value)) (examine key value) := by
  unfold examine
  split
  · exact (firstError_kind value).map _
  · exact (firstError_class value).map _
  · exact (firstError_calls unique).map _
  · exact (firstError_setting value).map _
  next notType notClass notCalls notSetting =>
    have noErrors : fieldErrors declaredFields key (fieldDocument key value) = [] := by
      simp only [declaredFields, fieldErrors, allErrors, if_neg (Ne.symm notType),
        if_neg (Ne.symm notClass), if_neg (Ne.symm notCalls), if_neg (Ne.symm notSetting), ite_self]
    rw [noErrors]
    rfl

theorem fieldDocument_of_ne {key : String} (notCalls : key ≠ "calls") (value : Value) :
    fieldDocument key value = quoted value := by
  unfold fieldDocument
  split
  · exact absurd rfl notCalls
  · rfl

theorem errors_required {key : String} {value : Value} {fields : List (String × Value)}
    (given : field? key fields = some value) :
    errors (.required key) (itemDocument fields) = [] := by
  have isName : key ∈ Fields.keys (shownFields fieldDocument fields) := by
    rw [keys_shownFields]
    exact List.mem_map.mpr ⟨_, mem_definedFields given, rfl⟩
  rw [itemDocument, errors, if_pos (List.contains_iff_mem.mpr isName)]

/-- The first error under a rule for one name is that of the defined field under it. -/
theorem head?_errors_properties {key : String} (notCalls : key ≠ "calls") (rules : List Rule)
    {fields : List (String × Value)} (unique : (Fields.keys fields).Nodup) :
    (errors (.properties [(key, rules)] false) (itemDocument fields)).head? =
      (field? key fields).bind fun value => (allErrors rules (quoted value)).head? := by
  let find (name : String) (value : Value) : Option RuleError :=
    (fieldErrors [(key, rules)] name (fieldDocument name value)).head?
  have others : ∀ name value, name ≠ key → find name value = none := by
    intro name value isOther
    simp only [find, fieldErrors, if_neg (Ne.symm isOther), List.head?_nil]
  have atKey : find key = fun value => (allErrors rules (quoted value)).head? := by
    funext value
    simp only [find, fieldErrors, if_true, fieldDocument_of_ne notCalls]
  rw [itemDocument, errors_properties, if_neg Bool.false_ne_true, List.append_nil,
    List.head?_flatMap, ← atKey]
  exact findSome?_definedFields unique others

/-- The rule on data applies to items for arrays. -/
theorem firstError_data {fields : List (String × Value)} (unique : (Fields.keys fields).Nodup)
    {kind : Kind} (isKind : field? "type" fields = some (.string kind.name)) :
    FirstError (errors dataRule (itemDocument fields))
      (examineData kind (field? "data" fields)) := by
  have condition : (allErrors [.properties [("type", [.constant "array"])] false,
      .required "type"] (itemDocument fields)).head? =
        if kind = .array then none else some (.notConstant "array") := by
    rw [allErrors, allErrors, allErrors, errors_required isKind, List.append_nil, List.append_nil,
      head?_errors_properties (by decide) _ unique, isKind]
    cases kind <;> rfl
  have consequence : (allErrors [.properties [("data", [.type .array])] false]
      (itemDocument fields)).head? =
        (field? "data" fields).bind fun value =>
          (allErrors [.type .array] (quoted value)).head? := by
    rw [allErrors, allErrors, List.append_nil, head?_errors_properties (by decide) _ unique]
  rw [FirstError, dataRule, errors]
  by_cases isArray : kind = .array
  · rw [if_pos isArray, List.head?_eq_none_iff] at condition
    rw [condition, List.isEmpty_nil, if_pos rfl, consequence, isArray]
    cases field? "data" fields with
    | none => rfl
    | some value =>
        rw [Option.bind_some, firstError_args value]
        cases value <;> rfl
  · rw [if_neg isArray] at condition
    have noArray : examineData kind (field? "data" fields) = .ok () := by
      cases kind with
      | array => exact absurd rfl isArray
      | _ => rfl
    rw [noArray]
    cases found : allErrors [.properties [("type", [.constant "array"])] false,
        .required "type"] (itemDocument fields) with
    | nil =>
        rw [found] at condition
        cases condition
    | cons first others => rfl

/-- The names of an explicit item are declared. -/
theorem additionalErrors_item {fields : List (String × Value)}
    (explicit : SchemaForm.isExplicit fields = true) :
    additionalErrors (Fields.keys declaredFields) (Fields.keys (definedFields fields)) = [] := by
  obtain ⟨onlyReserved, -⟩ := Bool.and_eq_true_iff.mp explicit
  have noForeign : ((Fields.keys (definedFields fields)).filter fun name =>
      !(Fields.keys declaredFields).contains name) = [] := by
    refine List.filter_eq_nil_iff.mpr fun name isName => ?_
    obtain ⟨field, isDefined, rfl⟩ := List.mem_map.mp isName
    have isReserved := List.all_eq_true.mp onlyReserved field.1
      (List.mem_map.mpr ⟨field, List.mem_of_mem_filter isDefined, rfl⟩)
    have sameNames : Fields.keys declaredFields = SchemaForm.reservedFields := rfl
    rw [sameNames, isReserved]
    exact Bool.false_ne_true
  rw [additionalErrors, noForeign]

/-- The errors of an explicit item are those of its defined fields, and then that of its data. -/
theorem allErrors_item {fields : List (String × Value)}
    (explicit : SchemaForm.isExplicit fields = true) :
    allErrors itemRules (itemDocument fields) =
      ((definedFields fields).flatMap fun field =>
        fieldErrors declaredFields field.1 (fieldDocument field.1 field.2)) ++
        errors dataRule (itemDocument fields) := by
  obtain ⟨value, isType⟩ := exists_type explicit
  have isObject : errors (.type .object) (itemDocument fields) = [] := rfl
  have ofFields : errors (.properties declaredFields true) (itemDocument fields) =
      (definedFields fields).flatMap fun field =>
        fieldErrors declaredFields field.1 (fieldDocument field.1 field.2) := by
    rw [itemDocument, errors_properties, if_pos rfl, additionalErrors_item explicit,
      List.append_nil]
  rw [itemRules, allErrors, allErrors, allErrors, allErrors, allErrors, isObject,
    errors_required isType, ofFields, List.nil_append, List.nil_append, List.append_nil]

/-- The first error of the document of an item, against the examination of its fields. -/
theorem firstError_item {tag : Option Class} {fields : List (String × Value)}
    (explicit : SchemaForm.isExplicit fields = true)
    (unique : (Value.object tag fields).namesUnique = true) :
    FirstError (allErrors itemRules (itemDocument fields)) (ofFields? fields) := by
  have uniqueNames : (Fields.keys fields).Nodup :=
    of_decide_eq_true (Value.holds_of_everywhere unique)
  have each : ∀ field ∈ definedFields fields,
      FirstError (fieldErrors declaredFields field.1 (fieldDocument field.1 field.2))
        (examine field.1 field.2) := by
    intro field member
    exact firstError_field (Value.everywhere_of_mem_parts unique (List.mem_of_mem_filter member))
  rw [FirstError, allErrors_item explicit, List.head?_append, head?_flatMap each,
    ← cause?_examineAll]
  cases examined : examineAll (definedFields fields) with
  | error violation =>
      rw [ofFields?, examined]
      rfl
  | ok _ =>
      obtain ⟨value, isType⟩ := exists_type explicit
      obtain ⟨kind, read⟩ := exists_read "type" (fun _ => rfl) examined isType
      rw [kind?_eq_ok_iff.mp read] at isType
      rw [cause?_ofFields? examined isType]
      exact firstError_data uniqueNames isType

/-! ## The typed view of an accepted item -/

theorem extractCall_of_call? {entry : Value} {call : Call} (read : call? entry = .ok call)
    (index : Nat) : extractCall index entry = .ok call := by
  obtain ⟨tag, fields, rfl, rfl⟩ := Item.ofFields_of_call? read
  obtain ⟨argsRead, -⟩ := Item.exists_call?_iff.mp ⟨_, read⟩
  rw [extractCall, Call.ofFields]
  rcases Item.args_iff.mp argsRead with noArgs | ⟨args, given⟩
  · rw [noArgs]
    rfl
  · rw [given]
    rfl

theorem extractEntries_of_mapM {entries : List Value} {calls : List Call}
    (read : entries.mapM call? = .ok calls) (index : Nat) :
    extractEntries index entries = .ok calls := by
  induction entries generalizing calls index with
  | nil =>
      cases read
      rfl
  | cons entry rest inductionHypothesis =>
      rw [List.mapM_cons] at read
      obtain ⟨call, entryRead, restRead⟩ := bind_eq_ok_iff.mp read
      obtain ⟨others, othersRead, same⟩ := bind_eq_ok_iff.mp restRead
      cases same
      rw [extractEntries, extractCall_of_call? entryRead, inductionHypothesis othersRead]
      rfl

/-- Calls that can be read are an array of objects whose arguments are arrays. -/
theorem extractCalls_of_optional {given : Option Value} {calls : Option (List Call)}
    (read : optional calls? given = .ok calls) : extractCalls given = .ok calls := by
  cases given with
  | none =>
      cases read
      rfl
  | some value =>
      cases value with
      | array entries =>
          obtain ⟨results, entriesRead, rfl⟩ := map_eq_ok_iff.mp read
          rw [extractCalls, extractEntries_of_mapM entriesRead]
          rfl
      | _ => cases read

/-- The fields of an item that can be read have the types that the typed view asks for. -/
theorem extract_of_ofFields? {fields : List (String × Value)} {item : Item}
    (explicit : SchemaForm.isExplicit fields = true) (read : ofFields? fields = .ok item) :
    extract fields = .ok item := by
  obtain ⟨-, -, -, -, -, callsRead, -⟩ := Item.ofFields?_eq_ok_iff.mp read
  have carries := Item.carries_of_ofFields? explicit read
  have isType : Fields.lookup? "type" fields = some (.string item.kind.name) :=
    (Item.field?_eq_some_iff.mp carries.kind).1
  have kind : extractKind (some (.string item.kind.name)) = .ok item.kind := by
    cases item.kind <;> rfl
  have tag : extractClass (item.tag.map Value.classTag) = .ok item.tag := by
    cases item.tag <;> rfl
  have setting : extractSetting (item.allowExtraKeys.map Value.bool) = .ok item.allowExtraKeys := by
    cases item.allowExtraKeys <;> rfl
  rw [extract, isType, carries.tag, carries.allowExtraKeys, kind, tag, setting,
    extractCalls_of_optional callsRead, ← carries.data]
  rfl

/-- Deciding on the document of an item and reading the typed view from the item comes to the same
as examining its fields one by one. -/
theorem validate_eq {tag : Option Class} {fields : List (String × Value)}
    (explicit : SchemaForm.isExplicit fields = true)
    (unique : (Value.object tag fields).namesUnique = true) :
    validate fields = (ofFields? fields).mapError fun violation =>
      .shape (RuleError.ofViolation violation) := by
  rw [validate, firstError_item explicit unique]
  cases read : ofFields? fields with
  | error violation => rfl
  | ok item =>
      show Except.mapError Refusal.fault (extract fields) = .ok item
      rw [extract_of_ofFields? explicit read]
      rfl

/-! ## Explicit items -/

/-- An explicit item is accepted if and only if it is well formed, as an item that carries its
defined fields. Otherwise it is refused for the first field that does not fit, in the order of its
fields. Its document has the same verdict under the rules for items, with the same message. -/
theorem ofForm?_explicit {value : Value} {tag : Option Class} {fields : List (String × Value)}
    (form : SchemaForm.ofValue value = .explicit tag fields) (unique : value.namesUnique = true) :
    let outcome := Item.ofForm? (SchemaForm.ofValue value)
    ((∃ item, outcome = .ok item) ↔ Item.WellFormed fields) ∧
    (∀ item, outcome = .ok item → Item.Carries fields item) ∧
    (∀ violation, outcome = .error violation ↔ Item.FirstOffence fields violation) ∧
    (validate fields = outcome.mapError fun violation =>
      .shape (RuleError.ofViolation violation)) ∧
    (validate fields).mapError Refusal.message = outcome.mapError Violation.message := by
  intro outcome
  have isOutcome : outcome = ofFields? fields := congrArg Item.ofForm? form
  obtain rfl := SchemaForm.value_of_explicit form
  have explicit := SchemaForm.isExplicit_of_explicit form
  have uniqueNames : (Fields.keys fields).Nodup :=
    of_decide_eq_true (Value.holds_of_everywhere unique)
  rw [isOutcome]
  refine ⟨Item.exists_ofFields?_iff explicit uniqueNames,
    fun item => Item.carries_of_ofFields? explicit,
    fun violation => Item.ofFields?_eq_error_iff explicit, validate_eq explicit unique, ?_⟩
  rw [validate_eq explicit unique]
  cases ofFields? fields with
  | ok item => rfl
  | error violation =>
      exact congrArg Except.error (Refusal.message_shape_ofViolation violation)

/-- The first entry is a call, and the undefined field counts as absent. The second entry has a
name that no call has, which comes before the setting that is no boolean. -/
theorem ofForm?_explicit_of_foreign_name :
    let fields : List (String × Value) :=
      [("class", .undefined),
        ("calls", .array [.object none [("result", .null)],
          .object none [("args", .array []), ("this", .null)]]),
        ("allowExtraKeys", .null), ("type", .string "function")]
    SchemaForm.ofValue (.object none fields) = .explicit none fields ∧
      (Value.object none fields).namesUnique = true ∧
      ¬ Item.WellFormed fields ∧
      Item.FirstOffence fields (.unexpectedFields "this" []) ∧
      (validate fields).mapError Refusal.message = .error
        ("Validation Error\r\n\t" ++
          "Additional properties are not allowed ('this' was unexpected)") := by
  intro fields
  have form : SchemaForm.ofValue (.object none fields) = .explicit none fields := rfl
  have unique : (Value.object none fields).namesUnique = true := by decide
  have refused : Item.ofForm? (SchemaForm.ofValue (.object none fields)) =
      .error (.unexpectedFields "this" []) := rfl
  obtain ⟨accepted, -, offends, -, sameMessage⟩ := ofForm?_explicit form unique
  refine ⟨form, unique, fun wellFormed => ?_, (offends _).mp refused, ?_⟩
  · obtain ⟨item, isItem⟩ := accepted.mpr wellFormed
    cases refused.symm.trans isItem
  · rw [sameMessage]
    rfl

end SchemaMatch.Shape
