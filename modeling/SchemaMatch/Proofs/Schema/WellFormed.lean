import SchemaMatch.Proofs.Schema.Reordering
import SchemaMatch.Proofs.Value.Traversal
import SchemaMatch.Proofs.Value.Wrapper

/-!
Contract: what makes an explicit item well formed, and what it is refused for.

Owns:
- well-formed items, by their defined fields;
- what a typed item carries of its fields;
- the violation of a field that does not fit, and the first such field of an item;
- one equivalence for the acceptance and one for the refusal of each reader of a field.

Does not own: how items are classified.
-/

namespace SchemaMatch.Item

variable {key : String} {value : Value} {fields : List (String × Value)} {violation : Violation}

/-! ## Defined fields -/

theorem field?_cons (key : String) (field : String × Value) (rest : List (String × Value)) :
    field? key (field :: rest) =
      if field.1 = key then field.2.defined? else field? key rest := by
  rw [field?, Fields.lookup?]
  split <;> rfl

theorem field?_of_not_mem (isNew : key ∉ Fields.keys fields) : field? key fields = none := by
  cases found : field? key fields with
  | none => rfl
  | some value =>
      have isField := Fields.mem_of_lookup? (field?_eq_some_iff.mp found).1
      exact absurd (List.mem_map.mpr ⟨_, isField, rfl⟩) isNew

theorem mem_definedFields (given : field? key fields = some value) :
    (key, value) ∈ definedFields fields := by
  obtain ⟨found, defined⟩ := field?_eq_some_iff.mp given
  refine List.mem_filter.mpr ⟨Fields.mem_of_lookup? found, ?_⟩
  rw [defined]
  rfl

theorem field?_of_mem_definedFields (unique : (Fields.keys fields).Nodup)
    (member : (key, value) ∈ definedFields fields) : field? key fields = some value := by
  obtain ⟨isField, defined⟩ := List.mem_filter.mp member
  exact field?_eq_some_iff.mpr ⟨Fields.lookup?_of_mem unique isField, by simpa using defined⟩

theorem getD_field? (key : String) (fields : List (String × Value)) :
    (field? key fields).getD .undefined = (Fields.lookup? key fields).getD .undefined := by
  rw [field?]
  cases Fields.lookup? key fields with
  | none => rfl
  | some value => cases value <;> rfl

/-- An explicit item has a type. -/
theorem exists_type (explicit : SchemaForm.isExplicit fields = true) :
    ∃ value, field? "type" fields = some value := by
  obtain ⟨-, hasType⟩ := Bool.and_eq_true_iff.mp explicit
  split at hasType
  next value found =>
    exact ⟨value, field?_eq_some_iff.mpr ⟨found, by simpa using hasType⟩⟩
  next => cases hasType

/-! ## Well-formed items -/

/-- An entry that is a call: an object without names but `args` and `result`, whose arguments are
an array if it has any. -/
def IsCall (entry : Value) : Prop :=
  ∃ tag fields, entry = .object tag fields ∧
    (∀ field ∈ definedFields fields, field.1 = "args" ∨ field.1 = "result") ∧
    (field? "args" fields = none ∨ ∃ args, field? "args" fields = some (.array args))

/-- A well-formed item, by its defined fields. -/
structure WellFormed (fields : List (String × Value)) : Prop where
  kind : ∃ kind : Kind, field? "type" fields = some (.string kind.name)
  tag : field? "class" fields = none ∨ ∃ tag, field? "class" fields = some (.classTag tag)
  calls : field? "calls" fields = none ∨ ∃ entries,
    field? "calls" fields = some (.array entries) ∧ ∀ entry ∈ entries, IsCall entry
  allowExtraKeys : field? "allowExtraKeys" fields = none ∨
    ∃ permits, field? "allowExtraKeys" fields = some (.bool permits)
  data : field? "type" fields = some (.string "array") →
    field? "data" fields = none ∨ ∃ items, field? "data" fields = some (.array items)

/-- A typed call carries the fields of its entry. Without `args` it has no arguments, and without
`result` its result is undefined. -/
def CarriesCall (entry : Value) (call : Call) : Prop :=
  ∃ tag fields, entry = .object tag fields ∧
    (field? "args" fields).getD (.array []) = .array call.args ∧
    call.result = (field? "result" fields).getD .undefined

/-- A typed item carries the defined fields. -/
structure Carries (fields : List (String × Value)) (item : Item) : Prop where
  kind : field? "type" fields = some (.string item.kind.name)
  data : item.data = field? "data" fields
  tag : field? "class" fields = item.tag.map Value.classTag
  calls : match item.calls with
    | none => field? "calls" fields = none
    | some calls => ∃ entries, field? "calls" fields = some (.array entries) ∧
        List.Forall₂ CarriesCall entries calls
  allowExtraKeys : field? "allowExtraKeys" fields = item.allowExtraKeys.map Value.bool

/-! ## Violations -/

/-- Values that a document shows by a mark of their kind. -/
def isMarked : Value → Bool
  | .date _ => true
  | .regex _ => true
  | .function _ => true
  | .classTag _ => true
  | _ => false

/-- The violation of an entry that is no call. -/
inductive CallOffence : Value → Violation → Prop where
  | notObject {entry : Value} (unmarked : isMarked entry = false)
      (notObject : ∀ tag fields, entry ≠ .object tag fields) :
      CallOffence entry (.wrongType (quoted entry) .object)
  | marked {entry : Value} (marked : isMarked entry = true) :
      CallOffence entry (.unexpectedFields "$kind" [])
  | args {tag : Option Class} {fields : List (String × Value)} {value : Value}
      (given : field? "args" fields = some value) (notArray : ∀ args, value ≠ .array args) :
      CallOffence (.object tag fields) (.wrongType (quoted value) .array)
  | foreign {tag : Option Class} {fields : List (String × Value)} {first : String}
      {others : List String}
      (args : field? "args" fields = none ∨ ∃ args, field? "args" fields = some (.array args))
      (names : ((Fields.keys (definedFields fields)).filter fun name =>
        name != "args" && name != "result") = first :: others) :
      CallOffence (.object tag fields) (.unexpectedFields first others)

inductive KindOffence : Value → Violation → Prop where
  | notText {value : Value} (notText : ∀ name, value ≠ .string name) :
      KindOffence value (.wrongType (quoted value) .string)
  | unknown {name : String} (isNone : ∀ kind : Kind, kind.name ≠ name) :
      KindOffence (.string name) (.unknownKind (.string name))

inductive ClassOffence : Value → Violation → Prop where
  | object {tag : Option Class} {fields : List (String × Value)} :
      ClassOffence (.object tag fields) .missingClassMark
  | marked {value : Value} (marked : isMarked value = true)
      (notClass : ∀ tag, value ≠ .classTag tag) : ClassOffence value .notClass
  | notObject {value : Value} (unmarked : isMarked value = false)
      (notObject : ∀ tag fields, value ≠ .object tag fields) :
      ClassOffence value (.wrongType (quoted value) .object)

/-- Among calls the first entry that is none counts. -/
inductive CallsOffence : Value → Violation → Prop where
  | notArray {value : Value} (notArray : ∀ entries, value ≠ .array entries) :
      CallsOffence value (.wrongType (quoted value) .array)
  | call {before after : List Value} {entry : Value} {violation : Violation}
      (areCalls : ∀ earlier ∈ before, IsCall earlier) (offends : CallOffence entry violation) :
      CallsOffence (.array (before ++ entry :: after)) violation

inductive SettingOffence : Value → Violation → Prop where
  | notBool {value : Value} (notBool : ∀ permits, value ≠ .bool permits) :
      SettingOffence value (.wrongType (quoted value) .boolean)

/-- The violation of a field that does not fit, by its name. -/
def Offence (key : String) (value : Value) (violation : Violation) : Prop :=
  match key with
  | "type" => KindOffence value violation
  | "class" => ClassOffence value violation
  | "calls" => CallsOffence value violation
  | "allowExtraKeys" => SettingOffence value violation
  | _ => False

/-- What fits a field, by its name. -/
def Fits (key : String) (value : Value) : Prop :=
  match key with
  | "type" => ∃ kind : Kind, value = .string kind.name
  | "class" => ∃ tag, value = .classTag tag
  | "calls" => ∃ entries, value = .array entries ∧ ∀ entry ∈ entries, IsCall entry
  | "allowExtraKeys" => ∃ permits, value = .bool permits
  | _ => True

/-- The violation that an item is refused for: that of the first field that does not fit, or if
all of them do, that of data that is no array although the item is for arrays. -/
inductive FirstOffence (fields : List (String × Value)) : Violation → Prop where
  | field {before after : List (String × Value)} {key : String} {value : Value}
      {violation : Violation} (split : definedFields fields = before ++ (key, value) :: after)
      (earlierFit : ∀ field ∈ before, Fits field.1 field.2)
      (offends : Offence key value violation) : FirstOffence fields violation
  | data {value : Value} (allFit : ∀ field ∈ definedFields fields, Fits field.1 field.2)
      (isArray : field? "type" fields = some (.string "array"))
      (given : field? "data" fields = some value) (notArray : ∀ items, value ≠ .array items) :
      FirstOffence fields (.wrongType (quoted value) .array)

/-! ## Readers -/

theorem kind?_eq_ok_iff {kind : Kind} :
    kind? value = .ok kind ↔ value = .string kind.name := by
  constructor
  · intro read
    cases value with
    | string name =>
        rw [kind?] at read
        split at read
        next found isKind =>
          cases read
          have isName : kind.name = name := by simpa using List.find?_some isKind
          rw [isName]
        next => cases read
    | _ => cases read
  · rintro rfl
    cases kind <;> rfl

theorem class?_eq_ok_iff {tag : Class} : class? value = .ok tag ↔ value = .classTag tag := by
  cases value <;> simp [class?]

theorem allowExtraKeys?_eq_ok_iff {permits : Bool} :
    allowExtraKeys? value = .ok permits ↔ value = .bool permits := by
  cases value <;> simp [allowExtraKeys?]

theorem args?_eq_ok_iff {args : List Value} : args? value = .ok args ↔ value = .array args := by
  cases value <;> simp [args?]

theorem kind?_eq_error_iff : kind? value = .error violation ↔ KindOffence value violation := by
  constructor
  · intro refused
    cases value with
    | string name =>
        rw [kind?] at refused
        split at refused
        next => cases refused
        next isNone =>
          cases refused
          refine .unknown fun kind isName => ?_
          have isKind : kind? (.string name) = .ok kind := kind?_eq_ok_iff.mpr (by rw [isName])
          rw [kind?, isNone] at isKind
          cases isKind
    | _ =>
        cases refused
        exact .notText (by simp)
  · intro offends
    cases offends with
    | notText notText =>
        cases value with
        | string name => exact absurd rfl (notText name)
        | _ => rfl
    | @unknown name isNone =>
        cases read : kind? (.string name) with
        | ok kind =>
            have isName := kind?_eq_ok_iff.mp read
            exact absurd (Value.string.inj isName).symm (isNone kind)
        | error violation =>
            rw [kind?] at read
            split at read <;> cases read
            rfl

theorem class?_eq_error_iff :
    class? value = .error violation ↔ ClassOffence value violation := by
  constructor
  · intro refused
    cases value with
    | classTag tag => cases refused
    | object tag fields =>
        cases refused
        exact .object
    | date _ | regex _ | function _ =>
        cases refused
        exact .marked rfl (by simp)
    | _ =>
        cases refused
        exact .notObject rfl (by simp)
  · intro offends
    cases offends with
    | object => rfl
    | marked marked notClass =>
        cases value with
        | classTag tag => exact absurd rfl (notClass tag)
        | date _ | regex _ | function _ => rfl
        | _ => cases marked
    | notObject unmarked notObject =>
        cases value with
        | object tag fields => exact absurd rfl (notObject tag fields)
        | date _ | regex _ | function _ | classTag _ => cases unmarked
        | _ => rfl

theorem allowExtraKeys?_eq_error_iff :
    allowExtraKeys? value = .error violation ↔ SettingOffence value violation := by
  constructor
  · intro refused
    cases value with
    | bool permits => cases refused
    | _ =>
        cases refused
        exact .notBool (by simp)
  · rintro ⟨notBool⟩
    cases value with
    | bool permits => exact absurd rfl (notBool permits)
    | _ => rfl

theorem args?_eq_error_iff :
    args? value = .error violation ↔
      (∀ args, value ≠ .array args) ∧ violation = .wrongType (quoted value) .array := by
  constructor
  · intro refused
    cases value with
    | array args => cases refused
    | _ =>
        cases refused
        exact ⟨by simp, rfl⟩
  · rintro ⟨notArray, rfl⟩
    cases value with
    | array args => exact absurd rfl (notArray args)
    | _ => rfl

/-! ## Calls -/

theorem foreignNames_eq_nil_iff :
    foreignNames fields = [] ↔
      ∀ field ∈ definedFields fields, field.1 = "args" ∨ field.1 = "result" := by
  rw [foreignNames, List.filter_eq_nil_iff, Fields.keys, List.forall_mem_map]
  refine forall₂_congr fun field _ => ?_
  simp only [Bool.and_eq_true, bne_iff_ne]
  tauto

/-- A row of arguments is given as an array or not at all. -/
theorem args_iff :
    (∀ value, field? "args" fields = some value → ∃ args, args? value = .ok args) ↔
      (field? "args" fields = none ∨ ∃ args, field? "args" fields = some (.array args)) := by
  cases field? "args" fields with
  | none => simp
  | some value => simp [args?_eq_ok_iff]

theorem exists_call?_iff_isCall {entry : Value} :
    (∃ call, call? entry = .ok call) ↔ IsCall entry := by
  cases entry with
  | object tag fields =>
      rw [exists_call?_iff, foreignNames_eq_nil_iff, args_iff]
      constructor
      · rintro ⟨args, names⟩
        exact ⟨tag, fields, rfl, names, args⟩
      · rintro ⟨_, _, same, names, args⟩
        cases same
        exact ⟨args, names⟩
  | _ =>
      constructor
      · rintro ⟨_, read⟩
        cases read
      · rintro ⟨_, _, same, -⟩
        cases same

theorem carriesCall_of_call? {entry : Value} {call : Call} (read : call? entry = .ok call) :
    CarriesCall entry call := by
  obtain ⟨tag, fields, rfl, rfl⟩ := ofFields_of_call? read
  obtain ⟨argsRead, -⟩ := exists_call?_iff.mp ⟨_, read⟩
  refine ⟨tag, fields, rfl, ?_, ?_⟩
  · rcases args_iff.mp argsRead with noArgs | ⟨args, given⟩
    · simp only [Call.ofFields, noArgs, Option.getD_none]
    · simp only [Call.ofFields, given, Option.getD_some]
  · rw [getD_field?]
    rfl

theorem cause?_call?_object (tag : Option Class) (fields : List (String × Value)) :
    cause? (call? (.object tag fields)) =
      ((field? "args" fields).bind fun value => cause? (args? value)).or
        (match foreignNames fields with
          | [] => none
          | first :: others => some (.unexpectedFields first others)) := by
  rw [call?]
  cases given : field? "args" fields with
  | none => cases foreign : foreignNames fields <;> rfl
  | some value =>
      rw [Option.bind_some]
      show cause? (args? value >>= _) = _
      cases args? value with
      | error violation => rfl
      | ok args => cases foreign : foreignNames fields <;> rfl

theorem call?_eq_error_iff {entry : Value} :
    call? entry = .error violation ↔ CallOffence entry violation := by
  constructor
  · intro refused
    cases entry with
    | object tag fields =>
        rw [← cause?_eq_some_iff, cause?_call?_object, Option.or_eq_some_iff,
          Option.bind_eq_some_iff] at refused
        rcases refused with ⟨value, given, argsRefused⟩ | ⟨argsFit, foreign⟩
        · obtain ⟨notArray, rfl⟩ := args?_eq_error_iff.mp (cause?_eq_some_iff.mp argsRefused)
          exact .args given notArray
        · have args : field? "args" fields = none ∨
              ∃ args, field? "args" fields = some (.array args) := by
            refine args_iff.mp fun value given => ?_
            rw [given, Option.bind_some] at argsFit
            exact cause?_eq_none_iff.mp argsFit
          cases names : foreignNames fields with
          | nil =>
              rw [names] at foreign
              cases foreign
          | cons first others =>
              rw [names] at foreign
              cases foreign
              exact .foreign args names
    | date _ | regex _ | function _ | classTag _ =>
        cases refused
        exact .marked rfl
    | _ =>
        cases refused
        exact .notObject rfl (by simp)
  · intro offends
    cases offends with
    | notObject unmarked notObject =>
        cases entry with
        | object tag fields => exact absurd rfl (notObject tag fields)
        | date _ | regex _ | function _ | classTag _ => cases unmarked
        | _ => rfl
    | marked marked =>
        cases entry with
        | date _ | regex _ | function _ | classTag _ => rfl
        | _ => cases marked
    | args given notArray =>
        have argsRefused := cause?_eq_some_iff.mpr (args?_eq_error_iff.mpr ⟨notArray, rfl⟩)
        rw [← cause?_eq_some_iff, cause?_call?_object, given, Option.bind_some, argsRefused]
        rfl
    | foreign args names =>
        have isForeign : foreignNames _ = _ := names
        rw [← cause?_eq_some_iff, cause?_call?_object, isForeign]
        rcases args with noArgs | ⟨args, given⟩
        · rw [noArgs]
          rfl
        · rw [given]
          rfl

theorem exists_calls?_iff :
    (∃ calls, calls? value = .ok calls) ↔
      ∃ entries, value = .array entries ∧ ∀ entry ∈ entries, IsCall entry := by
  cases value with
  | array entries =>
      constructor
      · rintro ⟨calls, read⟩
        refine ⟨entries, rfl, fun entry member => ?_⟩
        obtain ⟨call, -, entryRead⟩ :=
          mem_of_forall₂ (forall₂_of_mapM_eq_ok read).flip member
        exact exists_call?_iff_isCall.mp ⟨call, entryRead⟩
      · rintro ⟨_, same, areCalls⟩
        cases same
        exact exists_mapM_eq_ok fun entry member =>
          exists_call?_iff_isCall.mpr (areCalls entry member)
  | _ =>
      constructor
      · rintro ⟨_, read⟩
        cases read
      · rintro ⟨_, same, -⟩
        cases same

theorem calls?_eq_error_iff :
    calls? value = .error violation ↔ CallsOffence value violation := by
  constructor
  · intro refused
    cases value with
    | array entries =>
        obtain ⟨before, entry, after, rfl, readable, entryRefused⟩ := exists_first_error refused
        exact .call (fun earlier member => exists_call?_iff_isCall.mp (readable earlier member))
          (call?_eq_error_iff.mp entryRefused)
    | _ =>
        cases refused
        exact .notArray (by simp)
  · intro offends
    cases offends with
    | notArray notArray =>
        cases value with
        | array entries => exact absurd rfl (notArray entries)
        | _ => rfl
    | call areCalls offends =>
        exact mapM_append_cons_eq_error
          (fun earlier member => exists_call?_iff_isCall.mpr (areCalls earlier member))
          (call?_eq_error_iff.mpr offends) _

/-! ## Fields -/

theorem examine_eq_ok_iff : examine key value = .ok () ↔ Fits key value := by
  unfold examine Fits
  split
  · simp only [map_eq_ok_iff, kind?_eq_ok_iff, and_true]
  · simp only [map_eq_ok_iff, class?_eq_ok_iff, and_true]
  · simpa only [map_eq_ok_iff, and_true] using exists_calls?_iff
  · simp only [map_eq_ok_iff, allowExtraKeys?_eq_ok_iff, and_true]
  · simp

theorem examine_eq_error_iff :
    examine key value = .error violation ↔ Offence key value violation := by
  unfold examine Offence
  split
  · exact map_eq_error_iff.trans kind?_eq_error_iff
  · exact map_eq_error_iff.trans class?_eq_error_iff
  · exact map_eq_error_iff.trans calls?_eq_error_iff
  · exact map_eq_error_iff.trans allowExtraKeys?_eq_error_iff
  · simp

theorem cause?_examineAll (fields : List (String × Value)) :
    cause? (examineAll fields) =
      fields.findSome? fun field => cause? (examine field.1 field.2) := by
  induction fields with
  | nil => rfl
  | cons field rest inductionHypothesis =>
      rw [examineAll, List.findSome?_cons, ← inductionHypothesis]
      cases examine field.1 field.2 <;> rfl

theorem exists_read {α : Type} (key : String) {read : Value → Except Violation α}
    (reads : ∀ value, examine key value = (read value).map fun _ => ())
    (examined : examineAll (definedFields fields) = .ok ()) (given : field? key fields = some value) :
    ∃ result, read value = .ok result := by
  have isFine := examineAll_eq_ok_iff.mp examined _ (mem_definedFields given)
  rw [reads] at isFine
  obtain ⟨result, isRead, -⟩ := map_eq_ok_iff.mp isFine
  exact ⟨result, isRead⟩

/-- A field that was examined can be read, if there is one. -/
theorem exists_optional {α : Type} (key : String) {read : Value → Except Violation α}
    (reads : ∀ value, examine key value = (read value).map fun _ => ())
    (examined : examineAll (definedFields fields) = .ok ()) :
    ∃ result, optional read (field? key fields) = .ok result := by
  cases given : field? key fields with
  | none => exact ⟨none, rfl⟩
  | some value =>
      obtain ⟨result, isRead⟩ := exists_read key reads examined given
      exact ⟨some result, by rw [optional, isRead]; rfl⟩

theorem examineData_eq_error_iff {kind : Kind} {data : Option Value} :
    examineData kind data = .error violation ↔
      kind = .array ∧ ∃ value, data = some value ∧ (∀ items, value ≠ .array items) ∧
        violation = .wrongType (quoted value) .array := by
  constructor
  · intro refused
    unfold examineData at refused
    split at refused
    next => cases refused
    next value notArray =>
      cases refused
      exact ⟨rfl, value, rfl, notArray, rfl⟩
    next => cases refused
  · rintro ⟨rfl, value, rfl, notArray, rfl⟩
    cases value with
    | array items => exact absurd rfl (notArray items)
    | _ => rfl

/-- Once the fields have been examined, an item fails for its data or not at all. -/
theorem cause?_ofFields? {kind : Kind} (examined : examineAll (definedFields fields) = .ok ())
    (isKind : field? "type" fields = some (.string kind.name)) :
    cause? (ofFields? fields) = cause? (examineData kind (field? "data" fields)) := by
  obtain ⟨tag, tagRead⟩ := exists_optional "class" (fun _ => rfl) examined
  obtain ⟨calls, callsRead⟩ := exists_optional "calls" (fun _ => rfl) examined
  obtain ⟨setting, settingRead⟩ :=
    exists_optional "allowExtraKeys" (fun _ => rfl) examined
  have kindRead : kind? ((field? "type" fields).getD .undefined) = .ok kind := by
    rw [isKind]
    exact kind?_eq_ok_iff.mpr rfl
  rw [ofFields?, examined, kindRead, tagRead, callsRead, settingRead]
  exact cause?_bind_pure (examineData kind (field? "data" fields)) fun _ =>
    (⟨kind, field? "data" fields, tag, calls, setting⟩ : Item)

/-! ## Items -/

theorem optional_eq_ok_iff {α : Type} {read : Value → Except Violation α} {wrap : α → Value}
    (reads : ∀ value result, read value = .ok result ↔ value = wrap result)
    {given : Option Value} {result : Option α} :
    optional read given = .ok result ↔ given = result.map wrap := by
  cases given with
  | none => cases result <;> simp [optional]
  | some value =>
      cases isRead : read value with
      | error violation =>
          cases result with
          | none => simp [optional, isRead, Except.map]
          | some other => simp [optional, isRead, Except.map, ← reads]
      | ok found =>
          cases result with
          | none => simp [optional, isRead, Except.map]
          | some other => simp [optional, isRead, Except.map, ← reads]

theorem carries_of_ofFields? {item : Item} (explicit : SchemaForm.isExplicit fields = true)
    (read : ofFields? fields = .ok item) : Carries fields item := by
  obtain ⟨value, isType⟩ := exists_type explicit
  obtain ⟨-, kindRead, isData, -, tagRead, callsRead, settingRead⟩ :=
    ofFields?_eq_ok_iff.mp read
  rw [isType, Option.getD_some, kind?_eq_ok_iff] at kindRead
  refine
    { kind := by rw [isType, kindRead]
      data := isData
      tag := (optional_eq_ok_iff fun _ _ => class?_eq_ok_iff).mp tagRead
      calls := ?_
      allowExtraKeys := (optional_eq_ok_iff fun _ _ => allowExtraKeys?_eq_ok_iff).mp settingRead }
  cases given : field? "calls" fields with
  | none =>
      rw [given] at callsRead
      rw [← Except.ok.inj callsRead]
  | some value =>
      rw [given, optional] at callsRead
      obtain ⟨calls, isRead, areCalls⟩ := map_eq_ok_iff.mp callsRead
      obtain ⟨entries, rfl, -⟩ := exists_calls?_iff.mp ⟨calls, isRead⟩
      rw [← areCalls]
      exact ⟨entries, rfl, (forall₂_of_mapM_eq_ok isRead).imp fun _ _ => carriesCall_of_call?⟩

/-- Fields that fit one by one make up an item that is well formed. -/
theorem allFit_of_wellFormed (wellFormed : WellFormed fields)
    (unique : (Fields.keys fields).Nodup) :
    ∀ field ∈ definedFields fields, Fits field.1 field.2 := by
  intro field member
  have given := field?_of_mem_definedFields unique member
  unfold Fits
  split
  next isType =>
    obtain ⟨kind, isKind⟩ := wellFormed.kind
    rw [isType, isKind] at given
    exact ⟨kind, (Option.some.inj given).symm⟩
  next isClass =>
    rcases wellFormed.tag with noTag | ⟨tag, isTag⟩
    · rw [isClass, noTag] at given
      cases given
    · rw [isClass, isTag] at given
      exact ⟨tag, (Option.some.inj given).symm⟩
  next isCalls =>
    rcases wellFormed.calls with noCalls | ⟨entries, areEntries, areCalls⟩
    · rw [isCalls, noCalls] at given
      cases given
    · rw [isCalls, areEntries] at given
      exact ⟨entries, (Option.some.inj given).symm, areCalls⟩
  next isSetting =>
    rcases wellFormed.allowExtraKeys with noSetting | ⟨permits, isGiven⟩
    · rw [isSetting, noSetting] at given
      cases given
    · rw [isSetting, isGiven] at given
      exact ⟨permits, (Option.some.inj given).symm⟩
  next => trivial

theorem wellFormed_of_ofFields? {item : Item} (explicit : SchemaForm.isExplicit fields = true)
    (read : ofFields? fields = .ok item) : WellFormed fields := by
  obtain ⟨examined, -, isData, dataExamined, -⟩ := ofFields?_eq_ok_iff.mp read
  have carries := carries_of_ofFields? explicit read
  refine
    { kind := ⟨item.kind, carries.kind⟩
      tag := ?_
      calls := ?_
      allowExtraKeys := ?_
      data := ?_ }
  · rw [carries.tag]
    cases item.tag with
    | none => exact .inl rfl
    | some tag => exact .inr ⟨tag, rfl⟩
  · cases given : field? "calls" fields with
    | none => exact .inl rfl
    | some value =>
        have isFine := examineAll_eq_ok_iff.mp examined _ (mem_definedFields given)
        obtain ⟨entries, rfl, areCalls⟩ := examine_eq_ok_iff.mp isFine
        exact .inr ⟨entries, rfl, areCalls⟩
  · rw [carries.allowExtraKeys]
    cases item.allowExtraKeys with
    | none => exact .inl rfl
    | some permits => exact .inr ⟨permits, rfl⟩
  · intro isArray
    have sameKind : kind? (.string "array") = .ok item.kind := by
      rw [carries.kind] at isArray
      exact kind?_eq_ok_iff.mpr (Option.some.inj isArray).symm
    rw [← Except.ok.inj sameKind, isData] at dataExamined
    cases given : field? "data" fields with
    | none => exact .inl rfl
    | some value =>
        rw [given] at dataExamined
        cases value with
        | array items => exact .inr ⟨items, rfl⟩
        | _ => cases dataExamined

theorem exists_ofFields?_iff (explicit : SchemaForm.isExplicit fields = true)
    (unique : (Fields.keys fields).Nodup) :
    (∃ item, ofFields? fields = .ok item) ↔ WellFormed fields := by
  constructor
  · rintro ⟨item, read⟩
    exact wellFormed_of_ofFields? explicit read
  · intro wellFormed
    obtain ⟨kind, isKind⟩ := wellFormed.kind
    have examined : examineAll (definedFields fields) = .ok () := by
      refine examineAll_eq_ok_iff.mpr fun field member => examine_eq_ok_iff.mpr ?_
      exact allFit_of_wellFormed wellFormed unique field member
    rw [← cause?_eq_none_iff, cause?_ofFields? examined isKind]
    cases refused : examineData kind (field? "data" fields) with
    | ok _ => rfl
    | error violation =>
        obtain ⟨rfl, value, given, notArray, -⟩ := examineData_eq_error_iff.mp refused
        rcases wellFormed.data isKind with noData | ⟨items, isArray⟩
        · rw [noData] at given
          cases given
        · rw [isArray] at given
          exact absurd (Option.some.inj given).symm (notArray items)

theorem examineAll_eq_error_iff :
    examineAll fields = .error violation ↔
      ∃ before key value after, fields = before ++ (key, value) :: after ∧
        (∀ field ∈ before, Fits field.1 field.2) ∧ Offence key value violation := by
  rw [← cause?_eq_some_iff, cause?_examineAll, List.findSome?_eq_some_iff]
  constructor
  · rintro ⟨before, ⟨key, value⟩, after, split, offends, earlierFit⟩
    refine ⟨before, key, value, after, split, fun field member => ?_, ?_⟩
    · obtain ⟨_, examined⟩ := cause?_eq_none_iff.mp (earlierFit field member)
      exact examine_eq_ok_iff.mp examined
    · exact examine_eq_error_iff.mp (cause?_eq_some_iff.mp offends)
  · rintro ⟨before, key, value, after, split, earlierFit, offends⟩
    refine ⟨before, (key, value), after, split, ?_, fun field member => ?_⟩
    · exact cause?_eq_some_iff.mpr (examine_eq_error_iff.mpr offends)
    · exact cause?_eq_none_iff.mpr ⟨(), examine_eq_ok_iff.mpr (earlierFit field member)⟩

theorem ofFields?_eq_error_iff (explicit : SchemaForm.isExplicit fields = true) :
    ofFields? fields = .error violation ↔ FirstOffence fields violation := by
  obtain ⟨value, isType⟩ := exists_type explicit
  constructor
  · intro refused
    cases examined : examineAll (definedFields fields) with
    | error cause =>
        rw [ofFields?, examined] at refused
        cases refused
        obtain ⟨before, key, value, after, split, earlierFit, offends⟩ :=
          examineAll_eq_error_iff.mp examined
        exact .field split earlierFit offends
    | ok _ =>
        obtain ⟨kind, kindRead⟩ := exists_read "type" (fun _ => rfl) examined isType
        rw [kind?_eq_ok_iff.mp kindRead] at isType
        rw [← cause?_eq_some_iff, cause?_ofFields? examined isType, cause?_eq_some_iff,
          examineData_eq_error_iff] at refused
        obtain ⟨rfl, data, given, notArray, rfl⟩ := refused
        refine .data (fun field member => ?_) isType given notArray
        exact examine_eq_ok_iff.mp (examineAll_eq_ok_iff.mp examined field member)
  · intro offends
    cases offends with
    | field split earlierFit offends =>
        have examined := examineAll_eq_error_iff.mpr ⟨_, _, _, _, split, earlierFit, offends⟩
        rw [ofFields?, examined]
        rfl
    | data allFit isArray given notArray =>
        have examined : examineAll (definedFields fields) = .ok () :=
          examineAll_eq_ok_iff.mpr fun field member =>
            examine_eq_ok_iff.mpr (allFit field member)
        have isKind : field? "type" fields = some (.string Kind.array.name) := isArray
        rw [← cause?_eq_some_iff, cause?_ofFields? examined isKind, cause?_eq_some_iff,
          examineData_eq_error_iff]
        exact ⟨rfl, _, given, notArray, rfl⟩

end SchemaMatch.Item
