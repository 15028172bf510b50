import SchemaMatch.Proofs.Schema.Expansion
import SchemaMatch.Proofs.Value.Reordering

/-!
Contract: schemas with the fields of their objects in another order.

Owns:
- items that are alike up to the order of fields in their data;
- the reading of a reordered schema, which gives an item like that of the schema, and none if
  the schema is malformed.

Which violation a malformed item is refused for depends on the order of its fields.

Does not own: the checks that items ask for.
-/

namespace SchemaMatch

open Value (Reordered)

/-- Items that differ in the order of fields inside their data only, and in their calls. -/
structure Item.Alike (item other : Item) : Prop where
  kind : other.kind = item.kind
  data : Option.Rel Reordered item.data other.data
  tag : other.tag = item.tag
  calls : other.calls.isSome = item.calls.isSome
  allowExtraKeys : other.allowExtraKeys = item.allowExtraKeys

namespace Item

theorem examineAll_eq_ok_iff {fields : List (String × Value)} :
    examineAll fields = .ok () ↔ ∀ field ∈ fields, examine field.1 field.2 = .ok () := by
  induction fields with
  | nil => simp [examineAll]
  | cons field rest inductionHypothesis =>
      rw [List.forall_mem_cons, ← inductionHypothesis, examineAll, bind_eq_ok_iff]
      constructor
      · rintro ⟨_, here, later⟩
        exact ⟨here, later⟩
      · rintro ⟨here, later⟩
        exact ⟨(), here, later⟩

/-! ## Single fields -/

section Readers

variable {value other : Value} (reordered : Reordered value other)

include reordered

theorem isUndefined_reordered : other.isUndefined = value.isUndefined := by
  cases reordered <;> rfl

theorem defined?_reordered : Option.Rel Reordered value.defined? other.defined? := by
  unfold Value.defined?
  rw [isUndefined_reordered reordered]
  split
  · exact .none
  · exact .some reordered

theorem args?_reordered {args : List Value} (read : args? value = .ok args) :
    ∃ otherArgs, args? other = .ok otherArgs := by
  cases reordered with
  | same => exact ⟨args, read⟩
  | array => exact ⟨_, rfl⟩
  | object => cases read

end Readers

theorem examineData_reordered {kind : Kind} {data other : Option Value}
    (pair : Option.Rel Reordered data other) (fits : examineData kind data = .ok ()) :
    examineData kind other = .ok () := by
  cases pair with
  | none => exact fits
  | some reordered =>
      cases reordered with
      | same => exact fits
      | array => cases kind <;> rfl
      | object => cases kind <;> first | rfl | cases fits

/-- Only objects and arrays have fields to reorder in them. A reader may refuse both. -/
structure RefusesContainers {α : Type} (read : Value → Except Violation α) : Prop where
  array : ∀ items result, read (.array items) ≠ .ok result
  object : ∀ tag fields result, read (.object tag fields) ≠ .ok result

theorem kind?_refuses : RefusesContainers kind? where
  array _ _ read := by cases read
  object _ _ _ read := by cases read

theorem class?_refuses : RefusesContainers class? where
  array _ _ read := by cases read
  object _ _ _ read := by cases read

theorem allowExtraKeys?_refuses : RefusesContainers allowExtraKeys? where
  array _ _ read := by cases read
  object _ _ _ read := by cases read

namespace RefusesContainers

variable {α : Type} {read : Value → Except Violation α}

theorem reordered (refuses : RefusesContainers read) {value other : Value} {result : α}
    (reordered : Reordered value other) (readValue : read value = .ok result) :
    read other = .ok result := by
  cases reordered with
  | same => exact readValue
  | array => exact absurd readValue (refuses.array _ _)
  | object => exact absurd readValue (refuses.object _ _ _)

theorem optional (refuses : RefusesContainers read) {value other : Option Value}
    {result : Option α} (pair : Option.Rel Reordered value other)
    (readValue : Item.optional read value = .ok result) :
    Item.optional read other = .ok result := by
  cases pair with
  | none => exact readValue
  | @some value other reordered =>
      simp only [Item.optional] at readValue ⊢
      cases found : read value with
      | error violation => rw [found] at readValue; cases readValue
      | ok result =>
          rw [found] at readValue
          rw [refuses.reordered reordered found]
          exact readValue

end RefusesContainers

/-! ## Fields together -/

/-- The defined fields of a reordered object are reordered. -/
theorem definedFields_reordered {tag : Option Class} {fields others : List (String × Value)}
    (reordered : Reordered (.object tag fields) (.object tag others)) :
    Reordered (.object tag (definedFields fields)) (.object tag (definedFields others)) := by
  obtain ⟨middle, _, same, order, values⟩ := reordered.of_object
  cases same
  refine .object tag (order.filter _) (List.rel_filter ?_ values)
  rintro field other ⟨name, pair⟩
  simp only [isUndefined_reordered pair]

section Fields

variable {tag : Option Class} {fields others : List (String × Value)}
  (reordered : Reordered (.object tag fields) (.object tag others))
  (unique : (Value.object tag fields).namesUnique = true)

include reordered

theorem foreignNames_reordered (noForeign : foreignNames fields = []) :
    foreignNames others = [] := by
  have keys : (Fields.keys (definedFields fields)).Perm (Fields.keys (definedFields others)) :=
    (definedFields_reordered reordered).keys_perm
  have names := keys.filter fun name => name != "args" && name != "result"
  rw [foreignNames] at noForeign ⊢
  rw [noForeign] at names
  exact names.nil_eq.symm

include unique

theorem field?_reordered (key : String) :
    Option.Rel Reordered (field? key fields) (field? key others) := by
  unfold field?
  have pair := reordered.lookup? unique key
  generalize Fields.lookup? key fields = value at pair
  generalize Fields.lookup? key others = other at pair
  cases pair with
  | none => exact .none
  | some pair => exact defined?_reordered pair

end Fields

/-- An object is a call if its arguments are an array, should it have any, and it has no foreign
names. -/
theorem exists_call?_iff {tag : Option Class} {fields : List (String × Value)} :
    (∃ call, call? (.object tag fields) = .ok call) ↔
      (∀ value, field? "args" fields = some value → ∃ args, args? value = .ok args) ∧
        foreignNames fields = [] := by
  cases foreign : foreignNames fields with
  | cons first others =>
      refine iff_of_false ?_ (by simp)
      rintro ⟨call, read⟩
      simp only [call?, foreign] at read
      split at read
      · obtain ⟨args, -, accepted⟩ := bind_eq_ok_iff.mp read
        cases accepted
      · cases read
  | nil =>
      cases given : field? "args" fields with
      | none =>
          simp only [call?, given, foreign]
          exact iff_of_true ⟨_, rfl⟩ ⟨by simp, trivial⟩
      | some value =>
          simp only [call?, given, foreign, bind_eq_ok_iff, Option.some.injEq, forall_eq',
            and_true]
          constructor
          · rintro ⟨call, args, argsRead, -⟩
            exact ⟨args, argsRead⟩
          · rintro ⟨args, argsRead⟩
            exact ⟨_, args, argsRead, rfl⟩

theorem call?_reordered {entry other : Value} (reordered : Reordered entry other)
    (unique : entry.namesUnique = true) {call : Call} (read : call? entry = .ok call) :
    ∃ otherCall, call? other = .ok otherCall := by
  obtain ⟨tag, fields, rfl, -⟩ := ofFields_of_call? read
  obtain ⟨middle, others, rfl, -, -⟩ := reordered.of_object
  obtain ⟨argsRead, noForeign⟩ := exists_call?_iff.mp ⟨call, read⟩
  refine exists_call?_iff.mpr ⟨fun value given => ?_, foreignNames_reordered reordered noForeign⟩
  have pair := field?_reordered reordered unique "args"
  rw [given] at pair
  obtain ⟨original, isOriginal, pair⟩ := exists_of_rel_some pair
  obtain ⟨args, argsRead⟩ := argsRead original isOriginal
  exact args?_reordered pair argsRead

theorem calls?_reordered {value other : Value} (reordered : Reordered value other)
    (unique : value.namesUnique = true) {calls : List Call} (read : calls? value = .ok calls) :
    ∃ otherCalls, calls? other = .ok otherCalls := by
  cases value with
  | array entries =>
      obtain ⟨others, rfl, each⟩ := reordered.of_array
      refine exists_mapM_eq_ok fun other member => ?_
      obtain ⟨entry, isEntry, pair⟩ := mem_of_forall₂ each member
      obtain ⟨call, -, readEntry⟩ := mem_of_forall₂ (forall₂_of_mapM_eq_ok read).flip isEntry
      exact call?_reordered pair (Value.everywhereInItems_iff.mp unique entry isEntry) readEntry
  | _ => cases read

theorem namesUnique_field? {tag : Option Class} {fields : List (String × Value)}
    (unique : (Value.object tag fields).namesUnique = true) {key : String} {value : Value}
    (given : field? key fields = some value) : value.namesUnique = true := by
  have isPart : (key, value) ∈ (Value.object tag fields).parts :=
    Fields.mem_of_lookup? (field?_eq_some_iff.mp given).1
  exact Value.everywhere_of_mem_parts unique isPart

theorem examine_reordered {key : String} {value other : Value} (reordered : Reordered value other)
    (unique : value.namesUnique = true) (examined : examine key value = .ok ()) :
    examine key other = .ok () := by
  unfold examine at examined ⊢
  split at examined
  · obtain ⟨kind, read, -⟩ := map_eq_ok_iff.mp examined
    exact map_eq_ok_iff.mpr ⟨kind, kind?_refuses.reordered reordered read, rfl⟩
  · obtain ⟨tag, read, -⟩ := map_eq_ok_iff.mp examined
    exact map_eq_ok_iff.mpr ⟨tag, class?_refuses.reordered reordered read, rfl⟩
  · obtain ⟨calls, read, -⟩ := map_eq_ok_iff.mp examined
    obtain ⟨others, readOthers⟩ := calls?_reordered reordered unique read
    exact map_eq_ok_iff.mpr ⟨others, readOthers, rfl⟩
  · obtain ⟨permits, read, -⟩ := map_eq_ok_iff.mp examined
    exact map_eq_ok_iff.mpr ⟨permits, allowExtraKeys?_refuses.reordered reordered read, rfl⟩
  · rfl

section Fields

variable {tag : Option Class} {fields others : List (String × Value)}
  (reordered : Reordered (.object tag fields) (.object tag others))
  (unique : (Value.object tag fields).namesUnique = true)

include reordered unique

theorem examineAll_reordered (examined : examineAll (definedFields fields) = .ok ()) :
    examineAll (definedFields others) = .ok () := by
  obtain ⟨middle, _, same, order, values⟩ := (definedFields_reordered reordered).of_object
  cases same
  refine examineAll_eq_ok_iff.mpr fun field member => ?_
  obtain ⟨original, isOriginal, ⟨name, pair⟩⟩ := mem_of_forall₂ values member
  have inFields := order.mem_iff.mpr isOriginal
  have isPart : (name, _) ∈ (Value.object tag fields).parts := (List.mem_filter.mp inFields).1
  exact examine_reordered pair (Value.everywhere_of_mem_parts unique isPart)
    (examineAll_eq_ok_iff.mp examined _ inFields)

theorem optional_calls?_reordered {calls : Option (List Call)}
    (read : optional calls? (field? "calls" fields) = .ok calls) :
    ∃ otherCalls, optional calls? (field? "calls" others) = .ok otherCalls ∧
      otherCalls.isSome = calls.isSome := by
  have pair := field?_reordered reordered unique "calls"
  have uniqueBelow (value : Value) (given : field? "calls" fields = some value) :=
    namesUnique_field? unique given
  generalize field? "calls" fields = value at pair read uniqueBelow
  generalize field? "calls" others = other at pair ⊢
  cases pair with
  | none => exact ⟨none, rfl, by cases read; rfl⟩
  | @some value other pair =>
      cases callsRead : calls? value with
      | error violation => rw [optional, callsRead] at read; cases read
      | ok given =>
          obtain ⟨otherCalls, otherRead⟩ := calls?_reordered pair (uniqueBelow value rfl) callsRead
          rw [optional, callsRead] at read
          cases read
          exact ⟨some otherCalls, by rw [optional, otherRead]; rfl, rfl⟩

theorem ofFields?_reordered {item : Item} (read : ofFields? fields = .ok item) :
    ∃ other, ofFields? others = .ok other ∧ item.Alike other := by
  obtain ⟨examined, kind, data, shape, tag, calls, setting⟩ := ofFields?_eq_ok_iff.mp read
  have pair := field?_reordered reordered unique
  have dataPair : Option.Rel Reordered item.data (field? "data" others) := data ▸ pair "data"
  obtain ⟨otherCalls, readCalls, callsAlike⟩ := optional_calls?_reordered reordered unique calls
  refine ⟨⟨item.kind, field? "data" others, item.tag, otherCalls, item.allowExtraKeys⟩,
    ofFields?_eq_ok_iff.mpr ⟨examineAll_reordered reordered unique examined,
      kind?_refuses.reordered (rel_getD (.same _) (pair "type")) kind, rfl,
      examineData_reordered dataPair shape, class?_refuses.optional (pair "class") tag, readCalls,
      allowExtraKeys?_refuses.optional (pair "allowExtraKeys") setting⟩,
    rfl, dataPair, rfl, callsAlike, rfl⟩

end Fields

end Item

/-! ## Forms -/

theorem SchemaForm.isExplicit_reordered {tag : Option Class} {fields others : List (String × Value)}
    (reordered : Reordered (.object tag fields) (.object tag others))
    (unique : (Value.object tag fields).namesUnique = true) :
    isExplicit others = isExplicit fields := by
  have type := reordered.lookup? unique "type"
  have keys : (Fields.keys fields).Perm (Fields.keys others) := reordered.keys_perm
  unfold isExplicit
  rw [keys.all_eq]
  generalize Fields.lookup? "type" fields = found at type
  generalize Fields.lookup? "type" others = other at type
  cases type with
  | none => rfl
  | some pair => simp only [Item.isUndefined_reordered pair]

section Forms

variable {schema other : Value} (reordered : Reordered schema other)
  (unique : schema.namesUnique = true)

include reordered unique

/-- Shorthand stays shorthand of its kind. -/
theorem SchemaForm.shorthand_reordered {kind : Kind} {data : Value}
    (form : ofValue schema = .shorthand kind data) : ofValue other = .shorthand kind other := by
  cases schema with
  | object tag fields =>
      obtain ⟨-, others, rfl, -, -⟩ := reordered.of_object
      obtain ⟨rfl, shorthand⟩ := of_shorthand_object form
      rw [ofValue_object, isExplicit_reordered reordered unique, shorthand]
      rfl
  | array items =>
      obtain ⟨others, rfl, -⟩ := reordered.of_array
      cases form
      rfl
  | _ =>
      cases reordered
      cases form
      rfl

theorem SchemaForm.explicit_reordered {tag : Option Class} {fields : List (String × Value)}
    (form : ofValue schema = .explicit tag fields) :
    ∃ others, other = .object tag others ∧ ofValue other = .explicit tag others := by
  obtain rfl := value_of_explicit form
  obtain ⟨-, others, rfl, -, -⟩ := reordered.of_object
  refine ⟨others, rfl, ?_⟩
  rw [ofValue_object, isExplicit_reordered reordered unique, if_pos (isExplicit_of_explicit form)]

/-- If a schema is well formed, a reordering of it is read as an item like its own. -/
theorem Item.ofForm?_reordered {item : Item}
    (read : ofForm? (SchemaForm.ofValue schema) = .ok item) :
    ∃ otherItem, ofForm? (SchemaForm.ofValue other) = .ok otherItem ∧ item.Alike otherItem := by
  cases form : SchemaForm.ofValue schema with
  | shorthand kind data =>
      have otherForm := SchemaForm.shorthand_reordered reordered unique form
      rw [ofForm?_of_shorthand form] at read
      cases read
      exact ⟨ofShorthand kind other none, ofForm?_of_shorthand otherForm, rfl,
        defined?_reordered reordered, rfl, rfl, rfl⟩
  | explicit tag fields =>
      obtain ⟨others, rfl, otherForm⟩ := SchemaForm.explicit_reordered reordered unique form
      obtain rfl := SchemaForm.value_of_explicit form
      rw [form] at read
      rw [otherForm]
      exact ofFields?_reordered reordered unique read

/-- The marker of a reordered schema sets the same policy. -/
theorem Policy.own?_reordered (setting : Option Bool) :
    own? (SchemaForm.ofValue other).marker? setting =
      own? (SchemaForm.ofValue schema).marker? setting := by
  cases form : SchemaForm.ofValue schema with
  | shorthand kind data =>
      have otherForm := SchemaForm.shorthand_reordered reordered unique form
      obtain rfl := SchemaForm.value_of_shorthand form
      cases schema with
      | object tag fields =>
          obtain ⟨-, others, rfl, -, -⟩ := reordered.of_object
          obtain ⟨rfl, -⟩ := SchemaForm.of_shorthand_object form
          rw [otherForm]
          have pair := Item.field?_reordered reordered unique SchemaForm.markerKey
          change own? (Item.field? SchemaForm.markerKey others) setting =
            own? (Item.field? SchemaForm.markerKey fields) setting
          generalize Item.field? SchemaForm.markerKey fields = marker at pair ⊢
          generalize Item.field? SchemaForm.markerKey others = otherMarker at pair ⊢
          cases pair with
          | none => rfl
          | some pair => cases pair <;> rfl
      | array items => cases form; rw [otherForm]; rfl
      | _ => cases reordered; cases form; rfl
  | explicit tag fields =>
      obtain ⟨others, rfl, otherForm⟩ := SchemaForm.explicit_reordered reordered unique form
      rw [otherForm]
      rfl

end Forms

/-! ## Below items -/

namespace Item

variable {schema : Value} {item other : Item}

/-- The data of an array item is an array, if it has any. -/
theorem data_of_array (read : ofForm? (SchemaForm.ofValue schema) = .ok item)
    (isArray : item.kind = .array) :
    item.data.getD .undefined = .undefined ∨ ∃ items, item.data.getD .undefined = .array items := by
  have fits : examineData item.kind item.data = .ok () := by
    cases form : SchemaForm.ofValue schema with
    | shorthand kind data =>
        rw [ofForm?_of_shorthand form] at read
        cases read
        exact Schema.examineData_of_shorthand form
    | explicit tag fields =>
        rw [form] at read
        exact (ofFields?_eq_ok_iff.mp read).2.2.2.1
  rw [isArray] at fits
  cases given : item.data with
  | none => exact .inl rfl
  | some data =>
      rw [given] at fits
      cases data with
      | array items => exact .inr ⟨items, rfl⟩
      | _ => cases fits

theorem namesUnique_data (read : ofForm? (SchemaForm.ofValue schema) = .ok item)
    (unique : schema.namesUnique = true) {data : Value} (given : item.data = some data) :
    data.namesUnique = true := by
  cases form : SchemaForm.ofValue schema with
  | shorthand kind value =>
      rw [ofForm?_of_shorthand form] at read
      cases read
      simp only [ofShorthand, Value.defined?] at given
      split at given <;> cases given
      exact unique
  | explicit tag fields =>
      rw [form] at read
      obtain ⟨-, -, isData, -⟩ := ofFields?_eq_ok_iff.mp read
      obtain rfl := SchemaForm.value_of_explicit form
      rw [isData] at given
      exact namesUnique_field? unique given

theorem namesUnique_below (read : ofForm? (SchemaForm.ofValue schema) = .ok item)
    (unique : schema.namesUnique = true) {below : Value}
    (member : below ∈ item.parts.map Prod.snd) :
    below.namesUnique = true := by
  obtain ⟨part, isPart, rfl⟩ := List.mem_map.mp member
  unfold parts at isPart
  cases given : item.data with
  | none => rw [given] at isPart; cases isPart
  | some data =>
      rw [given] at isPart
      exact Value.everywhere_of_mem_parts (namesUnique_data read unique given) isPart

/-- An item without data has the parts that undefined has. -/
theorem parts_eq (item : Item) : item.parts = (item.data.getD .undefined).parts := by
  unfold parts
  cases item.data <;> rfl

namespace Alike

theorem dataReordered (alike : item.Alike other) :
    Reordered (item.data.getD .undefined) (other.data.getD .undefined) :=
  rel_getD (.same _) alike.data

/-- The same keys are declared, in some order. -/
theorem declaredKeys_perm (alike : item.Alike other) :
    (item.parts.map Prod.fst).Perm (other.parts.map Prod.fst) := by
  rw [parts_eq, parts_eq, Value.map_fst_parts, Value.map_fst_parts]
  exact alike.dataReordered.keys_perm

theorem length_parts (alike : item.Alike other) : item.parts.length = other.parts.length := by
  have lengths := alike.declaredKeys_perm.length_eq
  rwa [List.length_map, List.length_map] at lengths

theorem exists_stringCheck (alike : item.Alike other) {check : Value}
    (member : check ∈ Schema.stringChecks other.data) :
    ∃ original ∈ Schema.stringChecks item.data, Reordered original check := by
  have pair := alike.data
  generalize item.data = data at pair ⊢
  generalize other.data = otherData at pair member
  cases pair with
  | none => cases member
  | @some value otherValue reordered =>
      cases reordered with
      | same => exact ⟨check, member, .same _⟩
      | array each => exact mem_of_forall₂ each member
      | object tag order values =>
          rw [List.mem_singleton.mp member]
          exact ⟨_, List.mem_singleton_self _, .object tag order values⟩

theorem exists_part (alike : item.Alike other) {part : String × Value}
    (member : part ∈ other.parts) :
    ∃ value, (part.1, value) ∈ item.parts ∧ Reordered value part.2 := by
  rw [parts_eq] at member ⊢
  exact alike.dataReordered.exists_part member

/-- The elements of an array item keep their indices. -/
theorem exists_element (alike : item.Alike other)
    (read : ofForm? (SchemaForm.ofValue schema) = .ok item) (isArray : item.kind = .array)
    {index : Nat} {element : Value} (found : (other.parts.map Prod.snd)[index]? = some element) :
    ∃ value, (item.parts.map Prod.snd)[index]? = some value ∧ Reordered value element := by
  have pair := alike.dataReordered
  have shape := data_of_array read isArray
  rw [parts_eq] at found ⊢
  generalize item.data.getD .undefined = data at pair shape ⊢
  generalize other.data.getD .undefined = otherData at pair found
  obtain rfl | ⟨items, rfl⟩ := shape
  · cases pair
    cases found
  · obtain ⟨others, rfl, each⟩ := pair.of_array
    rw [Value.map_snd_parts_array] at found ⊢
    have element := rel_getElem? each index
    rw [found] at element
    exact exists_of_rel_some element

theorem symm (alike : item.Alike other) : other.Alike item where
  kind := alike.kind.symm
  data := by
    have pair := alike.data
    generalize item.data = data at pair ⊢
    generalize other.data = otherData at pair ⊢
    cases pair with
    | none => exact .none
    | some pair => exact .some pair.symm
  tag := alike.tag.symm
  calls := alike.calls.symm
  allowExtraKeys := alike.allowExtraKeys.symm

end Alike

end Item

end SchemaMatch
