import SchemaMatch.Proofs.Outcome
import SchemaMatch.Schema.Basic

/-!
Contract: the tree that a schema value denotes, read from the root down.

Owns:
- the named parts of a value and of an item;
- what a well-formed explicit item consists of;
- the equation `Schema.ofValue_of_item`, which gives the node of a value and the schemas below
  it, each again the tree of a value;
- the sizes that inductions over schema values go by.

Reading builds trees from the leaves up, and keeps the trees of parts that no node uses. The
equation here forgets those parts.

Does not own: the walk along the tree.
-/

namespace SchemaMatch

/-! ## Related rows -/

theorem mem_of_forall₂ {α β : Type} {related : α → β → Prop} {entries : List α}
    {results : List β} (readAll : List.Forall₂ related entries results) {result : β}
    (member : result ∈ results) : ∃ entry ∈ entries, related entry result := by
  induction readAll with
  | nil => simp at member
  | cons read _ inductionHypothesis =>
      rcases List.mem_cons.mp member with rfl | later
      · exact ⟨_, List.mem_cons_self, read⟩
      · obtain ⟨entry, isEntry, read⟩ := inductionHypothesis later
        exact ⟨entry, List.mem_cons_of_mem _ isEntry, read⟩

/-! ## Fields -/

namespace Fields

theorem lookup?_map {α β : Type} (change : α → β) (key : String) (fields : List (String × α)) :
    lookup? key (fields.map fun field => (field.1, change field.2)) =
      (lookup? key fields).map change := by
  induction fields with
  | nil => rfl
  | cons field rest inductionHypothesis =>
      by_cases same : field.1 = key
      · simp [lookup?, same]
      · simp [lookup?, same, inductionHypothesis]

/-- Dropping fields by their names does not matter to the names that are kept. -/
theorem lookup?_filter {α : Type} (keep : String → Bool) {key : String} (kept : keep key = true)
    (fields : List (String × α)) :
    lookup? key (fields.filter fun field => keep field.1) = lookup? key fields := by
  induction fields with
  | nil => rfl
  | cons field rest inductionHypothesis =>
      by_cases same : field.1 = key
      · rw [List.filter_cons_of_pos (by rw [same, kept]), lookup?, lookup?, if_pos same,
          if_pos same]
      · rw [lookup?, if_neg same, ← inductionHypothesis, List.filter_cons]
        split
        · rw [lookup?, if_neg same]
        · rfl

theorem mem_of_lookup? {α : Type} {key : String} {fields : List (String × α)} {value : α}
    (found : lookup? key fields = some value) : (key, value) ∈ fields := by
  induction fields with
  | nil => simp [lookup?] at found
  | cons field rest inductionHypothesis =>
      by_cases same : field.1 = key
      · simp only [lookup?, same, if_true, Option.some.injEq] at found
        exact List.mem_cons.mpr (.inl (Prod.ext same.symm found.symm))
      · simp only [lookup?, same, if_false] at found
        exact List.mem_cons_of_mem _ (inductionHypothesis found)

end Fields

/-! ## Parts -/

/-- The named parts of a value, in order: the fields of an object, and the elements of an
array under their indices. -/
def Value.parts : Value → List (String × Value)
  | .object _ fields => fields
  | .array items => items.zipIdx.map fun entry => (toString entry.2, entry.1)
  | _ => []

theorem Value.map_fst_parts (value : Value) : value.parts.map Prod.fst = value.keys := by
  cases value with
  | array items =>
      have indices := List.zipIdx_map_snd 0 items
      rw [← List.range_eq_range'] at indices
      rw [keys, ← indices, parts, List.map_map, List.map_map]
      rfl
  | _ => rfl

theorem Value.map_snd_parts_array (items : List Value) :
    (Value.array items).parts.map Prod.snd = items := by
  simp only [parts, List.map_map, Function.comp_def]
  exact List.zipIdx_map_fst 0 items

theorem Value.sizeOf_part_lt {value : Value} {part : String × Value}
    (member : part ∈ value.parts) : sizeOf part.2 < sizeOf value := by
  cases value with
  | array items =>
      simp only [parts, List.mem_map] at member
      obtain ⟨entry, member, rfl⟩ := member
      have smaller := List.sizeOf_lt_of_mem (List.fst_mem_of_mem_zipIdx member)
      simp only [array.sizeOf_spec]
      omega
  | object tag fields =>
      simp only [parts] at member
      have smaller := List.sizeOf_lt_of_mem member
      have inside : sizeOf part = 1 + sizeOf part.1 + sizeOf part.2 := rfl
      simp only [object.sizeOf_spec]
      omega
  | _ => simp [parts] at member

theorem Value.sizeOf_lt_of_lookup? {tag : Option Class} {fields : List (String × Value)}
    {key : String} {value : Value} (found : Fields.lookup? key fields = some value) :
    sizeOf value < sizeOf (Value.object tag fields) := by
  have member : (key, value) ∈ (Value.object tag fields).parts := Fields.mem_of_lookup? found
  exact Value.sizeOf_part_lt member

/-! ## Forms -/

namespace SchemaForm

theorem ofValue_object (tag : Option Class) (fields : List (String × Value)) :
    ofValue (.object tag fields) =
      if isExplicit fields then .explicit tag fields
      else .shorthand .object (.object tag fields) := rfl

theorem of_shorthand_object {tag : Option Class} {fields : List (String × Value)} {kind : Kind}
    {data : Value} (form : ofValue (.object tag fields) = .shorthand kind data) :
    kind = .object ∧ isExplicit fields = false := by
  rw [ofValue_object] at form
  split at form
  next => cases form
  next shorthand =>
    cases form
    exact ⟨rfl, Bool.eq_false_iff.mpr shorthand⟩

theorem isExplicit_of_explicit {tag otherTag : Option Class}
    {fields others : List (String × Value)}
    (form : ofValue (.object tag fields) = .explicit otherTag others) : isExplicit fields := by
  rw [ofValue_object] at form
  split at form
  next explicit => exact explicit
  next => cases form

theorem value_of_shorthand {value data : Value} {kind : Kind}
    (form : ofValue value = .shorthand kind data) : value = data := by
  cases value with
  | object tag fields =>
      rw [ofValue_object] at form
      split at form <;> cases form
      rfl
  | _ => cases form; rfl

theorem value_of_explicit {value : Value} {tag : Option Class}
    {fields : List (String × Value)} (form : ofValue value = .explicit tag fields) :
    value = .object tag fields := by
  cases value with
  | object _ _ =>
      rw [ofValue_object] at form
      split at form <;> cases form
      rfl
  | _ => cases form

end SchemaForm

/-! ## Items -/

/-- The call that the fields of an entry stand for. Without `args` it has no arguments. -/
def Call.ofFields (fields : List (String × Value)) : Call where
  args :=
    match Item.field? "args" fields with
    | some (.array items) => items
    | _ => []
  result := (Fields.lookup? "result" fields).getD .undefined

namespace Item

/-- The named parts of the data of an item. -/
def parts (item : Item) : List (String × Value) :=
  item.data.elim [] Value.parts

/-- The entries of the field `calls`. -/
def callEntries (fields : List (String × Value)) : List Value :=
  match field? "calls" fields with
  | some (.array entries) => entries
  | _ => []

theorem field?_eq_some_iff {key : String} {fields : List (String × Value)} {value : Value} :
    field? key fields = some value ↔
      Fields.lookup? key fields = some value ∧ value.isUndefined = false := by
  simp only [field?, Option.bind_eq_some_iff, Value.defined?]
  constructor
  · rintro ⟨found, lookup, defined⟩
    split at defined
    · cases defined
    · cases defined
      exact ⟨lookup, Bool.eq_false_iff.mpr ‹_›⟩
  · rintro ⟨lookup, defined⟩
    exact ⟨value, lookup, by simp [defined]⟩

/-- A well-formed item consists of what its fields say, each read by itself. -/
theorem ofFields?_eq_ok_iff {fields : List (String × Value)} {item : Item} :
    ofFields? fields = .ok item ↔
      examineAll (definedFields fields) = .ok () ∧
      kind? ((field? "type" fields).getD .undefined) = .ok item.kind ∧
      item.data = field? "data" fields ∧
      examineData item.kind item.data = .ok () ∧
      optional class? (field? "class" fields) = .ok item.tag ∧
      optional calls? (field? "calls" fields) = .ok item.calls ∧
      optional allowExtraKeys? (field? "allowExtraKeys" fields) = .ok item.allowExtraKeys := by
  obtain ⟨kind, data, tag, calls, allowExtraKeys⟩ := item
  simp only [ofFields?, bind_eq_ok_iff, pure, Except.pure, Except.ok.injEq, Item.mk.injEq]
  constructor
  · rintro ⟨_, examined, readKind, kindRead, _, dataExamined, readTag, tagRead, readCalls,
      callsRead, readSetting, settingRead, rfl, rfl, rfl, rfl, rfl⟩
    exact ⟨examined, kindRead, rfl, dataExamined, tagRead, callsRead, settingRead⟩
  · rintro ⟨examined, kindRead, rfl, dataExamined, tagRead, callsRead, settingRead⟩
    exact ⟨(), examined, kind, kindRead, (), dataExamined, tag, tagRead, calls, callsRead,
      allowExtraKeys, settingRead, rfl, rfl, rfl, rfl, rfl⟩

/-- An entry of `calls` that is accepted is an object, and its fields are the call. -/
theorem ofFields_of_call? {entry : Value} {call : Call} (read : call? entry = .ok call) :
    ∃ tag fields, entry = .object tag fields ∧ call = Call.ofFields fields := by
  cases entry with
  | object tag fields =>
      refine ⟨tag, fields, rfl, ?_⟩
      simp only [call?] at read
      unfold Call.ofFields
      cases foreign : foreignNames fields with
      | cons first others =>
          rw [foreign] at read
          split at read
          · obtain ⟨args, -, accepted⟩ := bind_eq_ok_iff.mp read
            cases accepted
          · cases read
      | nil =>
          rw [foreign] at read
          cases given : field? "args" fields with
          | none =>
              rw [given] at read
              cases read
              rfl
          | some value =>
              rw [given] at read
              obtain ⟨args, argsRead, accepted⟩ := bind_eq_ok_iff.mp read
              cases accepted
              cases value with
              | array items => cases argsRead; rfl
              | _ => cases argsRead
  | _ => cases read

/-- The calls of a well-formed item are its entries, in order. -/
theorem forall₂_callEntries {fields : List (String × Value)} {item : Item}
    (wellFormed : ofFields? fields = .ok item) :
    List.Forall₂ (fun entry call => call? entry = .ok call) (callEntries fields)
      (item.calls.getD []) := by
  obtain ⟨-, -, -, -, -, callsRead, -⟩ := ofFields?_eq_ok_iff.mp wellFormed
  unfold callEntries
  cases found : field? "calls" fields with
  | none =>
      rw [found] at callsRead
      rw [← Except.ok.inj callsRead]
      exact .nil
  | some value =>
      rw [found] at callsRead
      cases value with
      | array entries =>
          cases readAll : calls? (.array entries) with
          | error violation => simp [optional, readAll, Except.map] at callsRead
          | ok results =>
              simp only [optional, readAll, Except.map, Except.ok.injEq] at callsRead
              rw [← callsRead]
              exact forall₂_of_mapM_eq_ok readAll
      | _ => cases callsRead

end Item

/-! ## Nodes -/

namespace Schema

/-- The node of a well-formed item that sets the policy `own`. What stands below it is read
as schemas of its own. -/
def ofWellFormed (item : Item) (own : Option Bool) : Schema :=
  match item.kind with
  | .boolean => .scalar .boolean item.data
  | .number => .scalar .number item.data
  | .undefined => .scalar .undefined item.data
  | .string => .string (stringChecks item.data)
  | .null => .null
  | .date => .date item.data
  | .function =>
      .function item.data
        ((item.calls.getD []).map fun call => (call, ofValue call.result))
  | .object => .object item.tag own (item.parts.map fun part => (part.1, ofValue part.2))
  | .array => .array (item.data.map fun _ => item.parts.map fun part => ofValue part.2)

theorem outlineFields_eq_map (fields : List (String × Value)) :
    outlineFields fields = fields.map fun field => (field.1, outline field.2) := by
  induction fields with
  | nil => rw [outlineFields]; rfl
  | cons field rest inductionHypothesis =>
      rw [outlineFields, inductionHypothesis]
      rfl

theorem outlineItems_eq_map (items : List Value) (index : Nat) :
    outlineItems index items =
      (items.zipIdx index).map fun entry => (toString entry.2, outline entry.1) := by
  induction items generalizing index with
  | nil => rw [outlineItems]; rfl
  | cons item rest inductionHypothesis =>
      rw [outlineItems, inductionHypothesis]
      rfl

theorem parts_outline (value : Value) :
    (outline value).parts = value.parts.map fun part => (part.1, outline part.2) := by
  cases value with
  | array items => simp [outline, Outline.parts, Value.parts, outlineItems_eq_map]
  | object tag fields => simp [outline, Outline.parts, Value.parts, outlineFields_eq_map]
  | _ => simp [outline, Outline.parts, Value.parts]

theorem ofValue_eq_assemble (value : Value) :
    ofValue value = assemble value (value.parts.map fun part => (part.1, outline part.2)) := by
  rw [← parts_outline]
  cases value <;> simp [ofValue, outline, Outline.schema, Outline.parts]

/-- Where an outline holds the parts of an item, its children are the schemas of the parts. -/
theorem children_outline (parts : List (String × Value)) :
    Outline.children (parts.map fun part => (part.1, outline part.2)) =
      parts.map fun part => (part.1, ofValue part.2) := by
  simp [Outline.children, ofValue]

theorem partsOf_outline (name : String) (fields : List (String × Value)) :
    Outline.partsOf name (fields.map fun field => (field.1, outline field.2)) =
      ((Item.field? name fields).elim [] Value.parts).map
        fun part => (part.1, outline part.2) := by
  rw [Outline.partsOf, Fields.lookup?_map]
  cases found : Fields.lookup? name fields with
  | none => simp [Item.field?, found]
  | some value =>
      cases value <;>
        simp [Item.field?, found, Value.defined?, Value.isUndefined, parts_outline, Value.parts]

theorem resultSchema_outline {entry : Value} {call : Call} (read : Item.call? entry = .ok call) :
    (outline entry).resultSchema = ofValue call.result := by
  obtain ⟨tag, fields, rfl, rfl⟩ := Item.ofFields_of_call? read
  rw [Call.ofFields, Outline.resultSchema, parts_outline, Value.parts, Fields.lookup?_map]
  cases Fields.lookup? "result" fields with
  | none => rfl
  | some value => rfl

theorem zip_resultSchema {entries : List Value} {calls : List Call}
    (readAll : List.Forall₂ (fun entry call => Item.call? entry = .ok call) entries calls) :
    calls.zip (entries.map fun entry => (outline entry).resultSchema) =
      calls.map fun call => (call, ofValue call.result) := by
  induction readAll with
  | nil => rfl
  | cons read _ inductionHypothesis =>
      simp [resultSchema_outline read, inductionHypothesis]

/-- Shorthand stands for an item with itself as data. -/
theorem ofItem_shorthand (kind : Kind) (data : Value) (own : Option Bool) (item : Item)
    (read : Item.ofForm? (.shorthand kind data) = .ok item) :
    ofItem item own (data.parts.map fun part => (part.1, outline part.2)) [] =
      ofWellFormed item own := by
  cases read
  have same : data.parts = data.defined?.elim [] Value.parts := by
    cases data <;> rfl
  cases kind <;>
    simp [ofItem, ofWellFormed, Item.parts, children_outline, same, Function.comp_def]

/-- The calls of an explicit item and the schemas of their results. -/
theorem zip_results {fields : List (String × Value)} {item : Item}
    (wellFormed : Item.ofFields? fields = .ok item) :
    (item.calls.getD []).zip
        ((Outline.partsOf "calls" (fields.map fun field => (field.1, outline field.2))).map
          fun part => part.2.resultSchema) =
      (item.calls.getD []).map fun call => (call, ofValue call.result) := by
  have readAll := Item.forall₂_callEntries wellFormed
  have zipped := zip_resultSchema readAll
  rw [partsOf_outline, List.map_map, ← zipped]
  unfold Item.callEntries at readAll ⊢
  cases found : Item.field? "calls" fields with
  | none => rfl
  | some value =>
      rw [found] at readAll
      cases value with
      | array entries =>
          have results := congrArg (List.map fun entry => (outline entry).resultSchema)
            (Value.map_snd_parts_array entries)
          rw [List.map_map] at results
          rw [Option.elim_some, ← results]
          rfl
      | _ => rw [List.forall₂_nil_left_iff.mp readAll]; rfl

theorem ofItem_explicit {fields : List (String × Value)} {item : Item}
    (wellFormed : Item.ofFields? fields = .ok item) (own : Option Bool) :
    ofItem item own
        (Outline.partsOf "data" (fields.map fun field => (field.1, outline field.2)))
        ((Outline.partsOf "calls" (fields.map fun field => (field.1, outline field.2))).map
          fun part => part.2.resultSchema) =
      ofWellFormed item own := by
  have data : item.data = Item.field? "data" fields :=
    (Item.ofFields?_eq_ok_iff.mp wellFormed).2.2.1
  unfold ofItem ofWellFormed
  rw [zip_results wellFormed, partsOf_outline, ← data]
  cases item.kind <;> simp [Item.parts, children_outline, Function.comp_def]

theorem ofValue_of_violation {value : Value} {violation : Violation}
    (malformed : Item.ofForm? (SchemaForm.ofValue value) = .error violation) :
    ofValue value = .malformed violation := by
  rw [ofValue_eq_assemble, assemble]
  simp only [malformed]

/-- The tree of a value, from the root down. -/
theorem ofValue_of_item {value : Value} {item : Item}
    (wellFormed : Item.ofForm? (SchemaForm.ofValue value) = .ok item) :
    ofValue value =
      ofWellFormed item
        (Policy.own? (SchemaForm.ofValue value).marker? item.allowExtraKeys) := by
  rw [ofValue_eq_assemble, assemble]
  simp only [wellFormed]
  cases form : SchemaForm.ofValue value with
  | shorthand kind data =>
      have same : value = data := SchemaForm.value_of_shorthand form
      subst same
      rw [form] at wellFormed
      exact ofItem_shorthand kind value _ item wellFormed
  | explicit tag fields =>
      have same : value = .object tag fields := SchemaForm.value_of_explicit form
      subst same
      rw [form] at wellFormed
      exact ofItem_explicit wellFormed _

end Schema

/-! ## Sizes and shapes below an item -/

namespace Item

variable {schema : Value} {item : Item}

theorem sizeOf_data_le {data : Value}
    (wellFormed : ofForm? (SchemaForm.ofValue schema) = .ok item)
    (holds : item.data = some data) : sizeOf data ≤ sizeOf schema := by
  cases form : SchemaForm.ofValue schema with
  | shorthand kind value =>
      rw [form] at wellFormed
      cases wellFormed
      rw [SchemaForm.value_of_shorthand form]
      simp only [Value.defined?] at holds
      split at holds
      · cases holds
      · cases holds
        exact Nat.le_refl _
  | explicit tag fields =>
      rw [form] at wellFormed
      obtain ⟨-, -, read, -⟩ := ofFields?_eq_ok_iff.mp wellFormed
      rw [read] at holds
      rw [SchemaForm.value_of_explicit form]
      exact Nat.le_of_lt (Value.sizeOf_lt_of_lookup? (field?_eq_some_iff.mp holds).1)

theorem sizeOf_part_lt {part : String × Value}
    (wellFormed : ofForm? (SchemaForm.ofValue schema) = .ok item)
    (member : part ∈ item.parts) : sizeOf part.2 < sizeOf schema := by
  cases data : item.data with
  | none => simp [parts, data] at member
  | some value =>
      simp only [parts, data, Option.elim_some] at member
      exact Nat.lt_of_lt_of_le (Value.sizeOf_part_lt member) (sizeOf_data_le wellFormed data)

theorem sizeOf_lt_of_mem_callEntries {fields : List (String × Value)} {entry : Value}
    (member : entry ∈ callEntries fields) (tag : Option Class) :
    sizeOf entry < sizeOf (Value.object tag fields) := by
  unfold callEntries at member
  split at member
  next entries found =>
    have inside : sizeOf (Value.array entries) < sizeOf (Value.object tag fields) :=
      Value.sizeOf_lt_of_lookup? (field?_eq_some_iff.mp found).1
    have smaller := List.sizeOf_lt_of_mem member
    simp only [Value.array.sizeOf_spec] at inside
    omega
  next => simp at member

theorem sizeOf_result_lt {call : Call}
    (wellFormed : ofForm? (SchemaForm.ofValue schema) = .ok item)
    (member : call ∈ item.calls.getD []) : sizeOf call.result < sizeOf schema := by
  cases form : SchemaForm.ofValue schema with
  | shorthand kind value =>
      rw [form] at wellFormed
      cases wellFormed
      simp at member
  | explicit tag fields =>
      rw [form] at wellFormed
      rw [SchemaForm.value_of_explicit form]
      obtain ⟨entry, isEntry, read⟩ := mem_of_forall₂ (forall₂_callEntries wellFormed) member
      have entrySmaller := sizeOf_lt_of_mem_callEntries isEntry
      have resultSmaller : sizeOf call.result ≤ sizeOf entry := by
        obtain ⟨entryTag, entryFields, rfl, rfl⟩ := ofFields_of_call? read
        rw [Call.ofFields]
        cases found : Fields.lookup? "result" entryFields with
        | none =>
            simp
            omega
        | some value =>
            exact Nat.le_of_lt (Value.sizeOf_lt_of_lookup? found)
      exact Nat.lt_of_le_of_lt resultSmaller (entrySmaller tag)

end Item

end SchemaMatch
