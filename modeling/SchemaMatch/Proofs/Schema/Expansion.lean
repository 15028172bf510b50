import SchemaMatch.Check.Engine
import SchemaMatch.Proofs.Schema.Reading

/-!
Contract: schemas with every shorthand written out.

Owns:
- the expansion of a schema value, which reaches every schema a check may reach in the data of
  items;
- the tree of an expanded schema, which is the tree of the schema;
- `Check.run_expand`: a check does not tell a schema from its expansion.

Malformed items are left as they are, and so are items of other kinds than objects and arrays,
the results of their calls included: what stands there is quoted by mismatches.

Does not own: the walk along the tree.
-/

namespace SchemaMatch

/-! ## Expansion -/

/-- A shorthand written out, with the setting that its marker makes. -/
def Value.writeOut (kind : Kind) (data : Value) (setting : Option Bool) : Value :=
  .object none
    (("type", .string kind.name) :: ("data", data) ::
      setting.toList.map fun permits => ("allowExtraKeys", .bool permits))

/-- The setting that the marker of a shorthand makes. -/
def SchemaForm.setting? (form : SchemaForm) : Option Bool :=
  form.marker?.map Policy.ofMarker

/-- Whether the fields are those of a well-formed item of kind object or array. -/
def Item.holdsSchemas (fields : List (String × Value)) : Bool :=
  match ofFields? fields with
  | .ok item => item.kind = .object || item.kind = .array
  | .error _ => false

namespace Value

mutual

/-- Write out a schema at every depth. -/
def expand : Value → Value
  | .array items => writeOut .array (.array (expandItems items)) none
  | .object tag fields =>
      if SchemaForm.isExplicit fields then
        .object tag (if Item.holdsSchemas fields then expandData fields else fields)
      else
        writeOut .object (.object tag (expandFields fields))
          (SchemaForm.shorthand .object (.object tag fields)).setting?
  | leaf => (SchemaForm.ofValue leaf).toValue

def expandItems : List Value → List Value
  | [] => []
  | item :: rest => expand item :: expandItems rest

/-- The marker is no schema. -/
def expandFields : List (String × Value) → List (String × Value)
  | [] => []
  | (key, value) :: rest =>
      (key, if key = SchemaForm.markerKey then value else expand value) :: expandFields rest

/-- Expand the schemas in the data of an item. -/
def expandData : List (String × Value) → List (String × Value)
  | [] => []
  | (key, value) :: rest =>
      (key, if key = "data" then expandParts value else value) :: expandData rest

/-- Expand the schemas that objects and arrays consist of. -/
def expandParts : Value → Value
  | .array items => .array (expandItems items)
  | .object tag fields => .object tag (expandFields fields)
  | other => other

end

theorem expandItems_eq_map (items : List Value) : expandItems items = items.map expand := by
  induction items with
  | nil => rw [expandItems]; rfl
  | cons item rest inductionHypothesis => rw [expandItems, inductionHypothesis]; rfl

theorem expandFields_eq_map (fields : List (String × Value)) :
    expandFields fields = fields.map fun field =>
      (field.1, if field.1 = SchemaForm.markerKey then field.2 else expand field.2) := by
  induction fields with
  | nil => rw [expandFields]; rfl
  | cons field rest inductionHypothesis => rw [expandFields, inductionHypothesis]; rfl

theorem expandData_eq_map (fields : List (String × Value)) :
    expandData fields = fields.map fun field =>
      (field.1, if field.1 = "data" then expandParts field.2 else field.2) := by
  induction fields with
  | nil => rw [expandData]; rfl
  | cons field rest inductionHypothesis => rw [expandData, inductionHypothesis]; rfl

/-- Shorthand of any kind is written out with the schemas it consists of expanded. -/
theorem expand_of_shorthand {value data : Value} {kind : Kind}
    (form : SchemaForm.ofValue value = .shorthand kind data) :
    value.expand = writeOut kind value.expandParts (SchemaForm.ofValue value).setting? := by
  cases value with
  | array items =>
      cases form
      rw [expand, expandParts]
      rfl
  | object tag fields =>
      obtain ⟨rfl, shorthand⟩ := SchemaForm.of_shorthand_object form
      rw [expand, expandParts, SchemaForm.ofValue_object]
      simp only [shorthand, if_neg Bool.false_ne_true]
  | _ => cases form; rfl

example :
    expand (.object none [("list", .array [.null]), ("_deepCheck_allowExtraKeys", .bool false)]) =
      .object none
        [("type", .string "object"),
          ("data", .object none
            [("list", .object none
                [("type", .string "array"),
                  ("data", .array
                    [.object none [("type", .string "null"), ("data", .null)]])]),
              ("_deepCheck_allowExtraKeys", .bool false)]),
          ("allowExtraKeys", .bool false)] := rfl

theorem expand_of_explicit {value : Value} {tag : Option Class}
    {fields : List (String × Value)} (form : SchemaForm.ofValue value = .explicit tag fields) :
    value.expand =
      .object tag (if Item.holdsSchemas fields then expandData fields else fields) := by
  obtain rfl := SchemaForm.value_of_explicit form
  rw [expand, if_pos (SchemaForm.isExplicit_of_explicit form)]

end Value

/-! ## Trees of expanded parts -/

namespace Schema

/-- The trees of named parts. -/
def trees (parts : List (String × Value)) : List (String × Schema) :=
  parts.map fun part => (part.1, ofValue part.2)

theorem trees_parts_expandParts (value : Value)
    (below : ∀ part ∈ value.parts, ofValue part.2.expand = ofValue part.2) :
    trees value.expandParts.parts = trees value.parts := by
  cases value with
  | array items =>
      simp only [trees, Value.expandParts, Value.parts, Value.expandItems_eq_map,
        List.zipIdx_map, List.map_map] at below ⊢
      refine List.map_congr_left fun entry member => ?_
      have same := below _ (List.mem_map_of_mem member)
      exact Prod.ext rfl same
  | object tag fields =>
      simp only [trees, Value.expandParts, Value.parts, Value.expandFields_eq_map,
        List.map_map] at below ⊢
      refine List.map_congr_left fun field member => ?_
      refine Prod.ext rfl ?_
      show ofValue (if field.1 = SchemaForm.markerKey then field.2 else field.2.expand) = _
      split
      · rfl
      · exact below field member
  | _ => rfl

/-- Nodes of one kind with the same texts and the same trees below are the same. What the kind has
no use for may differ. -/
theorem ofWellFormed_congr {item other : Item} {own otherOwn : Option Bool}
    (kind : other.kind = item.kind)
    (sameData : item.kind ≠ .null → item.kind ≠ .object → item.kind ≠ .array →
      other.data = item.data)
    (calls : item.kind = .function → other.calls = item.calls)
    (tag : item.kind = .object → other.tag = item.tag)
    (sameOwn : item.kind = .object → otherOwn = own)
    (given : item.kind = .array → other.data.isSome = item.data.isSome)
    (below : item.kind = .object ∨ item.kind = .array → trees other.parts = trees item.parts) :
    ofWellFormed other otherOwn = ofWellFormed item own := by
  unfold ofWellFormed
  rw [kind]
  cases isKind : item.kind with
  | null => rfl
  | object =>
      simp only [tag isKind, sameOwn isKind]
      exact congrArg _ (below (.inl isKind))
  | array =>
      have elements : (other.parts.map fun part => ofValue part.2) =
          item.parts.map fun part => ofValue part.2 := by
        have snd := congrArg (List.map Prod.snd) (below (.inr isKind))
        simpa [trees, Function.comp_def] using snd
      have sameGiven := given isKind
      rw [elements]
      cases data : item.data with
      | none =>
          have otherData : other.data = none := by simpa [data] using sameGiven
          rw [otherData]
      | some value =>
          have otherGiven : other.data.isSome := by rw [sameGiven, data]; rfl
          obtain ⟨expected, otherData⟩ := Option.isSome_iff_exists.mp otherGiven
          rw [otherData]
          rfl
  | function =>
      have same := sameData (by simp [isKind]) (by simp [isKind]) (by simp [isKind])
      simp only [same, calls isKind]
  | _ =>
      have same := sameData (by simp [isKind]) (by simp [isKind]) (by simp [isKind])
      simp only [same]

end Schema

/-! ## Expanded items -/

namespace Item

theorem exists_of_holdsSchemas {fields : List (String × Value)} (holds : holdsSchemas fields) :
    ∃ item, ofFields? fields = .ok item ∧ (item.kind = .object ∨ item.kind = .array) := by
  unfold holdsSchemas at holds
  split at holds
  next item read => exact ⟨item, read, by simpa using holds⟩
  next => cases holds

theorem defined?_expandParts (value : Value) :
    value.expandParts.defined? = value.defined?.map Value.expandParts := by
  cases value <;> rfl

theorem lookup?_expandData (key : String) (fields : List (String × Value)) :
    Fields.lookup? key (Value.expandData fields) =
      if key = "data" then (Fields.lookup? key fields).map Value.expandParts
      else Fields.lookup? key fields := by
  rw [Value.expandData_eq_map]
  induction fields with
  | nil => simp [Fields.lookup?]
  | cons field rest inductionHypothesis =>
      rw [List.map_cons, Fields.lookup?, Fields.lookup?, inductionHypothesis]
      by_cases same : field.1 = key
      · subst same
        by_cases isData : field.1 = "data" <;> simp [isData]
      · simp [same]

theorem field?_expandData (key : String) (fields : List (String × Value)) :
    field? key (Value.expandData fields) =
      if key = "data" then (field? key fields).map Value.expandParts else field? key fields := by
  rw [field?, field?, lookup?_expandData]
  split
  · cases Fields.lookup? key fields with
    | none => rfl
    | some value => exact defined?_expandParts value
  · rfl

theorem keys_expandData (fields : List (String × Value)) :
    Fields.keys (Value.expandData fields) = Fields.keys fields := by
  rw [Value.expandData_eq_map, Fields.keys, List.map_map]
  rfl

theorem isExplicit_expandData (fields : List (String × Value)) :
    SchemaForm.isExplicit (Value.expandData fields) = SchemaForm.isExplicit fields := by
  rw [SchemaForm.isExplicit, SchemaForm.isExplicit, keys_expandData, lookup?_expandData]
  rfl

theorem examineAll_cons_of_ok {key : String} {value : Value} (rest : List (String × Value))
    (passes : examine key value = .ok ()) :
    examineAll (definedFields ((key, value) :: rest)) = examineAll (definedFields rest) := by
  unfold definedFields
  rw [List.filter_cons]
  split
  · rw [examineAll, passes]
    rfl
  · rfl

theorem examineAll_expandData (fields : List (String × Value)) :
    examineAll (definedFields (Value.expandData fields)) = examineAll (definedFields fields) := by
  rw [Value.expandData_eq_map]
  induction fields with
  | nil => rfl
  | cons field rest inductionHypothesis =>
      obtain ⟨key, value⟩ := field
      rw [List.map_cons]
      by_cases isData : key = "data"
      · subst isData
        rw [examineAll_cons_of_ok _ rfl, examineAll_cons_of_ok _ rfl, inductionHypothesis]
      · unfold definedFields at inductionHypothesis ⊢
        rw [if_neg isData, List.filter_cons, List.filter_cons]
        split
        · rw [examineAll, examineAll, inductionHypothesis]
        · exact inductionHypothesis

theorem examineData_expandParts {kind : Kind} {data : Option Value}
    (fits : examineData kind data = .ok ()) :
    examineData kind (data.map Value.expandParts) = .ok () := by
  cases kind with
  | array =>
      cases data with
      | none => rfl
      | some value => cases value <;> first | rfl | cases fits
  | _ => rfl

/-- An item of kind object or array with the schemas in its data expanded. -/
def expand (item : Item) : Item :=
  { item with data := item.data.map Value.expandParts }

theorem ofFields?_expandData {fields : List (String × Value)} {item : Item}
    (wellFormed : ofFields? fields = .ok item) :
    ofFields? (Value.expandData fields) = .ok item.expand := by
  obtain ⟨examined, kind, data, shape, tag, calls, setting⟩ := ofFields?_eq_ok_iff.mp wellFormed
  refine ofFields?_eq_ok_iff.mpr ⟨?_, ?_, ?_, ?_, ?_, ?_, ?_⟩
  · rw [examineAll_expandData, examined]
  · rw [field?_expandData]; exact kind
  · rw [field?_expandData, ← data]; rfl
  · exact examineData_expandParts shape
  · rw [field?_expandData]; exact tag
  · rw [field?_expandData]; exact calls
  · rw [field?_expandData]; exact setting

/-- What shorthand stands for, with a setting of its own. -/
def ofShorthand (kind : Kind) (data : Value) (setting : Option Bool) : Item where
  kind := kind
  data := data.defined?
  tag := none
  calls := none
  allowExtraKeys := setting

theorem parts_ofShorthand (kind : Kind) (data : Value) (setting : Option Bool) :
    (ofShorthand kind data setting).parts = data.parts := by
  cases data <;> rfl

theorem ofForm?_of_shorthand {value data : Value} {kind : Kind}
    (form : SchemaForm.ofValue value = .shorthand kind data) :
    ofForm? (SchemaForm.ofValue value) = .ok (ofShorthand kind value none) := by
  obtain rfl := SchemaForm.value_of_shorthand form
  rw [form]
  rfl

theorem form_writeOut (kind : Kind) (data : Value) (setting : Option Bool) :
    ∃ fields, SchemaForm.ofValue (.writeOut kind data setting) = .explicit none fields ∧
      Value.writeOut kind data setting = .object none fields := by
  cases setting <;> exact ⟨_, rfl, rfl⟩

theorem ofForm?_writeOut {kind : Kind} {data : Value} (setting : Option Bool)
    (fits : examineData kind data.defined? = .ok ()) :
    ofForm? (SchemaForm.ofValue (.writeOut kind data setting)) =
      .ok (ofShorthand kind data setting) := by
  have kindRead : kind? (.string kind.name) = .ok kind := by cases kind <;> rfl
  obtain ⟨fields, form, same⟩ := form_writeOut kind data setting
  rw [form]
  cases same
  refine ofFields?_eq_ok_iff.mpr ⟨?_, ?_, ?_, ?_, ?_, ?_, ?_⟩
  · have kindPasses : examine "type" (.string kind.name) = .ok () := by
      rw [examine, kindRead]
      rfl
    rw [examineAll_cons_of_ok _ kindPasses, examineAll_cons_of_ok _ rfl]
    cases setting <;> rfl
  · exact kindRead
  · rfl
  · exact fits
  · cases setting <;> rfl
  · cases setting <;> rfl
  · cases setting <;> rfl

end Item

/-! ## Trees of expanded schemas -/

namespace Schema

/-- A node is no other for its expanded parts. -/
theorem ofWellFormed_expand {item other : Item} (own : Option Bool)
    (kind : other.kind = item.kind) (tag : other.tag = item.tag) (calls : other.calls = item.calls)
    (data : other.data = item.data.map Value.expandParts)
    (leaf : item.kind ≠ .object → item.kind ≠ .array → other.data = item.data)
    (below : ∀ part ∈ item.parts, ofValue part.2.expand = ofValue part.2) :
    ofWellFormed other own = ofWellFormed item own := by
  have given : other.data.isSome = item.data.isSome := by rw [data, Option.isSome_map]
  have parts : trees other.parts = trees item.parts := by
    unfold Item.parts at below ⊢
    rw [data]
    cases given : item.data with
    | none => rfl
    | some value =>
        rw [given] at below
        exact trees_parts_expandParts value below
  exact ofWellFormed_congr kind (fun _ => leaf) (fun _ => calls) (fun _ => tag) (fun _ => rfl)
    (fun _ => given) fun _ => parts

theorem examineData_of_shorthand {value data : Value} {kind : Kind}
    (form : SchemaForm.ofValue value = .shorthand kind data) :
    Item.examineData kind value.defined? = .ok () := by
  cases value with
  | object tag fields => rw [(SchemaForm.of_shorthand_object form).1]; rfl
  | _ => cases form; rfl

theorem expandParts_of_shorthand {value data : Value} {kind : Kind}
    (form : SchemaForm.ofValue value = .shorthand kind data) (notObject : kind ≠ .object)
    (notArray : kind ≠ .array) : value.expandParts = value := by
  cases value with
  | object tag fields => cases notObject (SchemaForm.of_shorthand_object form).1
  | array items => cases form; cases notArray rfl
  | _ => rfl

/-- Shorthand and its written-out form have the same tree. -/
theorem ofValue_expand_of_shorthand {value data : Value} {kind : Kind}
    (form : SchemaForm.ofValue value = .shorthand kind data)
    (below : ∀ part ∈ value.parts, ofValue part.2.expand = ofValue part.2) :
    ofValue value.expand = ofValue value := by
  have read : Item.ofForm? (SchemaForm.ofValue value) =
      .ok (Item.ofShorthand kind value none) := by
    rw [form, SchemaForm.value_of_shorthand form]
    rfl
  have fits : Item.examineData kind value.expandParts.defined? = .ok () := by
    rw [Item.defined?_expandParts]
    exact Item.examineData_expandParts (examineData_of_shorthand form)
  have readOut := Item.ofForm?_writeOut (SchemaForm.ofValue value).setting? fits
  -- The setting that is written out is what the marker made of the node.
  have own : ∀ setting, Policy.own?
      (SchemaForm.ofValue (.writeOut kind value.expandParts setting)).marker? setting =
        setting := by
    intro setting
    obtain ⟨fields, formOut, -⟩ := Item.form_writeOut kind value.expandParts setting
    rw [formOut]
    rfl
  have marker : Policy.own? (SchemaForm.ofValue value).marker? none =
      (SchemaForm.ofValue value).setting? := by
    unfold SchemaForm.setting?
    cases (SchemaForm.ofValue value).marker? <;> rfl
  rw [Value.expand_of_shorthand form, ofValue_of_item readOut, ofValue_of_item read]
  show ofWellFormed _ (Policy.own? _ (SchemaForm.ofValue value).setting?) =
    ofWellFormed _ (Policy.own? _ none)
  rw [own, marker]
  refine ofWellFormed_expand _ rfl rfl rfl (Item.defined?_expandParts value) ?_ ?_
  · intro notObject notArray
    exact congrArg Value.defined? (expandParts_of_shorthand form notObject notArray)
  · intro part member
    exact below part (Item.parts_ofShorthand kind value none ▸ member)

theorem ofValue_expand_of_item {tag : Option Class} {fields : List (String × Value)}
    {item : Item} (form : SchemaForm.ofValue (.object tag fields) = .explicit tag fields)
    (read : Item.ofFields? fields = .ok item)
    (holds : item.kind = .object ∨ item.kind = .array)
    (below : ∀ part ∈ item.parts, ofValue part.2.expand = ofValue part.2) :
    ofValue (.object tag (Value.expandData fields)) = ofValue (.object tag fields) := by
  have formOut : SchemaForm.ofValue (.object tag (Value.expandData fields)) =
      .explicit tag (Value.expandData fields) := by
    rw [SchemaForm.ofValue_object, Item.isExplicit_expandData,
      if_pos (SchemaForm.isExplicit_of_explicit form)]
  have readForm : Item.ofForm? (SchemaForm.ofValue (.object tag fields)) = .ok item := by
    rw [form]
    exact read
  have readOut : Item.ofForm? (SchemaForm.ofValue (.object tag (Value.expandData fields))) =
      .ok item.expand := by
    rw [formOut]
    exact Item.ofFields?_expandData read
  rw [ofValue_of_item readOut, ofValue_of_item readForm, form, formOut]
  refine ofWellFormed_expand _ rfl rfl rfl rfl (fun notObject notArray => ?_) below
  rcases holds with isObject | isArray
  · cases notObject isObject
  · cases notArray isArray

/-- A schema and its expansion have the same tree. -/
theorem ofValue_expand (value : Value) : ofValue value.expand = ofValue value := by
  cases form : SchemaForm.ofValue value with
  | shorthand kind data =>
      exact ofValue_expand_of_shorthand form fun part member =>
        have smaller := Value.sizeOf_part_lt member
        ofValue_expand part.2
  | explicit tag fields =>
      have same := SchemaForm.value_of_explicit form
      rw [Value.expand_of_explicit form]
      split
      next holds =>
        obtain ⟨item, read, holds⟩ := Item.exists_of_holdsSchemas holds
        have below : ∀ part ∈ item.parts, ofValue part.2.expand = ofValue part.2 := by
          intro part member
          have smaller : sizeOf part.2 < sizeOf value :=
            Item.sizeOf_part_lt (by rw [form]; exact read) member
          exact ofValue_expand part.2
        rw [same] at form ⊢
        exact ofValue_expand_of_item form read holds below
      next => rw [same]
termination_by sizeOf value

end Schema

/-- Checking against an expanded schema is checking against the schema. -/
theorem Check.run_expand {σ : Type} (host : Host σ) (data schema : Value) (options : Options) :
    run host data schema.expand options = run host data schema options := by
  rw [run, run, Schema.ofValue_expand]

end SchemaMatch
