import SchemaMatch.Proofs.Check.FirstFailure
import SchemaMatch.Proofs.Number.Integer
import SchemaMatch.Proofs.Schema.Expansion
import SchemaMatch.Proofs.Value.Rearrangement

/-!
Contract: values as schemas of themselves.

Owns:
- the values that describe themselves: without not-a-number, which equals nothing, and without
  objects that read as items written out;
- the obligations of data that is the same as its schema up to the order of fields, all of which
  hold, under any options;
- `Check.run_same_up_to_order`: a check of such data passes.

The marker inside an object is a declared key like any other, so it is no extra key; the walk
does not compare it.

Does not own: the sameness of values.
-/

namespace SchemaMatch

variable {σ : Type}

/-! ## Values that describe themselves -/

/-- Whether a value has no not-a-number in it, and no object that reads as an item written
out. -/
def Value.describesItself : Value → Bool :=
  everywhere fun
    | .number value => !value.isNaN
    | .object _ fields => !SchemaForm.isExplicit fields
    | _ => true

namespace Value

variable {data schema : Value} {kind : Kind}

theorem shorthand_of_describesItself (describes : schema.describesItself = true) :
    ∃ kind, SchemaForm.ofValue schema = .shorthand kind schema := by
  have here := holds_of_everywhere describes
  cases schema with
  | object tag fields =>
      simp only [Bool.not_eq_true'] at here
      exact ⟨.object, by rw [SchemaForm.ofValue_object, if_neg (by simp [here])]⟩
  | _ => exact ⟨_, rfl⟩

theorem hasKind_of_shorthand (form : SchemaForm.ofValue schema = .shorthand kind schema) :
    schema.hasKind kind = true := by
  cases schema with
  | object tag fields => rw [(SchemaForm.of_shorthand_object form).1]; rfl
  | _ => cases form; rfl

theorem exists_of_hasKind_string (isString : schema.hasKind .string = true) :
    ∃ text, schema = .string text := by
  cases schema <;> first | exact ⟨_, rfl⟩ | cases isString

theorem exists_of_hasKind_date (isDate : schema.hasKind .date = true) :
    ∃ instant, schema = .date instant := by
  cases schema <;> first | exact ⟨_, rfl⟩ | cases isDate

theorem exists_of_hasKind_array (isArray : schema.hasKind .array = true) :
    ∃ items, schema = .array items := by
  cases schema <;> first | exact ⟨_, rfl⟩ | cases isArray

/-- Of the values whose shape says object, only objects have parts. -/
theorem exists_of_shorthand_object {part : String × Value}
    (form : SchemaForm.ofValue schema = .shorthand .object schema) (member : part ∈ schema.parts) :
    ∃ tag fields, schema = .object tag fields := by
  cases schema with
  | object tag fields => exact ⟨tag, fields, rfl⟩
  | array items => cases form
  | _ => cases member

theorem SameUpToOrder.hasKind_eq (alike : SameUpToOrder data schema) (kind : Kind) :
    data.hasKind kind = schema.hasKind kind := by
  cases alike with
  | same => rfl
  | strict equal => cases data <;> cases schema <;> first | cases equal; done | (cases kind <;> rfl)
  | regex source => cases kind <;> rfl
  | array items => cases kind <;> rfl
  | object leftTag rightTag keys values => cases kind <;> rfl

/-- Where a kind compares by strict equality, sameness is strict equality. -/
theorem SameUpToOrder.strictEqual (alike : SameUpToOrder data schema)
    (describes : schema.describesItself = true)
    (form : SchemaForm.ofValue schema = .shorthand kind schema) (notObject : kind ≠ .object)
    (notArray : kind ≠ .array) (notDate : kind ≠ .date) : data.strictEqual schema = true := by
  cases alike with
  | same =>
      have here := holds_of_everywhere describes
      cases data with
      | number value => exact Binary64.equal_self (by simpa using here)
      | date instant => cases form; cases notDate rfl
      | regex pattern => cases form; cases notObject rfl
      | array items => cases form; cases notArray rfl
      | object tag fields => cases notObject (SchemaForm.of_shorthand_object form).1
      | _ => simp [Value.strictEqual, Class.same]
  | strict equal => exact equal
  | regex source => cases form; cases notObject rfl
  | array items => cases form; cases notArray rfl
  | object leftTag rightTag keys values => cases notObject (SchemaForm.of_shorthand_object form).1

end Value

/-! ## Positions with data like their schema -/

/-- The data of a position is the same as its schema, which describes itself. -/
structure Position.DescribesItself (position : Position) : Prop where
  alike : position.data.SameUpToOrder position.schema
  describes : position.schema.describesItself = true
  unique : position.schema.namesUnique = true

namespace Position

variable {position : Position} {options : Options}

theorem DescribesItself.exists_item (self : position.DescribesItself) :
    ∃ kind, SchemaForm.ofValue position.schema = .shorthand kind position.schema ∧
      position.item? = .ok (Item.ofShorthand kind position.schema none) := by
  obtain ⟨kind, form⟩ := Value.shorthand_of_describesItself self.describes
  exact ⟨kind, form, Item.ofForm?_of_shorthand form⟩

/-- What shorthand asks of its expected data, it asks with itself for that data. -/
theorem holds_of_mem_expected {kind : Kind} {value : Value} {make : Value → Obligation}
    {obligation : Obligation} (self : (make value).holds = true)
    (member : obligation ∈ (Item.ofShorthand kind value none).data.toList.map make) :
    obligation.holds = true := by
  obtain ⟨expected, isExpected, rfl⟩ := List.mem_map.mp member
  simp only [Item.ofShorthand, Value.defined?] at isExpected
  split at isExpected
  · cases isExpected
  · rwa [List.mem_singleton.mp isExpected]

theorem DescribesItself.contentObligations_hold (self : position.DescribesItself) {kind : Kind}
    (form : SchemaForm.ofValue position.schema = .shorthand kind position.schema) :
    ∀ obligation ∈ position.contentObligations options (Item.ofShorthand kind position.schema none),
      obligation.holds = true := by
  have strict := self.alike.strictEqual self.describes form
  have isOfKind := Value.hasKind_of_shorthand form
  have alike := self.alike
  intro obligation member
  unfold contentObligations at member
  cases kind with
  | boolean => exact holds_of_mem_expected (strict (by simp) (by simp) (by simp)) member
  | number => exact holds_of_mem_expected (strict (by simp) (by simp) (by simp)) member
  | undefined => exact holds_of_mem_expected (strict (by simp) (by simp) (by simp)) member
  | function => exact holds_of_mem_expected (strict (by simp) (by simp) (by simp)) member
  | null => cases member
  | string =>
      have equal := strict (by simp) (by simp) (by simp)
      obtain ⟨text, isText⟩ := Value.exists_of_hasKind_string isOfKind
      rw [isText] at member equal
      obtain rfl := List.mem_singleton.mp member
      exact equal
  | date =>
      obtain ⟨instant, isDate⟩ := Value.exists_of_hasKind_date isOfKind
      rw [isDate] at alike member
      refine holds_of_mem_expected ?_ member
      rw [alike.of_date_right]
      simp [Check.mayEqualDate]
  | array =>
      obtain ⟨items, isArray⟩ := Value.exists_of_hasKind_array isOfKind
      rw [isArray] at alike member
      obtain ⟨values, isValues, each⟩ := alike.of_array_right
      simp only [lengthObligations, isValues] at member
      refine holds_of_mem_expected ?_ member
      simp [Item.parts_ofShorthand, Value.parts, each.length_eq]
  | object =>
      rcases List.mem_append.mp member with isClass | isKey
      · cases isClass
      · split at isKey
        · cases isKey
        · obtain ⟨key, ofData, rfl⟩ := List.mem_map.mp isKey
          have declared : key ∈ position.schema.keys := alike.keys_perm.mem_iff.mp ofData
          simpa [declaredKeys, Item.parts_ofShorthand, Value.map_fst_parts] using declared

theorem DescribesItself.obligations_hold (self : position.DescribesItself) :
    ∀ obligation ∈ position.obligations options, obligation.holds = true := by
  obtain ⟨kind, form, read⟩ := self.exists_item
  intro obligation member
  rw [obligations_of_item read, List.mem_cons] at member
  rcases member with rfl | member
  · show position.data.hasKind kind = true
    rw [self.alike.hasKind_eq, Value.hasKind_of_shorthand form]
  · exact self.contentObligations_hold form obligation member

/-- The children of a position are like their schemas if the position is. -/
theorem DescribesItself.child (self : position.DescribesItself) :
    ∀ child ∈ position.children, child.DescribesItself := by
  intro child member
  obtain ⟨kind, form, readSelf⟩ := self.exists_item
  have isOfKind := Value.hasKind_of_shorthand form
  have alike := self.alike
  have ofPart : ∀ part ∈ position.schema.parts, child.data.SameUpToOrder part.2 →
      child.schema = part.2 → child.DescribesItself := by
    intro part isPart alikeBelow isSchema
    exact ⟨isSchema ▸ alikeBelow, isSchema ▸ Value.everywhere_of_mem_parts self.describes isPart,
      isSchema ▸ Value.everywhere_of_mem_parts self.unique isPart⟩
  obtain ⟨item, read, below⟩ := cases_of_mem_children member
  obtain rfl := Except.ok.inj (readSelf.symm.trans read)
  rw [Item.parts_ofShorthand] at below
  rcases below with ⟨isObject, part, isPart, -, rfl⟩ |
    ⟨isArray, values, index, value, schema, isValues, isValue, isSchema, rfl⟩
  · cases isObject
    refine ofPart part isPart ?_ rfl
    obtain ⟨tag, fields, isFields⟩ := Value.exists_of_shorthand_object form isPart
    rw [isFields] at isPart alike
    exact alike.get_of_mem_fields (isFields ▸ self.unique) isPart
  · cases isArray
    obtain ⟨part, isPart, rfl⟩ := List.mem_map.mp (List.mem_of_getElem? isSchema)
    refine ofPart part isPart ?_ rfl
    obtain ⟨items, isItems⟩ := Value.exists_of_hasKind_array isOfKind
    rw [isItems, Value.map_snd_parts_array] at isSchema
    rw [isItems, isValues] at alike
    obtain ⟨_, ⟨⟩, each⟩ := alike.of_array_right
    exact List.forall₂_zip each
      (List.mem_of_getElem? (List.getElem?_zip_eq_some.mpr ⟨isValue, isSchema⟩))

end Position

/-- No call is declared where no item is written out. -/
theorem CallFree.of_describesItself {schema : Value} (describes : schema.describesItself = true) :
    CallFree schema := by
  obtain ⟨kind, form⟩ := Value.shorthand_of_describesItself describes
  have read := Item.ofForm?_of_shorthand form
  refine .of_item _ read rfl rfl fun other isBelow => ?_
  have smaller := Item.sizeOf_below_lt read isBelow
  have isPart := Item.mem_parts_of_mem_below isBelow
  rw [Item.parts_ofShorthand] at isPart
  obtain ⟨part, inParts, rfl⟩ := List.mem_map.mp isPart
  exact of_describesItself (Value.everywhere_of_mem_parts describes inParts)
termination_by sizeOf schema

namespace Check

/-- Data passes a check against a value that it is equal to up to the order of fields and up to
class tags, whatever the options are, and leaves no trace. Not-a-number and objects that read as
items written out are excepted. -/
theorem run_same_up_to_order (host : Host σ) {data schema : Value} (options : Options)
    (session : Session σ) (alike : data.SameUpToOrder schema)
    (describes : schema.describesItself = true) (unique : schema.namesUnique = true) :
    (run host data schema options).finish session = (.ok (), session) := by
  have self : (Position.root data schema).DescribesItself := ⟨alike, describes, unique⟩
  have callFree : CallFree (Position.root data schema).schema := .of_describesItself describes
  have allHold : firstFailure
      ((Position.root data schema).preorder.flatMap (Position.obligations options)) = .ok () := by
    rw [firstFailure_eq_ok_iff]
    intro obligation member
    obtain ⟨position, isPosition, isOwn⟩ := List.mem_flatMap.mp member
    have selfBelow :=
      Position.forall_mem_preorder (fun _ => Position.DescribesItself.child) self position isPosition
    exact selfBelow.obligations_hold obligation isOwn
  rw [run_eq_reporting_steps, Position.steps_of_callFree options _ callFree,
    Step.performAll_require, allHold, Run.finish_reporting, Run.finish_settle]

/-- A strict order with a reserved name, against a tagged copy in another order. -/
theorem run_shuffled_order_against_order :
    let host : Host Unit := ⟨fun _ _ _ _ => ⟨.ok .undefined, [], ()⟩⟩
    let shirt : Class := .defined 1 "Shirt"
    let placed : Timestamp := ⟨0, 0, by decide⟩
    let label : Pattern := ⟨"^", .assertion .textStart⟩
    let lines (tag : Option Class) (negative : Bool) : Value := .array
      [.object tag [("class", .classTag shirt), ("price", .number (.zero negative))], .null]
    let schema : Value := .object none
      [("type", .string "order"), ("placed", .date placed), ("label", .regex label),
        ("lines", lines none false), ("note", .undefined), ("total", .function ⟨7, some "total"⟩),
        (SchemaForm.markerKey, .bool false)]
    let data : Value := .object (some (.extending 2 "Order" (.builtin .object)))
      [(SchemaForm.markerKey, .bool false), ("note", .undefined), ("label", .regex label),
        ("lines", lines (some shirt) true), ("total", .function ⟨7, some "total"⟩),
        ("type", .string "order"), ("placed", .date placed)]
    data.SameUpToOrder schema ∧ schema.describesItself = true ∧ schema.namesUnique = true ∧
      (run host data schema ⟨some false⟩).finish ⟨(), []⟩ = (.ok (), ⟨(), []⟩) := by
  intro host shirt placed label lines schema data
  have line : Value.SameUpToOrder
      (.object (some shirt) [("class", .classTag shirt), ("price", .number (.zero true))])
      (.object none [("class", .classTag shirt), ("price", .number (.zero false))]) := by
    refine .object _ _ (.refl _) fun key isKey => ?_
    rcases List.mem_pair.mp isKey with rfl | rfl
    · exact .same _
    · exact .strict rfl
  have alikeLines : Value.SameUpToOrder (lines (some shirt) true) (lines none false) :=
    .array (.cons line (.cons (.same _) .nil))
  have alike : data.SameUpToOrder schema := by
    refine .object _ _ (by decide) fun key isKey => ?_
    by_cases isLines : key = "lines"
    · subst isLines
      exact alikeLines
    · simp only [Fields.keys, List.map_cons, List.map_nil, List.mem_cons, isLines, false_or,
        List.not_mem_nil, or_false] at isKey
      rcases isKey with rfl | rfl | rfl | rfl | rfl | rfl <;> exact .same _
  have describes : schema.describesItself = true := by decide
  have unique : schema.namesUnique = true := by decide
  exact ⟨alike, describes, unique, run_same_up_to_order host ⟨some false⟩ _ alike describes unique⟩

end Check

end SchemaMatch
