import SchemaMatch.Check.Engine
import SchemaMatch.Proofs.Schema.Reading

/-!
Contract: what a check has to do, laid out flat.

Owns:
- the positions of data under a schema, in pre-order;
- the obligations of a position, in the order they count, each with the mismatch it fails with;
- the calls a position declares;
- the steps of a check, which are the obligations and calls of all positions in a row.

A position is given by values alone: no tree of nodes is built, and no step is performed.

Does not own: the walk, which is compared with these steps elsewhere.
-/

namespace SchemaMatch

/-! ## Schemas below a schema -/

/-- The schemas that an item compares parts of the data with: those of the declared keys other
than the marker, or those of the elements. -/
def Item.below (item : Item) : List Value :=
  match item.kind with
  | .object => (item.parts.filter fun part => part.1 ≠ SchemaForm.markerKey).map Prod.snd
  | .array => item.parts.map Prod.snd
  | _ => []

theorem Item.mem_parts_of_mem_below {item : Item} {below : Value} (member : below ∈ item.below) :
    below ∈ item.parts.map Prod.snd := by
  unfold Item.below at member
  split at member
  · exact List.map_subset _ (List.filter_subset_self _) member
  · exact member
  · simp at member

theorem Item.sizeOf_below_lt {schema below : Value} {item : Item}
    (read : Item.ofForm? (SchemaForm.ofValue schema) = .ok item) (member : below ∈ item.below) :
    sizeOf below < sizeOf schema := by
  obtain ⟨part, inParts, rfl⟩ := List.mem_map.mp (Item.mem_parts_of_mem_below member)
  exact Item.sizeOf_part_lt read inParts

/-! ## Positions -/

/-- A place in the data, with the schema it is checked against and the value that holds it. -/
structure Position where
  path : Path
  parent : Value
  data : Value
  schema : Value

namespace Position

/-- The whole of the data under the whole of a schema. Nothing holds it. -/
def root (data schema : Value) : Position :=
  ⟨Path.root, .undefined, data, schema⟩

/-- The item that the schema of a position stands for. -/
def item? (position : Position) : Except Violation Item :=
  Item.ofForm? (SchemaForm.ofValue position.schema)

/-- The position one segment below. -/
def child (position : Position) (segment : Segment) (data schema : Value) : Position :=
  ⟨position.path.child segment, position.data, data, schema⟩

/-- Below an object node, one position for each declared key other than the marker. -/
def fieldPositions (position : Position) (parts : List (String × Value)) : List Position :=
  (parts.filter fun part => part.1 ≠ SchemaForm.markerKey).map fun part =>
    position.child (.key part.1) (position.data.get part.1) part.2

/-- One position for each element, from an index on. -/
def elementPositions (position : Position) (index : Nat) (values schemas : List Value) :
    List Position :=
  ((values.zip schemas).zipIdx index).map fun entry =>
    position.child (.index entry.2) entry.1.1 entry.1.2

/-- Below an array node, one position for each index, if the lengths agree. -/
def itemPositions (position : Position) (item : Item) : List Position :=
  match position.data with
  | .array values =>
      if values.length = item.parts.length then
        position.elementPositions 0 values (item.parts.map Prod.snd)
      else []
  | _ => []

/-- The positions right below a position. -/
def children (position : Position) : List Position :=
  match position.item? with
  | .error _ => []
  | .ok item =>
      match item.kind with
      | .object => position.fieldPositions item.parts
      | .array => position.itemPositions item
      | _ => []

/-- A child is the field under a declared key of an object, or an element of an array. -/
theorem cases_of_mem_children {position child : Position} (member : child ∈ position.children) :
    ∃ item, position.item? = .ok item ∧
      ((item.kind = .object ∧ ∃ part ∈ item.parts, part.1 ≠ SchemaForm.markerKey ∧
          child = position.child (.key part.1) (position.data.get part.1) part.2) ∨
        (item.kind = .array ∧ ∃ values index value schema, position.data = .array values ∧
          values[index]? = some value ∧ (item.parts.map Prod.snd)[index]? = some schema ∧
          child = position.child (.index index) value schema)) := by
  cases read : position.item? with
  | error violation => simp [children, read] at member
  | ok item =>
      refine ⟨item, rfl, ?_⟩
      simp only [children, read] at member
      split at member
      next isObject =>
        obtain ⟨part, kept, rfl⟩ := List.mem_map.mp member
        obtain ⟨isPart, notMarker⟩ := List.mem_filter.mp kept
        exact .inl ⟨isObject, part, isPart, of_decide_eq_true notMarker, rfl⟩
      next isArray =>
        simp only [itemPositions] at member
        split at member
        next values isValues =>
          split at member
          · obtain ⟨entry, isEntry, rfl⟩ := List.mem_map.mp member
            obtain ⟨isValue, isSchema⟩ :=
              List.getElem?_zip_eq_some.mp (List.mem_zipIdx_iff_getElem?.mp isEntry)
            exact .inr ⟨isArray, values, entry.2, _, _, isValues, isValue, isSchema, rfl⟩
          · cases member
        next => cases member
      next => cases member

theorem schema_of_mem_children {position child : Position} (member : child ∈ position.children) :
    ∃ item, position.item? = .ok item ∧ child.schema ∈ item.below := by
  obtain ⟨item, read, ⟨kind, part, isPart, notMarker, rfl⟩ |
    ⟨kind, values, index, value, schema, -, -, isSchema, rfl⟩⟩ := cases_of_mem_children member
  · refine ⟨item, read, ?_⟩
    rw [Item.below, kind]
    exact List.mem_map.mpr ⟨part, List.mem_filter.mpr ⟨isPart, decide_eq_true notMarker⟩, rfl⟩
  · refine ⟨item, read, ?_⟩
    rw [Item.below, kind]
    exact List.mem_of_getElem? isSchema

theorem sizeOf_schema_child_lt {position child : Position}
    (member : child ∈ position.children) : sizeOf child.schema < sizeOf position.schema := by
  obtain ⟨item, read, isBelow⟩ := schema_of_mem_children member
  exact Item.sizeOf_below_lt read isBelow

/-- A position and all positions below it, in pre-order. -/
def preorder (position : Position) : List Position :=
  position :: position.children.attach.flatMap fun below => preorder below.1
termination_by sizeOf position.schema
decreasing_by exact sizeOf_schema_child_lt below.2

theorem preorder_eq (position : Position) :
    position.preorder = position :: position.children.flatMap preorder := by
  rw [preorder]
  simp [List.flatMap_subtype]

theorem sizeOf_schema_le_of_mem_preorder {position below : Position}
    (member : below ∈ position.preorder) : sizeOf below.schema ≤ sizeOf position.schema := by
  rw [preorder_eq, List.mem_cons, List.mem_flatMap] at member
  rcases member with rfl | ⟨child, isChild, member⟩
  · exact Nat.le_refl _
  · have smaller := sizeOf_schema_child_lt isChild
    have inside := sizeOf_schema_le_of_mem_preorder member
    omega
termination_by sizeOf position.schema
decreasing_by exact sizeOf_schema_child_lt isChild

/-- What the children keep of a position holds of all positions below it. -/
theorem forall_mem_preorder {holds : Position → Prop}
    (kept : ∀ position, holds position → ∀ child ∈ position.children, holds child)
    {position : Position} (start : holds position) :
    ∀ below ∈ position.preorder, holds below := by
  intro below member
  rw [preorder_eq, List.mem_cons, List.mem_flatMap] at member
  rcases member with rfl | ⟨child, isChild, member⟩
  · exact start
  · have smaller := sizeOf_schema_child_lt isChild
    exact forall_mem_preorder kept (kept position start child isChild) below member
termination_by sizeOf position.schema

end Position

/-! ## Obligations -/

/-- The kinds as classes of values. Null is an object. -/
def Value.hasKind : Value → Kind → Bool
  | .bool _, .boolean => true
  | .number _, .number => true
  | .undefined, .undefined => true
  | .string _, .string => true
  | .null, .null => true
  | .date _, .date => true
  | .function _, .function => true
  | .classTag _, .function => true
  | .array _, .array => true
  | .object .., .object => true
  | .array _, .object => true
  | .date _, .object => true
  | .regex _, .object => true
  | .null, .object => true
  | _, _ => false

/-- Something that must hold at a position, and how a check fails if it does not. -/
structure Obligation where
  holds : Bool
  failure : Mismatch

/-- The first obligation that does not hold decides. -/
def firstFailure : List Obligation → Except Mismatch Unit
  | [] => .ok ()
  | obligation :: rest =>
      if obligation.holds then firstFailure rest else .error obligation.failure

/-- The first policy that is given decides whether undeclared keys are tolerated. Without any they
are. -/
def firstPolicy (given : List (Option Bool)) : Bool :=
  (given.findSome? id).getD true

theorem Policy.permitsExtraKeys_eq_firstPolicy (marker : Option Value) (setting : Option Bool)
    (options : Options) :
    permitsExtraKeys marker setting options =
      firstPolicy [marker.map ofMarker, setting, options.allowExtraKeys] := by
  obtain ⟨allowed⟩ := options
  cases marker with
  | some value => rfl
  | none =>
      cases setting with
      | some own => rfl
      | none => cases allowed <;> rfl

namespace Position

/-- The keys that an item declares, the marker included. -/
def declaredKeys (item : Item) : List String :=
  item.parts.map Prod.fst

/-- Whether undeclared keys are tolerated: the marker of the node, its own setting and the
options decide, in this order. -/
def permitsExtraKeys (position : Position) (item : Item) (options : Options) : Bool :=
  firstPolicy [(SchemaForm.ofValue position.schema).marker?.map Policy.ofMarker,
    item.allowExtraKeys, options.allowExtraKeys]

/-- The walk resolves the policy of a node in that order. -/
theorem permitsExtraKeys_eq_policy (position : Position) (item : Item) (options : Options) :
    position.permitsExtraKeys item options =
      Policy.permitsExtraKeys (SchemaForm.ofValue position.schema).marker? item.allowExtraKeys
        options :=
  (Policy.permitsExtraKeys_eq_firstPolicy _ _ options).symm

/-- The data is strictly equal to what is expected, if anything is. -/
def valueObligations (position : Position) (item : Item) : List Obligation :=
  item.data.toList.map fun expected =>
    { holds := position.data.strictEqual expected
      failure := .value position.path position.data.display expected.display }

/-- A string meets each of its checks. -/
def stringObligation (position : Position) (check : Value) : Obligation :=
  match check with
  | .regex pattern =>
      { holds := pattern.isMatch position.data.display
        failure := .pattern position.path position.data.display check.display }
  | expected =>
      { holds := position.data.strictEqual expected
        failure := .value position.path position.data.display expected.display }

/-- A date has the text of the expected date or string. -/
def dateObligations (position : Position) (item : Item) : List Obligation :=
  item.data.toList.map fun expected =>
    { holds := Check.mayEqualDate expected && position.data.display == expected.display
      failure := .date position.path position.data.display expected.display }

/-- A callable is the expected one, if one is. -/
def functionObligations (position : Position) (item : Item) : List Obligation :=
  item.data.toList.map fun expected =>
    { holds := position.data.strictEqual expected
      failure := .function position.path }

/-- An array has as many elements as its item, if that has data. -/
def lengthObligations (position : Position) (item : Item) : List Obligation :=
  match position.data with
  | .array values =>
      item.data.toList.map fun _ =>
        { holds := values.length == item.parts.length
          failure := .length position.path values.length item.parts.length }
  | _ => []

/-- An object is an instance of the class of its item, if that has one. -/
def classObligations (position : Position) (item : Item) : List Obligation :=
  item.tag.toList.map fun tag =>
    { holds := tag.hasInstance position.data
      failure := .class_ position.path }

/-- Each key of the data is declared. -/
def keyObligations (position : Position) (item : Item) : List Obligation :=
  position.data.keys.map fun key =>
    { holds := (declaredKeys item).contains key
      failure := .extraKey position.path key }

/-- What an item asks of data of its kind. -/
def contentObligations (options : Options) (position : Position) (item : Item) :
    List Obligation :=
  match item.kind with
  | .boolean => position.valueObligations item
  | .number => position.valueObligations item
  | .undefined => position.valueObligations item
  | .string => (Schema.stringChecks item.data).map position.stringObligation
  | .null => []
  | .date => position.dateObligations item
  | .function => position.functionObligations item
  | .array => position.lengthObligations item
  | .object =>
      position.classObligations item ++
        if position.permitsExtraKeys item options then [] else position.keyObligations item

/-- The obligations of a position: a well-formed item, data of its kind, and what the item
asks of such data. -/
def obligations (options : Options) (position : Position) : List Obligation :=
  match position.item? with
  | .error violation => [{ holds := false, failure := .malformedSchema violation }]
  | .ok item =>
      { holds := position.data.hasKind item.kind
        failure := .type position.path item.kind } ::
          position.contentObligations options item

theorem obligations_of_item {position : Position} {item : Item}
    (read : position.item? = .ok item) (options : Options) :
    position.obligations options =
      { holds := position.data.hasKind item.kind
        failure := .type position.path item.kind } ::
          position.contentObligations options item := by
  simp only [obligations, read]

/-- The forms that the obligations of a position take, by the mismatch they fail with. -/
inductive Asks (position : Position) : Obligation → Prop where
  | wellFormed (violation : Violation) :
      Asks position ⟨false, .malformedSchema violation⟩
  | kind (holds : Bool) (expected : Kind) : Asks position ⟨holds, .type position.path expected⟩
  | value (holds : Bool) (expected : String) :
      Asks position ⟨holds, .value position.path position.data.display expected⟩
  | pattern (holds : Bool) (source : String) :
      Asks position ⟨holds, .pattern position.path position.data.display source⟩
  /-- Only a date item asks for a date. -/
  | date (item : Item) (expected : Value) (read : position.item? = .ok item)
      (isDate : item.kind = .date) (isData : item.data = some expected) :
      Asks position
        ⟨Check.mayEqualDate expected && position.data.display == expected.display,
          .date position.path position.data.display expected.display⟩
  | function (holds : Bool) : Asks position ⟨holds, .function position.path⟩
  | length (holds : Bool) (actual expected : Nat) :
      Asks position ⟨holds, .length position.path actual expected⟩
  | class_ (holds : Bool) : Asks position ⟨holds, .class_ position.path⟩
  | key (holds : Bool) (key : String) : Asks position ⟨holds, .extraKey position.path key⟩

section Asks

variable {position : Position} {item : Item} {obligation : Obligation} {options : Options}

theorem asks_of_mem_map {α : Type} {entries : List α} {make : α → Obligation}
    (asks : ∀ entry ∈ entries, position.Asks (make entry)) (member : obligation ∈ entries.map make) :
    position.Asks obligation := by
  obtain ⟨entry, isEntry, rfl⟩ := List.mem_map.mp member
  exact asks entry isEntry

theorem asks_stringObligation (check : Value) :
    position.Asks (position.stringObligation check) := by
  cases check with
  | regex pattern => exact .pattern _ _
  | _ => exact .value _ _

theorem asks_of_mem_contentObligations (read : position.item? = .ok item)
    (member : obligation ∈ position.contentObligations options item) :
    position.Asks obligation := by
  unfold contentObligations at member
  cases kind : item.kind with
  | boolean => rw [kind] at member; exact asks_of_mem_map (fun _ _ => .value _ _) member
  | number => rw [kind] at member; exact asks_of_mem_map (fun _ _ => .value _ _) member
  | undefined => rw [kind] at member; exact asks_of_mem_map (fun _ _ => .value _ _) member
  | string =>
      rw [kind] at member
      exact asks_of_mem_map (fun check _ => asks_stringObligation check) member
  | null => rw [kind] at member; cases member
  | date =>
      rw [kind] at member
      refine asks_of_mem_map (fun expected isExpected => ?_) member
      exact .date item expected read kind (Option.mem_toList.mp isExpected)
  | function => rw [kind] at member; exact asks_of_mem_map (fun _ _ => .function _) member
  | array =>
      rw [kind] at member
      simp only [lengthObligations] at member
      split at member
      · exact asks_of_mem_map (fun _ _ => .length _ _ _) member
      · cases member
  | object =>
      rw [kind] at member
      rcases List.mem_append.mp member with ofClass | ofKeys
      · exact asks_of_mem_map (fun _ _ => .class_ _) ofClass
      · split at ofKeys
        · cases ofKeys
        · exact asks_of_mem_map (fun _ _ => .key _ _) ofKeys

theorem asks_of_mem_obligations (member : obligation ∈ position.obligations options) :
    position.Asks obligation := by
  cases read : position.item? with
  | error violation =>
      simp only [obligations, read] at member
      rw [List.mem_singleton.mp member]
      exact .wellFormed violation
  | ok item =>
      rw [obligations_of_item read] at member
      rcases List.mem_cons.mp member with rfl | ofContent
      · exact .kind _ _
      · exact asks_of_mem_contentObligations read ofContent

end Asks

end Position

/-! ## Calls and steps -/

/-- A declared call: what is called, on what, and how the result is checked. -/
structure CallSite where
  path : Path
  index : Nat
  target : Value
  receiver : Value
  call : Call

/-- A step of a check. -/
inductive Step where
  | require (obligation : Obligation)
  | make (site : CallSite)

namespace Step

def site? : Step → Option CallSite
  | .require _ => none
  | .make site => some site

/-- The calls among some steps. -/
def sites (steps : List Step) : List CallSite :=
  steps.filterMap site?

theorem sites_append (steps rest : List Step) : sites (steps ++ rest) = sites steps ++ sites rest :=
  List.filterMap_append

end Step

namespace Position

/-- The calls that a function node declares, in order. They are made on the data, and the value
that holds the data receives them. -/
def callSites (position : Position) : List CallSite :=
  match position.item? with
  | .error _ => []
  | .ok item =>
      match item.kind with
      | .function =>
          (item.calls.getD []).zipIdx.map fun entry =>
            ⟨position.path, entry.2, position.data, position.parent, entry.1⟩
      | _ => []

theorem callSites_of_not_function {position : Position} {item : Item}
    (read : position.item? = .ok item) (notFunction : item.kind ≠ .function) :
    position.callSites = [] := by
  simp only [callSites, read]

theorem mem_calls_of_mem_callSites {position : Position} {site : CallSite}
    (member : site ∈ position.callSites) :
    ∃ item, position.item? = .ok item ∧ site.call ∈ item.calls.getD [] := by
  cases read : position.item? with
  | error violation => simp [callSites, read] at member
  | ok item =>
      refine ⟨item, rfl, ?_⟩
      simp only [callSites, read] at member
      split at member
      · obtain ⟨entry, isEntry, rfl⟩ := List.mem_map.mp member
        exact List.fst_mem_of_mem_zipIdx isEntry
      · simp at member

/-- All calls that a check declares, in the order of its positions. -/
def allCallSites (position : Position) : List CallSite :=
  position.preorder.flatMap callSites

theorem sizeOf_result_lt_of_mem_allCallSites {position : Position} {site : CallSite}
    (member : site ∈ position.allCallSites) :
    sizeOf site.call.result < sizeOf position.schema := by
  obtain ⟨below, isBelow, isSite⟩ := List.mem_flatMap.mp member
  obtain ⟨item, read, isCall⟩ := mem_calls_of_mem_callSites isSite
  exact Nat.lt_of_lt_of_le (Item.sizeOf_result_lt read isCall)
    (sizeOf_schema_le_of_mem_preorder isBelow)

/-- The obligations of one position, then its calls. -/
def ownSteps (options : Options) (position : Position) : List Step :=
  (position.obligations options).map Step.require ++ position.callSites.map Step.make

/-- The steps of a position and of all positions below it. -/
def steps (options : Options) (position : Position) : List Step :=
  position.preorder.flatMap (ownSteps options)

theorem steps_eq (options : Options) (position : Position) :
    position.steps options =
      position.ownSteps options ++ position.children.flatMap (steps options) := by
  rw [steps, preorder_eq, List.flatMap_cons, List.flatMap_assoc]
  rfl

theorem sites_steps (options : Options) (position : Position) :
    Step.sites (position.steps options) = position.allCallSites := by
  have own : ∀ other : Position, Step.sites (other.ownSteps options) = other.callSites := by
    intro other
    simp [Step.sites, ownSteps, List.filterMap_map, Function.comp_def, Step.site?]
  rw [steps, allCallSites, Step.sites, List.filterMap_flatMap]
  exact List.flatMap_congr fun other _ => own other

end Position

end SchemaMatch
