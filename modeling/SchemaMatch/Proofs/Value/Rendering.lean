import SchemaMatch.Proofs.Number.Integer
import SchemaMatch.Proofs.Value.Reordering
import SchemaMatch.Proofs.Value.Traversal
import SchemaMatch.Proofs.Value.Wrapper
import SchemaMatch.Value.Equality

/-!
Contract: values as documents.

Owns:
- what keeps a value from having a document: a callable or a number that is not finite;
- what a document keeps of a value;
- documents that differ in the notation of numbers only;
- `Value.toJson?_exact`: a value is rendered unless one of its parts has no document, reading
  the document back gives what it keeps of the value, and a document that is read and rendered
  stays the same up to the notation of its numbers.

Does not own: the text of documents.
-/

namespace SchemaMatch

/-! ## What has no document -/

namespace Value

/-- Why a value has no document, whatever is inside it. -/
def renderingObstacle? : Value → Option ConversionError
  | .number value => if value.isFinite then none else some (.invalidFloat value)
  | .function value => some (.unsupportedType (Value.function value).typeName)
  | .classTag value => some (.unsupportedType (Value.classTag value).typeName)
  | _ => none

theorem cause?_numberToJson? (number : Binary64) :
    cause? (numberToJson? number) =
      if number.isFinite then none else some (.invalidFloat number) := by
  unfold numberToJson?
  split
  next value isInteger =>
    have finite : number.isFinite = true := by
      cases number with
      | finite => rfl
      | _ => cases isInteger
    rw [if_pos finite]
    split <;> rfl
  next => split <;> rfl

theorem cause?_toJsonItems? (items : List Value) :
    cause? (toJsonItems? items) = items.findSome? fun item => cause? (toJson? item) := by
  induction items with
  | nil => rfl
  | cons item rest inductionHypothesis =>
      rw [toJsonItems?, cause?_bind_bind_pure, inductionHypothesis, List.findSome?_cons]
      cases cause? (toJson? item) <;> rfl

/-- A field that is defined is rendered, the fields behind it after it. -/
theorem toJsonFields?_cons_of_defined {value : Value} (defined : value.isUndefined = false)
    (key : String) (rest : List (String × Value)) :
    toJsonFields? ((key, value) :: rest) = (do
      let json ← toJson? value
      return (key, json) :: (← toJsonFields? rest)) := by
  cases value with
  | undefined => cases defined
  | _ => rfl

theorem cause?_toJsonFields? (fields : List (String × Value)) :
    cause? (toJsonFields? fields) = fields.findSome? fun field => cause? (toJson? field.2) := by
  induction fields with
  | nil => rfl
  | cons field rest inductionHypothesis =>
      obtain ⟨key, value⟩ := field
      rw [List.findSome?_cons, ← inductionHypothesis]
      by_cases undefined : value.isUndefined = true
      · cases value with
        | undefined => rfl
        | _ => cases undefined
      · rw [toJsonFields?_cons_of_defined (Bool.eq_false_iff.mpr undefined),
          cause?_bind_bind_pure]
        cases cause? (toJson? value) <;> rfl

theorem toJson?_goesThrough : GoesThrough toJson? renderingObstacle? where
  leaf value leaf := by
    cases value with
    | array items => cases leaf
    | object tag fields => cases leaf
    | number value => rw [toJson?, cause?_bind_pure, cause?_numberToJson?]; rfl
    | _ => rfl
  container value container := by
    cases value with
    | array items => rfl
    | object tag fields => rfl
    | _ => cases container
  array items := by rw [toJson?, cause?_bind_pure, cause?_toJsonItems?]
  object tag fields := by rw [toJson?, cause?_bind_pure, cause?_toJsonFields?]

/-! ## What documents keep -/

mutual

/-- What a document keeps of a value: no class tag, no undefined field and no other undefined
value, of a date its text and of a regex an object. -/
def erased : Value → Value
  | .undefined => .null
  | .date value => .string value.isoText
  | .regex _ => .object none []
  | .array items => .array (erasedItems items)
  | .object _ fields => .object none (erasedFields fields)
  | value => value

def erasedItems : List Value → List Value
  | [] => []
  | item :: rest => erased item :: erasedItems rest

def erasedFields : List (String × Value) → List (String × Value)
  | [] => []
  | (key, value) :: rest =>
      if value.isUndefined then erasedFields rest else (key, erased value) :: erasedFields rest

end

theorem isUndefined_erased (value : Value) : value.erased.isUndefined = false := by
  cases value <;> rfl

mutual

/-- What a document does not keep plays no part in it. -/
theorem toJson?_erased (value : Value) : toJson? value.erased = toJson? value :=
  match value with
  | .undefined | .null | .bool _ | .number _ | .string _ | .date _ | .regex _ | .function _
  | .classTag _ => rfl
  | .array items => by rw [erased, toJson?, toJson?, toJsonItems?_erasedItems]
  | .object _ fields => by rw [erased, toJson?, toJson?, toJsonFields?_erasedFields]

theorem toJsonItems?_erasedItems (items : List Value) :
    toJsonItems? (erasedItems items) = toJsonItems? items :=
  match items with
  | [] => rfl
  | item :: rest => by
      rw [erasedItems, toJsonItems?, toJsonItems?, toJson?_erased item,
        toJsonItems?_erasedItems rest]

theorem toJsonFields?_erasedFields (fields : List (String × Value)) :
    toJsonFields? (erasedFields fields) = toJsonFields? fields :=
  match fields with
  | [] => rfl
  | (key, value) :: rest => by
      have later := toJsonFields?_erasedFields rest
      by_cases undefined : value.isUndefined = true
      · rw [erasedFields, if_pos undefined, later]
        cases value with
        | undefined => rfl
        | _ => cases undefined
      · have defined := Bool.eq_false_iff.mpr undefined
        rw [erasedFields, if_neg undefined,
          toJsonFields?_cons_of_defined (isUndefined_erased value),
          toJsonFields?_cons_of_defined defined, toJson?_erased value, later]

end

/-! ## Reading back -/

theorem equal_toBinary64 {number : Binary64} {rendered : JsonNumber}
    (isRendered : numberToJson? number = .ok rendered) :
    rendered.toBinary64.equal number = true := by
  unfold numberToJson? at isRendered
  split at isRendered
  next value isInteger =>
    have isNumber : number.isNaN = false := by
      cases number with
      | nan => cases isInteger
      | _ => rfl
    split at isRendered
    next small =>
      cases isRendered
      rw [JsonNumber.toBinary64, Binary64.ofInt_of_toInt? isInteger small]
      exact Binary64.equal_unsignedZero isNumber
    next =>
      cases isRendered
      exact Binary64.equal_self isNumber
  next =>
    split at isRendered
    next finite =>
      cases isRendered
      apply Binary64.equal_self
      cases number with
      | nan => cases finite
      | _ => rfl
    next => cases isRendered

/-- A rendered object has the names of the defined fields. -/
theorem keys_of_toJsonFields? {fields : List (String × Value)} {members : List (String × Json)}
    (rendered : toJsonFields? fields = .ok members) :
    (Fields.keys members).Sublist (Fields.keys fields) := by
  induction fields generalizing members with
  | nil =>
      cases rendered
      exact .slnil
  | cons field rest inductionHypothesis =>
      obtain ⟨key, value⟩ := field
      by_cases undefined : value.isUndefined = true
      · cases value with
        | undefined => exact (inductionHypothesis rendered).cons key
        | _ => cases undefined
      · rw [toJsonFields?_cons_of_defined (Bool.eq_false_iff.mpr undefined)] at rendered
        obtain ⟨json, -, renderedRest⟩ := bind_eq_ok_iff.mp rendered
        obtain ⟨others, renderedOthers, same⟩ := bind_eq_ok_iff.mp renderedRest
        cases same
        exact (inductionHypothesis renderedOthers).cons_cons key

mutual

/-- Reading the document of a value gives what the document keeps of it. -/
theorem equal_erased (value : Value) (unique : value.namesUnique = true) {document : Json}
    (rendered : toJson? value = .ok document) :
    (ofJson document).equal value.erased = true :=
  match value with
  | .undefined | .null => by cases rendered; rfl
  | .bool _ | .string _ | .date _ => by
      cases rendered
      exact beq_self_eq_true _
  | .regex _ => by cases rendered; rfl
  | .number value => by
      rw [toJson?] at rendered
      obtain ⟨renderedNumber, isRendered, same⟩ := bind_eq_ok_iff.mp rendered
      cases same
      exact equal_toBinary64 isRendered
  | .array items => by
      rw [toJson?] at rendered
      obtain ⟨documents, renderedItems, same⟩ := bind_eq_ok_iff.mp rendered
      cases same
      exact equalItems_erasedItems items (everywhereInItems_iff.mp unique) renderedItems
  | .object tag fields => by
      rw [toJson?] at rendered
      obtain ⟨members, renderedFields, same⟩ := bind_eq_ok_iff.mp rendered
      cases same
      obtain ⟨here, below⟩ := Bool.and_eq_true_iff.mp unique
      have uniqueNames : (Fields.keys fields).Nodup := of_decide_eq_true here
      have uniqueMembers : (Fields.keys members).Nodup :=
        uniqueNames.sublist (keys_of_toJsonFields? renderedFields)
      rw [Fields.ofPairs_of_nodup uniqueMembers, ofJson, ofPairs,
        Fields.ofPairs_of_nodup (by rwa [keys_ofJsonFields]), erased, equal]
      exact equalFields_erasedFields fields (everywhereInFields_iff.mp below) renderedFields
  | .function _ | .classTag _ => by cases rendered

theorem equalItems_erasedItems (items : List Value)
    (unique : ∀ item ∈ items, item.namesUnique = true) {documents : List Json}
    (rendered : toJsonItems? items = .ok documents) :
    equalItems (ofJsonItems documents) (erasedItems items) = true :=
  match items with
  | [] => by cases rendered; rfl
  | item :: rest => by
      obtain ⟨uniqueItem, uniqueRest⟩ := List.forall_mem_cons.mp unique
      rw [toJsonItems?] at rendered
      obtain ⟨document, renderedItem, renderedRest⟩ := bind_eq_ok_iff.mp rendered
      obtain ⟨others, renderedOthers, same⟩ := bind_eq_ok_iff.mp renderedRest
      cases same
      rw [ofJsonItems, erasedItems, equalItems, equal_erased item uniqueItem renderedItem]
      exact equalItems_erasedItems rest uniqueRest renderedOthers

theorem equalFields_erasedFields (fields : List (String × Value))
    (unique : ∀ field ∈ fields, field.2.namesUnique = true) {members : List (String × Json)}
    (rendered : toJsonFields? fields = .ok members) :
    equalFields (ofJsonFields members) (erasedFields fields) = true :=
  match fields with
  | [] => by cases rendered; rfl
  | (key, value) :: rest => by
      obtain ⟨uniqueValue, uniqueRest⟩ := List.forall_mem_cons.mp unique
      by_cases undefined : value.isUndefined = true
      · rw [erasedFields, if_pos undefined]
        cases value with
        | undefined => exact equalFields_erasedFields rest uniqueRest rendered
        | _ => cases undefined
      · rw [toJsonFields?_cons_of_defined (Bool.eq_false_iff.mpr undefined)] at rendered
        obtain ⟨document, renderedValue, renderedRest⟩ := bind_eq_ok_iff.mp rendered
        obtain ⟨others, renderedOthers, same⟩ := bind_eq_ok_iff.mp renderedRest
        cases same
        rw [ofJsonFields, erasedFields, if_neg undefined, equalFields, beq_self_eq_true,
          equal_erased value uniqueValue renderedValue]
        exact equalFields_erasedFields rest uniqueRest renderedOthers

end

end Value

/-! ## Documents -/

/-- Whether a number is one that a document can hold: integers have 64 bits, with a sign or
without one, and doubles are finite. -/
def JsonNumber.isHeld : JsonNumber → Bool
  | .integer value => decide (-(2 ^ 63) ≤ value ∧ value < 2 ^ 64)
  | .double value => value.isFinite

theorem JsonNumber.isFinite_toBinary64 {number : JsonNumber} (held : number.isHeld = true) :
    number.toBinary64.isFinite = true := by
  cases number with
  | integer value =>
      have bounds : -(2 ^ 63) ≤ value ∧ value < 2 ^ 64 := of_decide_eq_true held
      exact Binary64.isFinite_ofInt (by omega)
  | double value => exact held

namespace Json

mutual

/-- Whether the numbers of a document are such that it can hold them. -/
def numbersHeld : Json → Bool
  | .number value => value.isHeld
  | .array items => numbersHeldInItems items
  | .object fields => numbersHeldInFields fields
  | _ => true

def numbersHeldInItems : List Json → Bool
  | [] => true
  | item :: rest => numbersHeld item && numbersHeldInItems rest

def numbersHeldInFields : List (String × Json) → Bool
  | [] => true
  | (_, field) :: rest => numbersHeld field && numbersHeldInFields rest

end

/-- Documents of one structure: the same names stand in the same order, and numbers in the same
place are equal as doubles, whether or not they are written as integers. -/
inductive Alike : Json → Json → Prop where
  | null : Alike .null .null
  | bool (value : Bool) : Alike (.bool value) (.bool value)
  | number {left right : JsonNumber}
      (equal : left.toBinary64.equal right.toBinary64 = true) :
      Alike (.number left) (.number right)
  | string (value : String) : Alike (.string value) (.string value)
  | array {left right : List Json} (items : List.Forall₂ Alike left right) :
      Alike (.array left) (.array right)
  | object {left right : List (String × Json)}
      (fields : List.Forall₂ (Fields.Paired Alike) left right) :
      Alike (.object left) (.object right)

end Json

namespace Value

theorem isUndefined_ofJson (document : Json) : (ofJson document).isUndefined = false := by
  cases document <;> rfl

mutual

/-- A document that is read and rendered stays alike. -/
theorem exists_alike (document : Json) (unique : document.namesUnique = true)
    (held : document.numbersHeld = true) :
    ∃ rendered, toJson? (ofJson document) = .ok rendered ∧ rendered.Alike document :=
  match document with
  | .null => ⟨_, rfl, .null⟩
  | .bool value => ⟨_, rfl, .bool value⟩
  | .string value => ⟨_, rfl, .string value⟩
  | .number value => by
      have finite : value.toBinary64.isFinite = true := JsonNumber.isFinite_toBinary64 held
      have noCause : cause? (numberToJson? value.toBinary64) = none := by
        rw [cause?_numberToJson?, if_pos finite]
      obtain ⟨rendered, isRendered⟩ := cause?_eq_none_iff.mp noCause
      refine ⟨.number rendered, ?_, .number (equal_toBinary64 isRendered)⟩
      rw [ofJson, toJson?, isRendered]
      rfl
  | .array items => by
      obtain ⟨documents, rendered, alike⟩ := exists_alike_items items unique held
      refine ⟨.array documents, ?_, .array alike⟩
      rw [ofJson, toJson?, rendered]
      rfl
  | .object fields => by
      obtain ⟨here, below⟩ := Bool.and_eq_true_iff.mp unique
      have uniqueNames : (Fields.keys fields).Nodup := of_decide_eq_true here
      obtain ⟨members, rendered, alike⟩ := exists_alike_fields fields below held
      have sameNames := Fields.keys_of_paired alike
      refine ⟨.object members, ?_, .object alike⟩
      rw [ofJson, ofPairs, Fields.ofPairs_of_nodup (by rwa [keys_ofJsonFields]), toJson?, rendered]
      exact congrArg (fun members => Except.ok (Json.object members))
        (Fields.ofPairs_of_nodup (by rwa [sameNames]))

theorem exists_alike_items (items : List Json)
    (unique : Json.namesUniqueInItems items = true)
    (held : Json.numbersHeldInItems items = true) :
    ∃ documents, toJsonItems? (ofJsonItems items) = .ok documents ∧
      List.Forall₂ Json.Alike documents items :=
  match items with
  | [] => ⟨[], rfl, .nil⟩
  | item :: rest => by
      obtain ⟨uniqueItem, uniqueRest⟩ := Bool.and_eq_true_iff.mp unique
      obtain ⟨heldItem, heldRest⟩ := Bool.and_eq_true_iff.mp held
      obtain ⟨document, rendered, alike⟩ := exists_alike item uniqueItem heldItem
      obtain ⟨others, renderedOthers, othersAlike⟩ := exists_alike_items rest uniqueRest heldRest
      refine ⟨document :: others, ?_, .cons alike othersAlike⟩
      rw [ofJsonItems, toJsonItems?, rendered, renderedOthers]
      rfl

theorem exists_alike_fields (fields : List (String × Json))
    (unique : Json.namesUniqueInFields fields = true)
    (held : Json.numbersHeldInFields fields = true) :
    ∃ members, toJsonFields? (ofJsonFields fields) = .ok members ∧
      List.Forall₂ (Fields.Paired Json.Alike) members fields :=
  match fields with
  | [] => ⟨[], rfl, .nil⟩
  | (key, field) :: rest => by
      obtain ⟨uniqueField, uniqueRest⟩ := Bool.and_eq_true_iff.mp unique
      obtain ⟨heldField, heldRest⟩ := Bool.and_eq_true_iff.mp held
      obtain ⟨document, rendered, alike⟩ := exists_alike field uniqueField heldField
      obtain ⟨others, renderedOthers, othersAlike⟩ := exists_alike_fields rest uniqueRest heldRest
      refine ⟨(key, document) :: others, ?_, .cons (.intro key alike) othersAlike⟩
      rw [ofJsonFields, toJsonFields?_cons_of_defined (isUndefined_ofJson field), rendered,
        renderedOthers]
      rfl

end

/-- Rendering is exact. A value has a document unless a callable or a number that is not finite is
somewhere in it, and the first such part is the cause of failure. Reading the document back gives
what documents keep of the value, and that has the same document. What is read from a document is
rendered as a document of the same structure. -/
theorem toJson?_exact (value : Value) (unique : value.namesUnique = true) (document : Json)
    (uniqueInDocument : document.namesUnique = true) (held : document.numbersHeld = true) :
    ((∃ rendered, toJson? value = .ok rendered) ↔
      ∀ part ∈ value.subvalues, part.renderingObstacle? = none) ∧
    (∀ cause, toJson? value = .error cause ↔
      value.subvalues.findSome? renderingObstacle? = some cause) ∧
    (∀ rendered, toJson? value = .ok rendered →
      (ofJson rendered).equal value.erased = true ∧ toJson? value.erased = .ok rendered) ∧
    (∃ rendered, toJson? (ofJson document) = .ok rendered ∧ rendered.Alike document) := by
  refine ⟨exists_convert_iff toJson?_goesThrough, fun cause =>
    convert_eq_error_iff toJson?_goesThrough, fun rendered isRendered => ⟨?_, ?_⟩, ?_⟩
  · exact equal_erased value unique isRendered
  · rw [toJson?_erased, isRendered]
  · exact exists_alike document uniqueInDocument held

/-- The tag of the order and its undefined field are left out, and its amount loses the sign of a
zero, which equality does not see. In the document the integer that no double holds becomes the
double nearest to it. -/
theorem toJson?_exact_of_order :
    let value : Value := .object (some (.defined 0 "Order"))
      [("note", .undefined), ("amounts", .array [.number (.zero true), .undefined]),
        ("placed", .date ⟨0, 0, by decide⟩)]
    let rendered : Json := .object
      [("amounts", .array [.number (.integer 0), .null]),
        ("placed", .string (Timestamp.isoText ⟨0, 0, by decide⟩))]
    let document : Json := .array [.number (.integer (2 ^ 53 + 1)), .number (.double (.zero true))]
    value.namesUnique = true ∧ document.namesUnique = true ∧ document.numbersHeld = true ∧
      toJson? value = .ok rendered ∧ (ofJson rendered).equal value.erased = true ∧
      ∃ again, toJson? (ofJson document) = .ok again ∧ again.Alike document := by
  intro value rendered document
  have unique : value.namesUnique = true := by decide
  have uniqueInDocument : document.namesUnique = true := by decide
  have held : document.numbersHeld = true := by decide
  have wholeZero : (Binary64.zero true).toInt? = some 0 := by decide +kernel
  have isRendered : toJson? value = .ok rendered := by
    simp only [value, toJson?, toJsonFields?, toJsonItems?, numberToJson?, wholeZero]
    rfl
  obtain ⟨-, -, readBack, again⟩ := toJson?_exact value unique document uniqueInDocument held
  exact ⟨unique, uniqueInDocument, held, isRendered, (readBack rendered isRendered).1, again⟩

end Value

end SchemaMatch
