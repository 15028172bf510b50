import SchemaMatch.Proofs.Check.Resemblance
import SchemaMatch.Proofs.Value.Equality

/-!
Contract: checks of equal data.

Owns:
- what equal values share: their type, their keys, the classes they are instances of and the
  values they are strictly equal to;
- their text, provided that functions have the names their identities were given;
- `Value.equal_get`: the properties of equal values are equal;
- `Check.outcome_of_equal_data`: the outcome of a check without calls on equal data.

Equality sees the identity of a function and not its name. A program names a function when it
makes it, so the identity settles the name. Values are not bound to that; statements about text
assume it.

Does not own: calls, whose receiver a host may look into.
-/

namespace SchemaMatch

/-! ## Numbers -/

/-- Messages do not show the sign of a zero. -/
theorem Binary64.render_message_unsignedZero (number : Binary64) :
    number.unsignedZero.render .message = number.render .message := by
  unfold unsignedZero
  split
  next isZero =>
    rw [eq_zero_of_isNegativeZero isZero]
    rfl
  next => rfl

theorem Binary64.render_message_of_equal {left right : Binary64} (equal : left.equal right = true) :
    right.render .message = left.render .message := by
  rw [← render_message_unsignedZero right, ← (equal_iff.mp equal).1, render_message_unsignedZero]

namespace Value

variable {left right : Value}

/-! ## What the canonical form keeps -/

theorem hasKind_canonical (value : Value) (kind : Kind) :
    value.canonical.hasKind kind = value.hasKind kind := by
  cases kind <;> cases value <;> rfl

theorem hasInstance_canonical (class_ : Class) (value : Value) :
    class_.hasInstance value.canonical = class_.hasInstance value := by
  cases class_ with
  | builtin kind => cases kind <;> cases value <;> rfl
  | _ =>
      cases value with
      | object tag fields => cases tag <;> rfl
      | _ => rfl

/-! ## What equal values share -/

section Shared

variable (equal : left.equal right = true)

include equal

theorem canonical_eq_of_equal : right.canonical = left.canonical :=
  ((equal_iff left right).mp equal).1.symm

theorem hasKind_of_equal (kind : Kind) : right.hasKind kind = left.hasKind kind := by
  rw [← hasKind_canonical, canonical_eq_of_equal equal, hasKind_canonical]

theorem hasInstance_of_equal (class_ : Class) :
    class_.hasInstance right = class_.hasInstance left := by
  rw [← hasInstance_canonical, canonical_eq_of_equal equal, hasInstance_canonical]

/-- Equal values are strictly equal to the same values. -/
theorem strictEqual_of_equal (expected : Value) :
    right.strictEqual expected = left.strictEqual expected := by
  rw [Bool.eq_iff_iff, strictEqual_iff, strictEqual_iff, mayHaveProperties_of_equal equal]
  apply and_congr_left
  intro _
  exact ⟨equal_trans equal, equal_trans (equal_symm equal)⟩

end Shared

/-- What is equal to an array is an array, item by item. -/
theorem exists_of_equal_array {items : List Value} (equal : (array items).equal right = true) :
    ∃ others, right = .array others ∧
      List.Forall₂ (fun item other => item.equal other = true) items others := by
  cases right with
  | array others => exact ⟨others, rfl, equalItems_iff_forall₂.mp equal⟩
  | _ => cases equal

/-- What is equal to an object is an object of the same tag, field by field. -/
theorem exists_of_equal_object {tag : Option Class} {fields : List (String × Value)}
    (equal : (object tag fields).equal right = true) :
    ∃ others, right = .object tag others ∧
      List.Forall₂ (Fields.Paired fun value other => value.equal other = true) fields others := by
  cases right with
  | object otherTag others =>
      obtain ⟨sameTag, equalFields⟩ := Bool.and_eq_true_iff.mp equal
      obtain rfl := sameTag_iff.mp sameTag
      exact ⟨others, rfl, equalFields_iff_forall₂.mp equalFields⟩
  | _ => cases equal

theorem keys_of_equal (equal : left.equal right = true) : right.keys = left.keys := by
  cases left with
  | array items =>
      obtain ⟨others, rfl, each⟩ := exists_of_equal_array equal
      rw [keys, keys, each.length_eq]
  | object tag fields =>
      obtain ⟨others, rfl, pairs⟩ := exists_of_equal_object equal
      exact (Fields.keys_of_paired pairs).symm
  | _ => cases right <;> first | rfl | cases equal

/-- The properties of equal values are equal. What is missing in one is missing in the other. -/
theorem equal_get (equal : left.equal right = true) (key : String) :
    (left.get key).equal (right.get key) = true := by
  cases left with
  | array items =>
      obtain ⟨others, rfl, each⟩ := exists_of_equal_array equal
      apply @rel_getD (fun value other => value.equal other = true) rfl
      cases index? key with
      | none => exact .none
      | some index => exact rel_getElem? each index
  | object tag fields =>
      obtain ⟨others, rfl, pairs⟩ := exists_of_equal_object equal
      apply @rel_getD (fun value other => value.equal other = true) rfl
      exact Fields.lookup?_of_paired pairs key
  | _ => cases right <;> first | rfl | cases equal

/-! ## Texts -/

/-- Whether every function in a value has the name that its identity was given. -/
def namedBy (names : Nat → Option String) : Value → Bool :=
  everywhere fun
    | .function value => names value.id == value.name
    | _ => true

theorem namedBy_of_mem_items {names : Nat → Option String} {items : List Value} {item : Value}
    (named : (array items).namedBy names = true) (member : item ∈ items) :
    item.namedBy names = true := by
  rw [namedBy, everywhere, Bool.and_eq_true, everywhereInItems_iff] at named
  exact named.2 item member

/-- Equal values in which the identity of a function settles its name. -/
structure EqualUnder (names : Nat → Option String) (left right : Value) : Prop where
  equal : left.equal right = true
  named : left.namedBy names = true
  otherNamed : right.namedBy names = true

namespace EqualUnder

variable {names : Nat → Option String} {items others : List Value}

theorem get (alike : EqualUnder names left right) (key : String) :
    EqualUnder names (left.get key) (right.get key) where
  equal := equal_get alike.equal key
  named := everywhere_get rfl alike.named key
  otherNamed := everywhere_get rfl alike.otherNamed key

theorem element (alike : EqualUnder names (.array items) (.array others)) {index : Nat}
    {value counterpart : Value} (isValue : items[index]? = some value)
    (isCounterpart : others[index]? = some counterpart) : EqualUnder names value counterpart where
  equal := by
    obtain ⟨_, same, each⟩ := exists_of_equal_array alike.equal
    obtain rfl := Value.array.inj same
    have pair := rel_getElem? each index
    rw [isValue, isCounterpart] at pair
    cases pair with
    | some pair => exact pair
  named := namedBy_of_mem_items alike.named (List.mem_of_getElem? isValue)
  otherNamed := namedBy_of_mem_items alike.otherNamed (List.mem_of_getElem? isCounterpart)

theorem forall₂_of_array (alike : EqualUnder names (.array items) right) :
    ∃ others, right = .array others ∧ List.Forall₂ (EqualUnder names) items others := by
  obtain ⟨others, rfl, each⟩ := exists_of_equal_array alike.equal
  refine ⟨others, rfl, List.forall₂_iff_get.mpr ⟨each.length_eq, fun index inItems inOthers => ?_⟩⟩
  exact alike.element (List.getElem?_eq_getElem inItems) (List.getElem?_eq_getElem inOthers)

/-- Values without parts have the text that equality settles: regexes that of their sources, and
functions the one that their identity does. -/
theorem display_of_isLeaf (alike : EqualUnder names left right) (isLeaf : left.isLeaf = true) :
    right.display = left.display := by
  obtain ⟨equal, named, otherNamed⟩ := alike
  cases left with
  | array => cases isLeaf
  | object => cases isLeaf
  | number value =>
      cases right with
      | number other => exact Binary64.render_message_of_equal equal
      | _ => cases equal
  | regex value =>
      cases right with
      | regex other =>
          have sameSource : other.source = value.source := (beq_iff_eq.mp equal).symm
          rw [display, display, sameSource]
      | _ => cases equal
  | function value =>
      cases right with
      | function other =>
          have sameName : other.name = value.name := by
            rw [← beq_iff_eq.mp named, ← beq_iff_eq.mp otherNamed, beq_iff_eq.mp equal]
          rw [display, display, functionText, functionText, sameName]
      | _ => cases equal
  | _ =>
      -- The canonical form of any other leaf is the leaf itself.
      have same := canonical_eq_of_equal equal
      cases right <;> cases same
      rfl

theorem looksLike_of_isLeaf (alike : EqualUnder names left right) (isLeaf : left.isLeaf = true) :
    left.LooksLike right where
  hasKind := hasKind_of_equal alike.equal
  strictEqual := strictEqual_of_equal alike.equal
  display := alike.display_of_isLeaf isLeaf
  hasInstance := hasInstance_of_equal alike.equal
  length isItems := by
    rw [isItems] at isLeaf
    cases isLeaf

mutual

/-- Equal values look alike to a check: beyond what equal values share, they have one text. -/
theorem looksLike : (left : Value) → {right : Value} → EqualUnder names left right →
    left.LooksLike right
  | .array items, right, alike => by
      obtain ⟨others, rfl, each⟩ := alike.forall₂_of_array
      exact .array (forall₂_looksLike items each)
  | .object tag fields, right, alike => by
      obtain ⟨others, rfl, -⟩ := exists_of_equal_object alike.equal
      exact .object tag fields others
  | .undefined, _, alike | .null, _, alike | .bool _, _, alike | .number _, _, alike
  | .string _, _, alike | .date _, _, alike | .regex _, _, alike | .function _, _, alike
  | .classTag _, _, alike => alike.looksLike_of_isLeaf rfl

theorem forall₂_looksLike : (items : List Value) → {others : List Value} →
    List.Forall₂ (EqualUnder names) items others → List.Forall₂ LooksLike items others
  | [], _, .nil => .nil
  | item :: rest, _, .cons first each => .cons (looksLike item first) (forall₂_looksLike rest each)

end

end EqualUnder

end Value

/-! ## Positions -/

namespace Position

/-- A position with equal data. -/
structure EqualTwin (names : Nat → Option String) (position twin : Position) : Prop where
  path : twin.path = position.path
  schema : twin.schema = position.schema
  data : Value.EqualUnder names position.data twin.data

namespace EqualTwin

variable {names : Nat → Option String} {position twin : Position}
  (twins : EqualTwin names position twin)

include twins

theorem obligations_eq (options : Options) :
    twin.obligations options = position.obligations options := by
  apply obligations_eq_of_schema_eq twins.path twins.schema (twins.data.looksLike _)
  intro _ _ _ _
  exact Value.keys_of_equal twins.data.equal

theorem forall₂_children : List.Forall₂ (EqualTwin names) position.children twin.children := by
  apply forall₂_children_of_schema_eq twins.schema (twins.data.looksLike _)
  · intro _ _ _ part _ _
    exact ⟨by simp only [child, twins.path], rfl, twins.data.get part.1⟩
  · intro items others isItems isOthers index value counterpart schema isValue isCounterpart
    have inData := twins.data
    rw [isItems, isOthers] at inData
    exact ⟨by simp only [child, twins.path], rfl, inData.element isValue isCounterpart⟩

end EqualTwin

end Position

/-! ## Checks -/

namespace Check

variable {σ : Type}

/-- Equal data are indistinguishable: a check without calls has one outcome on both, with the same
texts and paths, and both have the same text themselves. The names of functions are not
compared; it is assumed that each function has the name that its identity was given. -/
theorem outcome_of_equal_data (host : Host σ) (options : Options) (session : Session σ)
    {names : Nat → Option String} {data otherData schema : Value} (callFree : CallFree schema)
    (named : data.namedBy names = true) (otherNamed : otherData.namedBy names = true)
    (equal : data.equal otherData = true) :
    ((run host otherData schema options).finish session).1 =
        ((run host data schema options).finish session).1 ∧
      otherData.display = data.display := by
  have alike : Value.EqualUnder names data otherData := ⟨equal, named, otherNamed⟩
  have twins : Position.EqualTwin names (.root data schema) (.root otherData schema) :=
    ⟨rfl, rfl, alike⟩
  have sameObligations :
      (Position.root otherData schema).allObligations options =
        (Position.root data schema).allObligations options :=
    Position.allObligations_eq_of_pairs (fun _ _ twins => twins.obligations_eq options)
      (fun _ _ twins => twins.forall₂_children) twins
  refine ⟨?_, (alike.looksLike data).display⟩
  rw [outcome_of_callFree host otherData options session callFree,
    outcome_of_callFree host data options session callFree, sameObligations]

/-- A zero inside an instance of a class, next to a function. Its sign shows neither in the mismatch
nor in the text of the data. -/
theorem outcome_of_equal_data_with_zero :
    let host : Host Unit := ⟨fun _ _ _ _ => ⟨.ok .undefined, [], ()⟩⟩
    let outcome (data schema : Value) := ((run host data schema {}).finish ⟨(), []⟩).1
    let names : Nat → Option String := fun id => if id = 7 then some "f" else none
    let data (negative : Bool) : Value := .array
      [.object (some (.defined 0 "Point")) [("x", .number (.zero negative))],
        .number (.zero negative), .function ⟨7, some "f"⟩]
    let schema : Value := .array
      [.object none [("x", .number (.ofInt 1))], .number (.ofInt 0), .null]
    CallFree schema ∧ (data true).namedBy names = true ∧ (data false).namedBy names = true ∧
      (data true).equal (data false) = true ∧
      outcome (data true) schema = .error (.value ⟨[.index 0, .key "x"]⟩ "0" "1") ∧
      (data true).display = "[object Object],0,[Function: f]" ∧
      outcome (data false) schema = outcome (data true) schema ∧
      (data false).display = (data true).display := by
  intro host outcome names data schema
  have callFree : CallFree schema := by
    have number : ∀ value, CallFree (.number value) := fun value =>
      .of_item [] rfl rfl rfl (by simp)
    have point : CallFree (.object none [("x", .number (.ofInt 1))]) :=
      .of_item [_] rfl rfl rfl (by simpa using number _)
    have null : CallFree .null := .of_item [] rfl rfl rfl (by simp)
    exact .of_item [_, _, _] rfl rfl rfl (by simpa using ⟨point, number _, null⟩)
  have named : ∀ negative, (data negative).namedBy names = true := fun _ => rfl
  exact ⟨callFree, named true, named false, rfl, rfl, rfl,
    outcome_of_equal_data host {} ⟨(), []⟩ callFree (named true) (named false) rfl⟩

end Check

end SchemaMatch
