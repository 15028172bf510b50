import SchemaMatch.Proofs.Check.FirstFailure

/-!
Contract: positions at which a check asks the same and finds the same.

Owns:
- how an array shows its elements;
- data that a check cannot tell apart at one position, its keys and its parts aside;
- items that ask the same of such data;
- `Position.obligations_eq`: the obligations of positions with such data and such items, and
  `Position.obligations_eq_of_schema_eq` under one schema;
- `Position.forall₂_children`: the positions right below them, pair by pair, and
  `Position.forall₂_children_of_schema_eq` under one schema;
- `Position.allObligations_eq_of_pairs`: obligations that are the same here and, pair by pair, for
  the children, are the same for the whole of a check.

Does not own: the changes of data and schemas that make such positions.
-/

namespace SchemaMatch

/-! ## Data -/

/-- How an array shows an element. Undefined and null leave their place empty. -/
def Value.elementText (value : Value) : String :=
  if value.isUndefined || value.isNull then "" else value.display

theorem Value.displayItems_cons (item : Value) (rest : List Value) :
    displayItems (item :: rest) = item.elementText :: displayItems rest := by
  cases item <;> simp [displayItems, elementText, isUndefined, isNull]

theorem Value.displayItems_eq_map (items : List Value) :
    displayItems items = items.map elementText := by
  induction items with
  | nil => rw [displayItems, List.map_nil]
  | cons item rest inductionHypothesis =>
      rw [displayItems_cons, List.map_cons, inductionHypothesis]

/-- Data that a check cannot tell apart at one position, except by its keys and its parts. -/
structure Value.LooksLike (data other : Value) : Prop where
  hasKind : ∀ kind, other.hasKind kind = data.hasKind kind
  strictEqual : ∀ expected, other.strictEqual expected = data.strictEqual expected
  display : other.display = data.display
  hasInstance : ∀ class_ : Class, class_.hasInstance other = class_.hasInstance data
  length : ∀ {items others}, data = .array items → other = .array others →
    others.length = items.length

namespace Value.LooksLike

variable {data other : Value}

theorem refl (data : Value) : data.LooksLike data where
  hasKind _ := rfl
  strictEqual _ := rfl
  display := rfl
  hasInstance _ := rfl
  length isItems isOthers := by
    obtain rfl := Value.array.inj (isItems.symm.trans isOthers)
    rfl

theorem isArray_iff (looks : data.LooksLike other) :
    (∃ others, other = .array others) ↔ ∃ items, data = .array items := by
  have hasKind : ∀ value : Value, (∃ items, value = .array items) ↔ value.hasKind .array = true := by
    intro value
    cases value <;> simp [Value.hasKind]
  rw [hasKind, hasKind, looks.hasKind]

theorem elementText_eq (looks : data.LooksLike other) : other.elementText = data.elementText := by
  have isUndefined : ∀ value : Value, value.isUndefined = value.hasKind .undefined := by
    intro value
    cases value <;> rfl
  have isNull : ∀ value : Value, value.isNull = value.hasKind .null := by
    intro value
    cases value <;> rfl
  rw [elementText, elementText, isUndefined, isUndefined, isNull, isNull, looks.hasKind,
    looks.hasKind, looks.display]

/-- Arrays look like arrays of elements that look alike. -/
theorem array {items others : List Value} (each : List.Forall₂ LooksLike items others) :
    (Value.array items).LooksLike (Value.array others) where
  hasKind kind := by cases kind <;> rfl
  strictEqual expected := by cases expected <;> rfl
  display := by
    have sameTexts : others.map elementText = items.map elementText := by
      induction each with
      | nil => rfl
      | cons looks _ inductionHypothesis =>
          rw [List.map_cons, List.map_cons, looks.elementText_eq, inductionHypothesis]
    rw [Value.display, Value.display, displayItems_eq_map, displayItems_eq_map, sameTexts]
  hasInstance class_ := by
    cases class_ with
    | builtin kind => cases kind <;> rfl
    | _ => rfl
  length isItems isOthers := by
    cases isItems
    cases isOthers
    exact each.length_eq.symm

/-- Objects of one tag look alike, whatever their fields are. -/
theorem object (tag : Option Class) (fields others : List (String × Value)) :
    (Value.object tag fields).LooksLike (Value.object tag others) where
  hasKind kind := by cases kind <;> rfl
  strictEqual expected := by cases expected <;> rfl
  display := rfl
  hasInstance class_ := by
    cases class_ with
    | builtin kind => cases kind <;> rfl
    | _ => cases tag <;> rfl
  length isItems := by cases isItems

end Value.LooksLike

/-! ## Items -/

/-- Items that ask the same of data at one position. The data of an object or an array is asked
for by its names alone. -/
structure Item.AsksLike (item other : Item) : Prop where
  kind : other.kind = item.kind
  tag : other.tag = item.tag
  names : Position.declaredKeys other = Position.declaredKeys item
  isSome : other.data.isSome = item.data.isSome
  data : item.kind ≠ .object → item.kind ≠ .array → other.data = item.data

namespace Item.AsksLike

theorem refl (item : Item) : item.AsksLike item := ⟨rfl, rfl, rfl, rfl, fun _ _ => rfl⟩

theorem length_parts {item other : Item} (asks : item.AsksLike other) :
    other.parts.length = item.parts.length := by
  have lengths := congrArg List.length asks.names
  rwa [Position.declaredKeys, Position.declaredKeys, List.length_map, List.length_map] at lengths

end Item.AsksLike

namespace Position

variable {position twin : Position} {item other : Item} {options : Options}

/-! ## One schema -/

theorem item?_of_schema_eq (sameSchema : twin.schema = position.schema) :
    twin.item? = position.item? := by
  rw [item?, item?, sameSchema]

theorem permitsExtraKeys_of_schema_eq (sameSchema : twin.schema = position.schema) (item : Item)
    (options : Options) :
    twin.permitsExtraKeys item options = position.permitsExtraKeys item options := by
  rw [permitsExtraKeys, permitsExtraKeys, sameSchema]

/-! ## Obligations here -/

section Here

variable (samePath : twin.path = position.path) (looks : position.data.LooksLike twin.data)

include samePath looks

theorem stringObligation_eq : twin.stringObligation = position.stringObligation := by
  funext check
  cases check <;> simp only [stringObligation, samePath, looks.strictEqual, looks.display]

theorem lengthObligations_eq (asks : item.AsksLike other) :
    twin.lengthObligations other = position.lengthObligations item := by
  by_cases isArray : ∃ items, position.data = .array items
  · obtain ⟨items, isItems⟩ := isArray
    obtain ⟨others, isOthers⟩ := looks.isArray_iff.mpr ⟨items, isItems⟩
    have sameLength := looks.length isItems isOthers
    simp only [lengthObligations, isItems, isOthers, samePath, sameLength, asks.length_parts]
    -- The data itself does not matter once it is known whether there is any.
    cases given : item.data with
    | none =>
        have absent : other.data = none := by simpa [given] using asks.isSome
        rw [absent]
    | some expected =>
        have present : other.data.isSome = true := by simpa [given] using asks.isSome
        obtain ⟨counterpart, isData⟩ := Option.isSome_iff_exists.mp present
        rw [isData]
        rfl
  · have isNoArray : ∀ others, twin.data ≠ .array others := fun others isOthers =>
      isArray (looks.isArray_iff.mp ⟨others, isOthers⟩)
    unfold lengthObligations
    split
    next others isOthers => exact absurd isOthers (isNoArray others)
    next =>
      split
      next items isItems => exact absurd ⟨items, isItems⟩ isArray
      next => rfl

/-- Where extra keys are not tolerated, the keys of the data count too. -/
theorem contentObligations_eq (asks : item.AsksLike other)
    (samePolicy : item.kind = .object →
      twin.permitsExtraKeys other options = position.permitsExtraKeys item options)
    (sameKeys : item.kind = .object → position.permitsExtraKeys item options = false →
      twin.data.keys = position.data.keys) :
    twin.contentObligations options other = position.contentObligations options item := by
  have sameStrictly := looks.strictEqual
  have sameText := looks.display
  have sameData := asks.data
  unfold contentObligations
  rw [asks.kind]
  cases kind : item.kind with
  | array => exact lengthObligations_eq samePath looks asks
  | null => rfl
  | object =>
      have sameClass : twin.classObligations other = position.classObligations item := by
        simp only [classObligations, asks.tag, samePath, looks.hasInstance]
      dsimp only
      rw [sameClass, samePolicy kind]
      cases permits : position.permitsExtraKeys item options with
      | true => rfl
      | false => simp only [keyObligations, sameKeys kind permits, asks.names, samePath]
  | string =>
      rw [kind] at sameData
      simp only [sameData (by decide) (by decide), stringObligation_eq samePath looks]
  | date =>
      rw [kind] at sameData
      simp only [dateObligations, sameData (by decide) (by decide), samePath, sameText]
  | function =>
      rw [kind] at sameData
      simp only [functionObligations, sameData (by decide) (by decide), samePath, sameStrictly]
  | _ =>
      rw [kind] at sameData
      simp only [valueObligations, sameData (by decide) (by decide), samePath, sameStrictly,
        sameText]

/-- Positions with data and items that are alike have the same obligations. -/
theorem obligations_eq (read : position.item? = .ok item) (otherRead : twin.item? = .ok other)
    (asks : item.AsksLike other)
    (samePolicy : item.kind = .object →
      twin.permitsExtraKeys other options = position.permitsExtraKeys item options)
    (sameKeys : item.kind = .object → position.permitsExtraKeys item options = false →
      twin.data.keys = position.data.keys) :
    twin.obligations options = position.obligations options := by
  rw [obligations_of_item read, obligations_of_item otherRead, asks.kind, samePath,
    looks.hasKind, contentObligations_eq samePath looks asks samePolicy sameKeys]

end Here

/-- A malformed item is the one obligation of its position. -/
theorem obligations_eq_of_malformed {violation : Violation}
    (malformed : position.item? = .error violation) (twinMalformed : twin.item? = .error violation) :
    twin.obligations options = position.obligations options := by
  simp only [obligations, malformed, twinMalformed]

/-- Under one schema, data that look alike have the same obligations. Keys matter only where extra
ones are not tolerated. -/
theorem obligations_eq_of_schema_eq (samePath : twin.path = position.path)
    (sameSchema : twin.schema = position.schema) (looks : position.data.LooksLike twin.data)
    (sameKeys : ∀ item, position.item? = .ok item → item.kind = .object →
      position.permitsExtraKeys item options = false → twin.data.keys = position.data.keys) :
    twin.obligations options = position.obligations options := by
  have sameItem := item?_of_schema_eq sameSchema
  cases read : position.item? with
  | error violation => exact obligations_eq_of_malformed read (sameItem.trans read)
  | ok item =>
      exact obligations_eq samePath looks read (sameItem.trans read) (.refl item)
        (fun _ => permitsExtraKeys_of_schema_eq sameSchema item options) (sameKeys item read)

/-! ## Positions below -/

section Below

variable {pairs : String × Value → String × Value → Prop} {related : Position → Position → Prop}
  {parts otherParts : List (String × Value)}

theorem forall₂_fieldPositions (paired : List.Forall₂ pairs parts otherParts)
    (names : ∀ part partner, pairs part partner → partner.1 = part.1)
    (field : ∀ part ∈ parts, ∀ partner, pairs part partner → part.1 ≠ SchemaForm.markerKey →
      related (position.child (.key part.1) (position.data.get part.1) part.2)
        (twin.child (.key part.1) (twin.data.get part.1) partner.2)) :
    List.Forall₂ related (position.fieldPositions parts) (twin.fieldPositions otherParts) := by
  induction paired with
  | nil => exact .nil
  | @cons part partner _ _ pair _ inductionHypothesis =>
      have sameName := names part partner pair
      have rest := inductionHypothesis fun part isPart => field part (List.mem_cons_of_mem _ isPart)
      unfold fieldPositions at rest ⊢
      by_cases isMarker : part.1 = SchemaForm.markerKey
      · rw [List.filter_cons_of_neg (by simp [isMarker]),
          List.filter_cons_of_neg (by simp [sameName, isMarker])]
        exact rest
      · rw [List.filter_cons_of_pos (by simp [isMarker]),
          List.filter_cons_of_pos (by simp [sameName, isMarker]), List.map_cons, List.map_cons,
          sameName]
        exact .cons (field part List.mem_cons_self partner pair isMarker) rest

theorem forall₂_elementPositions {items others : List Value}
    (sameLength : others.length = items.length) (paired : List.Forall₂ pairs parts otherParts)
    (element : ∀ index value counterpart, items[index]? = some value →
      others[index]? = some counterpart → ∀ part ∈ parts, ∀ partner, pairs part partner →
      related (position.child (.index index) value part.2)
        (twin.child (.index index) counterpart partner.2)) :
    List.Forall₂ related (position.elementPositions 0 items (parts.map Prod.snd))
      (twin.elementPositions 0 others (otherParts.map Prod.snd)) := by
  obtain ⟨samePartsLength, pairAt⟩ := List.forall₂_iff_get.mp paired
  rw [List.forall₂_iff_get]
  refine ⟨by simp [elementPositions, sameLength, samePartsLength], fun index inItems inOthers => ?_⟩
  have inParts : index < parts.length ∧ index < items.length := by
    simp only [elementPositions, List.length_map, List.length_zipIdx, List.length_zip] at inItems
    omega
  simp only [elementPositions, List.get_eq_getElem, List.getElem_map, List.getElem_zipIdx,
    List.getElem_zip, Nat.zero_add]
  exact element index _ _ (List.getElem?_eq_getElem _) (List.getElem?_eq_getElem _) _
    (List.getElem_mem _) _ (pairAt index inParts.1 (samePartsLength ▸ inParts.1))

/-- The children of positions with data and items that are alike, paired by what pairs the parts
of the items and by what leads to them in the data. -/
theorem forall₂_children (read : position.item? = .ok item) (otherRead : twin.item? = .ok other)
    (sameKind : other.kind = item.kind) (looks : position.data.LooksLike twin.data)
    (paired : List.Forall₂ pairs item.parts other.parts)
    (names : ∀ part partner, pairs part partner → partner.1 = part.1)
    (field : item.kind = .object → ∀ part ∈ item.parts, ∀ partner, pairs part partner →
      part.1 ≠ SchemaForm.markerKey →
      related (position.child (.key part.1) (position.data.get part.1) part.2)
        (twin.child (.key part.1) (twin.data.get part.1) partner.2))
    (element : item.kind = .array → ∀ items others, position.data = .array items →
      twin.data = .array others → ∀ index value counterpart, items[index]? = some value →
      others[index]? = some counterpart → ∀ part ∈ item.parts, ∀ partner, pairs part partner →
      related (position.child (.index index) value part.2)
        (twin.child (.index index) counterpart partner.2)) :
    List.Forall₂ related position.children twin.children := by
  simp only [children, read, otherRead, sameKind]
  cases kind : item.kind with
  | object => exact forall₂_fieldPositions paired names (field kind)
  | array =>
      by_cases isArray : ∃ items, position.data = .array items
      · obtain ⟨items, isItems⟩ := isArray
        obtain ⟨others, isOthers⟩ := looks.isArray_iff.mpr ⟨items, isItems⟩
        have sameLength := looks.length isItems isOthers
        simp only [itemPositions, isItems, isOthers, sameLength, ← paired.length_eq]
        split
        · exact forall₂_elementPositions sameLength paired
            (element kind items others isItems isOthers)
        · exact .nil
      · have isNoArray : ∀ others, twin.data ≠ .array others := fun others isOthers =>
          isArray (looks.isArray_iff.mp ⟨others, isOthers⟩)
        have none : position.itemPositions item = [] ∧ twin.itemPositions other = [] := by
          unfold itemPositions
          constructor
          · split
            next items isItems => exact absurd ⟨items, isItems⟩ isArray
            next => rfl
          · split
            next others isOthers => exact absurd isOthers (isNoArray others)
            next => rfl
        simp only [none, List.Forall₂.nil]
  | _ => exact .nil

/-- Under one schema, the children of positions whose data look alike are paired by their places. -/
theorem forall₂_children_of_schema_eq (sameSchema : twin.schema = position.schema)
    (looks : position.data.LooksLike twin.data)
    (field : ∀ item, position.item? = .ok item → item.kind = .object → ∀ part ∈ item.parts,
      part.1 ≠ SchemaForm.markerKey →
      related (position.child (.key part.1) (position.data.get part.1) part.2)
        (twin.child (.key part.1) (twin.data.get part.1) part.2))
    (element : ∀ items others, position.data = .array items → twin.data = .array others →
      ∀ index value counterpart schema, items[index]? = some value →
      others[index]? = some counterpart →
      related (position.child (.index index) value schema)
        (twin.child (.index index) counterpart schema)) :
    List.Forall₂ related position.children twin.children := by
  have sameItem := item?_of_schema_eq sameSchema
  cases read : position.item? with
  | error violation =>
      rw [children, children, sameItem, read]
      exact .nil
  | ok item =>
      refine forall₂_children read (sameItem.trans read) rfl looks
        (List.forall₂_same.mpr fun part _ => Eq.refl part) (fun _ _ same => by rw [same]) ?_ ?_
      · rintro isObject part isPart _ rfl notMarker
        exact field item read isObject part isPart notMarker
      · rintro - items others isItems isOthers index value counterpart isValue isCounterpart part -
          _ rfl
        exact element items others isItems isOthers index value counterpart part.2 isValue
          isCounterpart

end Below

/-! ## The whole of a check -/

theorem flatMap_eq_of_pairs {α β : Type} {related : α → α → Prop} {entries partners : List α}
    {own : α → List β} (paired : List.Forall₂ related entries partners)
    (alike : ∀ entry ∈ entries, ∀ partner, related entry partner → own partner = own entry) :
    partners.flatMap own = entries.flatMap own := by
  induction paired with
  | nil => rfl
  | cons pair _ inductionHypothesis =>
      rw [List.flatMap_cons, List.flatMap_cons, alike _ List.mem_cons_self _ pair,
        inductionHypothesis fun entry member => alike entry (List.mem_cons_of_mem _ member)]

/-- If related positions have the same obligations and their children are related, then all that
is asked below them is the same. -/
theorem allObligations_eq_of_pairs {related : Position → Position → Prop}
    (here : ∀ position twin, related position twin →
      twin.obligations options = position.obligations options)
    (below : ∀ position twin, related position twin →
      List.Forall₂ related position.children twin.children)
    {position twin : Position} (pair : related position twin) :
    twin.allObligations options = position.allObligations options := by
  have children : twin.children.flatMap (allObligations options) =
      position.children.flatMap (allObligations options) := by
    refine flatMap_eq_of_pairs (below position twin pair) fun child isChild partner pair => ?_
    have smaller := sizeOf_schema_child_lt isChild
    exact allObligations_eq_of_pairs here below pair
  rw [allObligations_eq, allObligations_eq, here position twin pair, children]
termination_by sizeOf position.schema

end Position

end SchemaMatch
