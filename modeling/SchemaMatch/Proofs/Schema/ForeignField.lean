import SchemaMatch.Proofs.Check.Run
import SchemaMatch.Proofs.Schema.Marker
import SchemaMatch.Proofs.Schema.WellFormed

/-!
Contract: fields that an item has, but its kind has no use for.

Owns:
- which fields are foreign to a kind, and the essential ones that remain without them;
- schemas with the same essentials: foreign fields come, go and change in any number of
  well-formed items, wherever those serve as schemas;
- the reading of such schemas: items that agree in all that their kind asks for;
- `Check.run_with_foreign_fields`: checks against such schemas are the same run.

The fields of a malformed item are all essential, because its first violation depends on them. The
arguments and results of calls are no schemas of the walk, and are kept as they are.

Does not own: the walk along the tree.
-/

namespace SchemaMatch

open SchemaForm (isExplicit)
open Value (SameParts)

/-! ## Foreign fields -/

/-- Whether items of a kind have no use for a field. Functions are called, objects have a class and
extra keys, and null is compared with nothing. -/
def Kind.ignores (kind : Kind) (key : String) : Bool :=
  match key with
  | "calls" => kind != .function
  | "class" => kind != .object
  | "allowExtraKeys" => kind != .object
  | "data" => kind == .null
  | _ => false

theorem Kind.mem_reservedFields_of_ignores {kind : Kind} {key : String}
    (isForeign : kind.ignores key = true) : key ∈ SchemaForm.reservedFields := by
  unfold ignores at isForeign
  split at isForeign
  · decide
  · decide
  · decide
  · decide
  · cases isForeign

theorem Kind.ignores_data {kind : Kind} (notNull : kind ≠ .null) : kind.ignores "data" = false := by
  cases kind <;> first | rfl | exact absurd rfl notNull

/-- The fields that items of a kind have a use for. -/
def Item.essentials (kind : Kind) (fields : List (String × Value)) : List (String × Value) :=
  fields.filter fun field => !kind.ignores field.1

/-- Fields that are the same, except that the parts of data are related. -/
inductive EssentialField (related : Value → Value → Prop) :
    String × Value → String × Value → Prop where
  | data {value other : Value} (alike : SameParts Eq related value other) :
      EssentialField related ("data", value) ("data", other)
  | kept (field : String × Value) : EssentialField related field field

/-- Schemas that differ in foreign fields only. Shorthand may differ in its parts. A well-formed
item may have any foreign fields instead of its own, as long as they fit, and the data of objects
and arrays may differ in its parts. -/
inductive SameEssentials : Value → Value → Prop where
  | same (schema : Value) : SameEssentials schema schema
  | shorthand {schema other : Value}
      (isShorthand : (SchemaForm.ofValue schema).isShorthand = true)
      (alike : SameParts Eq SameEssentials schema other) : SameEssentials schema other
  | explicit (tag : Option Class) {fields others : List (String × Value)} {item : Item}
      (explicit : isExplicit fields = true) (wellFormed : Item.ofFields? fields = .ok item)
      (foreignFit : ∀ field ∈ Item.definedFields others, item.kind.ignores field.1 = true →
        Item.Fits field.1 field.2)
      (leaf : item.kind ≠ .object → item.kind ≠ .array →
        Item.essentials item.kind others = Item.essentials item.kind fields)
      (each : List.Forall₂ (EssentialField SameEssentials)
        (Item.essentials item.kind fields) (Item.essentials item.kind others)) :
      SameEssentials (.object tag fields) (.object tag others)

theorem SameEssentials.isUndefined_eq {schema other : Value}
    (essential : SameEssentials schema other) : other.isUndefined = schema.isUndefined := by
  cases essential with
  | same => rfl
  | shorthand _ alike => exact alike.isUndefined_eq
  | explicit => rfl

/-! ## Essential fields -/

namespace Item

theorem lookup?_essentials {kind : Kind} {key : String} (used : kind.ignores key = false)
    (fields : List (String × Value)) :
    Fields.lookup? key (essentials kind fields) = Fields.lookup? key fields := by
  apply Fields.lookup?_filter fun name => !kind.ignores name
  rw [used]
  rfl

theorem mem_definedFields_essentials {kind : Kind} {fields : List (String × Value)}
    {field : String × Value} :
    field ∈ definedFields (essentials kind fields) ↔
      field ∈ definedFields fields ∧ kind.ignores field.1 = false := by
  simp only [definedFields, essentials, List.mem_filter, Bool.not_eq_true']
  tauto

end Item

namespace EssentialField

variable {kind : Kind} {related : Value → Value → Prop} {field partner : String × Value}
  {fields others : List (String × Value)}

theorem itemField (pair : EssentialField related field partner) :
    ItemField related field partner := by
  cases pair with
  | data alike => exact .data (alike.mono (fun _ _ _ => trivial) fun _ _ pair => pair)
  | kept field => exact .kept field

theorem paired (pair : EssentialField related field partner) :
    Fields.Paired (SameParts Eq related) field partner := by
  cases pair with
  | data alike => exact .intro "data" alike
  | kept field => exact .intro field.1 (.same field.2)

section Fields

variable (each : List.Forall₂ (EssentialField related)
  (Item.essentials kind fields) (Item.essentials kind others))

include each

theorem keys_eq :
    Fields.keys (Item.essentials kind others) = Fields.keys (Item.essentials kind fields) :=
  (Fields.keys_of_paired (each.imp fun _ _ => paired)).symm

theorem lookup?_eq {key : String} (used : kind.ignores key = false) (notData : key ≠ "data") :
    Fields.lookup? key others = Fields.lookup? key fields := by
  rw [← Item.lookup?_essentials used others, ← Item.lookup?_essentials used fields]
  exact ItemField.lookup?_of_ne (each.imp fun _ _ => itemField) notData

theorem field?_eq {key : String} (used : kind.ignores key = false) (notData : key ≠ "data") :
    Item.field? key others = Item.field? key fields := by
  rw [Item.field?, Item.field?, lookup?_eq each used notData]

theorem field?_data (used : kind.ignores "data" = false) :
    Option.Rel (SameParts Eq related) (Item.field? "data" fields) (Item.field? "data" others) := by
  have pair := Fields.lookup?_of_paired (each.imp fun _ _ => paired) "data"
  rw [Item.lookup?_essentials used fields, Item.lookup?_essentials used others] at pair
  unfold Item.field?
  generalize Fields.lookup? "data" fields = value at pair ⊢
  generalize Fields.lookup? "data" others = other at pair ⊢
  cases pair with
  | none => exact .none
  | some alike =>
      simp only [Option.bind_some, Value.defined?, alike.isUndefined_eq]
      split
      · exact .none
      · exact .some alike

theorem isExplicit_of_essentials (explicit : isExplicit fields = true) :
    isExplicit others = true := by
  obtain ⟨reserved, hasType⟩ := Bool.and_eq_true_iff.mp explicit
  rw [List.all_eq_true] at reserved
  refine Bool.and_eq_true_iff.mpr ⟨List.all_eq_true.mpr fun key isKey => ?_, ?_⟩
  · by_cases isForeign : kind.ignores key = true
    · exact List.contains_iff_mem.mpr (Kind.mem_reservedFields_of_ignores isForeign)
    · obtain ⟨field, isField, rfl⟩ := List.mem_map.mp isKey
      have isEssential : field ∈ Item.essentials kind others :=
        List.mem_filter.mpr ⟨isField, by simpa using isForeign⟩
      have named : field.1 ∈ Fields.keys (Item.essentials kind fields) := by
        rw [← keys_eq each]
        exact List.mem_map_of_mem isEssential
      obtain ⟨original, isOriginal, sameName⟩ := List.mem_map.mp named
      rw [← sameName]
      exact reserved original.1 (List.mem_map_of_mem (List.mem_filter.mp isOriginal).1)
  · rw [lookup?_eq each rfl (by decide)]
    exact hasType

/-- Foreign fields that fit pass the examination, and the others pass it as before. -/
theorem examineAll_eq_ok (examined : Item.examineAll (Item.definedFields fields) = .ok ())
    (foreignFit : ∀ field ∈ Item.definedFields others, kind.ignores field.1 = true →
      Item.Fits field.1 field.2) :
    Item.examineAll (Item.definedFields others) = .ok () := by
  have passed : ∀ field ∈ Item.definedFields (Item.essentials kind others),
      Item.examine field.1 field.2 = .ok () := by
    rw [← Item.examineAll_eq_ok_iff, ItemField.examineAll_eq (each.imp fun _ _ => itemField),
      Item.examineAll_eq_ok_iff]
    intro field member
    exact Item.examineAll_eq_ok_iff.mp examined field
      (Item.mem_definedFields_essentials.mp member).1
  rw [Item.examineAll_eq_ok_iff]
  intro field member
  by_cases isForeign : kind.ignores field.1 = true
  · exact Item.examine_eq_ok_iff.mpr (foreignFit field member isForeign)
  · apply passed
    exact Item.mem_definedFields_essentials.mpr ⟨member, by simpa using isForeign⟩

end Fields

end EssentialField

/-! ## Single changes -/

theorem Item.essentials_insert {kind : Kind} {key : String} (isForeign : kind.ignores key = true)
    (value : Value) (fields : List (String × Value)) :
    essentials kind (Fields.insert key value fields) = essentials kind fields := by
  unfold essentials
  induction fields with
  | nil => simp [Fields.insert, isForeign]
  | cons field rest inductionHypothesis =>
      rw [Fields.insert]
      by_cases same : field.1 = key
      · rw [if_pos same, List.filter_cons_of_neg (by simp [same, isForeign]),
          List.filter_cons_of_neg (by simp [same, isForeign])]
      · rw [if_neg same, List.filter_cons, List.filter_cons, inductionHypothesis]

theorem Item.essentials_remove {kind : Kind} {key : String} (isForeign : kind.ignores key = true)
    (fields : List (String × Value)) :
    essentials kind (fields.filter fun field => field.1 ≠ key) = essentials kind fields := by
  unfold essentials
  rw [List.filter_filter]
  refine List.filter_congr fun field _ => ?_
  by_cases same : field.1 = key
  · simp [same, isForeign]
  · simp [same]

namespace SameEssentials

variable {fields : List (String × Value)} {item : Item}

/-- Foreign fields may differ in any way in which they fit. -/
theorem of_essentials_eq (tag : Option Class) {others : List (String × Value)}
    (explicit : isExplicit fields = true) (wellFormed : Item.ofFields? fields = .ok item)
    (foreignFit : ∀ field ∈ Item.definedFields others, item.kind.ignores field.1 = true →
      Item.Fits field.1 field.2)
    (same : Item.essentials item.kind others = Item.essentials item.kind fields) :
    SameEssentials (.object tag fields) (.object tag others) := by
  apply SameEssentials.explicit tag explicit wellFormed foreignFit fun _ _ => same
  rw [same]
  exact List.forall₂_same.mpr fun field _ => .kept field

theorem fits_of_wellFormed (wellFormed : Item.ofFields? fields = .ok item) :
    ∀ field ∈ Item.definedFields fields, Item.Fits field.1 field.2 := by
  intro field member
  obtain ⟨examined, -⟩ := Item.ofFields?_eq_ok_iff.mp wellFormed
  exact Item.examine_eq_ok_iff.mp (Item.examineAll_eq_ok_iff.mp examined field member)

/-- A foreign field may be added to a well-formed item, or take another value there. -/
theorem insert (tag : Option Class) (key : String) (value : Value)
    (explicit : isExplicit fields = true)
    (wellFormed : Item.ofFields? fields = .ok item) (isForeign : item.kind.ignores key = true)
    (fits : Item.Fits key value) :
    SameEssentials (.object tag fields) (.object tag (Fields.insert key value fields)) := by
  apply of_essentials_eq tag explicit wellFormed _ (Item.essentials_insert isForeign value fields)
  intro field member _
  obtain ⟨isField, defined⟩ := List.mem_filter.mp member
  rcases Fields.mem_insert isField with rfl | isOld
  · exact fits
  · exact fits_of_wellFormed wellFormed field (List.mem_filter.mpr ⟨isOld, defined⟩)

/-- A foreign field may be removed from a well-formed item. -/
theorem remove (tag : Option Class) (key : String) (explicit : isExplicit fields = true)
    (wellFormed : Item.ofFields? fields = .ok item) (isForeign : item.kind.ignores key = true) :
    SameEssentials (.object tag fields)
      (.object tag (fields.filter fun field => field.1 ≠ key)) := by
  apply of_essentials_eq tag explicit wellFormed _ (Item.essentials_remove isForeign fields)
  intro field member _
  obtain ⟨isField, defined⟩ := List.mem_filter.mp member
  have isOld : field ∈ fields := (List.mem_filter.mp isField).1
  exact fits_of_wellFormed wellFormed field (List.mem_filter.mpr ⟨isOld, defined⟩)

end SameEssentials

/-! ## Items -/

/-- Items of one kind that agree in what the kind has a use for. The parts of objects and arrays are
schemas with the same essentials. -/
structure Item.ServesLike (item other : Item) : Prop where
  kind : other.kind = item.kind
  data : item.kind ≠ .null → item.kind ≠ .object → item.kind ≠ .array → other.data = item.data
  calls : item.kind = .function → other.calls = item.calls
  tag : item.kind = .object → other.tag = item.tag
  allowExtraKeys : item.kind = .object → other.allowExtraKeys = item.allowExtraKeys
  given : item.kind = .array → other.data.isSome = item.data.isSome
  parts : item.kind = .object ∨ item.kind = .array →
    List.Forall₂ (MarkedField Eq SameEssentials) item.parts other.parts

namespace Item

theorem ServesLike.of_shorthand {schema other : Value} (kind : Kind)
    (alike : SameParts Eq SameEssentials schema other)
    (leaf : kind ≠ .object → kind ≠ .array → other = schema) :
    (ofShorthand kind schema none).ServesLike (ofShorthand kind other none) where
  kind := rfl
  data _ notObject notArray := by rw [leaf notObject notArray]
  calls _ := rfl
  tag _ := rfl
  allowExtraKeys _ := rfl
  given _ := by simp only [ofShorthand, Value.defined?, alike.isUndefined_eq]; split <;> rfl
  parts _ := by
    rw [parts_ofShorthand, parts_ofShorthand]
    exact alike.parts (fun _ => rfl) .same

/-- Data with related parts gives an item related parts. -/
theorem forall₂_parts_of_data {item other : Item}
    (pair : Option.Rel (SameParts Eq SameEssentials) item.data other.data) :
    List.Forall₂ (MarkedField Eq SameEssentials) item.parts other.parts := by
  unfold parts
  generalize item.data = data at pair
  generalize other.data = otherData at pair
  cases pair with
  | none => exact .nil
  | some alike => exact alike.parts (fun _ => rfl) .same

/-- An item whose foreign fields were changed is well formed, and serves like the item it was. -/
theorem exists_servesLike {fields others : List (String × Value)} {item : Item}
    (wellFormed : ofFields? fields = .ok item)
    (foreignFit : ∀ field ∈ definedFields others, item.kind.ignores field.1 = true →
      Fits field.1 field.2)
    (leaf : item.kind ≠ .object → item.kind ≠ .array →
      essentials item.kind others = essentials item.kind fields)
    (each : List.Forall₂ (EssentialField SameEssentials)
      (essentials item.kind fields) (essentials item.kind others)) :
    ∃ other, ofFields? others = .ok other ∧ item.ServesLike other := by
  obtain ⟨examined, kindRead, isData, dataExamined, tagRead, callsRead, settingRead⟩ :=
    ofFields?_eq_ok_iff.mp wellFormed
  have otherExamined := EssentialField.examineAll_eq_ok each examined foreignFit
  obtain ⟨tag, otherTagRead⟩ := exists_optional "class" (fun _ => rfl) otherExamined
  obtain ⟨calls, otherCallsRead⟩ := exists_optional "calls" (fun _ => rfl) otherExamined
  obtain ⟨setting, otherSettingRead⟩ :=
    exists_optional "allowExtraKeys" (fun _ => rfl) otherExamined
  have otherKindRead : kind? ((field? "type" others).getD .undefined) = .ok item.kind := by
    rw [EssentialField.field?_eq each rfl (by decide), kindRead]
  have pair : item.kind ≠ .null →
      Option.Rel (SameParts Eq SameEssentials) item.data (field? "data" others) := by
    intro notNull
    rw [isData]
    exact EssentialField.field?_data each (Kind.ignores_data notNull)
  have otherDataExamined : examineData item.kind (field? "data" others) = .ok () := by
    by_cases isNull : item.kind = .null
    · rw [isNull]
      rfl
    · rw [ItemField.examineData_eq item.kind (pair isNull), dataExamined]
  refine ⟨⟨item.kind, field? "data" others, tag, calls, setting⟩, ?_, ?_⟩
  · exact ofFields?_eq_ok_iff.mpr ⟨otherExamined, otherKindRead, rfl, otherDataExamined,
      otherTagRead, otherCallsRead, otherSettingRead⟩
  · refine
      { kind := rfl
        data := ?_
        calls := ?_
        tag := ?_
        allowExtraKeys := ?_
        given := ?_
        parts := ?_ }
    · intro notNull notObject notArray
      have used := Kind.ignores_data notNull
      rw [isData, field?, field?, ← lookup?_essentials used others, leaf notObject notArray,
        lookup?_essentials used fields]
    · intro isFunction
      have used : item.kind.ignores "calls" = false := by rw [isFunction]; rfl
      rw [EssentialField.field?_eq each used (by decide), callsRead] at otherCallsRead
      exact (Except.ok.inj otherCallsRead).symm
    · intro isObject
      have used : item.kind.ignores "class" = false := by rw [isObject]; rfl
      rw [EssentialField.field?_eq each used (by decide), tagRead] at otherTagRead
      exact (Except.ok.inj otherTagRead).symm
    · intro isObject
      have used : item.kind.ignores "allowExtraKeys" = false := by rw [isObject]; rfl
      rw [EssentialField.field?_eq each used (by decide), settingRead] at otherSettingRead
      exact (Except.ok.inj otherSettingRead).symm
    · intro isArray
      exact isSome_of_rel (pair (by simp [isArray]))
    · intro holdsParts
      apply forall₂_parts_of_data
      apply pair
      rintro isNull
      rw [isNull] at holdsParts
      simp at holdsParts

end Item

/-! ## Trees -/

namespace Schema

theorem trees_eq_of_markedFields {related : Value → Value → Prop}
    {parts others : List (String × Value)}
    (each : List.Forall₂ (MarkedField Eq related) parts others)
    (below : ∀ part ∈ parts, ∀ other, related part.2 other → ofValue other = ofValue part.2) :
    trees others = trees parts := by
  unfold trees
  induction each with
  | nil => rfl
  | @cons part other _ _ pair _ inductionHypothesis =>
      have rest := inductionHypothesis fun later member =>
        below later (List.mem_cons_of_mem _ member)
      have sameTree : ofValue other.2 = ofValue part.2 := by
        cases pair with
        | marker same => rw [same]
        | part _ pair => exact below _ List.mem_cons_self _ pair
      rw [List.map_cons, List.map_cons, rest, pair.name_eq, sameTree]

/-- Items that serve alike have one node, if the schemas below them have. -/
theorem ofWellFormed_eq_of_servesLike {item other : Item} {own otherOwn : Option Bool}
    (serves : item.ServesLike other) (sameOwn : item.kind = .object → otherOwn = own)
    (below : ∀ part ∈ item.parts, ∀ other, SameEssentials part.2 other →
      ofValue other = ofValue part.2) :
    ofWellFormed other otherOwn = ofWellFormed item own := by
  apply ofWellFormed_congr serves.kind serves.data serves.calls serves.tag sameOwn serves.given
  intro holdsParts
  exact trees_eq_of_markedFields (serves.parts holdsParts) below

end Schema

namespace SameEssentials

/-- Schemas with the same essentials denote one tree. -/
theorem ofValue_eq {schema other : Value} (essential : SameEssentials schema other) :
    Schema.ofValue other = Schema.ofValue schema := by
  have below : ∀ item, Item.ofForm? (SchemaForm.ofValue schema) = .ok item →
      ∀ part ∈ item.parts, ∀ other, SameEssentials part.2 other →
        Schema.ofValue other = Schema.ofValue part.2 := by
    intro item read part isPart other essential
    have smaller : sizeOf part.2 < sizeOf schema := Item.sizeOf_part_lt read isPart
    exact ofValue_eq essential
  cases essential with
  | same => rfl
  | shorthand isShorthand alike =>
      obtain ⟨kind, form, otherForm, leaf⟩ :=
        SchemaForm.exists_form_of_shorthand isUndefined_eq isShorthand alike
      have read := Item.ofForm?_of_shorthand form
      have keptMarker : SameParts KeepsMarker SameEssentials schema other := by
        apply alike.mono _ fun _ _ pair => pair
        rintro marker _ rfl
        exact .refl marker
      have sameOwn := SchemaForm.own?_eq_of_shorthand isUndefined_eq isShorthand keptMarker none
      rw [Schema.ofValue_of_item read, Schema.ofValue_of_item (Item.ofForm?_of_shorthand otherForm)]
      apply Schema.ofWellFormed_eq_of_servesLike (.of_shorthand kind alike leaf) (fun _ => sameOwn)
      exact below _ read
  | explicit tag explicit wellFormed foreignFit leaf each =>
      rename_i fields others item
      have form : SchemaForm.ofValue (.object tag fields) = .explicit tag fields := by
        rw [SchemaForm.ofValue_object, if_pos explicit]
      have otherForm : SchemaForm.ofValue (.object tag others) = .explicit tag others := by
        rw [SchemaForm.ofValue_object,
          if_pos (EssentialField.isExplicit_of_essentials each explicit)]
      obtain ⟨otherItem, otherRead, serves⟩ :=
        Item.exists_servesLike wellFormed foreignFit leaf each
      have read : Item.ofForm? (SchemaForm.ofValue (.object tag fields)) = .ok item := by
        rw [form]
        exact wellFormed
      have readForm : Item.ofForm? (SchemaForm.ofValue (.object tag others)) = .ok otherItem := by
        rw [otherForm]
        exact otherRead
      rw [Schema.ofValue_of_item read, Schema.ofValue_of_item readForm, form, otherForm]
      apply Schema.ofWellFormed_eq_of_servesLike serves serves.allowExtraKeys
      exact below item read
termination_by sizeOf schema

end SameEssentials

/-! ## Checks -/

namespace Check

variable {σ : Type}

/-- Foreign fields have no effect. Whatever is added, replaced or removed of them in well-formed
items, a check takes the same steps and comes to the same outcome, for any host. -/
theorem run_with_foreign_fields (host : Host σ) (data : Value) {schema other : Value}
    (options : Options) (essential : SameEssentials schema other) :
    run host data other options = run host data schema options := by
  rw [run, run, essential.ofValue_eq]

/-- A list whose item gains a class and a setting, and in it an item for null that gains data and
one for strings that loses its calls. Both checks fail at the string. -/
theorem run_with_foreign_fields_in_list :
    let host : Host Unit := ⟨fun _ _ _ _ => ⟨.ok .undefined, [], ()⟩⟩
    let item (kind : String) (fields : List (String × Value)) : Value :=
      .object none (("type", .string kind) :: fields)
    let data : Value := .object none [("list", .array [.null, .string "a"])]
    let schema : Value := .object none
      [("list", item "array"
        [("data", .array
          [item "null" [], item "string" [("calls", .array []), ("data", .string "b")]])])]
    let other : Value := .object none
      [("list", item "array"
        [("class", .classTag (.builtin .date)),
          ("data", .array
            [item "null" [("data", .string "c")], item "string" [("data", .string "b")]]),
          ("allowExtraKeys", .bool false)])]
    SameEssentials schema other ∧
      run host data other {} = run host data schema {} ∧
      ((run host data schema {}).finish ⟨(), []⟩).1 =
        .error (.value ⟨[.key "list", .index 1]⟩ "a" "b") := by
  intro host item data schema other
  have inNull : SameEssentials (item "null" []) (item "null" [("data", .string "c")]) :=
    SameEssentials.insert none "data" (.string "c") rfl rfl rfl trivial
  have inText : SameEssentials (item "string" [("calls", .array []), ("data", .string "b")])
      (item "string" [("data", .string "b")]) :=
    SameEssentials.remove none "calls" rfl rfl rfl
  have essential : SameEssentials schema other := by
    refine .shorthand rfl (.object none (.cons (.part (by decide) ?_) .nil))
    refine .explicit none rfl rfl ?_ (fun _ notArray => absurd rfl notArray) ?_
    · exact fun field member _ => SameEssentials.fits_of_wellFormed rfl field member
    · exact .cons (.kept _) (.cons (.data (.array (.cons inNull (.cons inText .nil)))) .nil)
  exact ⟨essential, run_with_foreign_fields host data {} essential, rfl⟩

end Check

end SchemaMatch
