import SchemaMatch.Proofs.Check.Resemblance
import SchemaMatch.Proofs.Schema.Marker

/-!
Contract: the marker of extra keys is never compared as data.

Owns:
- data that differs under markers only, in which a check sees the same;
- schemas that set the same policies, which declare calls alike;
- positions whose data and schema differ in this way, which ask the same;
- `Check.outcome_of_changed_markers`: the outcome of a check without calls does not depend on what
  stands under markers, as long as the markers of shorthand objects set the same policies.

Does not own: the reading of such schemas.
-/

namespace SchemaMatch

open Value (SameButMarkers)

/-! ## Data -/

namespace Value.SameButMarkers

/-- What is under the marker shows nowhere. -/
theorem looksLike {data other : Value} (alike : SameButMarkers data other) :
    data.LooksLike other := by
  obtain ⟨parts⟩ := alike
  cases parts with
  | same => exact .refl _
  | object tag => exact .object tag _ _
  | @array items others each =>
      obtain ⟨sameLength, pairAt⟩ := List.forall₂_iff_get.mp each
      refine .array (List.forall₂_iff_get.mpr ⟨sameLength, fun index inItems inOthers => ?_⟩)
      have smaller : sizeOf (items.get ⟨index, inItems⟩) < sizeOf items :=
        List.sizeOf_lt_of_mem (List.get_mem items _)
      have inside : sizeOf (items.get ⟨index, inItems⟩) < sizeOf (Value.array items) := by
        rw [array.sizeOf_spec]
        omega
      exact (pairAt index inItems inOthers).looksLike
termination_by sizeOf data

theorem keys_eq {data other : Value} (alike : SameButMarkers data other) :
    other.keys = data.keys := by
  obtain ⟨parts⟩ := alike
  exact parts.keys_eq

theorem get {data other : Value} (alike : SameButMarkers data other) {key : String}
    (notMarker : key ≠ SchemaForm.markerKey) : SameButMarkers (data.get key) (other.get key) := by
  obtain ⟨parts⟩ := alike
  exact parts.get .refl notMarker

theorem element {items others : List Value}
    (alike : SameButMarkers (.array items) (.array others)) {index : Nat} {value other : Value}
    (isValue : items[index]? = some value) (isOther : others[index]? = some other) :
    SameButMarkers value other := by
  obtain ⟨parts⟩ := alike
  cases parts with
  | same =>
      obtain rfl := Option.some.inj (isValue.symm.trans isOther)
      exact .refl _
  | array each =>
      have pair := rel_getElem? each index
      rw [isValue, isOther] at pair
      cases pair with
      | some pair => exact pair

end Value.SameButMarkers

/-! ## Schemas -/

namespace Item.MarkedLike

variable {schema : Value} {item other : Item}

theorem asksLike (alike : item.MarkedLike other) : item.AsksLike other where
  kind := alike.kind
  tag := alike.tag
  names := MarkedField.keys_eq alike.parts
  isSome := alike.isSome
  data := alike.data

/-- What is compared below the one item sets the same policies as what is compared below the
other. -/
theorem exists_below (alike : item.MarkedLike other)
    (read : Item.ofForm? (SchemaForm.ofValue schema) = .ok item) {otherBelow : Value}
    (member : otherBelow ∈ other.below) : ∃ below ∈ item.below, SamePolicies below otherBelow := by
  unfold Item.below at member ⊢
  rw [alike.kind] at member
  cases kind : item.kind with
  | object =>
      rw [kind] at member
      obtain ⟨partner, kept, rfl⟩ := List.mem_map.mp member
      obtain ⟨isPartner, notMarker⟩ := List.mem_filter.mp kept
      obtain ⟨part, isPart, pair⟩ := mem_of_forall₂ alike.parts isPartner
      cases pair with
      | marker => exact absurd rfl (of_decide_eq_true notMarker)
      | part _ pair =>
          exact ⟨_, List.mem_map_of_mem (List.mem_filter.mpr ⟨isPart, notMarker⟩), pair⟩
  | array =>
      rw [kind] at member
      obtain ⟨partner, isPartner, rfl⟩ := List.mem_map.mp member
      obtain ⟨part, isPart, pair⟩ := mem_of_forall₂ alike.parts isPartner
      cases pair with
      | marker => exact absurd rfl (Item.ne_markerKey_of_array read kind isPart)
      | part _ pair => exact ⟨_, List.mem_map_of_mem isPart, pair⟩
  | _ => rw [kind] at member; cases member

end Item.MarkedLike

/-- A schema that sets the same policies declares no calls if the schema declares none. -/
theorem CallFree.of_samePolicies {schema other : Value} (callFree : CallFree schema)
    (policies : SamePolicies schema other) : CallFree other := by
  induction callFree generalizing other with
  | intro schema noCalls below inductionHypothesis =>
      have alike : ∀ otherItem, Item.ofForm? (SchemaForm.ofValue other) = .ok otherItem →
          ∃ item, Item.ofForm? (SchemaForm.ofValue schema) = .ok item ∧
            item.MarkedLike otherItem := by
        intro otherItem otherRead
        have readAlike := policies.readAlike
        rw [otherRead] at readAlike
        generalize Item.ofForm? (SchemaForm.ofValue schema) = read at readAlike
        cases readAlike with
        | wellFormed alike => exact ⟨_, rfl, alike⟩
      refine .intro other (fun otherItem otherRead => ?_) fun otherItem otherRead _ isBelow => ?_
      · obtain ⟨item, read, alike⟩ := alike otherItem otherRead
        rw [alike.calls, noCalls item read]
      · obtain ⟨item, read, alike⟩ := alike otherItem otherRead
        obtain ⟨original, isOriginal, pair⟩ := alike.exists_below read isBelow
        exact inductionHypothesis item read original isOriginal pair

/-! ## Positions -/

namespace Position

/-- A position with data that differs under markers only, and a schema that sets the same
policies. -/
structure MarkedTwin (position twin : Position) : Prop where
  path : twin.path = position.path
  data : SameButMarkers position.data twin.data
  schema : SamePolicies position.schema twin.schema

namespace MarkedTwin

variable {position twin : Position} (twins : MarkedTwin position twin)

include twins

theorem readAlike : Item.ReadAlike position.item? twin.item? :=
  twins.schema.readAlike

theorem permitsExtraKeys_eq {item other : Item} (alike : item.MarkedLike other)
    (options : Options) :
    twin.permitsExtraKeys other options = position.permitsExtraKeys item options := by
  rw [permitsExtraKeys_eq_policy, permitsExtraKeys_eq_policy, Policy.permitsExtraKeys,
    Policy.permitsExtraKeys,
    alike.allowExtraKeys, twins.schema.own?_eq]

theorem obligations_eq (options : Options) :
    twin.obligations options = position.obligations options := by
  have readAlike := twins.readAlike
  generalize isRead : position.item? = read at readAlike
  generalize isTwinRead : twin.item? = twinRead at readAlike
  cases readAlike with
  | malformed violation => exact obligations_eq_of_malformed isRead isTwinRead
  | wellFormed alike =>
      exact Position.obligations_eq twins.path twins.data.looksLike isRead isTwinRead alike.asksLike
        (fun _ => twins.permitsExtraKeys_eq alike options) fun _ _ => twins.data.keys_eq

theorem forall₂_children : List.Forall₂ MarkedTwin position.children twin.children := by
  have readAlike := twins.readAlike
  generalize isRead : position.item? = read at readAlike
  generalize isTwinRead : twin.item? = twinRead at readAlike
  cases readAlike with
  | malformed violation =>
      simp only [children, isRead, isTwinRead]
      exact .nil
  | wellFormed alike =>
      refine Position.forall₂_children isRead isTwinRead alike.kind twins.data.looksLike
        alike.parts (fun _ _ pair => pair.name_eq) ?_ ?_
      · intro _ part _ partner pair notMarker
        cases pair with
        | marker => exact absurd rfl notMarker
        | part _ pair =>
            exact ⟨by simp only [child, twins.path], twins.data.get notMarker, pair⟩
      · intro isArray items others isItems isOthers index value counterpart isValue isCounterpart
          part isPart partner pair
        cases pair with
        | marker => exact absurd rfl (Item.ne_markerKey_of_array isRead isArray isPart)
        | part _ pair =>
            have inData := twins.data
            rw [isItems, isOthers] at inData
            exact ⟨by simp only [child, twins.path], inData.element isValue isCounterpart, pair⟩

end MarkedTwin

end Position

/-! ## Checks -/

namespace Check

variable {σ : Type}

/-- Whatever stands under the marker in the data or in the schema, a check without calls has the
same outcome, as long as the markers of shorthand objects set the same policies. -/
theorem outcome_of_changed_markers (host : Host σ) (options : Options) (session : Session σ)
    {data otherData schema otherSchema : Value} (callFree : CallFree schema)
    (sameData : SameButMarkers data otherData) (policies : SamePolicies schema otherSchema) :
    ((run host otherData otherSchema options).finish session).1 =
      ((run host data schema options).finish session).1 := by
  have twins : Position.MarkedTwin (.root data schema) (.root otherData otherSchema) :=
    ⟨rfl, sameData, policies⟩
  have sameObligations :
      (Position.root otherData otherSchema).allObligations options =
        (Position.root data schema).allObligations options :=
    Position.allObligations_eq_of_pairs (fun _ _ twins => twins.obligations_eq options)
      (fun _ _ twins => twins.forall₂_children) twins
  rw [outcome_of_callFree host otherData options session (callFree.of_samePolicies policies),
    outcome_of_callFree host data options session callFree, sameObligations]

/-- A strict shorthand keeps its marker, a tolerant one gets a tree for it, and so does the data of
an explicit item, where the marker is free. Both checks fail at the same element. -/
theorem outcome_of_changed_markers_in_list :
    let host : Host Unit := ⟨fun _ _ _ _ => ⟨.ok .undefined, [], ()⟩⟩
    let outcome (data schema : Value) := ((run host data schema {}).finish ⟨(), []⟩).1
    let tree : Value := .object none [("type", .string "date"), ("calls", .array [.null])]
    let element (marker : Value) : Value := .object none
      [(SchemaForm.markerKey, marker), ("done", .bool true)]
    let user (marker : Value) : Value := .object none
      [("type", .string "object"),
        ("data", .object none [(SchemaForm.markerKey, marker), ("name", .null)])]
    let schema (inUser inElement : Value) : Value := .object none
      [(SchemaForm.markerKey, .bool false), ("user", user inUser),
        ("list", .array [element inElement])]
    let data (atRoot inUser : Value) : Value := .object none
      [(SchemaForm.markerKey, atRoot),
        ("user", .object none [("name", .null), (SchemaForm.markerKey, inUser)]),
        ("list", .array [.object none [("done", .bool false), ("more", .null)]])]
    CallFree (schema (.bool false) (.bool true)) ∧
      SameButMarkers (data .null (.bool false)) (data tree .undefined) ∧
      SamePolicies (schema (.bool false) (.bool true)) (schema tree tree) ∧
      outcome (data .null (.bool false)) (schema (.bool false) (.bool true)) =
        .error (.value ⟨[.key "list", .index 0, .key "done"]⟩ "false" "true") ∧
      outcome (data tree .undefined) (schema tree tree) =
        outcome (data .null (.bool false)) (schema (.bool false) (.bool true)) := by
  intro host outcome tree element user schema data
  have callFree : CallFree (schema (.bool false) (.bool true)) := by
    have null : CallFree .null := .of_item [] rfl rfl rfl (by simp)
    have done : CallFree (.bool true) := .of_item [] rfl rfl rfl (by simp)
    have userFree : CallFree (user (.bool false)) :=
      .of_item [.null] rfl rfl rfl (by simpa using null)
    have elementFree : CallFree (element (.bool true)) :=
      .of_item [.bool true] rfl rfl rfl (by simpa using done)
    have listFree : CallFree (.array [element (.bool true)]) :=
      .of_item [_] rfl rfl rfl (by simpa using elementFree)
    exact .of_item [_, _] rfl rfl rfl (by simpa using ⟨userFree, listFree⟩)
  have sameData : SameButMarkers (data .null (.bool false)) (data tree .undefined) := by
    refine .of_parts (.object none (.cons (.marker trivial) (.cons (.part (by decide) ?_)
      (.cons (.part (by decide) (.refl _)) .nil))))
    exact .of_parts (.object none (.cons (.part (by decide) (.refl _))
      (.cons (.marker trivial) .nil)))
  have policies : SamePolicies (schema (.bool false) (.bool true)) (schema tree tree) := by
    have inUser : SamePolicies (user (.bool false)) (user tree) :=
      .explicit none rfl (.inl rfl) (.cons (.kept _) (.cons (.data (.object none
        (.cons (.marker trivial) (.cons (.part (by decide) (.same _)) .nil)))) .nil))
    have inElement : SamePolicies (element (.bool true)) (element tree) :=
      .shorthand rfl (.object none (.cons (.marker ⟨by simp [tree], rfl⟩)
        (.cons (.part (by decide) (.same _)) .nil)))
    exact .shorthand rfl (.object none (.cons (.marker (.refl _))
      (.cons (.part (by decide) inUser)
        (.cons (.part (by decide) (.shorthand rfl (.array (.cons inElement .nil)))) .nil))))
  exact ⟨callFree, sameData, policies, rfl,
    outcome_of_changed_markers host {} ⟨(), []⟩ callFree sameData policies⟩

end Check

end SchemaMatch
