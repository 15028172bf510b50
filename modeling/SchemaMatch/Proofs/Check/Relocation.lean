import SchemaMatch.Proofs.Check.Origin
import SchemaMatch.Proofs.Schema.Expansion

/-!
Contract: checks of a part, seen from the whole.

Owns:
- paths, mismatches, obligations and positions that are moved below a row of segments;
- `Position.allObligations_under`: a position that is moved asks the same, and names moved paths;
- values enclosed in arrays of one element and objects of one field;
- `Check.run_enclosed`: data and schema that are enclosed alike have the outcome they had before,
  with the path of a mismatch moved below the enclosures.

Does not own: checks that make calls, where a function sees the value that holds it.
-/

namespace SchemaMatch

variable {σ : Type}

/-! ## Moving below segments -/

/-- A path of a part, seen from a whole in which segments lead to the part. -/
def Path.under (segments : List Segment) (path : Path) : Path :=
  ⟨segments ++ path.below⟩

theorem Path.under_child (segments : List Segment) (path : Path) (segment : Segment) :
    (path.child segment).under segments = (path.under segments).child segment := by
  simp only [under, child, List.append_assoc]

namespace Mismatch

/-- A mismatch of a part, seen from a whole in which segments lead to the part. Nothing but its
path changes, if it has one. -/
def under (segments : List Segment) : Mismatch → Mismatch
  | .type path expected => .type (path.under segments) expected
  | .value path actual expected => .value (path.under segments) actual expected
  | .pattern path actual source => .pattern (path.under segments) actual source
  | .date path actual expected => .date (path.under segments) actual expected
  | .function path => .function (path.under segments)
  | .length path actual expected => .length (path.under segments) actual expected
  | .extraKey path key => .extraKey (path.under segments) key
  | .class_ path => .class_ (path.under segments)
  | .callResult path index returned expected =>
      .callResult (path.under segments) index returned expected
  | .call error => .call error
  | .malformedSchema violation => .malformedSchema violation

theorem under_nil (mismatch : Mismatch) : mismatch.under [] = mismatch := by
  cases mismatch <;> rfl

theorem under_append (outer inner : List Segment) (mismatch : Mismatch) :
    mismatch.under (outer ++ inner) = (mismatch.under inner).under outer := by
  cases mismatch <;> simp only [under, Path.under, List.append_assoc]

theorem path?_under (segments : List Segment) (mismatch : Mismatch) :
    (mismatch.under segments).path? = mismatch.path?.map (Path.under segments) := by
  cases mismatch <;> rfl

end Mismatch

def Obligation.under (segments : List Segment) (obligation : Obligation) : Obligation :=
  { obligation with failure := obligation.failure.under segments }

/-- What decides among obligations decides among moved ones. -/
theorem firstFailure_map_under (segments : List Segment) (obligations : List Obligation) :
    firstFailure (obligations.map (Obligation.under segments)) =
      (firstFailure obligations).mapError (Mismatch.under segments) := by
  induction obligations with
  | nil => rfl
  | cons obligation rest inductionHypothesis =>
      rw [List.map_cons, firstFailure, firstFailure]
      cases holds : obligation.holds with
      | true => simpa [Obligation.under, holds] using inductionHypothesis
      | false => simp [Obligation.under, holds, Except.mapError]

namespace Position

/-- The same data under the same schema, at a place that segments lead to. -/
def under (segments : List Segment) (position : Position) : Position :=
  { position with path := position.path.under segments }

variable {position : Position} {segments : List Segment} {options : Options}

theorem under_child (segment : Segment) (data schema : Value) :
    (position.child segment data schema).under segments =
      (position.under segments).child segment data schema := by
  simp only [under, child, Path.under_child]

theorem stringObligation_under (check : Value) :
    (position.under segments).stringObligation check =
      (position.stringObligation check).under segments := by
  cases check <;> rfl

theorem contentObligations_under (item : Item) :
    (position.under segments).contentObligations options item =
      (position.contentObligations options item).map (Obligation.under segments) := by
  unfold contentObligations
  cases item.kind with
  | null => rfl
  | string =>
      rw [List.map_map]
      exact List.map_congr_left fun check _ => stringObligation_under check
  | date => simp only [dateObligations, List.map_map]; rfl
  | function => simp only [functionObligations, List.map_map]; rfl
  | array =>
      unfold lengthObligations
      cases data : position.data with
      | array values => simp only [under, data, List.map_map]; rfl
      | _ => simp only [under, data, List.map_nil]
  | object =>
      have samePolicy : (position.under segments).permitsExtraKeys item options =
          position.permitsExtraKeys item options := rfl
      simp only [samePolicy, List.map_append, classObligations, keyObligations]
      cases position.permitsExtraKeys item options with
      | true => simp only [if_true, List.map_nil, List.map_map]; rfl
      | false => simp only [Bool.false_eq_true, if_false, List.map_map]; rfl
  | _ => simp only [valueObligations, List.map_map]; rfl

theorem obligations_under :
    (position.under segments).obligations options =
      (position.obligations options).map (Obligation.under segments) := by
  have sameItem : (position.under segments).item? = position.item? := rfl
  cases read : position.item? with
  | error violation => simp only [obligations, sameItem, read]; rfl
  | ok item =>
      rw [obligations_of_item read, obligations_of_item (sameItem.trans read), List.map_cons,
        contentObligations_under]
      rfl

theorem fieldPositions_under (parts : List (String × Value)) :
    (position.under segments).fieldPositions parts =
      (position.fieldPositions parts).map (under segments) := by
  simp only [fieldPositions, List.map_map, Function.comp_def, under_child]
  rfl

theorem elementPositions_under (index : Nat) (values schemas : List Value) :
    (position.under segments).elementPositions index values schemas =
      (position.elementPositions index values schemas).map (under segments) := by
  simp only [elementPositions, List.map_map, Function.comp_def, under_child]

theorem children_under :
    (position.under segments).children = position.children.map (under segments) := by
  have sameItem : (position.under segments).item? = position.item? := rfl
  have sameData : (position.under segments).data = position.data := rfl
  cases read : position.item? with
  | error violation => simp only [children, sameItem, read, List.map_nil]
  | ok item =>
      simp only [children, sameItem, read]
      cases item.kind with
      | object => exact fieldPositions_under item.parts
      | array =>
          simp only [itemPositions, sameData]
          cases position.data with
          | array values =>
              dsimp only
              split
              · exact elementPositions_under 0 values _
              · rfl
          | _ => rfl
      | _ => rfl

/-- A position that is moved asks the same here and below, and names moved paths. -/
theorem allObligations_under (position : Position) :
    (position.under segments).allObligations options =
      (position.allObligations options).map (Obligation.under segments) := by
  have below : ∀ child ∈ position.children,
      (child.under segments).allObligations options =
        (child.allObligations options).map (Obligation.under segments) := by
    intro child isChild
    have smaller := sizeOf_schema_child_lt isChild
    exact allObligations_under child
  rw [allObligations_eq, allObligations_eq, obligations_under, children_under, List.map_append,
    List.flatMap_map, List.map_flatMap, List.flatMap_congr below]
termination_by sizeOf position.schema

end Position

/-! ## Enclosures -/

/-- What encloses a value as its one part: an array, or an object with a field of a key. The key
is not the one that makes an item of an object, and not the marker, which is no part. -/
inductive Enclosure where
  | element
  | field (tag : Option Class) (key : String) (notType : key ≠ "type")
      (notMarker : key ≠ SchemaForm.markerKey)

namespace Enclosure

def kind : Enclosure → Kind
  | .element => .array
  | .field .. => .object

/-- The segment that leads to what is enclosed. -/
def segment : Enclosure → Segment
  | .element => .index 0
  | .field _ key _ _ => .key key

def enclose : Enclosure → Value → Value
  | .element, value => .array [value]
  | .field tag key _ _, value => .object tag [(key, value)]

end Enclosure

/-- A value in a row of enclosures, from the outside in. -/
def Value.enclosed (enclosures : List Enclosure) (value : Value) : Value :=
  enclosures.foldr Enclosure.enclose value

namespace Enclosure

variable (enclosure : Enclosure) (data schema : Value) (options : Options)

/-- Without a field `type` an object is no item, so every enclosure is shorthand. -/
theorem form_enclose :
    SchemaForm.ofValue (enclosure.enclose schema) =
      .shorthand enclosure.kind (enclosure.enclose schema) := by
  cases enclosure with
  | element => rfl
  | field tag key notType notMarker =>
      have noItem : SchemaForm.isExplicit [(key, schema)] = false := by
        simp [SchemaForm.isExplicit, Fields.lookup?, notType]
      rw [enclose, SchemaForm.ofValue_object, noItem]
      rfl

theorem ofForm?_enclose :
    Item.ofForm? (SchemaForm.ofValue (enclosure.enclose schema)) =
      .ok (Item.ofShorthand enclosure.kind (enclosure.enclose schema) none) :=
  Item.ofForm?_of_shorthand (enclosure.form_enclose schema)

theorem below_enclose :
    (Item.ofShorthand enclosure.kind (enclosure.enclose schema) none).below = [schema] := by
  cases enclosure with
  | element => rfl
  | field tag key notType notMarker =>
      show ([(key, schema)].filter fun part => part.1 ≠ SchemaForm.markerKey).map Prod.snd = _
      simp [notMarker]

theorem item?_enclose :
    (Position.root (enclosure.enclose data) (enclosure.enclose schema)).item? =
      .ok (Item.ofShorthand enclosure.kind (enclosure.enclose schema) none) :=
  enclosure.ofForm?_enclose schema

/-- Data that is enclosed like its schema meets what the enclosure asks: it is of its kind, and has
the one element or the one key that is declared. -/
theorem firstFailure_obligations_enclose :
    firstFailure ((Position.root (enclosure.enclose data) (enclosure.enclose schema)).obligations
      options) = .ok () := by
  rw [Position.obligations_of_item (enclosure.item?_enclose data schema)]
  cases enclosure with
  | element => rfl
  | field tag key notType notMarker =>
      show firstFailure (if Position.permitsExtraKeys _ _ options then []
        else [⟨[key].contains key, .extraKey _ key⟩]) = .ok ()
      split
      · rfl
      · simp [firstFailure]

theorem children_enclose :
    (Position.root (enclosure.enclose data) (enclosure.enclose schema)).children =
      [(Position.root (enclosure.enclose data) (enclosure.enclose schema)).child enclosure.segment
        data schema] := by
  rw [Position.children, item?_enclose]
  cases enclosure with
  | element => rfl
  | field tag key notType notMarker =>
      show Position.fieldPositions _ [(key, schema)] = _
      have isPart : [(key, schema)].filter (fun part => part.1 ≠ SchemaForm.markerKey) =
          [(key, schema)] := by simp [notMarker]
      have found : (Value.object tag [(key, data)]).get key = data := by
        simp [Value.get, Fields.lookup?]
      rw [Position.fieldPositions, isPart]
      show [Position.child _ (.key key) ((Value.object tag [(key, data)]).get key) schema] = _
      rw [found]
      rfl

/-- The check of what is enclosed is all that an enclosure leaves to decide. -/
theorem firstFailure_enclose :
    firstFailure ((Position.root (enclosure.enclose data) (enclosure.enclose schema)).allObligations
        options) =
      (firstFailure ((Position.root data schema).allObligations options)).mapError
        (Mismatch.under [enclosure.segment]) := by
  -- What is enclosed has the enclosure for its holder, which only calls would see.
  have moved : (Position.root (enclosure.enclose data) (enclosure.enclose schema)).child
      enclosure.segment data schema =
        { (Position.root data schema).under [enclosure.segment] with
          parent := enclosure.enclose data } := rfl
  rw [Position.allObligations_eq, firstFailure_append, firstFailure_obligations_enclose,
    children_enclose, List.flatMap_singleton, moved, Position.allObligations_heldBy,
    Position.allObligations_under, firstFailure_map_under]

end Enclosure

/-! ## Rows of enclosures -/

section Row

variable (enclosures : List Enclosure) (options : Options)

theorem firstFailure_enclosed (data schema : Value) :
    firstFailure ((Position.root (data.enclosed enclosures)
        (schema.enclosed enclosures)).allObligations options) =
      (firstFailure ((Position.root data schema).allObligations options)).mapError
        (Mismatch.under (enclosures.map Enclosure.segment)) := by
  induction enclosures with
  | nil =>
      show firstFailure ((Position.root data schema).allObligations options) = _
      cases firstFailure ((Position.root data schema).allObligations options) with
      | ok _ => rfl
      | error mismatch => exact congrArg Except.error mismatch.under_nil.symm
  | cons enclosure rest inductionHypothesis =>
      show firstFailure ((Position.root (enclosure.enclose (data.enclosed rest))
        (enclosure.enclose (schema.enclosed rest))).allObligations options) = _
      rw [enclosure.firstFailure_enclose, inductionHypothesis]
      cases firstFailure ((Position.root data schema).allObligations options) with
      | ok _ => rfl
      | error mismatch =>
          exact congrArg Except.error (mismatch.under_append [enclosure.segment] _).symm

/-- Enclosures declare no calls. -/
theorem CallFree.enclosed {schema : Value} (callFree : CallFree schema) :
    CallFree (schema.enclosed enclosures) := by
  induction enclosures with
  | nil => exact callFree
  | cons enclosure rest inductionHypothesis =>
      refine .of_item [schema.enclosed rest] (enclosure.ofForm?_enclose _) rfl
        (enclosure.below_enclose _) ?_
      intro other member
      rw [List.mem_singleton.mp member]
      exact inductionHypothesis

end Row

/-- What fails without calls is an item that is malformed, or something at a place. -/
theorem Position.path?_of_firstFailure {position : Position} {options : Options}
    {mismatch : Mismatch}
    (fails : firstFailure (position.allObligations options) = .error mismatch) :
    (∃ violation, mismatch = .malformedSchema violation) ∨ ∃ path, mismatch.path? = some path := by
  obtain ⟨before, failing, after, split, -, -, rfl⟩ := firstFailure_eq_error_iff.mp fails
  have member : failing ∈ position.allObligations options := by
    rw [split]
    simp
  obtain ⟨below, -, isOwn⟩ := List.mem_flatMap.mp member
  rcases path?_of_mem_obligations isOwn with named | malformed
  · exact .inr ⟨below.path, named⟩
  · exact .inl malformed

namespace Check

/-- Data and a schema without calls may be enclosed alike, in any number of arrays of one element
and objects of one field. The check passes if it passed before. A malformed item is reported as
before, and any other mismatch with its path moved below the enclosures. -/
theorem run_enclosed (host : Host σ) (data schema : Value) (options : Options)
    (session : Session σ) (enclosures : List Enclosure) (callFree : CallFree schema) :
    let outcome (data schema : Value) := ((run host data schema options).finish session).1
    let part := outcome data schema
    let whole := outcome (data.enclosed enclosures) (schema.enclosed enclosures)
    let segments := enclosures.map Enclosure.segment
    (whole = .ok () ↔ part = .ok ()) ∧
    (∀ violation, whole = .error (.malformedSchema violation) ↔
      part = .error (.malformedSchema violation)) ∧
    (∀ mismatch, part = .error mismatch →
      (∃ violation, mismatch = .malformedSchema violation) ∨
      ∃ path, mismatch.path? = some path ∧ whole = .error (mismatch.under segments) ∧
        (mismatch.under segments).path? = some (path.under segments)) := by
  intro outcome part whole segments
  have partDecided : part = firstFailure ((Position.root data schema).allObligations options) :=
    outcome_of_callFree host data options session callFree
  have moved : whole = part.mapError (Mismatch.under segments) := by
    rw [partDecided, ← firstFailure_enclosed]
    exact outcome_of_callFree host _ options session (callFree.enclosed enclosures)
  rw [moved]
  cases ended : part with
  | ok _ => simp [Except.mapError]
  | error mismatch =>
      rw [partDecided] at ended
      refine ⟨by simp [Except.mapError], fun violation => ?_, ?_⟩
      · cases mismatch <;> simp [Except.mapError, Mismatch.under]
      · rintro _ ⟨⟩
        rcases Position.path?_of_firstFailure ended with malformed | ⟨path, named⟩
        · exact .inl malformed
        · refine .inr ⟨path, named, rfl, ?_⟩
          rw [Mismatch.path?_under, named]
          rfl

/-- The keys of both enclosing objects are names of item fields, and the outer object has a tag.
The extra key is found where they lead. -/
theorem run_enclosed_under_item_names :
    let host : Host Unit := ⟨fun _ _ _ _ => ⟨.ok .undefined, [], ()⟩⟩
    let outcome (data schema : Value) :=
      ((run host data schema ⟨some false⟩).finish ⟨(), []⟩).1
    let enclosures : List Enclosure :=
      [.field (some (.builtin .date)) "data" (by decide) (by decide), .element,
        .field none "calls" (by decide) (by decide)]
    let data : Value := .object none [("x", .object none [("y", .null)])]
    let schema : Value := .object none [("x", .object none [])]
    CallFree schema ∧
      outcome data schema = .error (.extraKey ⟨[.key "x"]⟩ "y") ∧
      outcome (data.enclosed enclosures) (schema.enclosed enclosures) =
        .error (.extraKey ⟨[.key "data", .index 0, .key "calls", .key "x"]⟩ "y") := by
  intro host outcome enclosures data schema
  have empty : CallFree (.object none []) := .of_item [] rfl rfl rfl (by simp)
  have callFree : CallFree schema := .of_item [_] rfl rfl rfl (by simpa using empty)
  have fails : outcome data schema = .error (.extraKey ⟨[.key "x"]⟩ "y") := rfl
  have enclosed := run_enclosed host data schema ⟨some false⟩ ⟨(), []⟩ enclosures callFree
  obtain ⟨violation, impossible⟩ | ⟨path, -, moved, -⟩ := enclosed.2.2 _ fails
  · cases impossible
  · exact ⟨callFree, fails, moved⟩

end Check

end SchemaMatch
