import Mathlib.Data.List.Forall2
import SchemaMatch.Proofs.Schema.Reading
import SchemaMatch.Value.Equality

/-!
Contract: values that differ in the order of fields only.

Owns:
- properties that hold of a value and of all parts below it;
- unique names of fields, which insertion keeps, and what they make of look-up;
- equality of values up to the order of fields and up to class tags, which structural equality
  implies, and what it keeps: the keys of a value and, up to the same relation, the values under
  them.

Does not own: checks.
-/

namespace SchemaMatch

/-! ## Properties of all parts -/

namespace Value

mutual

/-- Whether a property holds of a value and of all values inside it. -/
def everywhere (holds : Value → Bool) : Value → Bool
  | .array items => holds (.array items) && everywhereInItems holds items
  | .object tag fields => holds (.object tag fields) && everywhereInFields holds fields
  | leaf => holds leaf

def everywhereInItems (holds : Value → Bool) : List Value → Bool
  | [] => true
  | item :: rest => everywhere holds item && everywhereInItems holds rest

def everywhereInFields (holds : Value → Bool) : List (String × Value) → Bool
  | [] => true
  | (_, value) :: rest => everywhere holds value && everywhereInFields holds rest

end

variable {holds : Value → Bool}

theorem everywhereInItems_iff {items : List Value} :
    everywhereInItems holds items = true ↔ ∀ item ∈ items, everywhere holds item = true := by
  induction items with
  | nil => simp [everywhereInItems]
  | cons item rest inductionHypothesis => simp [everywhereInItems, inductionHypothesis]

theorem everywhereInFields_iff {fields : List (String × Value)} :
    everywhereInFields holds fields = true ↔
      ∀ field ∈ fields, everywhere holds field.2 = true := by
  induction fields with
  | nil => simp [everywhereInFields]
  | cons field rest inductionHypothesis => simp [everywhereInFields, inductionHypothesis]

theorem holds_of_everywhere {value : Value} (all : everywhere holds value = true) :
    holds value = true := by
  cases value with
  | array items => exact (Bool.and_eq_true_iff.mp all).1
  | object tag fields => exact (Bool.and_eq_true_iff.mp all).1
  | _ => exact all

theorem everywhere_of_mem_parts {value : Value} {part : String × Value}
    (all : everywhere holds value = true) (member : part ∈ value.parts) :
    everywhere holds part.2 = true := by
  cases value with
  | array items =>
      have inItems := everywhereInItems_iff.mp (Bool.and_eq_true_iff.mp all).2
      obtain ⟨entry, isEntry, rfl⟩ := List.mem_map.mp member
      exact inItems _ (List.fst_mem_of_mem_zipIdx isEntry)
  | object tag fields =>
      have inFields := everywhereInFields_iff.mp (Bool.and_eq_true_iff.mp all).2
      exact inFields part member
  | _ => cases member

/-- What holds everywhere holds of each property, if it holds of what is missing. -/
theorem everywhere_get {value : Value} (ofMissing : everywhere holds .undefined = true)
    (all : everywhere holds value = true) (key : String) :
    everywhere holds (value.get key) = true := by
  cases value with
  | object tag fields =>
      rw [get]
      cases found : Fields.lookup? key fields with
      | none => exact ofMissing
      | some field =>
          have isPart : (key, field) ∈ (Value.object tag fields).parts :=
            Fields.mem_of_lookup? found
          exact everywhere_of_mem_parts all isPart
  | array items =>
      rw [get]
      cases found : (index? key).bind fun index => items[index]? with
      | none => exact ofMissing
      | some item =>
          obtain ⟨index, -, isItem⟩ := Option.bind_eq_some_iff.mp found
          have inItems := everywhereInItems_iff.mp (Bool.and_eq_true_iff.mp all).2
          exact inItems item (List.mem_of_getElem? isItem)
  | _ => exact ofMissing

end Value

/-! ## Unique names -/

namespace Fields

variable {α : Type} {key : String} {value : α} {fields : List (String × α)}

theorem keys_cons (field : String × α) (rest : List (String × α)) :
    keys (field :: rest) = field.1 :: keys rest := rfl

theorem keys_insert (key : String) (value : α) (fields : List (String × α)) :
    keys (insert key value fields) =
      if key ∈ keys fields then keys fields else keys fields ++ [key] := by
  induction fields with
  | nil => simp [insert, keys]
  | cons field rest inductionHypothesis =>
      by_cases same : field.1 = key
      · simp [insert, keys_cons, same]
      · have other : key ≠ field.1 := fun equal => same equal.symm
        rw [insert, if_neg same, keys_cons, keys_cons, inductionHypothesis]
        simp only [List.mem_cons, other, false_or]
        split <;> rfl

/-- Insertion keeps names unique. -/
theorem nodup_keys_insert (unique : (keys fields).Nodup) :
    (keys (insert key value fields)).Nodup := by
  rw [keys_insert]
  split
  · exact unique
  next isNew =>
    rw [List.nodup_append]
    refine ⟨unique, by simp, ?_⟩
    intro name isName other isKey
    rw [List.mem_singleton.mp isKey]
    rintro rfl
    exact isNew isName

theorem insert_of_not_mem {key : String} {fields : List (String × α)}
    (isNew : key ∉ keys fields) (value : α) :
    insert key value fields = fields ++ [(key, value)] := by
  induction fields with
  | nil => rfl
  | cons field rest inductionHypothesis =>
      rw [keys_cons, List.mem_cons, not_or] at isNew
      rw [insert, if_neg (Ne.symm isNew.1), inductionHypothesis isNew.2]
      rfl

/-- Pairs with unique names are fields as they stand. -/
theorem ofPairs_of_nodup {pairs : List (String × α)} (unique : (keys pairs).Nodup) :
    ofPairs pairs = pairs := by
  have collect : ∀ fields rest : List (String × α), (keys (fields ++ rest)).Nodup →
      rest.foldl (fun fields pair => insert pair.1 pair.2 fields) fields = fields ++ rest := by
    intro fields rest
    induction rest generalizing fields with
    | nil => exact fun _ => (List.append_nil fields).symm
    | cons pair rest inductionHypothesis =>
        intro unique
        have isNew : pair.1 ∉ keys fields := by
          rw [keys, List.map_append, List.nodup_append] at unique
          exact fun isOld => unique.2.2 pair.1 isOld pair.1 List.mem_cons_self rfl
        rw [List.foldl_cons, insert_of_not_mem isNew, inductionHypothesis]
        · simp
        · simpa using unique
  exact collect [] pairs unique

theorem mem_insert {field : String × α} (isField : field ∈ insert key value fields) :
    field = (key, value) ∨ field ∈ fields := by
  induction fields with
  | nil => exact .inl (List.mem_singleton.mp isField)
  | cons first rest inductionHypothesis =>
      rw [insert] at isField
      split at isField
      next same =>
        rcases List.mem_cons.mp isField with isNew | isOld
        · exact .inl (by rw [isNew, ← same])
        · exact .inr (List.mem_cons_of_mem _ isOld)
      next =>
        rcases List.mem_cons.mp isField with isFirst | later
        · exact .inr (isFirst ▸ List.mem_cons_self)
        · exact (inductionHypothesis later).imp_right (List.mem_cons_of_mem _)

/-- Each field is one of the pairs that were inserted. -/
theorem mem_of_mem_ofPairs {pairs : List (String × α)} {field : String × α}
    (isField : field ∈ ofPairs pairs) : field ∈ pairs := by
  have fromFields : ∀ pairs fields : List (String × α),
      field ∈ pairs.foldl (fun fields pair => insert pair.1 pair.2 fields) fields →
        field ∈ fields ∨ field ∈ pairs := by
    intro pairs
    induction pairs with
    | nil => exact fun fields isField => .inl isField
    | cons pair rest inductionHypothesis =>
        intro fields isField
        rcases inductionHypothesis _ isField with inserted | later
        · rcases mem_insert inserted with isPair | isOld
          · exact .inr (isPair ▸ List.mem_cons_self)
          · exact .inl isOld
        · exact .inr (List.mem_cons_of_mem _ later)
  exact (fromFields pairs [] isField).resolve_left (by simp)

/-- Under a unique name there is nothing but its field. -/
theorem lookup?_of_mem (unique : (keys fields).Nodup) (member : (key, value) ∈ fields) :
    lookup? key fields = some value := by
  induction fields with
  | nil => cases member
  | cons field rest inductionHypothesis =>
      obtain ⟨isNew, uniqueInRest⟩ := List.nodup_cons.mp unique
      rcases List.mem_cons.mp member with same | later
      · rw [← same, lookup?, if_pos rfl]
      · have other : field.1 ≠ key := by
          rintro rfl
          exact isNew (List.mem_map.mpr ⟨_, later, rfl⟩)
        rw [lookup?, if_neg other]
        exact inductionHypothesis uniqueInRest later

end Fields

namespace Value

/-- Whether no object names a field twice. Objects that are built by insertion do not. -/
def namesUnique : Value → Bool :=
  everywhere fun
    | .object _ fields => decide (Fields.keys fields).Nodup
    | _ => true

theorem get_of_mem_fields {tag : Option Class} {fields : List (String × Value)}
    {field : String × Value} (unique : (Value.object tag fields).namesUnique = true)
    (member : field ∈ fields) : (Value.object tag fields).get field.1 = field.2 := by
  have here := holds_of_everywhere unique
  rw [get, Fields.lookup?_of_mem (of_decide_eq_true here) member]
  rfl

/-! ## Equality up to the order of fields -/

/-- Values that are equal up to the order of fields and up to class tags. -/
inductive SameUpToOrder : Value → Value → Prop where
  | same (value : Value) : SameUpToOrder value value
  | strict {left right : Value} (equal : left.strictEqual right = true) :
      SameUpToOrder left right
  | regex {left right : Pattern} (source : left.source = right.source) :
      SameUpToOrder (.regex left) (.regex right)
  | array {left right : List Value} (items : List.Forall₂ SameUpToOrder left right) :
      SameUpToOrder (.array left) (.array right)
  | object (leftTag rightTag : Option Class) {left right : List (String × Value)}
      (keys : (Fields.keys left).Perm (Fields.keys right))
      (values : ∀ key ∈ Fields.keys right,
        SameUpToOrder ((Value.object leftTag left).get key) ((Value.object rightTag right).get key)) :
      SameUpToOrder (.object leftTag left) (.object rightTag right)

namespace SameUpToOrder

variable {left right : Value}

theorem of_date_right {instant : Timestamp} (alike : SameUpToOrder left (.date instant)) :
    left = .date instant := by
  cases alike with
  | same => rfl
  | strict equal => cases left <;> cases equal

/-- A value that is the same as an array is an array, item by item. -/
theorem of_array_right {items : List Value} (alike : SameUpToOrder left (.array items)) :
    ∃ values, left = .array values ∧ List.Forall₂ SameUpToOrder values items := by
  cases alike with
  | same => exact ⟨items, rfl, List.forall₂_same.mpr fun value _ => .same value⟩
  | strict equal => cases left <;> cases equal
  | array each => exact ⟨_, rfl, each⟩

/-- The same keys, in some order. -/
theorem keys_perm (alike : SameUpToOrder left right) : left.keys.Perm right.keys := by
  cases alike with
  | same => exact .refl _
  | strict equal =>
      have noKeys : left.keys = [] ∧ right.keys = [] := by
        cases left <;> cases right <;> first | exact ⟨rfl, rfl⟩ | cases equal
      rw [noKeys.1, noKeys.2]
  | regex source => exact .refl _
  | array items => rw [Value.keys, Value.keys, items.length_eq]
  | object leftTag rightTag keys values => exact keys

/-- Under the name of a field of one there stands the same in the other. -/
theorem get_of_mem_fields {tag : Option Class} {fields : List (String × Value)}
    {field : String × Value} (alike : SameUpToOrder left (.object tag fields))
    (unique : (Value.object tag fields).namesUnique = true) (member : field ∈ fields) :
    SameUpToOrder (left.get field.1) field.2 := by
  have found := Value.get_of_mem_fields unique member
  cases alike with
  | same => rw [found]; exact .same field.2
  | strict equal => cases left <;> cases equal
  | object leftTag rightTag keys values =>
      have under := values field.1 (List.mem_map.mpr ⟨field, member, rfl⟩)
      rwa [found] at under

/-! ### Structural equality -/

theorem forall₂_of_equalItems {items others : List Value}
    (below : ∀ item ∈ items, ∀ other, item.equal other = true → SameUpToOrder item other)
    (equal : equalItems items others = true) : List.Forall₂ SameUpToOrder items others := by
  induction items generalizing others with
  | nil =>
      cases others with
      | nil => exact .nil
      | cons => cases equal
  | cons item rest inductionHypothesis =>
      cases others with
      | nil => cases equal
      | cons other others =>
          obtain ⟨first, later⟩ := Bool.and_eq_true_iff.mp equal
          refine .cons (below item List.mem_cons_self other first) ?_
          exact inductionHypothesis (fun next member => below next (List.mem_cons_of_mem _ member))
            later

/-- Fields that are equal in order have the same names, and the same values under them. -/
theorem of_equalFields {fields others : List (String × Value)}
    (below : ∀ field ∈ fields, ∀ other, field.2.equal other = true → SameUpToOrder field.2 other)
    (equal : equalFields fields others = true) :
    Fields.keys fields = Fields.keys others ∧ ∀ key,
      SameUpToOrder ((Fields.lookup? key fields).getD .undefined)
        ((Fields.lookup? key others).getD .undefined) := by
  induction fields generalizing others with
  | nil =>
      cases others with
      | nil => exact ⟨rfl, fun key => .same _⟩
      | cons => cases equal
  | cons field rest inductionHypothesis =>
      cases others with
      | nil => cases equal
      | cons other others =>
          obtain ⟨name, value⟩ := field
          obtain ⟨otherName, otherValue⟩ := other
          obtain ⟨first, later⟩ := Bool.and_eq_true_iff.mp equal
          obtain ⟨sameName, equalValue⟩ := Bool.and_eq_true_iff.mp first
          obtain rfl := beq_iff_eq.mp sameName
          obtain ⟨keys, values⟩ :=
            inductionHypothesis (fun next member => below next (List.mem_cons_of_mem _ member)) later
          refine ⟨by rw [Fields.keys_cons, Fields.keys_cons, keys], fun key => ?_⟩
          rw [Fields.lookup?, Fields.lookup?]
          split
          · exact below _ List.mem_cons_self _ equalValue
          · exact values key

/-- Equal values are the same up to the order of fields. -/
theorem of_equal {left right : Value} (equal : left.equal right = true) :
    SameUpToOrder left right := by
  cases left with
  | date instant =>
      cases right with
      | date other => rw [beq_iff_eq.mp equal]; exact .same _
      | _ => cases equal
  | regex pattern =>
      cases right with
      | regex other => exact .regex (beq_iff_eq.mp equal)
      | _ => cases equal
  | array items =>
      cases right with
      | array others =>
          refine .array (forall₂_of_equalItems (fun item member other equalBelow => ?_) equal)
          have smaller := List.sizeOf_lt_of_mem member
          exact of_equal equalBelow
      | _ => cases equal
  | object tag fields =>
      cases right with
      | object otherTag others =>
          obtain ⟨-, equalFields⟩ := Bool.and_eq_true_iff.mp equal
          have below : ∀ field ∈ fields, ∀ other, field.2.equal other = true →
              SameUpToOrder field.2 other := by
            intro field member other equalBelow
            have isPart : field ∈ (Value.object tag fields).parts := member
            have smaller := Value.sizeOf_part_lt isPart
            exact of_equal equalBelow
          obtain ⟨keys, values⟩ := of_equalFields below equalFields
          exact .object tag otherTag (.of_eq keys) fun key _ => values key
      | _ => cases equal
  | _ => exact .strict equal
termination_by sizeOf left

end SameUpToOrder

end Value

end SchemaMatch
