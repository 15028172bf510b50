import SchemaMatch.Check.Path
import SchemaMatch.Proofs.Value.Payload
import SchemaMatch.Proofs.Value.Rearrangement

/-!
Contract: extended documents against plain ones.

Owns:
- wrappers, which are objects with one key that marks a date or a regex;
- the places of a document in its own order, and those of its outermost wrappers;
- the replacement of the values at some places of a value;
- `Value.ofExtendedJson?_outermost`: an extended document denotes what the plain document does,
  with its outermost wrappers replaced, or is refused for the first of them that denotes nothing.

A document names no field twice. With a field named twice a place would not be given by the keys
that lead to it.

Does not own: what payloads denote.
-/

namespace SchemaMatch

/-! ## Documents -/

/-- A part of a document: the segments that lead to it, the documents around it from the outside
in, and the part itself. -/
structure Place where
  path : List Segment
  around : List Json
  document : Json

/-- A place, seen from one document further out. -/
def Place.inside (outer : Json) (segment : Segment) (place : Place) : Place :=
  ⟨segment :: place.path, outer :: place.around, place.document⟩

namespace Json

/-- An object is a wrapper if its only key is one of the two marks. -/
def wrapper? : Json → Option Wrapper
  | .object [(key, payload)] =>
      if key = "$date" then some (.date payload)
      else if key = "$regularExpression" then some (.regex payload)
      else none
  | _ => none

mutual

/-- Whether no object of a document names a field twice. -/
def namesUnique : Json → Bool
  | .array items => namesUniqueInItems items
  | .object fields => decide (Fields.keys fields).Nodup && namesUniqueInFields fields
  | _ => true

def namesUniqueInItems : List Json → Bool
  | [] => true
  | item :: rest => namesUnique item && namesUniqueInItems rest

def namesUniqueInFields : List (String × Json) → Bool
  | [] => true
  | (_, field) :: rest => namesUnique field && namesUniqueInFields rest

end

mutual

/-- The whole of a document and all its parts, in the order of the document. -/
def places : Json → List Place
  | .array items => ⟨[], [], .array items⟩ :: placesInItems (.array items) 0 items
  | .object fields => ⟨[], [], .object fields⟩ :: placesInFields (.object fields) fields
  | leaf => [⟨[], [], leaf⟩]

def placesInItems (outer : Json) (index : Nat) : List Json → List Place
  | [] => []
  | item :: rest =>
      (places item).map (Place.inside outer (.index index)) ++ placesInItems outer (index + 1) rest

def placesInFields (outer : Json) : List (String × Json) → List Place
  | [] => []
  | (key, field) :: rest =>
      (places field).map (Place.inside outer (.key key)) ++ placesInFields outer rest

end

end Json

/-- The wrapper at a place, unless it is inside another wrapper. -/
def Place.outermost? (place : Place) : Option (List Segment × Wrapper) :=
  if place.around.any fun outer => outer.wrapper?.isSome then none
  else place.document.wrapper?.map fun wrapper => (place.path, wrapper)

/-- The outermost wrappers of a document, in its order, under the segments that lead to them. -/
def Json.outermostWrappers (document : Json) : List (List Segment × Wrapper) :=
  document.places.filterMap Place.outermost?

/-! ## Replacement -/

namespace Value

/-- A value with another one in the place that segments lead to. -/
def replaceAt (replacement : Value) : List Segment → Value → Value
  | [], _ => replacement
  | .key name :: rest, .object tag fields =>
      .object tag (fields.map fun field =>
        if field.1 = name then (field.1, replaceAt replacement rest field.2) else field)
  | .index position :: rest, .array items =>
      .array (items.modify position (replaceAt replacement rest))
  | _, value => value

/-- A value with several places replaced one after the other. -/
def replaceAll (replacements : List (List Segment × Value)) (value : Value) : Value :=
  replacements.foldl (fun value replacement => replaceAt replacement.2 replacement.1 value) value

end Value

/-! ## Wrappers of parts -/

/-- Something under segments, seen from one document further out. -/
def below {α : Type} (segment : Segment) (entry : List Segment × α) : List Segment × α :=
  (segment :: entry.1, entry.2)

theorem Place.outermost?_inside {outer : Json} (plain : outer.wrapper? = none)
    (segment : Segment) (place : Place) :
    (place.inside outer segment).outermost? = place.outermost?.map (below segment) := by
  simp only [outermost?, inside, List.any_cons, plain, Option.isSome_none, Bool.false_or]
  split
  · rfl
  · cases place.document.wrapper? <;> rfl

theorem Place.outermost?_inside_wrapper {outer : Json} {wrapper : Wrapper}
    (isWrapper : outer.wrapper? = some wrapper) (segment : Segment) (place : Place) :
    (place.inside outer segment).outermost? = none := by
  simp [outermost?, inside, isWrapper]

namespace Json

theorem filterMap_outermost?_inside {outer : Json} (plain : outer.wrapper? = none)
    (segment : Segment) (document : Json) :
    (document.places.map (Place.inside outer segment)).filterMap Place.outermost? =
      document.outermostWrappers.map (below segment) := by
  rw [List.filterMap_map, outermostWrappers, List.map_filterMap]
  exact List.filterMap_congr fun place _ => Place.outermost?_inside plain segment place

theorem filterMap_outermost?_placesInItems {outer : Json} (plain : outer.wrapper? = none)
    (index : Nat) (item : Json) (rest : List Json) :
    (placesInItems outer index (item :: rest)).filterMap Place.outermost? =
      item.outermostWrappers.map (below (.index index)) ++
        (placesInItems outer (index + 1) rest).filterMap Place.outermost? := by
  rw [placesInItems, List.filterMap_append, filterMap_outermost?_inside plain]

theorem filterMap_outermost?_placesInFields {outer : Json} (plain : outer.wrapper? = none)
    (key : String) (field : Json) (rest : List (String × Json)) :
    (placesInFields outer ((key, field) :: rest)).filterMap Place.outermost? =
      field.outermostWrappers.map (below (.key key)) ++
        (placesInFields outer rest).filterMap Place.outermost? := by
  rw [placesInFields, List.filterMap_append, filterMap_outermost?_inside plain]

/-- Inside a wrapper nothing is looked for. -/
theorem filterMap_outermost?_placesInFields_of_wrapper {outer : Json} {wrapper : Wrapper}
    (isWrapper : outer.wrapper? = some wrapper) (fields : List (String × Json)) :
    (placesInFields outer fields).filterMap Place.outermost? = [] := by
  induction fields with
  | nil => rfl
  | cons field rest inductionHypothesis =>
      rw [placesInFields, List.filterMap_append, inductionHypothesis, List.filterMap_map,
        List.append_nil, List.filterMap_eq_nil_iff]
      exact fun place _ => Place.outermost?_inside_wrapper isWrapper _ place

theorem outermostWrappers_of_wrapper {fields : List (String × Json)} {wrapper : Wrapper}
    (isWrapper : (Json.object fields).wrapper? = some wrapper) :
    (Json.object fields).outermostWrappers = [([], wrapper)] := by
  have here : Place.outermost? ⟨[], [], .object fields⟩ = some ([], wrapper) := by
    simp [Place.outermost?, isWrapper]
  rw [outermostWrappers, places, List.filterMap_cons_some here,
    filterMap_outermost?_placesInFields_of_wrapper isWrapper]

theorem outermostWrappers_of_plain_object {fields : List (String × Json)}
    (plain : (Json.object fields).wrapper? = none) :
    (Json.object fields).outermostWrappers =
      (placesInFields (.object fields) fields).filterMap Place.outermost? := by
  have here : Place.outermost? ⟨[], [], .object fields⟩ = none := by
    simp [Place.outermost?, plain]
  rw [outermostWrappers, places, List.filterMap_cons_none here]

theorem outermostWrappers_array (items : List Json) :
    (Json.array items).outermostWrappers =
      (placesInItems (.array items) 0 items).filterMap Place.outermost? := by
  rw [outermostWrappers, places, List.filterMap_cons_none rfl]

end Json

theorem Value.wrapped?_eq (fields : List (String × Json)) :
    wrapped? fields = (Json.object fields).wrapper?.map Wrapper.read? := by
  unfold wrapped? Json.wrapper?
  split
  · rfl
  · rfl
  next notDate notRegex =>
    split
    next key payload same =>
      cases same
      have isNotDate : key ≠ "$date" := fun equal => notDate payload (equal ▸ rfl)
      have isNotRegex : key ≠ "$regularExpression" := fun equal => notRegex payload (equal ▸ rfl)
      rw [if_neg isNotDate, if_neg isNotRegex]
      rfl
    next => rfl

/-! ## Replacement in parts -/

namespace Value

variable {α : Type}

theorem modify_append_cons (change : α → α) (before : List α) (value : α) (after : List α) :
    (before ++ value :: after).modify before.length change =
      before ++ change value :: after := by
  induction before with
  | nil => rfl
  | cons first rest inductionHypothesis =>
      simpa using inductionHypothesis

/-- Replacing below an index changes the element there only. -/
theorem replaceAll_below_index (replacements : List (List Segment × Value))
    (before : List Value) (value : Value) (after : List Value) :
    replaceAll (replacements.map (below (.index before.length)))
        (.array (before ++ value :: after)) =
      .array (before ++ value.replaceAll replacements :: after) := by
  induction replacements generalizing value with
  | nil => rfl
  | cons replacement rest inductionHypothesis =>
      have first : replaceAt replacement.2 (.index before.length :: replacement.1)
          (.array (before ++ value :: after)) =
            .array (before ++ replaceAt replacement.2 replacement.1 value :: after) := by
        rw [replaceAt, modify_append_cons]
      rw [List.map_cons, replaceAll, List.foldl_cons, below, first]
      exact inductionHypothesis (replaceAt replacement.2 replacement.1 value)

/-- Replacing below a key changes the field under it only. -/
theorem replaceAll_below_key (replacements : List (List Segment × Value)) {key : String}
    {before after : List (String × Value)} (notBefore : key ∉ Fields.keys before)
    (notAfter : key ∉ Fields.keys after) (value : Value) :
    replaceAll (replacements.map (below (.key key)))
        (.object none (before ++ (key, value) :: after)) =
      .object none (before ++ (key, value.replaceAll replacements) :: after) := by
  induction replacements generalizing value with
  | nil => rfl
  | cons replacement rest inductionHypothesis =>
      have others : ∀ fields : List (String × Value), key ∉ Fields.keys fields →
          (fields.map fun field => if field.1 = key
            then (field.1, replaceAt replacement.2 replacement.1 field.2) else field) = fields := by
        intro fields isNew
        refine (List.map_congr_left fun field member => if_neg ?_).trans (List.map_id' fields)
        rintro rfl
        exact isNew (List.mem_map_of_mem member)
      have first : replaceAt replacement.2 (.key key :: replacement.1)
          (.object none (before ++ (key, value) :: after)) =
            .object none
              (before ++ (key, replaceAt replacement.2 replacement.1 value) :: after) := by
        rw [replaceAt, List.map_append, List.map_cons, others before notBefore,
          others after notAfter, if_pos rfl]
      rw [List.map_cons, replaceAll, List.foldl_cons, below, first]
      exact inductionHypothesis (replaceAt replacement.2 replacement.1 value)

end Value

/-! ## Extended documents -/

/-- The value that the wrapper under some segments denotes. -/
def decode? (entry : List Segment × Wrapper) :
    Except ConversionError (List Segment × Value) :=
  entry.2.read?.map fun value => (entry.1, value)

theorem decode?_eq_error_iff {entry : List Segment × Wrapper} {cause : ConversionError} :
    decode? entry = .error cause ↔ entry.2.Refused cause := by
  rw [decode?, map_eq_error_iff, Wrapper.refused_iff]

theorem exists_decode?_eq_ok_iff {entry : List Segment × Wrapper} :
    (∃ result, decode? entry = .ok result) ↔ ∃ value, entry.2.Denotes value := by
  simp only [Wrapper.denotes_iff]
  unfold decode?
  cases entry.2.read? <;> simp [Except.map]

theorem mapM_decode?_of_forall₂ {entries : List (List Segment × Wrapper)} {values : List Value}
    (denoted : List.Forall₂ (fun entry value => entry.2.Denotes value) entries values) :
    entries.mapM decode? = .ok ((entries.map Prod.fst).zip values) := by
  induction denoted with
  | nil => rfl
  | cons isDenoted _ inductionHypothesis =>
      rw [List.mapM_cons, inductionHypothesis, decode?, Wrapper.read?_of_denotes isDenoted]
      rfl

theorem mapM_decode?_below (segment : Segment) (entries : List (List Segment × Wrapper)) :
    (entries.map (below segment)).mapM decode? =
      (entries.mapM decode?).map (List.map (below segment)) := by
  induction entries with
  | nil => rfl
  | cons entry rest inductionHypothesis =>
      rw [List.map_cons, List.mapM_cons, List.mapM_cons, inductionHypothesis]
      simp only [decode?, below]
      cases entry.2.read? with
      | error cause => rfl
      | ok value => cases rest.mapM decode? <;> rfl

namespace Value

theorem keys_ofJsonFields (fields : List (String × Json)) :
    Fields.keys (ofJsonFields fields) = Fields.keys fields := by
  induction fields with
  | nil => rfl
  | cons field rest inductionHypothesis =>
      rw [ofJsonFields, Fields.keys_cons, Fields.keys_cons, inductionHypothesis]

theorem keys_of_ofExtendedFields? {fields : List (String × Json)}
    {values : List (String × Value)} (read : ofExtendedFields? fields = .ok values) :
    Fields.keys values = Fields.keys fields := by
  induction fields generalizing values with
  | nil => cases read; rfl
  | cons field rest inductionHypothesis =>
      rw [ofExtendedFields?] at read
      obtain ⟨value, -, readRest⟩ := bind_eq_ok_iff.mp read
      obtain ⟨others, readOthers, same⟩ := bind_eq_ok_iff.mp readRest
      cases same
      rw [Fields.keys_cons, Fields.keys_cons, inductionHypothesis readOthers]

theorem replaceAll_append (earlier later : List (List Segment × Value)) (value : Value) :
    value.replaceAll (earlier ++ later) = (value.replaceAll earlier).replaceAll later :=
  List.foldl_append

theorem map_replaceAll_bind {ε : Type} (earlier : List (List Segment × Value))
    (later : Except ε (List (List Segment × Value))) (value : Value) :
    (later >>= fun others => pure (earlier ++ others)).map value.replaceAll =
      later.map (value.replaceAll earlier).replaceAll := by
  rw [map_bind_pure]
  simp only [replaceAll_append]

/-- The plain value with the outermost wrappers replaced by what they denote. -/
def decoded? (document : Json) : Except ConversionError Value :=
  (document.outermostWrappers.mapM decode?).map (ofJson document).replaceAll

mutual

theorem ofExtendedJson?_eq_decoded? (document : Json) (unique : document.namesUnique = true) :
    ofExtendedJson? document = decoded? document :=
  match document with
  | .null => rfl
  | .bool _ => rfl
  | .number _ => rfl
  | .string _ => rfl
  | .array items => by
      rw [ofExtendedJson?, decoded?, Json.outermostWrappers_array, ofJson]
      refine .trans ?_ (@ofExtendedItems?_eq (.array items) rfl [] items unique)
      cases ofExtendedItems? items <;> rfl
  | .object fields => by
      obtain ⟨isUnique, uniqueInFields⟩ := Bool.and_eq_true_iff.mp unique
      have uniqueKeys : (Fields.keys fields).Nodup := of_decide_eq_true isUnique
      rw [ofExtendedJson?, wrapped?_eq, decoded?, ofJson]
      cases found : (Json.object fields).wrapper? with
      | some wrapper =>
          rw [Json.outermostWrappers_of_wrapper found]
          simp only [Option.map_some, List.mapM_cons, List.mapM_nil, decode?]
          cases wrapper.read? <;> rfl
      | none =>
          have plainPairs : ofPairs (ofJsonFields fields) = .object none (ofJsonFields fields) := by
            rw [ofPairs, Fields.ofPairs_of_nodup (by rwa [keys_ofJsonFields])]
          rw [Json.outermostWrappers_of_plain_object found, plainPairs]
          refine .trans ?_ (ofExtendedFields?_eq found [] fields uniqueInFields uniqueKeys)
          cases read : ofExtendedFields? fields with
          | error cause => rfl
          | ok values =>
              have unique : (Fields.keys values).Nodup := by
                rwa [keys_of_ofExtendedFields? read]
              exact congrArg (fun pairs => Except.ok (object none pairs))
                (Fields.ofPairs_of_nodup unique)

/-- Reading the elements from an index on replaces the wrappers in them. -/
theorem ofExtendedItems?_eq {outer : Json} (plain : outer.wrapper? = none) (before : List Value)
    (items : List Json) (unique : Json.namesUniqueInItems items = true) :
    (ofExtendedItems? items).map (fun values => array (before ++ values)) =
      (((Json.placesInItems outer before.length items).filterMap Place.outermost?).mapM decode?).map
        (array (before ++ ofJsonItems items)).replaceAll :=
  match items with
  | [] => rfl
  | item :: rest => by
      obtain ⟨uniqueItem, uniqueRest⟩ := Bool.and_eq_true_iff.mp unique
      rw [Json.filterMap_outermost?_placesInItems plain, List.mapM_append, mapM_decode?_below,
        ofExtendedItems?, ofExtendedJson?_eq_decoded? item uniqueItem, decoded?]
      cases item.outermostWrappers.mapM decode? with
      | error cause => rfl
      | ok replacements =>
          have later := ofExtendedItems?_eq plain
            (before ++ [(ofJson item).replaceAll replacements]) rest uniqueRest
          rw [List.length_append, List.length_singleton] at later
          have replaced : (array (before ++ ofJsonItems (item :: rest))).replaceAll
                (replacements.map (below (.index before.length))) =
              array (before ++ [(ofJson item).replaceAll replacements] ++ ofJsonItems rest) := by
            rw [ofJsonItems, replaceAll_below_index, List.append_assoc]
            rfl
          calc _ = (ofExtendedItems? rest).map fun values =>
                array (before ++ [(ofJson item).replaceAll replacements] ++ values) := by
                simp only [List.append_assoc]
                exact map_bind_pure _ _ _
            _ = _ := later
            _ = _ := by
                rw [← replaced]
                exact (map_replaceAll_bind _ _ _).symm

/-- Reading fields replaces the wrappers in them. -/
theorem ofExtendedFields?_eq {outer : Json} (plain : outer.wrapper? = none)
    (before : List (String × Value)) (fields : List (String × Json))
    (unique : Json.namesUniqueInFields fields = true)
    (namesUnique : (Fields.keys before ++ Fields.keys fields).Nodup) :
    (ofExtendedFields? fields).map (fun values => object none (before ++ values)) =
      (((Json.placesInFields outer fields).filterMap Place.outermost?).mapM decode?).map
        (object none (before ++ ofJsonFields fields)).replaceAll :=
  match fields with
  | [] => rfl
  | (key, field) :: rest => by
      obtain ⟨uniqueField, uniqueRest⟩ := Bool.and_eq_true_iff.mp unique
      obtain ⟨-, uniqueKeys, apart⟩ := List.nodup_append.mp namesUnique
      have notBefore : key ∉ Fields.keys before :=
        fun isOld => apart key isOld key List.mem_cons_self rfl
      have notAfter : key ∉ Fields.keys (ofJsonFields rest) := by
        rw [keys_ofJsonFields]
        exact (List.nodup_cons.mp uniqueKeys).1
      rw [Json.filterMap_outermost?_placesInFields plain, List.mapM_append, mapM_decode?_below,
        ofExtendedFields?, ofExtendedJson?_eq_decoded? field uniqueField, decoded?]
      cases field.outermostWrappers.mapM decode? with
      | error cause => rfl
      | ok replacements =>
          have later := ofExtendedFields?_eq plain
            (before ++ [(key, (ofJson field).replaceAll replacements)]) rest uniqueRest
            (by simpa [Fields.keys] using namesUnique)
          have replaced : (object none (before ++ ofJsonFields ((key, field) :: rest))).replaceAll
                (replacements.map (below (.key key))) =
              object none (before ++ [(key, (ofJson field).replaceAll replacements)] ++
                ofJsonFields rest) := by
            rw [ofJsonFields, replaceAll_below_key replacements notBefore notAfter,
              List.append_assoc]
            rfl
          calc _ = (ofExtendedFields? rest).map fun values =>
                object none
                  (before ++ [(key, (ofJson field).replaceAll replacements)] ++ values) := by
                simp only [List.append_assoc]
                exact map_bind_pure _ _ _
            _ = _ := later
            _ = _ := by
                rw [← replaced]
                exact (map_replaceAll_bind _ _ _).symm

end

/-- The value of an extended document. It is refused exactly if an outermost wrapper denotes
nothing, and then for the first such wrapper in the order of the document. Otherwise it is the
plain value with what the outermost wrappers denote in their places; so it is the plain value if
there is no wrapper. -/
theorem ofExtendedJson?_outermost (document : Json) (unique : document.namesUnique = true) :
    ((∃ cause, ofExtendedJson? document = .error cause) ↔
      ∃ found ∈ document.outermostWrappers, ∀ value, ¬ found.2.Denotes value) ∧
    (∀ cause, ofExtendedJson? document = .error cause ↔
      ∃ before path bad after, document.outermostWrappers = before ++ (path, bad) :: after ∧
        (∀ earlier ∈ before, ∃ value, earlier.2.Denotes value) ∧ bad.Refused cause) ∧
    (∀ values, List.Forall₂ (fun found value => found.2.Denotes value)
        document.outermostWrappers values →
      ofExtendedJson? document = .ok
        ((ofJson document).replaceAll ((document.outermostWrappers.map Prod.fst).zip values))) ∧
    ((∀ place ∈ document.places, place.document.wrapper? = none) →
      ofExtendedJson? document = .ok (ofJson document)) := by
  rw [ofExtendedJson?_eq_decoded? document unique, decoded?]
  refine ⟨?_, fun cause => ?_, fun values denoted => ?_, fun noWrapper => ?_⟩
  · simp only [map_eq_error_iff, exists_mapM_eq_error_iff, decode?_eq_error_iff,
      Wrapper.exists_refused_iff]
  · constructor
    · intro failed
      obtain ⟨before, bad, after, split, readable, refused⟩ :=
        exists_first_error (map_eq_error_iff.mp failed)
      exact ⟨before, bad.1, bad.2, after, split,
        fun earlier member => exists_decode?_eq_ok_iff.mp (readable earlier member),
        decode?_eq_error_iff.mp refused⟩
    · rintro ⟨before, path, bad, after, split, denoted, refused⟩
      rw [split, mapM_append_cons_eq_error
        (fun earlier member => exists_decode?_eq_ok_iff.mpr (denoted earlier member))
        (decode?_eq_error_iff.mpr refused)]
      rfl
  · rw [mapM_decode?_of_forall₂ denoted]
    rfl
  · have nothing : document.outermostWrappers = [] := by
      refine List.filterMap_eq_nil_iff.mpr fun place member => ?_
      rw [Place.outermost?, noWrapper place member, Option.map_none, ite_self]
    rw [nothing]
    rfl

/-- An object with a key beside the mark is no wrapper, but its fields are searched. What is in
the payload of a wrapper is not: the last payload is no instant, although it is a wrapper. -/
theorem ofExtendedJson?_first_invalid_wrapper :
    let instant : Json := .object [("$date", .object [("$numberLong", .string "-1")])]
    let epoch : Json := .object [("$date", .number (.integer 0))]
    let document : Json := .array
      [.object [("$date", instant), ("zone", .null)],
        .object [("$date", epoch)], .object [("$regularExpression", .null)]]
    document.namesUnique = true ∧
      document.outermostWrappers =
        [([.index 0, .key "$date"], .date (.object [("$numberLong", .string "-1")])),
          ([.index 1], .date epoch), ([.index 2], .regex .null)] ∧
      ofExtendedJson? document = .error (.datePayload epoch) := by
  intro instant epoch document
  have unique : document.namesUnique = true := by decide
  have found : document.outermostWrappers =
      [([.index 0, .key "$date"], .date (.object [("$numberLong", .string "-1")])),
        ([.index 1], .date epoch), ([.index 2], .regex .null)] := rfl
  have spells : Numeral.SpellsInt "-1" (-1) := .inr ⟨by decide, 0, by decide⟩
  have lastMillisecond : Wrapper.Denotes (.date (.object [("$numberLong", .string "-1")]))
      (.date ⟨-1, 999000000, by decide⟩) :=
    .dateMillis (.numberLong rfl spells)
      ⟨by decide, by decide, by decide, by decide⟩
  have noInstant : Wrapper.Refused (.date epoch) (.datePayload epoch) := by
    refine .datePayload (fun text same => Json.noConfusion same) ?_
    intro millis instant given
    change Json.GivesMillis (.object _) millis at given
    cases given with
    | numberLong long => cases long
  refine ⟨unique, found, ((ofExtendedJson?_outermost document unique).2.1 _).mpr
    ⟨[_], _, _, _, found, ?_, noInstant⟩⟩
  intro earlier member
  rw [List.mem_singleton.mp member]
  exact ⟨_, lastMillisecond⟩

end Value

end SchemaMatch
