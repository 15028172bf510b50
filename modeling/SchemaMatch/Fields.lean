/-!
Contract: fields in the order of their first insertion.

Owns:
- look-up, insertion and collection of pairs for lists of named fields;
- the small laws that say what each operation does to look-up and to the order of names.

JSON objects and the objects of the value model share this representation. A list may hold a
name twice only if it was not built by these operations; look-up then sees the first.

Does not own: what the fields hold.
-/

namespace SchemaMatch.Fields

variable {α : Type}

/-- The value under a name. -/
def lookup? (key : String) : List (String × α) → Option α
  | [] => none
  | (name, value) :: rest => if name = key then some value else lookup? key rest

/-- Put a value under a name. A name that is present keeps its place. -/
def insert (key : String) (value : α) : List (String × α) → List (String × α)
  | [] => [(key, value)]
  | (name, old) :: rest =>
      if name = key then (name, value) :: rest else (name, old) :: insert key value rest

/-- The fields that inserting pairs one after the other gives. -/
def ofPairs (pairs : List (String × α)) : List (String × α) :=
  pairs.foldl (fun fields (key, value) => insert key value fields) []

def keys (fields : List (String × α)) : List String :=
  fields.map Prod.fst

@[simp]
theorem lookup?_insert_self (key : String) (value : α) (fields : List (String × α)) :
    lookup? key (insert key value fields) = some value := by
  induction fields with
  | nil => simp [insert, lookup?]
  | cons field rest inductionHypothesis =>
      by_cases same : field.1 = key
      · simp [insert, lookup?, same]
      · simp [insert, lookup?, same, inductionHypothesis]

theorem lookup?_insert_of_ne {key other : String} (different : key ≠ other) (value : α)
    (fields : List (String × α)) :
    lookup? other (insert key value fields) = lookup? other fields := by
  induction fields with
  | nil => simp [insert, lookup?, different]
  | cons field rest inductionHypothesis =>
      by_cases same : field.1 = key
      · simp [insert, lookup?, same, different]
      · simp [insert, lookup?, same, inductionHypothesis]

end SchemaMatch.Fields
