import SchemaMatch.Proofs.Check.Position

/-!
Contract: positions lie where their paths lead.

Owns:
- the value a path leads to, and the value one segment above it;
- the agreement of every position below a position with those two.

Does not own: what is checked at a position.
-/

namespace SchemaMatch

/-- The value one segment below. Keys are looked up, indices count elements. -/
def Value.child (value : Value) : Segment → Value
  | .key name => value.get name
  | .index position =>
      match value with
      | .array items => items[position]?.getD .undefined
      | _ => .undefined

/-- The value that segments lead to. -/
def Value.at (value : Value) (segments : List Segment) : Value :=
  segments.foldl Value.child value

/-- The value one segment above the one that segments lead to. Nothing holds the value
itself. -/
def Value.holderAt (value : Value) (segments : List Segment) : Value :=
  if segments = [] then .undefined else value.at segments.dropLast

namespace Position

/-- Segments that lead from one position to another: along the path, to the data, and next to
last to the value that holds it. -/
structure LeadsTo (position : Position) (segments : List Segment) (below : Position) : Prop where
  path : below.path.below = position.path.below ++ segments
  data : below.data = position.data.at segments
  parent : below.parent =
    if segments = [] then position.parent else position.data.at segments.dropLast

theorem leadsTo_self (position : Position) : position.LeadsTo [] position where
  path := (List.append_nil _).symm
  data := rfl
  parent := rfl

/-- A child lies one segment below. -/
theorem segment_of_mem_children {position child : Position} (member : child ∈ position.children) :
    ∃ segment, child.path = position.path.child segment ∧ child.parent = position.data ∧
      child.data = position.data.child segment := by
  obtain ⟨item, -, ⟨-, part, -, -, rfl⟩ |
    ⟨-, values, index, value, schema, isArray, isValue, -, rfl⟩⟩ := cases_of_mem_children member
  · exact ⟨.key part.1, rfl, rfl, rfl⟩
  · exact ⟨.index index, rfl, rfl, by simp [child, Value.child, isArray, isValue]⟩

theorem LeadsTo.cons {position child below : Position} {segment : Segment}
    {segments : List Segment} (path : child.path = position.path.child segment)
    (parent : child.parent = position.data) (data : child.data = position.data.child segment)
    (leads : child.LeadsTo segments below) : position.LeadsTo (segment :: segments) below where
  path := by rw [leads.path, path]; simp [Path.child]
  data := by rw [leads.data, data]; rfl
  parent := by
    rw [leads.parent]
    cases segments with
    | nil =>
        rw [if_pos rfl, if_neg (List.cons_ne_nil _ _)]
        exact parent
    | cons next rest => rw [data]; rfl

theorem leadsTo_of_mem_preorder {position below : Position} (member : below ∈ position.preorder) :
    ∃ segments, position.LeadsTo segments below := by
  rw [preorder_eq, List.mem_cons, List.mem_flatMap] at member
  rcases member with rfl | ⟨child, isChild, member⟩
  · exact ⟨[], leadsTo_self below⟩
  · obtain ⟨segment, path, parent, data⟩ := segment_of_mem_children isChild
    obtain ⟨segments, leads⟩ := leadsTo_of_mem_preorder member
    exact ⟨segment :: segments, leads.cons path parent data⟩
termination_by sizeOf position.schema
decreasing_by exact sizeOf_schema_child_lt isChild

/-- The data at a position of a check is what its path leads to, and the value one segment
above holds it. -/
theorem place_of_mem_preorder_root {data schema : Value} {position : Position}
    (member : position ∈ (root data schema).preorder) :
    position.data = data.at position.path.below ∧
      position.parent = data.holderAt position.path.below := by
  obtain ⟨segments, leads⟩ := leadsTo_of_mem_preorder member
  have path : position.path.below = segments := leads.path
  rw [path]
  exact ⟨leads.data, leads.parent⟩

end Position

end SchemaMatch
