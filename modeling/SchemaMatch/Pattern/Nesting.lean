import SchemaMatch.Pattern.Error

/-!
Contract: how deep the parts of a pattern nest.

Owns:
- outlines of parts: where they stand, and which levels they are made of;
- the leftmost part that lies beyond the greatest depth.

Groups, classes in brackets, repetitions, and sequences and alternatives of several parts are
levels. Single characters and escapes are none.

Does not own: the notation, and what parts denote.
-/

namespace SchemaMatch

/-- A level and those within it. -/
inductive PatternLevel where
  | level (span : PatternSpan) (inner : List PatternLevel)

namespace PatternLevel

mutual

/-- The first level, from the outside and from the left, that has no room. -/
def beyond? : PatternLevel → Nat → Option PatternSpan
  | .level span _, 0 => some span
  | .level _ inner, room + 1 => anyBeyond? inner room

def anyBeyond? : List PatternLevel → Nat → Option PatternSpan
  | [], _ => none
  | first :: rest, room => beyond? first room <|> anyBeyond? rest room

end

/-- How many levels a pattern may have. -/
def limit : Nat := 250

end PatternLevel

/-- Where a part of a pattern stands, and its level if it is one. -/
structure PatternOutline where
  span : PatternSpan
  level : Option PatternLevel

namespace PatternOutline

/-- A part without parts of its own. -/
def leaf (span : PatternSpan) : PatternOutline := ⟨span, none⟩

/-- A part made of others. -/
def around (span : PatternSpan) (inner : List PatternOutline) : PatternOutline :=
  ⟨span, some (.level span (inner.filterMap (·.level)))⟩

/-- Parts in a row. A single one makes no level of its own. -/
def row (span : PatternSpan) : List PatternOutline → PatternOutline
  | [] => leaf span
  | [single] => single
  | parts => around span parts

/-- The leftmost part that lies too deep. -/
def tooDeep? (outline : PatternOutline) : Option PatternSpan :=
  outline.level.bind fun level => level.beyond? PatternLevel.limit

end PatternOutline

end SchemaMatch
