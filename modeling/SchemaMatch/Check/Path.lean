/-!
Contract: positions in data.

Owns:
- paths from the root, with keys and indices as different kinds of segments;
- the text of a path.

Does not own: what stands at a position.
-/

namespace SchemaMatch

inductive Segment where
  | key (name : String)
  | index (position : Nat)
deriving DecidableEq, Repr

namespace Segment

def text : Segment → String
  | .key name => name
  | .index position => toString position

end Segment

/-- A position, by the segments below the root from the outside in. -/
structure Path where
  below : List Segment
deriving DecidableEq, Repr

namespace Path

def root : Path := ⟨[]⟩

/-- The position of a child. -/
def child (path : Path) (segment : Segment) : Path :=
  ⟨path.below ++ [segment]⟩

def key (path : Path) (name : String) : Path :=
  path.child (.key name)

def index (path : Path) (position : Nat) : Path :=
  path.child (.index position)

/-- All segments; the first one names the root. -/
def segments (path : Path) : List Segment :=
  .key "root" :: path.below

/-- The segments with points between them. -/
def text (path : Path) : String :=
  String.intercalate "." (path.segments.map Segment.text)

end Path

end SchemaMatch
