import SchemaMatch.Value.Basic

/-!
Contract: the extra-key policy of an object node.

Owns:
- the options of a check;
- the order of precedence: the marker of the node, its own setting, the options, and last
  permission.

Does not own: where markers and settings are written.
-/

namespace SchemaMatch

/-- Settings for every node of a check. -/
structure Options where
  /-- The policy of nodes that set none. -/
  allowExtraKeys : Option Bool := none
deriving DecidableEq, Repr

namespace Policy

/-- A marker permits extra keys unless it is exactly false. -/
def ofMarker : Value → Bool
  | .bool false => false
  | _ => true

/-- What a node says itself: its marker before its own setting. -/
def own? (marker : Option Value) (setting : Option Bool) : Option Bool :=
  match marker with
  | some value => some (ofMarker value)
  | none => setting

/-- What a node permits when it says `own` itself. -/
def resolve (own : Option Bool) (options : Options) : Bool :=
  (own.or options.allowExtraKeys).getD true

/-- Whether keys that the schema does not declare are tolerated. -/
def permitsExtraKeys (marker : Option Value) (setting : Option Bool) (options : Options) : Bool :=
  resolve (own? marker setting) options

end Policy

end SchemaMatch
