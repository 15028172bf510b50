import SchemaMatch.Text.Blank
import SchemaMatch.Text.CaseFolding
import SchemaMatch.Text.Category
import SchemaMatch.Text.Trait
import SchemaMatch.Text.WordCharacter
import SchemaMatch.Text.WritingSystem

/-!
Contract: sets of characters as patterns describe them.

Owns:
- the set expressions of a pattern and membership in them;
- closure under case, over all letters or over ASCII ones;
- the named ASCII classes.

Sets stay expressions: a set is asked about one character at a time, so its ranges never need
to be merged.

Does not own: how sets are written; the pattern reader does.
-/

namespace SchemaMatch

inductive CharSet where
  | empty
  | range (first last : Nat)
  | digits
  | wordCharacters
  | blanks
  | category (kind : Text.Category)
  | script (system : Text.WritingSystem)
  | union (left right : CharSet)
  | intersection (left right : CharSet)
  | difference (left right : CharSet)
  | symmetricDifference (left right : CharSet)
  | complement (set : CharSet)
  /-- All characters that differ from a member in case only. -/
  | anyCase (set : CharSet)
  /-- The same for the ASCII letters alone. -/
  | anyAsciiCase (set : CharSet)
deriving DecidableEq, Repr

namespace CharSet

/-- The ASCII letter of the other case, and the code itself. -/
def asciiVariants (code : Nat) : List Nat :=
  if 0x41 ≤ code ∧ code ≤ 0x5A then [code, code + 32]
  else if 0x61 ≤ code ∧ code ≤ 0x7A then [code, code - 32]
  else [code]

/-- Membership of a code point. -/
def has (code : Nat) : CharSet → Bool
  | .empty => false
  | .range first last => decide (first ≤ code) && decide (code ≤ last)
  | .digits => Text.isDecimalDigit (Char.ofNat code)
  | .wordCharacters => Text.isWordCharacter (Char.ofNat code)
  | .blanks => Text.isBlank (Char.ofNat code)
  | .category kind => kind.has code
  | .script system => system.has code
  | .union left right => left.has code || right.has code
  | .intersection left right => left.has code && right.has code
  | .difference left right => left.has code && !right.has code
  | .symmetricDifference left right => left.has code != right.has code
  | .complement set => !set.has code
  | .anyCase set => (Text.caseVariants code).any fun variant => set.has variant
  | .anyAsciiCase set => (asciiVariants code).any fun variant => set.has variant

def singleton (character : Char) : CharSet :=
  .range character.toNat character.toNat

def all : CharSet := .complement .empty

def ofRanges (ranges : List (Nat × Nat)) : CharSet :=
  ranges.foldl (fun set (first, last) => .union set (.range first last)) .empty

def asciiDigits : CharSet := .range 0x30 0x39

def asciiWordCharacters : CharSet :=
  ofRanges [(0x30, 0x39), (0x41, 0x5A), (0x5F, 0x5F), (0x61, 0x7A)]

def asciiBlanks : CharSet := ofRanges [(0x09, 0x0D), (0x20, 0x20)]

/-- The class a name stands for between `[:` and `:]`. -/
def ofAsciiName? : String → Option CharSet
  | "alnum" => some (ofRanges [(0x30, 0x39), (0x41, 0x5A), (0x61, 0x7A)])
  | "alpha" => some (ofRanges [(0x41, 0x5A), (0x61, 0x7A)])
  | "ascii" => some (.range 0x00 0x7F)
  | "blank" => some (ofRanges [(0x09, 0x09), (0x20, 0x20)])
  | "cntrl" => some (ofRanges [(0x00, 0x1F), (0x7F, 0x7F)])
  | "digit" => some asciiDigits
  | "graph" => some (.range 0x21 0x7E)
  | "lower" => some (.range 0x61 0x7A)
  | "print" => some (.range 0x20 0x7E)
  | "punct" => some (ofRanges [(0x21, 0x2F), (0x3A, 0x40), (0x5B, 0x60), (0x7B, 0x7E)])
  | "space" => some asciiBlanks
  | "upper" => some (.range 0x41 0x5A)
  | "word" => some asciiWordCharacters
  | "xdigit" => some (ofRanges [(0x30, 0x39), (0x41, 0x46), (0x61, 0x66)])
  | _ => none

end CharSet

end SchemaMatch
