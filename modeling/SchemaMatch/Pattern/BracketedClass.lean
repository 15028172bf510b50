import SchemaMatch.Pattern.Escape
import SchemaMatch.Pattern.Nesting

/-!
Contract: classes of patterns that are written in brackets.

Owns:
- the items of a class: characters, ranges, escapes, named ASCII classes, classes inside;
- the operations on what stands to both sides of a doubled sign.

Every loop takes fuel that the length of the pattern bounds.

Does not own: the characters that properties and letters stand for.
-/

namespace SchemaMatch.PatternReader

/-- One unit of a class: an escape or a character that stands for itself. -/
def classAtom : Reading PlacedAtom := do
  match ← peek with
  | some '\\' => escape
  | some character =>
      let start ← here
      advance
      return ⟨.literal character, ⟨start, ← here⟩⟩
  | none =>
      let position ← here
      return ⟨.literal '\x00', ⟨position, position⟩⟩

/-- A literal of a class. Without Unicode only ASCII characters may be there. -/
def classLiteral (character : Char) (span : PatternSpan) : Reading Char := do
  if 0x80 ≤ character.toNat && !(← get).flags.unicode then
    defer .unicodeNotAllowed span.start span.stop
  return character

def atomSet (placed : PlacedAtom) : Reading CharSet :=
  match placed.atom with
  | .literal character => return .singleton (← classLiteral character placed.span)
  | .set set => return set
  | .assertion _ => fail .classEscapeInvalid placed.span.start placed.span.stop

def atomLiteral (placed : PlacedAtom) : Reading Char :=
  match placed.atom with
  | .literal character => classLiteral character placed.span
  | _ => fail .classRangeLiteral placed.span.start placed.span.stop

/-- An item of a class. -/
structure ClassItem where
  set : CharSet
  outline : PatternOutline

/-- One unit or a range of two literals. A hyphen before a closing bracket or another hyphen
makes no range. -/
def classRange (opening : PatternSpan) : Reading ClassItem := do
  let first ← classAtom
  let single : Reading ClassItem := return ⟨← atomSet first, .leaf first.span⟩
  skipSpace
  match ← peek with
  | none => fail .classUnclosed opening.start opening.stop
  | some '-' =>
      let second ← peekSecond
      if second = some ']' ∨ second = some '-' then single
      else if !(← advanceOverSpace) then fail .classUnclosed opening.start opening.stop
      else
        let last ← classAtom
        let low ← atomLiteral first
        let high ← atomLiteral last
        if high < low then fail .classRangeInvalid first.span.start last.span.stop
        else
          return ⟨.range low.toNat high.toNat, .leaf ⟨first.span.start, last.span.stop⟩⟩
  | some _ => single

/-- A named ASCII class such as `[:alpha:]`. What only looks like one is left alone. -/
def asciiClass? : Reading (Option CharSet) := do
  let scan ← get
  match scan.rest with
  | '[' :: ':' :: rest =>
      let (negated, body) : Bool × List Char := match rest with
        | '^' :: body => (true, body)
        | body => (false, body)
      let name := body.takeWhile (· != ':')
      match body.dropWhile (· != ':'), CharSet.ofAsciiName? (String.ofList name) with
      | ':' :: ']' :: after, some set =>
          for _ in List.range (scan.rest.length - after.length) do advance
          let set ← closeCase set
          return some (if negated then .complement set else set)
      | _, _ => return none
  | _ => return none

/-- The operands and the operation read so far inside a class. -/
structure ClassPart where
  left : Option (ClassItem × (CharSet → CharSet → CharSet)) := none
  union : CharSet := .empty
  /-- The outlines of what is in the union, the last one first. -/
  items : List PatternOutline := []

/-- The outline of a union, which reaches from its first item to its last one. -/
def ClassPart.unionOutline (part : ClassPart) (place : PatternSpan) : PatternOutline :=
  let items := part.items.reverse
  let start := (items.head?.map (·.span.start)).getD place.start
  let stop := (part.items.head?.map (·.span.stop)).getD place.stop
  .row ⟨start, stop⟩ items

/-- The set of a part, with each operand closed under case before an operation joins them. -/
def ClassPart.resolve (part : ClassPart) (place : PatternSpan) : Reading ClassItem := do
  let right := part.unionOutline place
  match part.left with
  | none => return ⟨part.union, right⟩
  | some (left, operation) =>
      let set := operation (← closeCase left.set) (← closeCase part.union)
      let span : PatternSpan := ⟨left.outline.span.start, right.span.stop⟩
      return ⟨set, .around span [left.outline, right]⟩

def ClassPart.add (part : ClassPart) (item : ClassItem) : ClassPart :=
  { part with union := .union part.union item.set, items := item.outline :: part.items }

/-- The next character, which stands for itself. -/
def plainItem (character : Char) : Reading ClassItem :=
  return ⟨.singleton character, .leaf ⟨← here, ← afterNext⟩⟩

/-- Hyphens right after the opening of a class stand for themselves. -/
def leadingHyphens (start : PatternPosition) : Nat → ClassPart → Reading ClassPart
  | 0, part => return part
  | fuel + 1, part => do
      if (← peek) = some '-' then
        let item ← plainItem '-'
        if !(← advanceOverSpace) then fail .classUnclosed start start
        else leadingHyphens start fuel (part.add item)
      else return part

/-- The opening of a class: whether it is negated, the literal characters that only stand
for themselves there, and the span an unclosed class is reported at. -/
def classOpening : Reading (Bool × ClassPart × PatternSpan) := do
  let start ← here
  if !(← advanceOverSpace) then fail .classUnclosed start (← here)
  let negated ← do
    if (← peek) = some '^' then
      if !(← advanceOverSpace) then fail .classUnclosed start (← here)
      pure true
    else pure false
  let hyphens ← leadingHyphens start (← fuel) {}
  let part ← do
    if hyphens.items.isEmpty ∧ (← peek) = some ']' then
      let item ← plainItem ']'
      if !(← advanceOverSpace) then fail .classUnclosed start (← here)
      pure (hyphens.add item)
    else pure hyphens
  return (negated, part, ⟨start, ← here⟩)

mutual

/-- A class from its opening bracket to its closing one. -/
def bracketed : Nat → Reading ClassItem
  | 0 => return ⟨.empty, .leaf ⟨.start, .start⟩⟩
  | fuel + 1 => do
      let (negated, literals, opening) ← classOpening
      let item ← classItems fuel opening literals
      let set ← closeCase item.set
      let stop ← here
      if negated && !(← get).flags.unicode then defer .invalidUtf8 opening.start stop
      return ⟨if negated then .complement set else set,
        .around ⟨opening.start, stop⟩ [item.outline]⟩

/-- The items of a class up to its closing bracket. -/
def classItems : Nat → PatternSpan → ClassPart → Reading ClassItem
  | 0, opening, _ => return ⟨.empty, .leaf opening⟩
  | fuel + 1, opening, part => do
      skipSpace
      match ← peek with
      | none => fail .classUnclosed opening.start opening.stop
      | some ']' =>
          let place ← here
          advance
          part.resolve ⟨place, place⟩
      | some character =>
          let operation? : Option (String × (CharSet → CharSet → CharSet)) :=
            match character with
            | '&' => some ("&&", .intersection)
            | '-' => some ("--", .difference)
            | '~' => some ("~~", .symmetricDifference)
            | _ => none
          match operation? with
          | some (text, operation) =>
              let place ← here
              if ← accept text then
                let left ← part.resolve ⟨place, place⟩
                classItems fuel opening { left := some (left, operation) }
              else
                let item ← classRange opening
                classItems fuel opening (part.add item)
          | none =>
              if character = '[' then
                let start ← here
                match ← asciiClass? with
                | some set =>
                    classItems fuel opening (part.add ⟨set, .leaf ⟨start, ← here⟩⟩)
                | none =>
                    let item ← bracketed fuel
                    classItems fuel opening (part.add item)
              else
                let item ← classRange opening
                classItems fuel opening (part.add item)

end

end SchemaMatch.PatternReader
