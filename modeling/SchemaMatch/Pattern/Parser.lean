import SchemaMatch.Pattern.BracketedClass
import SchemaMatch.Pattern.Group

/-!
Contract: patterns read from their notation.

Owns:
- alternatives, sequences, repetitions and the nesting of groups;
- the fault of the leftmost ill-formed part, with its span;
- faults of meaning, such as an unknown property, which count only once the whole notation is
  well formed.

Every loop takes fuel that the length of the pattern bounds, since each round reads at least
one character.

Does not own: the parts without structure, and matching.
-/

namespace SchemaMatch

namespace PatternReader

/-- A part of a sequence. A change of flags is a part that cannot be repeated. -/
inductive Part where
  | tree (tree : PatternTree) (outline : PatternOutline)
  | flags (span : PatternSpan)

def Part.outline : Part → PatternOutline
  | .tree _ outline => outline
  | .flags span => .leaf span

/-- An expression and where it stands. -/
structure Read where
  tree : PatternTree
  outline : PatternOutline

/-- The sequence of parts that were read, the last one first. -/
def sequenceOf (parts : List Part) : PatternTree :=
  parts.foldl (fun rest part =>
    match part, rest with
    | .flags _, rest => rest
    | .tree tree _, .empty => tree
    | .tree tree _, rest => .sequence tree rest) .empty

/-- The alternatives in front of the one that is read, the last one first. -/
structure Alternatives where
  start : PatternPosition
  tree : Option PatternTree
  outlines : List PatternOutline

/-- Alternatives with another one, which ends at a place. -/
def Alternatives.add (earlier : Alternatives) (start stop : PatternPosition)
    (parts : List Part) : Alternatives :=
  let tree := sequenceOf parts
  { start := earlier.start
    tree := match earlier.tree with
      | none => tree
      | some left => some (.choice left tree)
    outlines := .row ⟨start, stop⟩ (parts.reverse.map Part.outline) :: earlier.outlines }

/-- The expression that alternatives up to a place make. -/
def Alternatives.whole (alternatives : Alternatives) (stop : PatternPosition) : Read :=
  { tree := alternatives.tree.getD .empty
    outline := .row ⟨alternatives.start, stop⟩ alternatives.outlines.reverse }

/-- Take the part a repetition applies to off the parts. -/
def repeated (parts : List Part) : Reading (Read × List Part) := do
  match parts with
  | .tree tree outline :: rest => return (⟨tree, outline⟩, rest)
  | _ =>
      let position ← here
      fail .repetitionMissing position position

/-- A part that is repeated up to here. -/
def repetition (body : Read) (least : Nat) (most : Option Nat) : Reading Part :=
  return .tree (.repetition body.tree least most)
    (.around ⟨body.outline.span.start, ← here⟩ [body.outline])

def lineStart : Reading Assertion := do
  let flags := (← get).flags
  return if flags.multiLine then .lineStart flags.carriage else .textStart

def lineEnd : Reading Assertion := do
  let flags := (← get).flags
  return if flags.multiLine then .lineEnd flags.carriage else .textEnd

/-- The characters a point stands for. -/
def dot : Reading CharSet := do
  let flags := (← get).flags
  if !flags.unicode then defer .invalidUtf8 (← here) (← afterNext)
  if flags.dotAll then return .all
  else if flags.carriage then
    return .complement (.union (.singleton '\n') (.singleton '\r'))
  else return .complement (.singleton '\n')

def atomTree : Atom → Reading PatternTree
  | .literal character => return .oneOf (← closeCase (.singleton character))
  | .set set => return .oneOf set
  | .assertion condition => return .assertion condition

/-- A single character or escape. -/
def primitive (character : Char) : Reading PatternTree := do
  match character with
  | '\\' =>
      let placed ← escape
      atomTree placed.atom
  | '.' =>
      let set ← dot
      advance
      return .oneOf set
  | '^' =>
      let condition ← lineStart
      advance
      return .assertion condition
  | '$' =>
      let condition ← lineEnd
      advance
      return .assertion condition
  | _ =>
      advance
      atomTree (.literal character)

mutual

/-- Alternatives up to the end of the pattern or a closing parenthesis, which is left to the
caller. `start` is where the alternative that is read starts. -/
def expression : Nat → Alternatives → PatternPosition → List Part → Reading Read
  | 0, earlier, start, parts => do
      let stop ← here
      return (earlier.add start stop parts).whole stop
  | fuel + 1, earlier, start, parts => do
      skipSpace
      let place ← here
      let finished : Reading Read := return (earlier.add start place parts).whole place
      match ← peek with
      | none => finished
      | some ')' => finished
      | some '|' =>
          advance
          expression fuel (earlier.add start place parts) (← here) []
      | some '(' =>
          let part ← group fuel
          expression fuel earlier start (part :: parts)
      | some '[' =>
          let item ← bracketed fuel
          expression fuel earlier start (.tree (.oneOf item.set) item.outline :: parts)
      | some '{' =>
          let (body, rest) ← repeated parts
          let (least, most) ← counted
          let part ← repetition body least most
          expression fuel earlier start (part :: rest)
      | some character =>
          if character = '?' ∨ character = '*' ∨ character = '+' then
            let (body, rest) ← repeated parts
            advance
            let _ ← accept "?"
            let least := if character = '+' then 1 else 0
            let most := if character = '?' then some 1 else none
            let part ← repetition body least most
            expression fuel earlier start (part :: rest)
          else
            let tree ← primitive character
            let outline : PatternOutline := .leaf ⟨place, ← here⟩
            expression fuel earlier start (.tree tree outline :: parts)

/-- A group, after which the flags of its surroundings are in force again, or a change of
flags. -/
def group : Nat → Reading Part
  | 0 => return .flags ⟨.start, .start⟩
  | fuel + 1 => do
      let start ← here
      let afterParenthesis ← afterNext
      let outer := (← get).flags
      match ← groupOpening with
      | .flags => return .flags ⟨start, ← here⟩
      | .group =>
          let inside ← here
          let body ← expression fuel ⟨inside, none, []⟩ inside []
          if (← peek).isNone then fail .groupUnclosed start afterParenthesis
          advance
          modify fun scan => { scan with flags := outer }
          return .tree body.tree (.around ⟨start, ← here⟩ [body.outline])

end

/-- A whole pattern. Faults of meaning count only in patterns that do not nest too deep. -/
def whole : Reading PatternTree := do
  let start ← here
  let read ← expression (2 * (← fuel)) ⟨start, none, []⟩ start []
  match ← peek with
  | some _ => fail .groupUnopened (← here) (← afterNext)
  | none =>
      if let some span := read.outline.tooDeep? then fail .nestingTooDeep span.start span.stop
      match (← get).deferred with
      | some error => throw error
      | none => return read.tree

end PatternReader

namespace PatternTree

/-- The tree a pattern denotes, or why it denotes none. -/
def ofText? (text : String) : Except PatternError PatternTree :=
  (PatternReader.whole.run
    { rest := text.toList
      position := .start
      flags := {}
      names := []
      deferred := none }).map Prod.fst

end PatternTree

end SchemaMatch
