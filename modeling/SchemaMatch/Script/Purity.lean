import SchemaMatch.Script.Syntax

/-!
Contract: statements that do nothing.

Owns:
- expressions and statements that do nothing but give a value;
- blocks within blocks, statements that are never reached, and those that may go from the end of
  a block.

Variables count as if they existed. Loops never count as pure, since they may not end or may find
nothing to go through.

Does not own: what is computed ahead of a run.
-/

namespace SchemaMatch.Script

namespace Purity

mutual

/-- Expressions that do nothing but give a value. -/
def isPure : Expression → Bool
  | .literal .. => true
  | .variable .. => true
  | .receiver _ => true
  | .array items _ => allPure items
  | .map entries _ => entriesPure entries
  | .text pieces _ => allPure pieces
  | .logical _ left right _ => isPure left && isPure right
  | .statement body _ => isPureStatement body
  | _ => false

def allPure : List Expression → Bool
  | [] => true
  | item :: rest => isPure item && allPure rest

def entriesPure : List (String × Expression) → Bool
  | [] => true
  | (_, item) :: rest => isPure item && entriesPure rest

def isPureStatement : Statement → Bool
  | .empty => true
  | .expression value => isPure value
  | .block body => bodyPure body
  | .branch guard thenBody elseBody => isPure guard && bodyPure thenBody && bodyPure elseBody
  | .select subject cases fallback =>
      isPure subject && casesPure cases && fallback.isSome && optionPure fallback
  | .tryCatch body _ handler => bodyPure body && bodyPure handler
  | _ => false

def bodyPure : List Statement → Bool
  | [] => true
  | first :: rest => isPureStatement first && bodyPure rest

def casesPure : List SelectCase → Bool
  | [] => true
  | .mk _ guard body :: rest => optionPure guard && isPure body && casesPure rest

def optionPure : Option Expression → Bool
  | some value => isPure value
  | none => true

end

/-- Statements that do nothing outside of their block. -/
def isPureInside : Statement → Bool
  | .define _ _ value => isPure value
  | statement => isPureStatement statement

/-- Statements that nothing behind them follows. -/
def endsControl : Statement → Bool
  | .returnValue _ => true
  | .throwValue .. => true
  | .breakLoop _ => true
  | .continueLoop => true
  | _ => false

/-- The statements up to the first one that nothing follows. -/
def reached : List Statement → List Statement
  | [] => []
  | first :: rest => if endsControl first then [first] else first :: reached rest

/-- Whether a block may be taken apart: the names it declares are its own. -/
def isOpen (statements : List Statement) : Bool :=
  statements.all fun
    | .define .. => false
    | _ => true

/-- Blocks that declare nothing are the same as their statements. -/
def flattened : List Statement → List Statement
  | [] => []
  | .block body :: rest =>
      if isOpen body then body ++ flattened rest else .block body :: flattened rest
  | first :: rest => first :: flattened rest

/-- Statements whose value a block may end with. -/
def givesValue : Statement → Bool
  | .expression _ => true
  | .block _ => true
  | .branch .. => true
  | .select .. => true
  | _ => false

/-- Pure statements go, unless they are the last one and its value counts. -/
def withoutPure (isPure : Statement → Bool) (keepsLast : Bool) : List Statement → List Statement
  | [] => []
  | [last] => if !keepsLast && isPure last then [] else [last]
  | first :: rest =>
      if isPure first then withoutPure isPure keepsLast rest
      else first :: withoutPure isPure keepsLast rest

/-- Statements that those in front of them in a block may be for. -/
def isAnchor : Statement → Bool
  | .define _ _ value => !isPure value || value.isConstant
  | .expression value => !isPure value || !value.isConstant
  | statement => !isPureStatement statement

/-- How many statements stand in front of the last anchor of a block. -/
def anchored (statements : List Statement) : Nat :=
  statements.length - (statements.reverse.takeWhile fun statement => !isAnchor statement).length - 1

/-- Without pure statements at the end, given in reverse. -/
def withoutPureEnd (isPure : Statement → Bool) : List Statement → List Statement
  | [] => []
  | last :: before => if isPure last then withoutPureEnd isPure before else last :: before

/-- The end of a block whose value counts, given in reverse. Returning a value at the end of a
function and having it is the same. A pure statement without a value goes; where that would show
the value of another one, an empty statement stays. -/
def valueEnd (isPure : Statement → Bool) (isFunction : Bool) : List Statement → List Statement
  | [] => []
  | last :: before =>
      match last, before with
      | .returnValue none, [] => if isFunction then [] else [last]
      | .returnValue none, second :: _ =>
          if !isFunction then last :: before
          else if givesValue second then .empty :: before
          else valueEnd isPure isFunction before
      | .returnValue (some value), _ =>
          if isFunction then .expression value :: before else last :: before
      | .empty, second :: _ =>
          if givesValue second then last :: before else valueEnd isPure isFunction before
      | _, [] => if !givesValue last && isPure last then [] else [last]
      | _, second :: _ =>
          if !givesValue last && isPure last then
            if givesValue second then .empty :: before else valueEnd isPure isFunction before
          else last :: before

/-- Where a block stands. -/
structure Place where
  /-- The value of the block counts. -/
  keepsLast : Bool
  /-- The block is the body of a function. -/
  isFunction : Bool

/-- A block without what does nothing. Names declared in an inner block are gone behind it, so
declaring them does nothing at its end. -/
def tidy (place : Place) (statements : List Statement) : List Statement :=
  let isPure := if place.isFunction then isPureStatement else isPureInside
  let statements := reached (flattened statements)
  let split := anchored statements
  -- From the last anchor on, names that a block declares are not looked for any more.
  let front := (statements.take split).filter fun statement => !isPureStatement statement
  let kept := (front ++ withoutPure isPure place.keepsLast (statements.drop split)).reverse
  let ended :=
    if place.keepsLast then valueEnd isPure place.isFunction kept
    else withoutPureEnd isPure kept
  ended.reverse

end Purity

end SchemaMatch.Script
