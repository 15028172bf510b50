import SchemaMatch.Script.Cases
import SchemaMatch.Script.Operators
import SchemaMatch.Script.Purity

/-!
Contract: what is computed ahead of a run.

Owns:
- operations on literals, done once and for all where they do not fail;
- constants in place of the variables that hold them;
- branches, loops and cases whose guards are literals.

Simplified scripts give the same values, unless a name of a constant is used again for something
that is no declaration. They take fewer operations, and they do not report faults of what is
gone. One pass may make room for another, so there are several.

Does not own: which statements do nothing.
-/

namespace SchemaMatch.Script

namespace Simplify

open Purity

/-- Names known where an expression stands, the innermost first, with the values of constants. -/
abbrev Known := List (String × Option ScriptValue)

/-- The value of the constant that a name stands for. -/
def constant? (known : Known) (name : String) : Option ScriptValue :=
  (known.lookup name).join

/-- A pure expression at another place. -/
def placedAt (position : Position) : Expression → Expression
  | .literal value _ => .literal value position
  | .variable name _ => .variable name position
  | .receiver _ => .receiver position
  | .array items _ => .array items position
  | .map entries _ => .map entries position
  | .text pieces _ => .text pieces position
  | .statement body _ => .statement body position
  | other => other

/-! ## Operations -/

/-- The value of an operation on literals, if it has one. -/
def folded? (operator : BinaryOperator) (left right : Expression) : Option ScriptValue := do
  let first ← left.constant?
  let second ← right.constant?
  match Operators.builtin? operator first second with
  | some (.ok value) => some value
  | _ => none

def binary (operator : BinaryOperator) (left right : Expression) (position : Position) :
    Expression :=
  match folded? operator left right with
  | some value => .literal value position
  | none => .binary operator left right position

def unary (operator : UnaryOperator) (operand : Expression) (position : Position) : Expression :=
  match operator, operand with
  | .not, .literal (.bool value) _ => .literal (.bool (!value)) position
  | _, _ => .unary operator operand position

def logical (operator : LogicalOperator) (left right : Expression) (position : Position) :
    Expression :=
  match operator, left, right with
  | .and, .literal (.bool true) _, _ => right
  | .and, .literal (.bool false) _, _ => left
  | .and, _, .literal (.bool true) _ => left
  | .or, .literal (.bool false) _, _ => right
  | .or, .literal (.bool true) _, _ => left
  | .or, _, .literal (.bool false) _ => left
  | .orElse, .literal .unit _, _ => right
  | .orElse, .literal _ _, _ => left
  | _, _, _ => .logical operator left right position

def call (name : String) (arguments : List Expression) (position : Position) : Expression :=
  let call : Expression := .call name arguments position
  match name, Expression.constants? arguments with
  | "type_of", some [value] => .literal (.string value.typeName) position
  | "is_shared", some [_] => .literal (.bool false) position
  | "curry", some (.function function curried :: second :: rest) =>
      .literal (.function function (curried ++ second :: rest)) position
  | "Fn", _ =>
      match call.literal? with
      | some value => .literal value position
      | none => call
  | _, _ => call

/-! ## Texts -/

/-- Put a piece in front of others. Literal texts side by side become one, and pieces without
text go. -/
def joinPiece (piece : Expression) (rest : List Expression) : List Expression :=
  match piece, rest with
  | .literal .unit _, _ => rest
  | .literal (.string "") _, _ => rest
  | .literal (.string first) position, .literal (.string second) _ :: others =>
      .literal (.string (first ++ second)) position :: others
  | _, _ => piece :: rest

def text (pieces : List Expression) (position : Position) : Expression :=
  let pieces := pieces.foldr joinPiece []
  match (Expression.text pieces position).constant? with
  | some value => .literal value position
  | none => .text pieces position

/-! ## Chains -/

def entry (entries : List (String × Expression)) (key : String) (position : Position) :
    Expression :=
  match entries.lookup key with
  | some value => placedAt position value
  | none => .literal .unit position

/-- An index as the place that it denotes in a row. -/
def place? (length : Nat) (index : Int) : Option Nat :=
  if 0 ≤ index then (if index < length then some index.toNat else none)
  else if index.natAbs ≤ length then some (length - index.natAbs)
  else none

/-- What a step of a literal gives. Items that are not chosen are pure, so they may go. -/
def stepOf? (root : Expression) (link : Link) : Option Expression :=
  match root, link with
  | .map entries position, .property name .. =>
      if entriesPure entries then some (entry entries name position) else none
  | .map entries position, .index (.literal (.string key) _) .. =>
      if entriesPure entries then some (entry entries key position) else none
  | .array items position, .index (.literal (.int index) _) .. =>
      if allPure items then do
        let place ← place? items.length index
        return placedAt position (← items[place]?)
      else none
  | .literal (.int value) position, .index (.literal (.int index) _) .. =>
      (place? 64 index).map fun place => .literal (.bool (Arithmetic.testBit value place)) position
  | .literal (.string text) position, .index (.literal (.int index) _) .. => do
      let place ← place? text.length index
      let character ← text.toList[place]?
      return .literal (.char character) position
  | _, .method name [] _ _ position => do
      let value ← root.constant?
      if name = "type_of" then return .literal (.string value.typeName) position
      else if name = "is_shared" then return .literal (.bool false) position
      else none
  | _, _ => none

/-- What a chain gives without a run. -/
def chainOf? (root : Expression) (links : List Link) : Option Expression :=
  match root, links with
  | .literal .unit _, .property _ true .. :: _ => some root
  | .literal .unit _, .method _ _ true .. :: _ => some root
  | .literal .unit _, .index _ true _ :: _ => some root
  | _, [link] => stepOf? root link
  | _, _ => none

/-- What a simplified chain starts from. A variable stays one, since the chain may change it. -/
def chainRoot (root simplified : Expression) : Expression :=
  match root with
  | .variable .. => root
  | _ => simplified

/-! ## Statements -/

/-- A block as a statement. One of a single statement is that statement. -/
def ofBlock (body : List Statement) : Statement :=
  match body with
  | [] => .empty
  | [.define name isConstant value] => .block [.define name isConstant value]
  | [single] => single
  | _ => .block body

/-- A statement as an expression. A block of one expression is that expression. -/
def ofStatement (body : Statement) (position : Position) : Expression :=
  match body with
  | .empty => .literal .unit position
  | .expression value => value
  | _ => .statement body position

def branch (keepsLast : Bool) (guard : Expression) (thenBody elseBody : List Statement) :
    Statement :=
  match guard, thenBody, elseBody with
  | guard, [], [] =>
      if keepsLast then .block [.expression guard, .empty] else .expression guard
  | .literal (.bool true) _, _, _ => ofBlock thenBody
  | .literal (.bool false) _, _, _ => ofBlock elseBody
  | guard, _, _ => .branch guard thenBody elseBody

/-- Operators that may be joined to an assignment. -/
def isAssignable (operator : BinaryOperator) : Bool :=
  [BinaryOperator.add, .subtract, .multiply, .divide, .modulo, .power, .shiftLeft, .shiftRight,
    .bitAnd, .bitOr, .bitXor].contains operator

/-- An operation on a variable that is assigned to it again. -/
def assignment (operator : Option BinaryOperator) (target value : Expression)
    (position : Position) : Statement :=
  match operator, target, value with
  | none, .variable name place, .binary joined (.variable same _) right operatorPosition =>
      if name = same && isAssignable joined then
        .assign (some joined) (.variable name place) right operatorPosition
      else .assign none target value position
  | _, _, _ => .assign operator target value position

/-- Cases whose condition is never true go. -/
def possible (cases : List SelectCase) : List SelectCase :=
  cases.filterMap fun (.mk values guard body) =>
    match guard with
    | some (.literal (.bool true) _) => some (.mk values none body)
    | some (.literal (.bool false) _) => none
    | _ => some (.mk values guard body)

def isUnconditional (case : SelectCase) : Bool :=
  match case.guard with
  | none => true
  | some (.literal (.bool true) _) => true
  | _ => false

/-- What a switch does for the only case that its value may take. -/
def chosen (case : SelectCase) (otherwise : Statement) : Statement :=
  match case.guard with
  | some guard =>
      if isUnconditional case then .expression case.body
      else .branch guard [.expression case.body] [otherwise]
  | none => .expression case.body

/-- A switch over a literal. Among several cases that name the value only one without a condition
counts; ranges are told apart here unless several of them have conditions. -/
def settledSelect (subject : Expression) (value : ScriptValue) (cases : List SelectCase)
    (fallback : Option Expression) : Statement :=
  let otherwise : Statement := match fallback with
    | some body => .expression body
    | none => .block []
  let ranged := cases.filter SelectCase.hasRange
  let ranges := ranged.foldl (fun total case => total + case.rangeCount) 0
  let byRange : Statement :=
    if ranges ≤ 1 || ranged.all isUnconditional then
      match ranged.find? (SelectCase.covers value) with
      | some case => chosen case otherwise
      | none => otherwise
    else .select subject (ranged.filter (SelectCase.covers value)) fallback
  match cases.filter (SelectCase.names value) with
  | [] => byRange
  | [case] => chosen case otherwise
  | several =>
      match several.find? isUnconditional with
      | some case => .expression case.body
      | none => byRange

mutual

def expression (known : Known) : Expression → Expression
  | .variable name position =>
      match constant? known name with
      | some value => .literal value position
      | none => .variable name position
  | .array items position =>
      let items := expressions known items
      match Expression.constants? items with
      | some values => .literal (.array values) position
      | none => .array items position
  | .map entries position =>
      let entries := mapEntries known entries
      match Expression.entryConstants? entries with
      | some values => .literal (.ofPairs values) position
      | none => .map entries position
  | .text pieces position => text (expressions known pieces) position
  | .call name arguments position => call name (expressions known arguments) position
  | .callInScope name arguments position =>
      .callInScope name (expressions known arguments) position
  | .qualified path name arguments position =>
      .qualified path name (optionalExpressions known arguments) position
  | .unary operator operand position => unary operator (expression known operand) position
  | .binary operator left right position =>
      binary operator (expression known left) (expression known right) position
  | .logical operator left right position =>
      logical operator (expression known left) (expression known right) position
  | .chain root steps =>
      match chainOf? root steps with
      | some value => value
      | none => .chain (chainRoot root (expression known root)) (links known steps)
  | .statement body position => ofStatement (statement known true body) position
  | other => other

def expressions (known : Known) : List Expression → List Expression
  | [] => []
  | first :: rest => expression known first :: expressions known rest

def optionalExpressions (known : Known) : Option (List Expression) → Option (List Expression)
  | some arguments => some (expressions known arguments)
  | none => none

def mapEntries (known : Known) : List (String × Expression) → List (String × Expression)
  | [] => []
  | (key, first) :: rest => (key, expression known first) :: mapEntries known rest

def links (known : Known) : List Link → List Link
  | [] => []
  | .method name arguments isOptional mark position :: rest =>
      .method name (expressions known arguments) isOptional mark position :: links known rest
  | .index index isOptional mark :: rest =>
      .index (expression known index) isOptional mark :: links known rest
  | other :: rest => other :: links known rest

def statement (known : Known) (keepsLast : Bool) : Statement → Statement
  | .expression (.statement body _) => statement known keepsLast body
  | .expression value => .expression (expression known value)
  | .assign operator target value position =>
      assignment operator (assignedPlace known target) (expression known value) position
  | .define name isConstant value => .define name isConstant (expression known value)
  | .block body =>
      ofBlock (tidy ⟨keepsLast, false⟩ (statements known keepsLast body))
  | .branch guard thenBody elseBody =>
      branch keepsLast (expression known guard)
        (tidy ⟨keepsLast, false⟩ (statements known keepsLast thenBody))
        (tidy ⟨keepsLast, false⟩ (statements known keepsLast elseBody))
  | .select subject cases fallback =>
      let simpler := selectCases known cases
      let fallback := optionalExpression known fallback
      match subject.constant? with
      | some value => settledSelect subject value simpler fallback
      | none => .select (expression known subject) (possible simpler) fallback
  | .whileLoop guard body =>
      let body := tidy ⟨false, false⟩ (statements known false body)
      match optionalExpression known guard with
      | some (.literal (.bool true) _) => .whileLoop none body
      | some (.literal (.bool false) _) => .empty
      | guard => .whileLoop guard body
  | .doLoop body guard goesOn =>
      .doLoop (tidy ⟨false, false⟩ (statements known false body))
        (expression known guard) goesOn
  | .forLoop name counter source body =>
      .forLoop name counter (expression known source)
        (tidy ⟨false, false⟩ (statements known false body))
  | .breakLoop value => .breakLoop (optionalExpression known value)
  | .returnValue value => .returnValue (optionalExpression known value)
  | .throwValue value position => .throwValue (optionalExpression known value) position
  | .tryCatch body errorName handler =>
      let pure := bodyPure body
      let body := tidy ⟨false, false⟩ (statements known false body)
      if pure then .block body
      else
        .tryCatch body errorName
          (tidy ⟨false, false⟩ (statements known false handler))
  | .empty => .empty
  | .continueLoop => .continueLoop

/-- The place of an assignment. What it starts from stays as it is. -/
def assignedPlace (known : Known) : Expression → Expression
  | .chain root steps => .chain root (links known steps)
  | other => other

/-- Statements in a row. Each one knows the constants declared before it. -/
def statements (known : Known) (keepsLast : Bool) : List Statement → List Statement
  | [] => []
  | .define name isConstant value :: rest =>
      let value := expression known value
      let held := if isConstant then value.constant? else none
      .define name isConstant value :: statements ((name, held) :: known) keepsLast rest
  | first :: rest => statement known keepsLast first :: statements known keepsLast rest

def selectCases (known : Known) : List SelectCase → List SelectCase
  | [] => []
  | .mk values guard body :: rest =>
      .mk values (optionalExpression known guard) (expression known body) ::
        selectCases known rest

def optionalExpression (known : Known) : Option Expression → Option Expression
  | some value => some (expression known value)
  | none => none

end

/-- One pass over the body of a function. -/
def pass (body : List Statement) : List Statement :=
  tidy ⟨true, true⟩ (statements [] true body)

/-- How many passes there are. What one makes room for is rarely deep. -/
def passes : Nat := 6

def definition (function : FunctionDefinition) : FunctionDefinition :=
  { function with body := Nat.repeat pass passes function.body }

end Simplify

/-- A program without what does nothing. -/
def Program.simplified (program : Program) : Program :=
  ⟨program.functions.map Simplify.definition⟩

end SchemaMatch.Script
