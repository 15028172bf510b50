import SchemaMatch.Script.Token
import SchemaMatch.Script.Value

/-!
Contract: scripts as trees.

Owns:
- expressions, chains of properties, methods and indices, and statements;
- the places that messages name: the one of an expression and the one where it starts;
- which expressions need no run, and their values;
- which function a call means.

Functions without a name are functions of the program under a name that no script can write;
an expression only mentions that name and what the function captures.

Does not own: how trees are read or run.
-/

namespace SchemaMatch.Script

/-- A name at a place. -/
structure PlacedName where
  name : String
  position : Position
deriving DecidableEq, Repr

/-- Operators that need not look at both operands. -/
inductive LogicalOperator where
  | and
  | or
  /-- The left operand, unless it is unit. -/
  | orElse
deriving DecidableEq, Repr

mutual

inductive Expression where
  | literal (value : ScriptValue) (position : Position)
  | variable (name : String) (position : Position)
  /-- The object that a function is called on. -/
  | receiver (position : Position)
  | array (items : List Expression) (position : Position)
  | map (entries : List (String × Expression)) (position : Position)
  /-- A text made of pieces. -/
  | text (pieces : List Expression) (position : Position)
  | call (name : String) (arguments : List Expression) (position : Position)
  /-- A call of a function that works on the variables of its caller. -/
  | callInScope (name : String) (arguments : List Expression) (position : Position)
  /-- A variable or a call by a path of modules. -/
  | qualified (path : List PlacedName) (name : String) (arguments : Option (List Expression))
      (position : Position)
  | unary (operator : UnaryOperator) (operand : Expression) (position : Position)
  | binary (operator : BinaryOperator) (left right : Expression) (position : Position)
  | logical (operator : LogicalOperator) (left right : Expression) (position : Position)
  | chain (root : Expression) (links : List Link)
  /-- A statement whose value is used. -/
  | statement (body : Statement) (position : Position)
  | closure (name : String) (captured : List PlacedName) (position : Position)

/-- One step of a chain. An optional step of unit is unit. -/
inductive Link where
  | property (name : String) (isOptional : Bool) (mark position : Position)
  | method (name : String) (arguments : List Expression) (isOptional : Bool)
      (mark position : Position)
  | index (index : Expression) (isOptional : Bool) (mark : Position)

inductive Statement where
  | empty
  | expression (value : Expression)
  /-- `target = value`, or with an operator in between. -/
  | assign (operator : Option BinaryOperator) (target value : Expression) (position : Position)
  | define (name : String) (isConstant : Bool) (value : Expression)
  | block (body : List Statement)
  | branch (guard : Expression) (thenBody elseBody : List Statement)
  | select (subject : Expression) (cases : List SelectCase) (fallback : Option Expression)
  /-- Without a guard the loop only ends by a break. -/
  | whileLoop (guard : Option Expression) (body : List Statement)
  /-- The body runs before the guard, as long as the guard has the given value. -/
  | doLoop (body : List Statement) (guard : Expression) (goesOn : Bool)
  | forLoop (name : String) (counter : Option String) (source : Expression)
      (body : List Statement)
  | breakLoop (value : Option Expression)
  | continueLoop
  | returnValue (value : Option Expression)
  | throwValue (value : Option Expression) (position : Position)
  | tryCatch (body : List Statement) (errorName : Option String) (handler : List Statement)

/-- A case of a switch: the values it is for, a condition and what to do. -/
inductive SelectCase where
  | mk (values : List ScriptValue) (guard : Option Expression) (body : Expression)

end

instance : Inhabited Expression := ⟨.literal .unit .start⟩

instance : Inhabited Statement := ⟨.empty⟩

/-- A function of a program. What a closure captures comes before its own parameters. A function
for receivers of one type is only called on such receivers. A private one differs in how it
describes itself. -/
structure FunctionDefinition where
  isPrivate : Bool
  receiverType : Option String
  name : String
  parameters : List String
  body : List Statement

namespace FunctionDefinition

def arity (definition : FunctionDefinition) : Nat :=
  definition.parameters.length

end FunctionDefinition

/-- The functions of a script. What it does outside of them is never run. -/
structure Program where
  functions : List FunctionDefinition

namespace Program

/-- A function for receivers of any type or none. -/
def find? (program : Program) (name : String) (arity : Nat) : Option FunctionDefinition :=
  program.functions.find? fun definition =>
    definition.receiverType.isNone && definition.name == name && definition.arity == arity

/-- The function that a call on a receiver means. One for the type of the receiver goes first. -/
def method? (program : Program) (receiver : ScriptValue) (name : String) (arity : Nat) :
    Option FunctionDefinition :=
  let own := program.functions.find? fun definition =>
    definition.receiverType == some receiver.typeName && definition.name == name &&
      definition.arity == arity
  own <|> program.find? name arity

def defines (program : Program) (name : String) : Bool :=
  program.functions.any fun definition => definition.name == name

end Program

/-- The name of the closure with a number. It is no identifier, so no script can mention it. -/
def closureName (number : Nat) : String :=
  "anon$" ++ toString number

def isClosureName (name : String) : Bool :=
  "anon$".toList.isPrefixOf name.toList

namespace Link

def mark : Link → Position
  | .property _ _ mark _ => mark
  | .method _ _ _ mark _ => mark
  | .index _ _ mark => mark

/-- The place of the name that a step mentions. -/
def position : Link → Position
  | .property _ _ _ position => position
  | .method _ _ _ _ position => position
  | .index _ _ mark => mark

end Link

namespace Expression

/-- The place that messages about the value of an expression name. -/
def position : Expression → Position
  | .literal _ position => position
  | .variable _ position => position
  | .receiver position => position
  | .array _ position => position
  | .map _ position => position
  | .text _ position => position
  | .call _ _ position => position
  | .callInScope _ _ position => position
  | .qualified _ _ _ position => position
  | .unary _ _ position => position
  | .binary _ _ _ position => position
  | .logical _ _ _ position => position
  | .chain root links =>
      match links with
      | [] => root.position
      | link :: _ => link.mark
  | .statement _ position => position
  | .closure _ _ position => position

/-- The place where an expression starts. Calls and operators count as starting at their own
place. -/
def start : Expression → Position
  | .logical _ left _ _ => left.start
  | .chain root _ => root.start
  | .qualified path _ _ position => (path.head?.map (·.position)).getD position
  | .literal _ position => position
  | .variable _ position => position
  | .receiver position => position
  | .array _ position => position
  | .map _ position => position
  | .text _ position => position
  | .call _ _ position => position
  | .callInScope _ _ position => position
  | .unary _ _ position => position
  | .binary _ _ _ position => position
  | .statement _ position => position
  | .closure _ _ position => position

mutual

/-- The value of a literal, or of an array, map or text made of literals. -/
def constant? : Expression → Option ScriptValue
  | .literal value _ => some value
  | .array items _ => (constants? items).map .array
  | .map entries _ => (entryConstants? entries).map .ofPairs
  | .text pieces _ =>
      (constants? pieces).map fun values =>
        .string (String.join (values.map ScriptValue.display))
  | _ => none

def constants? : List Expression → Option (List ScriptValue)
  | [] => some []
  | item :: rest => do
      let value ← constant? item
      return value :: (← constants? rest)

def entryConstants? : List (String × Expression) → Option (List (String × ScriptValue))
  | [] => some []
  | (key, entry) :: rest => do
      let value ← constant? entry
      return (key, value) :: (← entryConstants? rest)

end

/-- The range between two literals. Without an end it goes up to the last integer. -/
def range? (left right : Expression) (inclusive : Bool) : Option ScriptValue :=
  match left, right with
  | .literal (.int first) _, .literal (.int last) _ => some (.range first last inclusive)
  | .literal (.int first) _, .literal .unit _ => some (.range first (2 ^ 63 - 1) inclusive)
  | .literal .unit _, .literal (.int last) _ => some (.range 0 last inclusive)
  | .literal .unit _, .literal .unit _ => some (.range 0 (2 ^ 63 - 1) inclusive)
  | _, _ => none

/-- The value of an expression that needs no run: a constant, a range between literals, or a
function by its name. -/
def literal? (expression : Expression) : Option ScriptValue :=
  match expression with
  | .binary .range left right _ => range? left right false
  | .binary .rangeInclusive left right _ => range? left right true
  | .call "Fn" [.literal (.string name) _] _ =>
      if Word.isFunctionName name then some (.function name []) else none
  | _ => expression.constant?

def isConstant (expression : Expression) : Bool :=
  expression.constant?.isSome

/-- Whether an expression stands for a place that keeps a value. -/
def isPlace : Expression → Bool
  | .variable .. => true
  | .receiver _ => true
  | _ => false

end Expression

namespace Statement

/-- Statements behind which no semicolon is needed. -/
def endsItself : Statement → Bool
  | .block _ => true
  | .branch .. => true
  | .select .. => true
  | .whileLoop .. => true
  | .forLoop .. => true
  | .tryCatch .. => true
  | _ => false

/-- A statement as the body of a function. -/
def statements : Statement → List Statement
  | .empty => []
  | .block body => body
  | other => [other]

def isEmpty : Statement → Bool
  | .empty => true
  | _ => false

end Statement

end SchemaMatch.Script
