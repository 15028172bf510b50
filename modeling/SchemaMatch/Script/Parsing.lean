import SchemaMatch.Script.Syntax
import SchemaMatch.Script.SyntaxError

/-!
Contract: the state in which scripts are read, and what the grammar asks of its parts.

Owns:
- the tokens that are left, the names that are known and the functions read so far;
- the limits on how deeply constructs nest and on how many items they have;
- what may be a condition, an index, a subject of a loop or the target of an assignment;
- how strongly operators bind, and what they make of their operands;
- names, receivers and parameters of functions, and the values of the cases of a switch.

Does not own: the order of tokens in constructs.
-/

namespace SchemaMatch.Script

namespace Parser

/-- How deeply constructs may nest. -/
def depthLimit : Nat := 32

/-- How many items an array or a map may be written with. -/
def itemLimit : Nat := 10000

/-- What is known where a construct starts. -/
structure Context where
  depth : Nat
  position : Position
  isTopLevel : Bool
  inFunction : Bool
  inLoop : Bool
  /-- A bar separates values here and is no operator. -/
  barSeparates : Bool
  /-- Keys of maps need quotes. -/
  quotesKeys : Bool

structure State where
  /-- What is left. The last token stays. -/
  tokens : List PlacedToken
  /-- The functions read so far, the last one first. -/
  functions : List FunctionDefinition
  /-- Known names, the innermost first, and whether each is constant. -/
  names : List (String × Bool)
  /-- Names that are used but not known, the last one first. -/
  captured : List PlacedName
  closures : Nat

end Parser

abbrev Parsing := StateT Parser.State (Except SyntaxError)

namespace Parser

/-! ## Tokens -/

def fail {α : Type} (fault : SyntaxFault) (position : Position) : Parsing α :=
  throw ⟨fault, position⟩

def peek : Parsing PlacedToken := do
  return (← get).tokens.headD ⟨.endOfText, .start⟩

/-- Take a token. The last one stays. -/
def advance : Parsing PlacedToken := do
  let placed ← peek
  modify fun state =>
    match state.tokens with
    | _ :: next :: rest => { state with tokens := next :: rest }
    | _ => state
  return placed

def skip : Parsing Unit := do
  let _ ← advance
  return ()

/-- Take a token if it comes next. -/
def accept (token : Token) : Parsing Bool := do
  if (← peek).token = token then
    skip
    return true
  else return false

/-- Refuse a token. What is wrong with the text itself comes first. -/
def refuse {α : Type} (placed : PlacedToken) (fault : SyntaxFault) : Parsing α :=
  match placed.token with
  | .fault cause => fail (.badToken cause) placed.position
  | _ => fail fault placed.position

/-- Take a token that has to come next. -/
def expect (token : Token) (context : String) : Parsing Position := do
  let placed ← advance
  if placed.token = token then return placed.position
  else refuse placed (.missing token.text context)

/-- The name of a variable. -/
def variableName : Parsing PlacedName := do
  let placed ← advance
  match placed.token with
  | .identifier name => return ⟨name, placed.position⟩
  | .reserved word =>
      if Word.isIdentifier word then fail (.reserved word) placed.position
      else fail .variableExpected placed.position
  | _ => refuse placed .variableExpected

/-! ## Names -/

def declare (name : String) (isConstant : Bool) : Parsing Unit :=
  modify fun state => { state with names := (name, isConstant) :: state.names }

/-- Names declared in a part of the script are not known behind it. -/
def localNames {α : Type} (part : Parsing α) : Parsing α := do
  let outside := (← get).names
  let result ← part
  modify fun state => { state with names := outside }
  return result

/-- Note the use of a name. Names that are not known here come from outside, unless they are
those of functions. -/
def use (name : String) (position : Position) : Parsing Unit :=
  modify fun state =>
    if state.names.any (·.1 == name) || state.functions.any (·.name == name)
        || state.captured.any (·.name == name) then state
    else { state with captured := ⟨name, position⟩ :: state.captured }

def isConstant (name : String) : Parsing Bool := do
  return ((← get).names.lookup name).getD false

/-! ## Depth -/

def deeper (context : Context) : Parsing Context :=
  if depthLimit ≤ context.depth then fail .tooComplex context.position
  else return { context with depth := context.depth + 1 }

def deeperAt (context : Context) (position : Position) : Parsing Context :=
  deeper { context with position := position }

/-! ## What an expression may be -/

/-- What a literal is called where another kind of value is needed. -/
def literalKind? : Expression → Option String
  | .literal value _ =>
      match value with
      | .unit => some "()"
      | .int _ => some "a number"
      | .float _ => some "a floating-point number"
      | .char _ => some "a character"
      | .string _ => some "a string"
      | _ => none
  | .map .. => some "an object map"
  | _ => none

def ensureBool (expression : Expression) : Parsing Expression :=
  let refuseAs (kind : String) : Parsing Expression :=
    fail (.mismatched "a boolean expression" kind) expression.position
  match expression with
  | .array .. => refuseAs "an array"
  | .text .. => refuseAs "a string"
  | _ =>
      match literalKind? expression with
      | some kind => refuseAs kind
      | none => return expression

/-- Of literals only strings can be gone through. -/
def ensureIterable (expression : Expression) : Parsing Expression :=
  let refuseAs (kind : String) : Parsing Expression :=
    fail (.mismatched "an iterable value" kind) expression.position
  match expression with
  | .literal (.bool _) _ => refuseAs "a boolean"
  | .literal (.string _) _ => return expression
  | _ =>
      match literalKind? expression with
      | some kind => refuseAs kind
      | none => return expression

/-- A brace cannot start a guard, and neither can the end of the text. -/
def ensureExpression : Parsing Unit := do
  let next ← peek
  if next.token = .sign .leftBrace || next.token = .endOfText then
    fail (.expressionExpected "a boolean") next.position

/-- An assignment behind a guard was probably meant as a comparison. -/
def ensureNoAssignment : Parsing Unit := do
  let next ← peek
  match next.token with
  | .sign .assign => fail (.improper "Possibly a typo of '=='?") next.position
  | .operatorAssign _ =>
      fail (.improper "Expecting a boolean expression, not an assignment") next.position
  | _ => return ()

/-- What a literal index is called, if it is no text. -/
def indexKind? : Expression → Option String
  | .literal (.int _) _ => some "a number"
  | .literal (.float _) _ => some "a float"
  | .literal (.char _) _ => some "a character"
  | .literal .unit _ => some "()"
  | .literal (.bool _) _ => some "a boolean"
  | .logical .and .. => some "a boolean"
  | .logical .or .. => some "a boolean"
  | _ => none

def isText : Expression → Bool
  | .literal (.string _) _ => true
  | .text .. => true
  | _ => false

/-- Literals are indexed by literals of one kind only. -/
def ensureIndex (subject index : Expression) : Parsing Unit := do
  let refuseAs (message : String) : Parsing Unit := fail (.badIndex message) index.start
  let ofItems : Parsing Unit :=
    if isText index then
      refuseAs "Array, string or bit-field expects numeric index, not a string"
    else
      match indexKind? index with
      | none => return ()
      | some "a number" => return ()
      | some kind =>
          refuseAs ("Array, string or bit-field expects integer index, not " ++ kind)
  match subject with
  | .map .. =>
      match indexKind? index with
      | some kind => refuseAs ("Object map expects string index, not " ++ kind)
      | none => return ()
  | .array .. => ofItems
  | .text .. => ofItems
  | .literal (.int _) _ => ofItems
  | .literal (.string _) _ => ofItems
  | _ => return ()

/-- An assignment to a variable, or along a chain that no call interrupts. -/
def assignment (operator : Option BinaryOperator) (target value : Expression)
    (position : Position) : Parsing Statement :=
  let assign : Statement := .assign operator target value position
  match target with
  | .receiver _ => return assign
  | .qualified _ _ none _ => return assign
  | .variable name place => do
      if ← isConstant name then fail (.assignToConstant name) place
      else return assign
  | .chain root links =>
      let call? := links.find? fun link => match link with
        | .method .. => true
        | _ => false
      match call? with
      | some link => fail .assignToExpression link.position
      | none =>
          if root.isPlace then return assign else fail .assignToExpression root.position
  | .logical .. =>
      if operator.isNone then fail (.improper "Possibly a typo of '=='?") position
      else fail .assignToExpression target.position
  | _ =>
      if target.isConstant then fail (.assignToConstant "") target.start
      else fail .assignToExpression target.position

/-! ## Operators -/

/-- How strongly a token binds here. -/
def precedence (context : Context) (placed : PlacedToken) : Parsing Nat :=
  match placed.token with
  | .reserved text =>
      if Word.isIdentifier text then return 0 else fail (.unknownOperator text) placed.position
  | .operator .bitOr => return if context.barSeparates then 0 else placed.token.precedence
  | token => return token.precedence

/-- An operator with its operands. -/
def combine (operator : PlacedToken) (left right : Expression) : Parsing Expression :=
  let position := operator.position
  match operator.token with
  | .operator binary => return .binary binary left right position
  | .sign .or_ => do
      let right ← ensureBool right
      return .logical .or (← ensureBool left) right position
  | .sign .and_ => do
      let right ← ensureBool right
      return .logical .and (← ensureBool left) right position
  | .sign .coalesce => return .logical .orElse left right position
  | .keyword .in_ => return .call "contains" [right, left] position
  | .sign .notIn => return .unary .not (.call "contains" [right, left] position) position
  | token => fail (.unknownOperator token.text) position

/-- The opposite of a number literal. The one number without opposite becomes a float. -/
def negated (operand : Expression) (position : Position) : Expression :=
  match operand with
  | .literal (.int value) _ =>
      if value = -(2 ^ 63) then .literal (.float (.ofInt (2 ^ 63))) position
      else .literal (.int (-value)) position
  | .literal (.float value) _ => .literal (.float value.negated) position
  | _ => .unary .negate operand position

/-- Whether a range misses its end before a token. -/
def endsRange (context : Context) : Token → Bool
  | .sign symbol =>
      [Sign.rightParen, .rightBracket, .rightBrace, .leftBrace, .comma, .semicolon,
        .arrow].contains symbol
  | .operator .bitOr => context.barSeparates
  | .endOfText => true
  | _ => false

def isRangeOperator : Token → Bool
  | .operator .range => true
  | .operator .rangeInclusive => true
  | _ => false

/-- Whether a token behind a name makes it a call. -/
def startsCall : Token → Bool
  | .sign symbol => [Sign.leftParen, .unit, .not_].contains symbol
  | _ => false

/-- The arguments of a call have to come next. -/
def callStart : Parsing Unit := do
  let next ← peek
  match next.token with
  | .sign .leftParen => return ()
  | .sign .unit => return ()
  | _ => fail (.missing "(" "to start arguments list of function call") next.position

/-- Statements that may stand behind `??`, since they give no value. -/
def leaves : Token → Bool
  | .keyword word => [Keyword.break_, .continue_, .return_, .throw_].contains word
  | _ => false

/-! ## Functions -/

/-- The name of a function that is about to be read. -/
def functionName : Parsing String := do
  let placed ← advance
  match placed.token with
  | .identifier name =>
      if Word.isFunctionName name then return name
      else fail .functionNameMissing placed.position
  | .reserved word => fail (.reserved word) placed.position
  | _ => fail .functionNameMissing placed.position

/-- The type of receivers that a function is for, in front of its name and a point. -/
def receiverType : Parsing (Option String) := do
  let outside ← get
  let placed ← advance
  let isFollowed := (← peek).token = .sign .period
  let typeOf (name : String) : String :=
    if name = "int" then "i64" else if name = "float" then "f64" else name
  match placed.token with
  | .string name =>
      let _ ← expect (.sign .period) "after the type name for 'this'"
      return some (typeOf name)
  | .identifier name =>
      if isFollowed then
        skip
        return some (typeOf name)
      else
        set outside
        return none
  | _ =>
      set outside
      return none

/-- Parameters up to the sign that closes them. -/
def parameters (function : String) (close : Token) (unseparated : SyntaxFault) :
    Nat → List String → Parsing (List String)
  | 0, read => return read.reverse
  | fuel + 1, read => do
      if ← accept close then return read.reverse
      let name ← variableName
      if read.contains name.name then
        fail (.duplicatedParameter function name.name) name.position
      let read := name.name :: read
      let mark ← advance
      if mark.token = close then return read.reverse
      else if mark.token = .sign .comma then parameters function close unseparated fuel read
      else refuse mark unseparated

/-- Add a function, unless there is one for the same receivers with its name and as many
parameters. -/
def addFunction (definition : FunctionDefinition) (position : Position) : Parsing Unit := do
  let known := (← get).functions.any fun other =>
    other.receiverType == definition.receiverType && other.name == definition.name &&
      other.arity == definition.arity
  if known then fail (.duplicatedFunction definition.name definition.arity) position
  modify fun state => { state with functions := definition :: state.functions }

/-! ## Cases -/

def isRange : ScriptValue → Bool
  | .range .. => true
  | _ => false

def isNumber : ScriptValue → Bool
  | .int _ => true
  | .float _ => true
  | _ => false

def isEmptyRange : ScriptValue → Bool
  | .range first last inclusive => if inclusive then last < first else last ≤ first
  | _ => false

/-- The values of a case of a switch, which must be literals. A number may not follow a range.
Empty ranges do not count. -/
def caseValues (hasRange : Bool) : List Expression → Parsing (List ScriptValue)
  | [] => return []
  | value :: rest => do
      match value.literal? with
      | none => fail (.expressionExpected "a literal") value.start
      | some literal =>
          if isEmptyRange literal then caseValues hasRange rest
          else if hasRange && isNumber literal then fail .integerAfterRange value.start
          else return literal :: (← caseValues (hasRange || isRange literal) rest)

end Parser

end SchemaMatch.Script
