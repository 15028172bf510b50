import SchemaMatch.Script.Token

/-!
Contract: why a text is no script.

Owns:
- the causes, each with its message;
- the place that a message ends with, if there is one.

Does not own: finding the causes.
-/

namespace SchemaMatch.Script

inductive SyntaxFault where
  | badToken (cause : TokenFault)
  /-- The text ends within an expression. -/
  | incomplete
  | tooComplex
  | missing (sign context : String)
  | reserved (word : String)
  | unknownOperator (text : String)
  | variableExpected
  | propertyExpected
  /-- A sign that cannot follow here. -/
  | invalidSymbol (text : String)
  | expressionExpected (kind : String)
  /-- A literal that cannot be of the kind asked for. -/
  | mismatched (requested actual : String)
  | badIndex (message : String)
  | duplicatedProperty (name : String)
  | duplicatedVariable (name : String)
  | functionNameMissing
  | parametersMissing (function : String)
  | bodyMissing (function : String)
  | duplicatedParameter (function parameter : String)
  | duplicatedFunction (function : String) (arity : Nat)
  | misplacedFunction
  | misplacedExport
  | breakOutsideLoop
  | assignToConstant (name : String)
  | assignToExpression
  | defaultCaseNotLast
  | defaultCaseCondition
  | integerAfterRange
  | improper (advice : String)
  | literalTooLarge (kind : String) (limit : Nat)
deriving DecidableEq

namespace SyntaxFault

/-- A count of parameters in the words of a message. -/
def parameterCount : Nat → String
  | 0 => "no parameters"
  | 1 => "1 parameter"
  | count => toString count ++ " parameters"

def message : SyntaxFault → String
  | .badToken cause => cause.message
  | .incomplete => "Script is incomplete"
  | .tooComplex => "Expression exceeds maximum complexity"
  | .missing sign context => "Expecting '" ++ sign ++ "' " ++ context
  | .reserved word =>
      if Word.isIdentifier word then "'" ++ word ++ "' is a reserved keyword"
      else "'" ++ word ++ "' is a reserved symbol"
  | .unknownOperator text => "Unknown operator: '" ++ text ++ "'"
  | .variableExpected => "Expecting name of a variable"
  | .propertyExpected => "Expecting name of a property"
  | .invalidSymbol text => "Invalid symbol encountered: '" ++ text ++ "'"
  | .expressionExpected kind => "Expecting " ++ kind ++ " expression"
  | .mismatched requested actual => "Expecting " ++ requested ++ ", not " ++ actual
  | .badIndex message => message
  | .duplicatedProperty name => "Duplicated property for object map literal: " ++ name
  | .duplicatedVariable name => "Duplicated variable name: " ++ name
  | .functionNameMissing => "Expecting function name in function declaration"
  | .parametersMissing function => "Expecting parameters for function " ++ function
  | .bodyMissing function => "Expecting body statement block for function " ++ function
  | .duplicatedParameter function parameter =>
      "Duplicated parameter " ++ parameter ++ " for function " ++ function
  | .duplicatedFunction function arity =>
      "Function " ++ function ++ " with " ++ parameterCount arity ++ " already exists"
  | .misplacedFunction =>
      "Function definitions must be at global level and cannot be inside a block or " ++
        "another function"
  | .misplacedExport => "Export statement can only appear at global level"
  | .breakOutsideLoop => "Break statement should only be used inside a loop"
  | .assignToConstant name =>
      if name.isEmpty then "Cannot assign to a constant value"
      else "Cannot assign to constant " ++ name
  | .assignToExpression => "Expression cannot be assigned to"
  | .defaultCaseNotLast => "Default switch case must be the last"
  | .defaultCaseCondition => "This switch case cannot have a condition"
  | .integerAfterRange => "Numeric switch case cannot follow a range case"
  | .improper advice => advice
  | .literalTooLarge kind limit =>
      kind ++ " exceeds the maximum limit (" ++ toString limit ++ ")"

end SyntaxFault

/-- Why a text is no script, and where. -/
structure SyntaxError where
  fault : SyntaxFault
  position : Position
deriving DecidableEq

namespace SyntaxError

def message (error : SyntaxError) : String :=
  if error.position = .nowhere then error.fault.message
  else error.fault.message ++ " (" ++ error.position.text ++ ")"

end SyntaxError

end SchemaMatch.Script
