import SchemaMatch.Script.SyntaxError
import SchemaMatch.Script.Value

/-!
Contract: why a running script stops.

Owns:
- the causes, their messages and the place that ends each message;
- the causes that no script can catch;
- what a handler in a script gets to see of a fault.

Does not own: finding the causes.
-/

namespace SchemaMatch.Script

inductive FaultCause where
  | tooManyOperations
  | stackOverflow
  | tooLarge (kind : String)
  | functionNotFound (signature : String)
  | variableNotFound (name : String)
  | moduleNotFound (path : String)
  /-- A text within the script that has another syntax than it should. -/
  | badSyntax (fault : SyntaxFault)
  /-- A text within the script that denotes another kind of value than it should. -/
  | badOutput (requested actual : String)
  | receiverMissing
  /-- A property that cannot be read or written. -/
  | badProperty (message : String)
  | indexerMissing (types : String)
  | notIterable
  | thrown (value : ScriptValue)
  | impureMethod (name : String)
  /-- A property of a constant that cannot be written. -/
  | impureProperty (name : String)
  | constantModified (name : String)
  | mismatched (requested actual : String)
  | arithmetic (message : String)
  | arrayBounds (length : Nat) (index : Int)
  | stringBounds (length : Nat) (index : Int)
  | bitBounds (index : Int)
  /-- A fault within a function that another one called. -/
  | inCall (function : String) (cause : FaultCause) (position : Option Position)

namespace FaultCause

/-- Limits of the sandbox and faults of syntax. No handler gets these, and calls do not add
themselves to their messages. -/
def isFatal : FaultCause → Bool
  | .tooManyOperations => true
  | .stackOverflow => true
  | .tooLarge _ => true
  | .badSyntax _ => true
  | _ => false

/-- An index outside of a row of `length` things. -/
def boundsMessage (kind thing whole : String) (length : Nat) (index : Int) : String :=
  kind ++ " index " ++ toString index ++ " out of bounds: " ++
    match length with
    | 0 => whole ++ " is empty"
    | 1 => "only 1 " ++ thing ++ " in " ++ whole
    | count => "only " ++ toString count ++ " " ++ thing ++ "s in " ++ whole

/-- The place at the end of a message. -/
def placeSuffix : Option Position → String
  | some position => " (" ++ position.text ++ ")"
  | none => ""

/-- The message of a cause, without its own place. -/
def message : FaultCause → String
  | .tooManyOperations => "Too many operations"
  | .stackOverflow => "Stack overflow"
  | .tooLarge kind => kind ++ " too large"
  | .functionNotFound signature => "Function not found: " ++ signature
  | .variableNotFound name => "Variable not found: " ++ name
  | .moduleNotFound path => "Module not found: " ++ path
  | .badSyntax fault => "Syntax error: " ++ fault.message
  | .badOutput requested actual =>
      "Output type incorrect: " ++ actual ++ " (expecting " ++ requested ++ ")"
  | .receiverMissing => "'this' not bound"
  | .badProperty message => message
  | .indexerMissing types => "Indexer unavailable: " ++ types
  | .notIterable => "For loop expects iterable type"
  | .thrown value =>
      match value with
      | .unit => "Runtime error"
      | .string "" => "Runtime error"
      | value => "Runtime error: " ++ value.display
  | .impureMethod name => "Non-pure method '" ++ name ++ "' cannot be called on constant"
  | .impureProperty name => "Cannot modify property '" ++ name ++ "' of a constant"
  | .constantModified name => "Cannot modify constant " ++ name
  | .mismatched requested actual =>
      "Data type incorrect: " ++ actual ++ " (expecting " ++ requested ++ ")"
  | .arithmetic message => message
  | .arrayBounds length index => boundsMessage "Array" "element" "array" length index
  | .stringBounds length index => boundsMessage "String" "character" "string" length index
  | .bitBounds index => boundsMessage "Bit-field" "bit" "bit-field" 64 index
  | .inCall function cause position =>
      cause.message ++ placeSuffix position ++
        if "anon$".toList.isPrefixOf function.toList then "\nin closure call"
        else "\nin call to function '" ++ function ++ "'"

/-- The kind of a cause, as handlers in scripts see it. -/
def kind : FaultCause → String
  | .tooManyOperations => "ErrorTooManyOperations"
  | .stackOverflow => "ErrorStackOverflow"
  | .tooLarge _ => "ErrorDataTooLarge"
  | .functionNotFound _ => "ErrorFunctionNotFound"
  | .variableNotFound _ => "ErrorVariableNotFound"
  | .moduleNotFound _ => "ErrorModuleNotFound"
  | .badSyntax _ => "ErrorParsing"
  | .badOutput .. => "ErrorMismatchOutputType"
  | .receiverMissing => "ErrorUnboundThis"
  | .badProperty _ => "ErrorDotExpr"
  | .indexerMissing _ => "ErrorIndexingType"
  | .notIterable => "ErrorFor"
  | .thrown _ => "ErrorRuntime"
  | .impureMethod _ => "ErrorNonPureMethodCallOnConstant"
  | .impureProperty _ => "ErrorNonPureMethodCallOnConstant"
  | .constantModified _ => "ErrorAssignmentToConstant"
  | .mismatched .. => "ErrorMismatchDataType"
  | .arithmetic _ => "ErrorArithmetic"
  | .arrayBounds .. => "ErrorArrayBounds"
  | .stringBounds .. => "ErrorStringBounds"
  | .bitBounds _ => "ErrorBitFieldBounds"
  | .inCall .. => "ErrorInFunctionCall"

/-- What handlers in scripts see of a cause besides its message. -/
def details : FaultCause → List (String × ScriptValue)
  | .functionNotFound signature => [("function", .string signature)]
  | .variableNotFound name => [("variable", .string name)]
  | .moduleNotFound path => [("module", .string path)]
  | .constantModified name => [("variable", .string name)]
  | .impureMethod name => [("function", .string name)]
  | .impureProperty name => [("function", .string ("set$" ++ name))]
  | .badProperty message => [("property", .string message)]
  | .indexerMissing types => [("type", .string types)]
  | .mismatched requested actual =>
      [("requested", .string requested), ("actual", .string actual)]
  | .badOutput requested actual =>
      [("requested", .string requested), ("actual", .string actual)]
  | .arrayBounds length index => [("length", .int length), ("index", .int index)]
  | .stringBounds length index => [("length", .int length), ("index", .int index)]
  | .bitBounds index => [("length", .int 64), ("index", .int index)]
  | .thrown value => [("value", value)]
  | .inCall function _ _ => [("function", .string function), ("source", .string "")]
  | _ => []

/-- The cause behind calls. -/
def innermost : FaultCause → FaultCause
  | .inCall _ cause _ => cause.innermost
  | cause => cause

end FaultCause

/-- A cause and where it arose. -/
structure Fault where
  cause : FaultCause
  position : Option Position

namespace Fault

def message (fault : Fault) : String :=
  fault.cause.message ++ FaultCause.placeSuffix fault.position

/-- A fault without a place gets one. -/
def placedAt (fault : Fault) (position : Position) : Fault :=
  match fault.position with
  | some _ => fault
  | none => { fault with position := some position }

/-- The value that a handler in a script gets: what was thrown, or a description. -/
def handled (fault : Fault) : ScriptValue :=
  match fault.cause.innermost with
  | .thrown value => value
  | _ =>
      let place := match fault.position with
        | some position =>
            [("line", .int position.line), ("position", .int position.column)]
        | none => []
      .ofPairs ([("message", .string fault.cause.message)] ++ place ++
        [("error", .string fault.cause.kind)] ++ fault.cause.details)

end Fault

end SchemaMatch.Script
