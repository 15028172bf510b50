import SchemaMatch.Script.Lexer
import SchemaMatch.Script.Library.Answer
import SchemaMatch.Script.Parser
import SchemaMatch.Script.Simplify

/-!
Contract: maps read from the notation of documents.

Owns:
- where that notation differs from the one of scripts: braces alone make a map, keys have quotes,
  and `null` is unit.

Does not own: writing documents.
-/

namespace SchemaMatch.Script.Library.Document

def improper : Token := .fault (.improperSymbol "Invalid JSON syntax")

/-- A token of a document as one of a script. -/
def ofDocument (placed : PlacedToken) : PlacedToken :=
  let token : Token := match placed.token with
    | .reserved "null" => .sign .unit
    | .sign .leftBrace => .sign .mapStart
    | .sign .unit => improper
    | .sign .mapStart => improper
    | .interpolated _ => improper
    | token => token
  { placed with token := token }

/-- The map that a text denotes. -/
def read (source : String) : Except FaultCause ScriptValue :=
  let tokens := (Lexer.tokens source).map ofDocument
  match Expression.ofTokens? tokens with
  | .error error => .error (.badSyntax error.fault)
  | .ok expression =>
      let simplified := Nat.repeat (Simplify.expression []) Simplify.passes expression
      match simplified.constant? with
      | some (.map entries) => .ok (.map entries)
      | some value => .error (.badOutput "map" value.typeName)
      | none => .error (.badSyntax .incomplete)

def functions (source : String) : Functions :=
  [ ("parse_json", fun
      | [] => settles (read source)
      | _ => none) ]

end SchemaMatch.Script.Library.Document
