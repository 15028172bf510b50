import SchemaMatch.Number.Notation

/-!
Contract: the tokens of scripts.

Owns:
- positions in a script, by line and column; columns count characters;
- tokens, the text of each and how strongly operators bind;
- the words that scripts may not use as names.

Does not own: cutting text into tokens.
-/

namespace SchemaMatch.Script

/-- A place in a script. Lines and columns count from one. -/
structure Position where
  line : Nat
  column : Nat
deriving DecidableEq, Repr

namespace Position

def start : Position := ⟨1, 1⟩

/-- No place at all. -/
def nowhere : Position := ⟨0, 0⟩

/-- The place after a character. -/
def after (position : Position) (character : Char) : Position :=
  if character = '\n' then ⟨position.line + 1, 1⟩ else ⟨position.line, position.column + 1⟩

/-- The place in the words of a message. -/
def text (position : Position) : String :=
  "line " ++ toString position.line ++ ", position " ++ toString position.column

end Position

/-- Operators with two operands that compute a value from both. -/
inductive BinaryOperator where
  | add
  | subtract
  | multiply
  | divide
  | modulo
  | power
  | shiftLeft
  | shiftRight
  | bitAnd
  | bitOr
  | bitXor
  | equal
  | notEqual
  | less
  | lessEqual
  | greater
  | greaterEqual
  | range
  | rangeInclusive
deriving DecidableEq, Repr

namespace BinaryOperator

def text : BinaryOperator → String
  | .add => "+"
  | .subtract => "-"
  | .multiply => "*"
  | .divide => "/"
  | .modulo => "%"
  | .power => "**"
  | .shiftLeft => "<<"
  | .shiftRight => ">>"
  | .bitAnd => "&"
  | .bitOr => "|"
  | .bitXor => "^"
  | .equal => "=="
  | .notEqual => "!="
  | .less => "<"
  | .lessEqual => "<="
  | .greater => ">"
  | .greaterEqual => ">="
  | .range => ".."
  | .rangeInclusive => "..="

/-- How strongly an operator binds. -/
def precedence : BinaryOperator → Nat
  | .bitOr => 30
  | .bitXor => 30
  | .bitAnd => 60
  | .equal => 90
  | .notEqual => 90
  | .less => 130
  | .lessEqual => 130
  | .greater => 130
  | .greaterEqual => 130
  | .range => 140
  | .rangeInclusive => 140
  | .add => 150
  | .subtract => 150
  | .multiply => 180
  | .divide => 180
  | .modulo => 180
  | .power => 190
  | .shiftLeft => 210
  | .shiftRight => 210

end BinaryOperator

/-- Operators with one operand. -/
inductive UnaryOperator where
  | negate
  | plus
  | not
deriving DecidableEq, Repr

def UnaryOperator.text : UnaryOperator → String
  | .negate => "-"
  | .plus => "+"
  | .not => "!"

/-- Words of the language itself. -/
inductive Keyword where
  | true_
  | false_
  | let_
  | const_
  | if_
  | else_
  | switch_
  | do_
  | while_
  | until_
  | loop_
  | for_
  | in_
  | fn_
  | private_
  | continue_
  | break_
  | return_
  | throw_
  | try_
  | catch_
  | export_
  | as_
deriving DecidableEq, Repr

namespace Keyword

def table : List (Keyword × String) := [
  (.true_, "true"), (.false_, "false"), (.let_, "let"), (.const_, "const"), (.if_, "if"),
  (.else_, "else"), (.switch_, "switch"), (.do_, "do"), (.while_, "while"),
  (.until_, "until"), (.loop_, "loop"), (.for_, "for"), (.in_, "in"), (.fn_, "fn"),
  (.private_, "private"), (.continue_, "continue"), (.break_, "break"),
  (.return_, "return"), (.throw_, "throw"), (.try_, "try"), (.catch_, "catch"),
  (.export_, "export"), (.as_, "as")]

def text (keyword : Keyword) : String :=
  ((table.find? fun entry => entry.1 == keyword).map Prod.snd).getD ""

def ofText? (text : String) : Option Keyword :=
  (table.find? fun entry => entry.2 == text).map Prod.fst

end Keyword

/-- Signs that are no operators on values. -/
inductive Sign where
  | leftBrace
  | rightBrace
  | leftParen
  | rightParen
  | leftBracket
  | rightBracket
  | unit
  | mapStart
  | semicolon
  | colon
  | doubleColon
  | arrow
  | underscore
  | comma
  | period
  | safePeriod
  | safeBracket
  | assign
  | not_
  | and_
  | or_
  | coalesce
  | notIn
deriving DecidableEq, Repr

namespace Sign

def text : Sign → String
  | .leftBrace => "\x7b"
  | .rightBrace => "\x7d"
  | .leftParen => "("
  | .rightParen => ")"
  | .leftBracket => "["
  | .rightBracket => "]"
  | .unit => "()"
  | .mapStart => "#\x7b"
  | .semicolon => ";"
  | .colon => ":"
  | .doubleColon => "::"
  | .arrow => "=>"
  | .underscore => "_"
  | .comma => ","
  | .period => "."
  | .safePeriod => "?."
  | .safeBracket => "?["
  | .assign => "="
  | .not_ => "!"
  | .and_ => "&&"
  | .or_ => "||"
  | .coalesce => "??"
  | .notIn => "!in"

end Sign

/-- Why a piece of text is no token. -/
inductive TokenFault where
  | unexpectedInput (text : String)
  | unterminatedString
  | badEscape (sequence : String)
  | badNumber (text : String)
  | badCharacter (text : String)
  | badIdentifier (text : String)
  /-- A sign of another language, or a word that is switched off, with advice. -/
  | improperSymbol (advice : String)
deriving DecidableEq, Repr

namespace TokenFault

def withDetail (cause detail : String) : String :=
  cause ++ ": '" ++ detail ++ "'"

def message : TokenFault → String
  | .unexpectedInput text => "Unexpected '" ++ text ++ "'"
  | .unterminatedString => "Open string is not terminated"
  | .badEscape sequence => withDetail "Invalid escape sequence" sequence
  | .badNumber text => withDetail "Invalid number" text
  | .badCharacter text => withDetail "Invalid character" text
  | .badIdentifier text => withDetail "Variable name is not proper" text
  | .improperSymbol advice => advice

end TokenFault

inductive Token where
  | int (value : Int)
  | float (value : Binary64)
  | char (value : Char)
  | string (value : String)
  /-- A piece of a text that an expression between braces follows. -/
  | interpolated (value : String)
  | identifier (name : String)
  | keyword (word : Keyword)
  | sign (symbol : Sign)
  | operator (binary : BinaryOperator)
  /-- An operator and an assignment in one. -/
  | operatorAssign (binary : BinaryOperator)
  /-- A word or sign that is kept back. -/
  | reserved (text : String)
  | fault (cause : TokenFault)
  | endOfText
deriving DecidableEq

/-- A token and where it starts. -/
structure PlacedToken where
  token : Token
  position : Position

namespace Token

/-- A token in the words of a message. -/
def text : Token → String
  | .int value => toString value
  | .float value => value.render .script
  | .char value => value.toString
  | .string _ => "string"
  | .interpolated _ => "string"
  | .identifier name => name
  | .keyword word => word.text
  | .sign symbol => symbol.text
  | .operator binary => binary.text
  | .operatorAssign binary => binary.text ++ "="
  | .reserved text => text
  | .fault cause => cause.message
  | .endOfText => "\x7bEOF\x7d"

/-- How strongly a token binds as an operator. What is no operator does not bind. -/
def precedence : Token → Nat
  | .operator binary => binary.precedence
  | .sign .or_ => 30
  | .sign .and_ => 60
  | .sign .notIn => 110
  | .keyword .in_ => 110
  | .sign .coalesce => 135
  | _ => 0

/-- Of powers in a row the right one binds first. -/
def bindsRight : Token → Bool
  | .operator .power => true
  | _ => false

/-- Whether a minus after this token is a sign and no subtraction. -/
def allowsSign : Token → Bool
  | .operator _ => true
  | .operatorAssign _ => true
  | .keyword word =>
      [Keyword.if_, .while_, .until_, .in_, .return_, .throw_].contains word
  | .sign symbol =>
      [Sign.semicolon, .colon, .comma, .leftBrace, .leftParen, .leftBracket, .assign, .not_,
        .and_, .or_].contains symbol
  | _ => false

end Token

namespace Word

/-- Words that are kept back, and whether each may be called like a function, and after a
point. -/
def reservedWords : List (String × Bool × Bool) :=
  (["public", "protected", "super", "new", "use", "module", "package", "var", "static",
    "shared", "with", "is", "goto", "match", "case", "default", "void", "null", "nil",
    "spawn", "thread", "go", "sync", "async", "await", "yield", "this"].map fun word =>
      (word, false, false)) ++
  [("print", true, false), ("debug", true, false), ("type_of", true, true),
    ("eval", true, false), ("Fn", true, false), ("call", true, true), ("curry", true, true),
    ("is_def_var", true, false), ("is_def_fn", true, false), ("is_shared", true, true)]

def reserved? (word : String) : Option (Bool × Bool) :=
  reservedWords.lookup word

/-- Letters, digits and underscores, a letter before any digit. -/
def isIdentifier (word : String) : Bool :=
  let isPart (character : Char) : Bool := character.isAlphanum || character == '_'
  word.toList.all isPart &&
    match word.toList.dropWhile (· == '_') with
    | first :: _ => first.isAlpha
    | [] => false

/-- Whether a word may be called although it is kept back. -/
def mayBeCalled (word : String) : Bool :=
  match reserved? word with
  | some (callable, _) => callable
  | none => false

/-- Whether a word may follow a point although it is kept back. -/
def mayFollowPoint (word : String) : Bool :=
  match reserved? word with
  | some (_, method) => method
  | none => false

/-- Signs and operators, those that are kept back included. -/
def symbols : List String := [
  "+", "-", "*", "/", "%", "**", "<<", ">>", "&", "|", "^", "==", "!=", "<", "<=", ">", ">=",
  "..", "..=", "+=", "-=", "*=", "/=", "%=", "**=", "<<=", ">>=", "&=", "|=", "^=", "\x7b",
  "\x7d", "(", ")", "[", "]", "()", "#\x7b", ";", ":", "::", "=>", "_", ",", ".", "?.", "?[",
  "=", "!", "&&", "||", "??", "!in", "===", "!==", "->", "<-", "=>", ":=", ":;", "~", "::<",
  "(*", "*)", "#", "#!", "@", "$", "++", "--", "...", "<|", "|>", "!.", "?"]

/-- Words and signs that no function may have as a name. -/
def isKeptBack (name : String) : Bool :=
  (reserved? name).isSome || (Keyword.ofText? name).isSome || symbols.contains name

/-- Whether a name may belong to a function of a script. -/
def isFunctionName (name : String) : Bool :=
  isIdentifier name && (reserved? name).isNone && (Keyword.ofText? name).isNone

end Word

end SchemaMatch.Script
