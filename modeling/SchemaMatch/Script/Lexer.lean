import SchemaMatch.Number.Reader
import SchemaMatch.Script.Token
import SchemaMatch.Text.Blank

/-!
Contract: scripts cut into tokens.

Owns:
- the forms of numbers, strings, characters, names, signs and comments;
- texts with expressions inside: a piece of text ends where a dollar sign and a brace come, and
  goes on behind the brace that closes the expression;
- the words and signs that are switched off in the sandbox.

The first fault ends the list. Every loop takes fuel that the length of the script bounds.

Does not own: how tokens go together.
-/

namespace SchemaMatch.Script.Lexer

/-- What is left of a script, and the place of its first character. -/
structure Scan where
  rest : List Char
  position : Position

namespace Scan

def ofText (text : String) : Scan := ⟨text.toList, .start⟩

def advance (scan : Scan) : Scan :=
  match scan.rest with
  | [] => scan
  | character :: rest => ⟨rest, scan.position.after character⟩

def advanceBy : Nat → Scan → Scan
  | 0, scan => scan
  | count + 1, scan => advanceBy count scan.advance

/-- Step over the end of a line, which a carriage return may be alone. -/
def advanceLine (scan : Scan) : Scan :=
  let next : Position := ⟨scan.position.line + 1, 1⟩
  match scan.rest with
  | '\r' :: '\n' :: rest => ⟨rest, next⟩
  | '\r' :: rest => ⟨rest, next⟩
  | _ => scan.advance

end Scan

/-- A token and what is left behind it. -/
structure Lexeme where
  token : Token
  position : Position
  next : Scan

def isLetter (character : Char) : Bool :=
  character.isAlpha || character == '_'

def isNamePart (character : Char) : Bool :=
  character.isAlphanum || character == '_'

/-! ## Comments -/

/-- Step over a comment between marks, which may hold others of its kind. -/
def skipBlockComment : Nat → Nat → Scan → Scan
  | 0, _, scan => scan
  | _, 0, scan => scan
  | fuel + 1, depth + 1, scan =>
      match scan.rest with
      | [] => scan
      | '/' :: '*' :: _ => skipBlockComment fuel (depth + 2) (scan.advanceBy 2)
      | '*' :: '/' :: _ => skipBlockComment fuel depth (scan.advanceBy 2)
      | _ => skipBlockComment fuel (depth + 1) scan.advance

/-- Step over the rest of a line and its end. -/
def skipLine : Nat → Scan → Scan
  | 0, scan => scan
  | fuel + 1, scan =>
      match scan.rest with
      | [] => scan
      | '\n' :: _ => scan.advanceLine
      | '\r' :: _ => scan.advanceLine
      | _ => skipLine fuel scan.advance

/-- Step over blanks and comments. -/
def skipGaps : Nat → Scan → Scan
  | 0, scan => scan
  | fuel + 1, scan =>
      match scan.rest with
      | '/' :: '/' :: _ => skipGaps fuel (skipLine scan.rest.length scan)
      | '/' :: '*' :: _ => skipGaps fuel (skipBlockComment scan.rest.length 1 (scan.advanceBy 2))
      | character :: _ => if Text.isBlank character then skipGaps fuel scan.advance else scan
      | [] => scan

/-! ## Numbers -/

/-- How the characters of a number are taken. -/
structure NumberProgress where
  /-- The characters that count, the last one first. -/
  read : List Char
  base : Nat
  hasPoint : Bool
  hasExponent : Bool

def isNumberDigit (base : Nat) (character : Char) : Bool :=
  character.isDigit ||
    (base == 16 && (('a' ≤ character && character ≤ 'f') || ('A' ≤ character && character ≤ 'F')))

def baseOfMark? (character : Char) : Option Nat :=
  if character = 'x' ∨ character = 'X' then some 16
  else if character = 'o' ∨ character = 'O' then some 8
  else if character = 'b' ∨ character = 'B' then some 2
  else none

/-- The rest of a number. A point belongs to it unless a name, another point or an underscore
follows; then it belongs to what comes next. -/
def numberBody : Nat → NumberProgress → Scan → NumberProgress × Scan
  | 0, progress, scan => (progress, scan)
  | fuel + 1, progress, scan =>
      let take (characters : List Char) (count : Nat) (progress : NumberProgress) :=
        numberBody fuel { progress with read := characters ++ progress.read }
          (scan.advanceBy count)
      match scan.rest with
      | '_' :: _ => take [] 1 progress
      | '.' :: after =>
          if progress.hasPoint || progress.base != 10 then (progress, scan)
          else
            match after with
            | [] => (progress, scan)
            | next :: _ =>
                if next.isDigit then take ['.'] 1 { progress with hasPoint := true }
                else if next = '_' ∨ next = '.' ∨ next.isAlpha then (progress, scan)
                else take ['0', '.'] 1 { progress with hasPoint := true }
      | 'e' :: after =>
          if progress.base = 16 then take ['e'] 1 progress
          else if progress.hasExponent || progress.base != 10 then (progress, scan)
          else
            let marked := { progress with hasPoint := true, hasExponent := true }
            match after with
            | '+' :: _ => take ['+', 'e'] 2 marked
            | '-' :: _ => take ['-', 'e'] 2 marked
            | next :: _ => if next.isDigit then take ['e'] 1 marked else (progress, scan)
            | [] => (progress, scan)
      | character :: _ =>
          if isNumberDigit progress.base character then take [character] 1 progress
          else
            match progress.read, baseOfMark? character with
            | ['0'], some base => take [character] 1 { progress with base := base }
            | _, _ => (progress, scan)
      | [] => (progress, scan)

/-- The digits of a number to a base other than ten. They fill 64 bits, the first of which is
the sign. -/
def basedNumber? (base : Nat) (digits : List Char) : Option Int :=
  let value? (character : Char) : Option Nat :=
    let value := if character.isDigit then character.toNat - '0'.toNat
      else character.toLower.toNat - 'a'.toNat + 10
    if value < base then some value else none
  if digits.isEmpty then none
  else do
    let value ← digits.foldlM (fun total digit => do return total * base + (← value? digit)) 0
    if 2 ^ 64 ≤ value then none
    else if 2 ^ 63 ≤ value then some ((value : Int) - 2 ^ 64)
    else some value

/-- The token of a number. A decimal that is no 64-bit integer is a float. The mark of another
base counts as a digit behind a minus, so such numbers have no sign. -/
def numberToken (negative : Bool) (progress : NumberProgress) : Token :=
  let digits := progress.read.reverse
  if progress.base ≠ 10 then
    let digits := digits.drop (if negative then 1 else 2)
    match basedNumber? progress.base digits with
    | some value => .int value
    | none => .fault (.badNumber (String.ofList digits))
  else
    let text := String.ofList (if negative then '-' :: digits else digits)
    match Numeral.int64? text with
    | some value => .int value
    | none =>
        match Numeral.number? text with
        | some value => .float value
        | none => .fault (.badNumber text)

/-- A number, whose first digit is next. -/
def number (negative : Bool) (position : Position) (scan : Scan) : Lexeme :=
  let (progress, next) := numberBody (scan.rest.length + 1) ⟨[], 10, false, false⟩ scan
  ⟨numberToken negative progress, position, next⟩

/-! ## Strings -/

/-- What may stand in a string. -/
structure StringForm where
  /-- The character that ends it. Doubled, it stands for itself. -/
  close : Char
  /-- Whether line breaks and backslashes are text. -/
  verbatim : Bool
  /-- Whether a backslash at the end of a line lets the string go on in the next. -/
  continues : Bool
deriving Repr

namespace StringForm

def quoted : StringForm := ⟨'"', false, true⟩

def character : StringForm := ⟨'\'', false, false⟩

/-- Text between backticks, which may hold expressions. -/
def text : StringForm := ⟨'\x60', true, false⟩

end StringForm

/-- How a string ended. -/
inductive StringEnd where
  | closed
  | expression
  | missing
deriving DecidableEq

/-- The characters of a string, how it ended, and what is left; or a fault and its place. -/
abbrev StringResult := Except (TokenFault × Position) (String × StringEnd × Scan)

/-- The character that a row of hexadecimal digits denotes. `sequence` is the escape so far,
the last character first. -/
def codeEscape : Nat → List Char → Nat → Scan → Except (TokenFault × Position) (Char × Scan)
  | 0, sequence, value, scan =>
      if value < 0xD800 ∨ (0xDFFF < value ∧ value < 0x110000) then .ok (Char.ofNat value, scan)
      else
        .error (.badEscape (String.ofList sequence.reverse),
          ⟨scan.position.line, scan.position.column - 1⟩)
  | count + 1, sequence, value, scan =>
      match scan.rest with
      | [] =>
          .error (.badEscape (String.ofList sequence.reverse),
            ⟨scan.position.line, scan.position.column - 1⟩)
      | character :: _ =>
          let sequence := character :: sequence
          let fault := (TokenFault.badEscape (String.ofList sequence.reverse), scan.position)
          match Numeral.hexDigit? character with
          | some digit => codeEscape count sequence (value * 16 + digit) scan.advance
          | none => .error fault

/-- The characters of a string. `skip` is the column up to which blanks do not count after a
line that goes on. -/
def stringBody (form : StringForm) (start : Position) :
    Nat → Nat → List Char → Scan → StringResult
  | 0, _, _, _ => .error (.unterminatedString, start)
  | fuel + 1, skip, read, scan =>
      let goOn (skip : Nat) (read : List Char) (scan : Scan) : StringResult :=
        stringBody form start fuel skip read scan
      match scan.rest with
      | [] =>
          if form.verbatim then .ok (String.ofList read.reverse, .missing, scan)
          else .error (.unterminatedString, start)
      | character :: rest =>
          if form.verbatim && character == '$' && rest.head? == some '{' then
            .ok (String.ofList read.reverse, .expression, scan.advance)
          else if form.verbatim && ['\\', '$', '{'].isPrefixOf scan.rest then
            goOn 0 ('{' :: '$' :: read) (scan.advanceBy 3)
          else if character = form.close then
            if rest.head? = some form.close then goOn 0 (character :: read) (scan.advanceBy 2)
            else .ok (String.ofList read.reverse, .closed, scan.advance)
          else if character = '\r' ∧ rest.head? = some '\n' then goOn skip read scan.advance
          else if character = '\\' ∧ form.verbatim = false then
            let after := scan.advance
            match after.rest with
            | [] => .error (.unterminatedString, start)
            | letter :: _ =>
                let next := after.advance
                let code (count : Nat) : StringResult :=
                  match codeEscape count [letter, '\\'] 0 next with
                  | .ok (character, next) => goOn skip (character :: read) next
                  | .error fault => .error fault
                if letter = form.close ∨ letter = '\\' then goOn skip (letter :: read) next
                else if letter = 't' then goOn skip ('\t' :: read) next
                else if letter = 'n' then goOn skip ('\n' :: read) next
                else if letter = 'r' then goOn skip ('\r' :: read) next
                else if letter = 'x' then code 2
                else if letter = 'u' then code 4
                else if letter = 'U' then code 8
                else if letter = '\n' ∨ (letter = '\r' ∧ next.rest.head? = some '\n') then
                  if form.continues then goOn (start.column + 1) read after.advanceLine
                  else .error (.unterminatedString, start)
                else .error (.badEscape (String.ofList ['\\', letter]), after.position)
          else if character = '\n' ∧ form.verbatim = false then
            .error (.unterminatedString, start)
          else if Text.isBlank character ∧ scan.position.column < skip then
            goOn skip read scan.advance
          else goOn 0 (character :: read) scan.advance

def stringOf (form : StringForm) (start : Position) (scan : Scan) : StringResult :=
  stringBody form start (scan.rest.length + 1) 0 [] scan

/-- A string, after its opening quote. -/
def quoted (position : Position) (scan : Scan) : Lexeme :=
  match stringOf .quoted position scan with
  | .ok (text, _, next) => ⟨.string text, position, next⟩
  | .error (fault, place) => ⟨.fault fault, place, scan⟩

/-- A piece of text after a backtick. -/
def textPiece (position : Position) (scan : Scan) : Lexeme :=
  match stringOf .text position scan with
  | .ok (text, .closed, next) => ⟨.string text, position, next⟩
  | .ok (text, .expression, next) => ⟨.interpolated text, position, next⟩
  | .ok (_, .missing, next) => ⟨.fault .unterminatedString, position, next⟩
  | .error (fault, place) => ⟨.fault fault, place, scan⟩

/-- A piece of text after an expression. It is nowhere if it is empty. -/
def furtherPiece (scan : Scan) : Lexeme :=
  let lexeme := textPiece scan.position scan
  match lexeme.token with
  | .string "" => { lexeme with position := .nowhere }
  | .interpolated "" => { lexeme with position := .nowhere }
  | _ => if scan.rest.isEmpty then { lexeme with position := .nowhere } else lexeme

/-- A text, after its opening backtick. A line break right after that is no text. -/
def backtick (position : Position) (scan : Scan) : Lexeme :=
  match scan.rest with
  | '\r' :: _ => textPiece position scan.advanceLine
  | '\n' :: _ => textPiece position scan.advanceLine
  | _ => textPiece position scan

/-- A character between quotes, after the opening one. -/
def characterLiteral (position : Position) (scan : Scan) : Lexeme :=
  if scan.rest.head? = some '\'' then ⟨.fault (.badCharacter ""), position, scan⟩
  else
    match stringOf .character position scan with
    | .ok (text, _, next) =>
        match text.toList with
        | [character] => ⟨.char character, position, next⟩
        | _ => ⟨.fault (.badCharacter text), position, next⟩
    | .error (fault, place) => ⟨.fault fault, place, scan⟩

/-- The body of a raw string: all up to a quote and as many number signs as opened it. -/
def rawBody (hashes : List Char) : Nat → List Char → Scan → Option (List Char × Scan)
  | 0, _, _ => none
  | fuel + 1, read, scan =>
      match scan.rest with
      | [] => none
      | '"' :: rest =>
          if hashes.isPrefixOf rest then some (read.reverse, scan.advanceBy (hashes.length + 1))
          else rawBody hashes fuel ('"' :: read) scan.advance
      | character :: _ => rawBody hashes fuel (character :: read) scan.advance

/-- A raw string, whose opening number signs are next. -/
def rawString (position : Position) (scan : Scan) : Lexeme :=
  let hashes := scan.rest.takeWhile (· == '#')
  let opened := scan.advanceBy hashes.length
  match opened.rest with
  | '"' :: _ =>
      match rawBody hashes (opened.rest.length + 1) [] opened.advance with
      | some (text, next) => ⟨.string (String.ofList text), position, next⟩
      | none => ⟨.fault .unterminatedString, position, opened⟩
  | character :: _ => ⟨.fault (.unexpectedInput character.toString), position, opened⟩
  | [] => ⟨.fault .unterminatedString, position, opened⟩

/-! ## Names and signs -/

/-- Words and signs that another language would use here, with advice. -/
def advice? : String → Option String
  | "===" => some
      "'===' is not a valid operator. This is not JavaScript! Should it be '=='?"
  | "!==" => some
      "'!==' is not a valid operator. This is not JavaScript! Should it be '!='?"
  | "->" => some "'->' is not a valid symbol. This is not C or C++!"
  | "<-" => some "'<-' is not a valid symbol. This is not Go! Should it be '<='?"
  | ":=" => some
      "':=' is not a valid assignment operator. This is not Go or Pascal! Should it be simply '='?"
  | "::<" => some
      "'::<>' is not a valid symbol. This is not Rust! Should it be '::'?"
  | "(*" => some
      "'(* .. *)' is not a valid comment format. This is not Pascal! Should it be '/* .. */'?"
  | "*)" => some
      "'(* .. *)' is not a valid comment format. This is not Pascal! Should it be '/* .. */'?"
  | ":;" => some "':;' is not a valid symbol. Should it be '::'?"
  | "# \x7b" => some "'#' is not a valid symbol. Should it be '#\x7b'?"
  | "eval" => some "reserved keyword 'eval' is disabled"
  | _ => none

def reservedToken (text : String) : Token :=
  match advice? text with
  | some advice => .fault (.improperSymbol advice)
  | none => .reserved text

/-- The token of a word. Imports are switched off, so their word is kept back. -/
def wordToken (word : String) : Token :=
  match Keyword.ofText? word with
  | some keyword => .keyword keyword
  | none =>
      if word = "_" then .sign .underscore
      else if word = "import" ∨ (Word.reserved? word).isSome then reservedToken word
      else if Word.isIdentifier word then .identifier word
      else .fault (.badIdentifier word)

def word (scan : Scan) : Lexeme :=
  let name := scan.rest.takeWhile isNamePart
  ⟨wordToken (String.ofList name), scan.position, scan.advanceBy name.length⟩

/-- Signs and operators. Of those that the text begins with the longest one is meant. -/
def symbols : List (String × Token) :=
  [("::<", reservedToken "::<"), ("...", reservedToken "..."), ("===", reservedToken "==="),
    ("!==", reservedToken "!=="), ("**=", .operatorAssign .power),
    ("<<=", .operatorAssign .shiftLeft), (">>=", .operatorAssign .shiftRight),
    ("..=", .operator .rangeInclusive), ("# \x7b", reservedToken "# \x7b"),
    ("()", .sign .unit), ("(*", reservedToken "(*"), ("*)", reservedToken "*)"),
    ("#\x7b", .sign .mapStart), ("#!", reservedToken "#!"), ("+=", .operatorAssign .add),
    ("++", reservedToken "++"), ("-=", .operatorAssign .subtract), ("->", reservedToken "->"),
    ("--", reservedToken "--"), ("*=", .operatorAssign .multiply), ("**", .operator .power),
    ("/=", .operatorAssign .divide), ("%=", .operatorAssign .modulo), ("..", .operator .range),
    ("==", .operator .equal), ("=>", .sign .arrow), ("::", .sign .doubleColon),
    (":=", reservedToken ":="), (":;", reservedToken ":;"), ("<=", .operator .lessEqual),
    ("<-", reservedToken "<-"),
    ("<<", .operator .shiftLeft), ("<|", reservedToken "<|"), (">=", .operator .greaterEqual),
    (">>", .operator .shiftRight), ("!=", .operator .notEqual), ("!.", reservedToken "!."),
    ("||", .sign .or_), ("|=", .operatorAssign .bitOr), ("|>", reservedToken "|>"),
    ("&&", .sign .and_), ("&=", .operatorAssign .bitAnd), ("^=", .operatorAssign .bitXor),
    ("?.", .sign .safePeriod), ("??", .sign .coalesce), ("?[", .sign .safeBracket),
    ("\x7b", .sign .leftBrace), ("\x7d", .sign .rightBrace), ("(", .sign .leftParen),
    (")", .sign .rightParen), ("[", .sign .leftBracket), ("]", .sign .rightBracket),
    ("+", .operator .add), ("-", .operator .subtract), ("*", .operator .multiply),
    ("/", .operator .divide), ("%", .operator .modulo), (";", .sign .semicolon),
    (",", .sign .comma), (".", .sign .period), ("=", .sign .assign), (":", .sign .colon),
    ("<", .operator .less), (">", .operator .greater), ("!", .sign .not_),
    ("|", .operator .bitOr), ("&", .operator .bitAnd), ("^", .operator .bitXor),
    ("~", reservedToken "~"), ("@", reservedToken "@"), ("$", reservedToken "$"),
    ("?", reservedToken "?"), ("#", reservedToken "#")]

def symbol? (scan : Scan) : Option Lexeme :=
  (symbols.find? fun entry => entry.1.toList.isPrefixOf scan.rest).map fun entry =>
    ⟨entry.2, scan.position, scan.advanceBy entry.1.length⟩

/-- The next token. `signed` tells that a minus would be a sign. -/
def next (signed : Bool) (scan : Scan) : Lexeme :=
  let position := scan.position
  match scan.rest with
  | [] => ⟨.endOfText, position, scan⟩
  | '"' :: _ => quoted position scan.advance
  | '\x60' :: _ => backtick position scan.advance
  | '\'' :: _ => characterLiteral position scan.advance
  | '#' :: '"' :: _ => rawString position scan
  | '#' :: '#' :: _ => rawString position scan
  | '!' :: 'i' :: 'n' :: after =>
      if after.head?.any isNamePart then ⟨.sign .not_, position, scan.advance⟩
      else ⟨.sign .notIn, position, scan.advanceBy 3⟩
  | first :: second =>
      if first.isDigit then number false position scan
      else if signed && first == '-' && second.head?.any Char.isDigit then
        number true position scan.advance
      else if isLetter first then word scan
      else
        match symbol? scan with
        | some lexeme => lexeme
        | none => ⟨.fault (.unexpectedInput first.toString), position, scan⟩

/-- What a brace that opens or closes does to the braces that are open. Each remembers whether
it belongs to a text. The flag tells that text goes on. -/
def braces (token : Token) (afterText : Bool) (opened : List Bool) : List Bool × Bool :=
  match token with
  | .sign .leftBrace => (afterText :: opened, false)
  | .sign .mapStart => (false :: opened, false)
  | .sign .rightBrace =>
      match opened with
      | inText :: rest => (rest, inText)
      | [] => ([], false)
  | _ => (opened, false)

def isInterpolated : Token → Bool
  | .interpolated _ => true
  | _ => false

def isLast : Token → Bool
  | .fault _ => true
  | .endOfText => true
  | _ => false

/-- The tokens from a place on. `inText` tells that a text goes on there, `opened` which braces
are open, and `previous` what came before. -/
def tokensFrom : Nat → Bool → List Bool → Token → Scan → List PlacedToken
  | 0, _, _, _, scan => [⟨.endOfText, scan.position⟩]
  | fuel + 1, inText, opened, previous, scan =>
      let lexeme :=
        if inText then furtherPiece scan
        else next previous.allowsSign (skipGaps (scan.rest.length + 1) scan)
      let placed : PlacedToken := ⟨lexeme.token, lexeme.position⟩
      if isLast lexeme.token then [placed]
      else
        let (opened, inText) := braces lexeme.token (isInterpolated previous) opened
        placed :: tokensFrom fuel inText opened lexeme.token lexeme.next

/-- The tokens of a script. The last one is its end or a fault. -/
def tokens (text : String) : List PlacedToken :=
  tokensFrom (text.length + 2) false [] (.sign .semicolon) (.ofText text)

end SchemaMatch.Script.Lexer
