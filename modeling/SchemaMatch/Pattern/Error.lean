/-!
Contract: faults in the notation of patterns and their reports.

Owns:
- positions and spans in a pattern;
- the causes a pattern is refused for, and their wording;
- the report, which quotes the pattern and marks the faulty span, line by line when the
  pattern has several lines.

Does not own: finding faults; the pattern reader does.
-/

namespace SchemaMatch

/-- A place between two characters of a pattern. Lines and columns count from 1. -/
structure PatternPosition where
  offset : Nat
  line : Nat
  column : Nat
deriving DecidableEq, Repr

namespace PatternPosition

def start : PatternPosition := ⟨0, 1, 1⟩

/-- The place after a character. -/
def after (position : PatternPosition) (character : Char) : PatternPosition :=
  if character = '\n' then ⟨position.offset + 1, position.line + 1, 1⟩
  else ⟨position.offset + 1, position.line, position.column + 1⟩

end PatternPosition

structure PatternSpan where
  start : PatternPosition
  stop : PatternPosition
deriving DecidableEq, Repr

/-- Why a pattern is refused. -/
inductive PatternFault where
  | classEscapeInvalid
  | classRangeInvalid
  | classRangeLiteral
  | classUnclosed
  | decimalEmpty
  | decimalInvalid
  | escapeHexEmpty
  | escapeHexInvalid
  | escapeHexInvalidDigit
  | escapeUnexpectedEnd
  | escapeUnrecognized
  | flagDanglingNegation
  | flagDuplicate
  | flagRepeatedNegation
  | flagUnexpectedEnd
  | flagUnrecognized
  | groupNameDuplicate
  | groupNameEmpty
  | groupNameInvalid
  | groupNameUnexpectedEnd
  | groupUnclosed
  | groupUnopened
  | invalidUtf8
  | nestingTooDeep
  | propertyNotFound
  | propertyValueNotFound
  | repetitionCountEmpty
  | repetitionCountInvalid
  | repetitionCountUnclosed
  | repetitionMissing
  | wordBoundaryUnclosed
  | wordBoundaryUnexpectedEnd
  | wordBoundaryUnrecognized
  | unicodeClassInvalid
  | unicodeNotAllowed
  | unsupportedBackreference
  | unsupportedLookAround
deriving DecidableEq, Repr

namespace PatternFault

def message : PatternFault → String
  | .classEscapeInvalid => "invalid escape sequence found in character class"
  | .classRangeInvalid =>
      "invalid character class range, the start must be <= the end"
  | .classRangeLiteral => "invalid range boundary, must be a literal"
  | .classUnclosed => "unclosed character class"
  | .decimalEmpty => "decimal literal empty"
  | .decimalInvalid => "decimal literal invalid"
  | .escapeHexEmpty => "hexadecimal literal empty"
  | .escapeHexInvalid => "hexadecimal literal is not a Unicode scalar value"
  | .escapeHexInvalidDigit => "invalid hexadecimal digit"
  | .escapeUnexpectedEnd =>
      "incomplete escape sequence, reached end of pattern prematurely"
  | .escapeUnrecognized => "unrecognized escape sequence"
  | .flagDanglingNegation => "dangling flag negation operator"
  | .flagDuplicate => "duplicate flag"
  | .flagRepeatedNegation => "flag negation operator repeated"
  | .flagUnexpectedEnd => "expected flag but got end of regex"
  | .flagUnrecognized => "unrecognized flag"
  | .groupNameDuplicate => "duplicate capture group name"
  | .groupNameEmpty => "empty capture group name"
  | .groupNameInvalid => "invalid capture group character"
  | .groupNameUnexpectedEnd => "unclosed capture group name"
  | .groupUnclosed => "unclosed group"
  | .groupUnopened => "unopened group"
  | .invalidUtf8 => "pattern can match invalid UTF-8"
  | .nestingTooDeep =>
      "exceed the maximum number of nested parentheses/brackets (250)"
  | .propertyNotFound => "Unicode property not found"
  | .propertyValueNotFound => "Unicode property value not found"
  | .repetitionCountEmpty => "repetition quantifier expects a valid decimal"
  | .repetitionCountInvalid =>
      "invalid repetition count range, the start must be <= the end"
  | .repetitionCountUnclosed => "unclosed counted repetition"
  | .repetitionMissing => "repetition operator missing expression"
  | .wordBoundaryUnclosed =>
      "special word boundary assertion is either unclosed or contains an invalid character"
  | .wordBoundaryUnexpectedEnd =>
      "found either the beginning of a special word boundary or a bounded repetition on " ++
        "a \\b with an opening brace, but no closing brace"
  | .wordBoundaryUnrecognized =>
      "unrecognized special word boundary assertion, valid choices are: start, end, " ++
        "start-half or end-half"
  | .unicodeClassInvalid => "invalid Unicode character class"
  | .unicodeNotAllowed => "Unicode not allowed here"
  | .unsupportedBackreference => "backreferences are not supported"
  | .unsupportedLookAround =>
      "look-around, including look-ahead and look-behind, is not supported"

end PatternFault

/-- A refusal: the cause, where it stands, and where an earlier clashing part stands. -/
structure PatternError where
  fault : PatternFault
  span : PatternSpan
  earlier : Option PatternSpan := none
deriving DecidableEq, Repr

namespace PatternError

/-- A text without the carriage return at its end. -/
def withoutReturn (text : String) : String :=
  if text.endsWith "\r" then String.ofList text.toList.dropLast else text

/-- The lines of a text, given its pieces between line breaks. A final line break ends the
last line and starts no new one; a carriage return before a line break belongs to it. -/
def linesOfPieces : List String → List String
  | [] => []
  | [last] => if last.isEmpty then [] else [last]
  | piece :: rest => withoutReturn piece :: linesOfPieces rest

def lines (text : String) : List String :=
  linesOfPieces (text.splitOn "\n")

def spaces (count : Nat) : String :=
  String.ofList (List.replicate count ' ')

/-- Marks below a line, from left to right. `column` is where the text so far ends. -/
def marks (column : Nat) : List PatternSpan → String
  | [] => ""
  | span :: rest =>
      let start := span.start.column - 1
      let width := max 1 (span.stop.column - span.start.column)
      spaces (start - column) ++ String.ofList (List.replicate width '^') ++
        marks (max column start + width) rest

def precedes (left right : PatternSpan) : Bool :=
  left.start.offset < right.start.offset ||
    (left.start.offset == right.start.offset && left.stop.offset ≤ right.stop.offset)

def isOneLine (span : PatternSpan) : Bool :=
  span.start.line == span.stop.line

/-- The span, and the earlier one if there is one, from left to right. -/
def spans (error : PatternError) : List PatternSpan :=
  match error.earlier with
  | none => [error.span]
  | some other => if precedes other error.span then [other, error.span] else [error.span, other]

/-- Every line of the pattern, numbered when there are several, with marks below it. -/
def quoted (error : PatternError) (pattern : String) : String :=
  let numbered := lines pattern
  let count := numbered.length + (if pattern.endsWith "\n" then 1 else 0)
  let width := if count ≤ 1 then 0 else (toString count).length
  let padding := if width = 0 then 4 else width + 2
  let oneLine := error.spans.filter isOneLine
  let line (index : Nat) (text : String) : String :=
    let number := toString (index + 1)
    let lead := if width = 0 then spaces 4 else spaces (width - number.length) ++ number ++ ": "
    let here := oneLine.filter fun span => span.start.line == index + 1
    lead ++ text ++ "\n" ++
      (if here.isEmpty then "" else spaces padding ++ marks 0 here ++ "\n")
  String.join (numbered.mapIdx line)

def multiLineNote (span : PatternSpan) : String :=
  "on line " ++ toString span.start.line ++ " (column " ++ toString span.start.column ++
    ") through line " ++ toString span.stop.line ++ " (column " ++
    toString (span.stop.column - 1) ++ ")"

/-- The report of a refusal. A pattern of several lines is set off by rules. -/
def report (error : PatternError) (pattern : String) : String :=
  let cause := "error: " ++ error.fault.message
  if pattern.contains '\n' then
    let rule := String.ofList (List.replicate 79 '~') ++ "\n"
    let wide := error.spans.filter fun span => !isOneLine span
    let notes :=
      if wide.isEmpty then "" else String.intercalate "\n" (wide.map multiLineNote) ++ "\n"
    "regex parse error:\n" ++ rule ++ quoted error pattern ++ rule ++ notes ++ cause
  else
    "regex parse error:\n" ++ quoted error pattern ++ cause

end PatternError

end SchemaMatch
