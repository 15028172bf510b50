import SchemaMatch.Log.Record
import SchemaMatch.Number.Reader
import SchemaMatch.Pattern.Basic
import SchemaMatch.Text.Blank
import SchemaMatch.Text.WordCharacter

/-!
Contract: which records a program keeps.

Owns:
- filters, lists of directives separated by commas;
- a directive: an origin, a span with fields, a threshold; each part may be missing;
- the choice of the directive that decides about a record: the most specific one that applies.

The program has no spans, so a directive that asks for a span keeps nothing. One that asks for
fields only still applies to records that have those fields.

Does not own: where the text of a filter comes from.
-/

namespace SchemaMatch

/-- A condition on a field of a span: its name, and whether it asks for a value. -/
structure FieldCondition where
  name : String
  hasValue : Bool
deriving DecidableEq, Repr

/-- One directive. The threshold is the verbosity up to which records are kept. -/
structure Directive where
  threshold : Nat
  origin : Option String
  span : Option String
  fields : List FieldCondition
deriving DecidableEq, Repr

/-- The part of a directive that applies without spans. -/
structure OriginRule where
  origin : Option String
  fieldNames : List String
  threshold : Nat
deriving DecidableEq, Repr

/-- Rules without an order of their own. -/
structure LogFilter where
  rules : List OriginRule
deriving DecidableEq, Repr

namespace Directive

/-! ## Reading -/

/-- A threshold by number or by name, in any mixture of cases. The empty name is that of
errors. -/
def threshold? (text : String) : Option Nat :=
  match Numeral.natBelow? (2 ^ 64) text with
  | some number => if number ≤ 5 then some number else none
  | none =>
      let name := String.ofList (text.toList.map Char.toLower)
      if name = "" then some 1
      else if name = "off" then some 0
      else (LogLevel.ofName? name).map LogLevel.verbosity

/-- How far the reading of a directive has come. A number is where the part that is being
read started. -/
inductive Progress where
  | start
  | levelOrOrigin (first : Nat)
  | span (first : Nat)
  | field (first : Nat)
  | fields
  | afterSpan
  | level (first : Nat)

/-- A directive in the making, and the position of the next character. -/
structure Draft where
  directive : Directive
  progress : Progress
  position : Nat

/-- The characters of a text from one position up to another. -/
def cut (text : List Char) (first stop : Nat) : String :=
  String.ofList ((text.take stop).drop first)

/-- What a value of a field may be: a truth value, a number, or a pattern. -/
def isFieldValue (value : String) : Bool :=
  value == "true" || value == "false" || (Numeral.number? value).isSome ||
    match Pattern.compile value with
    | .ok _ => true
    | .error _ => false

/-- A condition, with an optional value behind an equals sign. -/
def fieldCondition? (condition : String) : Option FieldCondition :=
  if condition.isEmpty then none
  else
    match condition.splitOn "=" with
    | name :: value :: _ => if isFieldValue value then some ⟨name, true⟩ else none
    | name :: [] => some ⟨name, false⟩
    | [] => none

/-- A directive starts with a word. -/
def startsWord (character : Char) : Bool :=
  Text.isWordCharacter character || character == '-' || character == ':' || character == '_'

/-- What one more character makes of a draft of a directive. -/
def Draft.read? (text : List Char) (draft : Draft) (character : Char) : Option Draft :=
  let directive := draft.directive
  let here := draft.position
  let goOn (directive : Directive) (progress : Progress) : Option Draft :=
    some ⟨directive, progress, here + 1⟩
  match draft.progress with
  | .start =>
      if character = '[' then goOn directive (.span (here + 1))
      else if startsWord character then goOn directive (.levelOrOrigin here)
      else none
  | .levelOrOrigin first =>
      let named := { directive with origin := some (cut text first here) }
      if character = '=' then goOn named (.level (here + 1))
      else if character = '[' then goOn named (.span (here + 1))
      else goOn directive (.levelOrOrigin first)
  | .span first =>
      let name := cut text first here
      if character = ']' then goOn { directive with span := some name } .afterSpan
      else if character = '{' then
        let span := if name.isEmpty then none else some name
        goOn { directive with span := span } (.field (here + 1))
      else goOn directive (.span first)
  | .field first =>
      if character = '}' then do
        let condition ← fieldCondition? (cut text first here)
        goOn { directive with fields := directive.fields ++ [condition] } .fields
      else goOn directive (.field first)
  | .fields => if character = ']' then goOn directive .afterSpan else none
  | .afterSpan => if character = '=' then goOn directive (.level (here + 1)) else none
  | .level first => goOn directive (.level first)

/-- The directive of a draft whose text is at its end. A word that names no threshold is an
origin. -/
def Draft.finish? (text : List Char) (draft : Draft) : Option Directive :=
  match draft.progress with
  | .levelOrOrigin first =>
      let word := cut text first text.length
      match threshold? word with
      | some threshold => some { draft.directive with threshold := threshold }
      | none => some { draft.directive with origin := some word }
  | .level first =>
      let name := cut text first text.length
      if name.isEmpty then some draft.directive
      else (threshold? name).map fun threshold =>
        { draft.directive with threshold := threshold }
  | .afterSpan => some draft.directive
  | _ => none

/-- A directive without any part. It keeps everything. -/
def everything : Directive := ⟨5, none, none, []⟩

/-- The text without the blanks around it. -/
def trimmed (text : List Char) : List Char :=
  ((text.dropWhile Text.isBlank).reverse.dropWhile Text.isBlank).reverse

/-- The directive a text holds. Blanks around it are stepped over when parts are told apart,
but positions count from the first character that is read and cut the text as it stands, so
blanks become part of the words they shift or end. -/
def ofText? (text : String) : Option Directive := do
  let characters := text.toList
  let draft ← (trimmed characters).foldlM (Draft.read? characters) ⟨everything, .start, 0⟩
  draft.finish? characters

/-! ## Meaning -/

/-- What is left of a directive where there are no spans. -/
def originRule? (directive : Directive) : Option OriginRule :=
  if directive.span.isSome || directive.fields.any FieldCondition.hasValue then none
  else some ⟨directive.origin, directive.fields.map FieldCondition.name, directive.threshold⟩

end Directive

namespace OriginRule

/-- Whether a rule applies to a record. -/
def applies (rule : OriginRule) (record : LogRecord) : Bool :=
  rule.origin.all (fun origin => origin.isPrefixOf record.origin) &&
    rule.fieldNames.all fun name =>
      name == "message" || (Fields.keys record.fields).contains name

/-- How specific a rule is: by the length of its origin, then by the number of its fields, and
last by their texts. -/
def rank (rule : OriginRule) : Nat × Nat × Option String × List String :=
  let size := match rule.origin with
    | some origin => origin.utf8ByteSize + 1
    | none => 0
  (size, rule.fieldNames.length, rule.origin, rule.fieldNames)

def textPrecedes (left right : Option String) : Bool :=
  match left, right with
  | none, some _ => true
  | some left, some right => left < right
  | _, none => false

/-- Whether a rule is less specific than another. -/
def precedes (left right : OriginRule) : Bool :=
  let (leftSize, leftCount, leftOrigin, leftNames) := left.rank
  let (rightSize, rightCount, rightOrigin, rightNames) := right.rank
  if leftSize ≠ rightSize then leftSize < rightSize
  else if leftCount ≠ rightCount then leftCount < rightCount
  else if leftOrigin ≠ rightOrigin then textPrecedes leftOrigin rightOrigin
  else leftNames < rightNames

/-- The rule that decides, given the best one so far. Of equally specific rules the later one
wins. -/
def better (best : Option OriginRule) (rule : OriginRule) : Option OriginRule :=
  match best with
  | none => some rule
  | some best => if precedes rule best then some best else some rule

end OriginRule

namespace LogFilter

/-- Keeps records up to a threshold. -/
def upTo (threshold : Nat) : LogFilter := ⟨[⟨none, [], threshold⟩]⟩

/-- The filter that directives make. Without any, only errors are kept. -/
def ofDirectives (directives : List Directive) : LogFilter :=
  if directives.isEmpty then upTo LogLevel.error.verbosity
  else ⟨directives.filterMap Directive.originRule?⟩

/-- Directives between commas. Empty ones do not count. -/
def ofText? (text : String) : Option LogFilter := do
  let parts := (text.splitOn ",").filter fun part => !part.isEmpty
  return ofDirectives (← parts.mapM Directive.ofText?)

/-- Whether a record is kept. -/
def keeps (filter : LogFilter) (record : LogRecord) : Bool :=
  match (filter.rules.filter fun rule => rule.applies record).foldl OriginRule.better none with
  | some rule => record.level.verbosity ≤ rule.threshold
  | none => false

end LogFilter

end SchemaMatch
