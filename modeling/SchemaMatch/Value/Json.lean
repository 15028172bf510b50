import SchemaMatch.Json.Basic
import SchemaMatch.Timestamp.Rfc3339
import SchemaMatch.Value.Basic

/-!
Contract: values and JSON documents.

Owns:
- the plain conversion of documents, which every document has;
- the conversion of extended documents, where an object whose only key is `$date` or
  `$regularExpression` stands for a date or a regex;
- the rendering of values as documents, which fails on callables and numbers without text;
- the causes of failure and their wording.

Does not own: the text of documents.
-/

namespace SchemaMatch

/-- Why a conversion between values and documents fails. -/
inductive ConversionError where
  /-- A number that no document can hold. -/
  | invalidFloat (value : Binary64)
  | unsupportedType (typeName : String)
  /-- A text under `$date` that is no instant. -/
  | dateText (text : String) (cause : Rfc3339Error)
  /-- Another payload of `$date` that is no instant. -/
  | datePayload (payload : Json)
  | patternMissing (payload : Json)
  | patternOption (option : Char)
  /-- A pattern that does not compile, with the report. -/
  | patternSyntax (report : String)

namespace ConversionError

def message : ConversionError → String
  | .invalidFloat value =>
      "Invalid float value: " ++ value.render .plain ++ " cannot be represented in JSON"
  | .unsupportedType typeName => "Unsupported type for conversion: " ++ typeName
  | .dateText text cause => "Invalid $date value: " ++ text ++ ": " ++ cause.message
  | .datePayload payload => "Invalid $date value: " ++ payload.render
  | .patternMissing payload =>
      "Invalid $regularExpression value: missing pattern: " ++ payload.render
  | .patternOption option =>
      "Invalid $regularExpression value: unsupported option '" ++ option.toString ++ "'"
  | .patternSyntax report => "Invalid $regularExpression value: " ++ report

end ConversionError

namespace Value

mutual

/-- The value of a document, structure by structure. -/
def ofJson : Json → Value
  | .null => .null
  | .bool value => .bool value
  | .number value => .number value.toBinary64
  | .string value => .string value
  | .array items => .array (ofJsonItems items)
  | .object fields => ofPairs (ofJsonFields fields)

def ofJsonItems : List Json → List Value
  | [] => []
  | item :: rest => ofJson item :: ofJsonItems rest

def ofJsonFields : List (String × Json) → List (String × Value)
  | [] => []
  | (key, value) :: rest => (key, ofJson value) :: ofJsonFields rest

end

/-! ## Extended documents -/

/-- The milliseconds that a payload of `$date` gives: a whole number, or such a number as a text
under `$numberLong`. -/
def millisOfJson? : Json → Option Int
  | .number amount => amount.toInt64?
  | payload => ((payload.member? "$numberLong").bind Json.string?).bind Numeral.int64?

/-- The instant a payload of `$date` denotes, from a date text or from milliseconds. -/
def dateOfJson? : Json → Except ConversionError Timestamp
  | .string text => (Timestamp.Rfc3339.ofText? text).mapError fun cause => .dateText text cause
  | payload =>
      match (millisOfJson? payload).bind Timestamp.ofMillis? with
      | some instant => .ok instant
      | none => .error (.datePayload payload)

/-- The flags that option letters stand for. Patterns are always Unicode patterns, so `u`
asks for nothing. -/
def patternFlags? : List Char → Except ConversionError (List Char)
  | [] => .ok []
  | option :: rest =>
      if option = 'i' ∨ option = 'm' ∨ option = 's' ∨ option = 'x' then do
        return option :: (← patternFlags? rest)
      else if option = 'u' then patternFlags? rest
      else .error (.patternOption option)

/-- The source of a pattern under flags. -/
def flaggedSource (flags : List Char) (pattern : String) : String :=
  if flags.isEmpty then pattern else "(?" ++ String.ofList flags ++ ")" ++ pattern

def regexOfJson? (payload : Json) : Except ConversionError Pattern :=
  match (payload.member? "pattern").bind Json.string? with
  | none => .error (.patternMissing payload)
  | some pattern => do
      let options := ((payload.member? "options").bind Json.string?).getD ""
      let flags ← patternFlags? options.toList
      (Pattern.compile (flaggedSource flags pattern)).mapError .patternSyntax

/-- A date or regex in the place of an object that is nothing but its wrapper. -/
def wrapped? : List (String × Json) → Option (Except ConversionError Value)
  | [("$date", payload)] => some ((dateOfJson? payload).map .date)
  | [("$regularExpression", payload)] => some ((regexOfJson? payload).map .regex)
  | _ => none

mutual

/-- The value of an extended document. The first wrapper with a bad payload decides the
error. -/
def ofExtendedJson? : Json → Except ConversionError Value
  | .array items => return .array (← ofExtendedItems? items)
  | .object fields =>
      match wrapped? fields with
      | some result => result
      | none => return ofPairs (← ofExtendedFields? fields)
  | .null => .ok .null
  | .bool value => .ok (.bool value)
  | .number value => .ok (.number value.toBinary64)
  | .string value => .ok (.string value)

def ofExtendedItems? : List Json → Except ConversionError (List Value)
  | [] => .ok []
  | item :: rest => do
      let value ← ofExtendedJson? item
      return value :: (← ofExtendedItems? rest)

def ofExtendedFields? : List (String × Json) → Except ConversionError (List (String × Value))
  | [] => .ok []
  | (key, field) :: rest => do
      let value ← ofExtendedJson? field
      return (key, value) :: (← ofExtendedFields? rest)

end

/-! ## Rendering -/

/-- Whole numbers below `2 ^ 53` in magnitude are written as integers, so they have no
fraction in the text. -/
def numberToJson? (number : Binary64) : Except ConversionError JsonNumber :=
  match number.toInt? with
  | some value =>
      if value.natAbs < 2 ^ 53 then .ok (.integer value) else .ok (.double number)
  | none => if number.isFinite then .ok (.double number) else .error (.invalidFloat number)

mutual

/-- The document of a value. Undefined fields are left out, other undefined values become
null, dates become texts and regexes empty objects. -/
def toJson? : Value → Except ConversionError Json
  | .undefined => .ok .null
  | .null => .ok .null
  | .bool value => .ok (.bool value)
  | .number value => return .number (← numberToJson? value)
  | .string value => .ok (.string value)
  | .date value => .ok (.string value.isoText)
  | .regex _ => .ok (.object [])
  | .array items => return .array (← toJsonItems? items)
  | .object _ fields => return .object (Fields.ofPairs (← toJsonFields? fields))
  | .function _ => .error (.unsupportedType "function")
  | .classTag _ => .error (.unsupportedType "class")

def toJsonItems? : List Value → Except ConversionError (List Json)
  | [] => .ok []
  | item :: rest => do
      let json ← toJson? item
      return json :: (← toJsonItems? rest)

def toJsonFields? : List (String × Value) → Except ConversionError (List (String × Json))
  | [] => .ok []
  | (_, .undefined) :: rest => toJsonFields? rest
  | (key, value) :: rest => do
      let json ← toJson? value
      return (key, json) :: (← toJsonFields? rest)

end

end Value

end SchemaMatch
