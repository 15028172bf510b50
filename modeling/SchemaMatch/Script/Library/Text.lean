import SchemaMatch.Number.Reader
import SchemaMatch.Script.Library.Answer
import SchemaMatch.Script.Operators
import SchemaMatch.Script.Size
import SchemaMatch.Text.Blank
import SchemaMatch.Text.LetterCase

/-!
Contract: the functions of scripts on strings and characters.

Owns:
- length, case, search, cutting, splitting and filling;
- numbers read from strings, with the faults of malformed ones.

Places count characters.

Does not own: operators and indexing.
-/

namespace SchemaMatch.Script.Library.Text

open SchemaMatch.Text (isBlank words toUpper toLower)

def text (characters : List Char) : ScriptValue := .string (String.ofList characters)

/-- A character or string as a row of characters. -/
def pattern? : ScriptValue → Option (List Char)
  | .string value => some value.toList
  | .char value => some [value]
  | _ => none

def trimStart (characters : List Char) : List Char := characters.dropWhile isBlank

def trimBoth (characters : List Char) : List Char :=
  (trimStart (trimStart characters).reverse).reverse

/-- Where a row of characters first occurs in another. -/
def indexOf? (pattern : List Char) : List Char → Option Nat
  | [] => if pattern.isEmpty then some 0 else none
  | first :: rest =>
      if pattern.isPrefixOf (first :: rest) then some 0
      else (indexOf? pattern rest).map (· + 1)

/-- The place of a pattern from a start on, or −1. -/
def indexFrom (characters pattern : List Char) (start : Int) : ScriptValue :=
  let length := characters.length
  let offset := offset length start
  if length ≤ offset then .int (-1)
  else
    match indexOf? pattern (characters.drop offset) with
    | some place => .int (place + offset)
    | none => .int (-1)

/-- The parts between separators, at most as many as given. An empty separator stands between
all characters and at both ends. -/
def splitAll (separator : List Char) : Nat → Nat → List Char → List Char → List (List Char)
  | 0, _, part, rest => [part.reverse ++ rest]
  | _, 0, part, rest => [part.reverse ++ rest]
  | _ + 1, 1, part, rest => [part.reverse ++ rest]
  | fuel + 1, limit + 2, part, rest =>
      match rest with
      | [] => [part.reverse]
      | next :: after =>
          if separator.isPrefixOf rest then
            part.reverse :: splitAll separator fuel (limit + 1) [] (rest.drop separator.length)
          else splitAll separator fuel (limit + 2) (next :: part) after

def split (characters separator : List Char) (limit : Nat) : List (List Char) :=
  if separator.isEmpty then
    let parts := [] :: characters.map (fun character => [character]) ++ [[]]
    if parts.length ≤ limit then parts
    else if limit = 0 then []
    else parts.take (limit - 1) ++ [(parts.drop (limit - 1)).flatten]
  else if limit = 0 then []
  else splitAll separator (characters.length + 1) limit [] characters

def splitReverse (characters separator : List Char) (limit : Nat) : List (List Char) :=
  (split characters.reverse separator.reverse limit).map List.reverse

def array (parts : List (List Char)) : ScriptValue := .array (parts.map text)

/-- The occurrences of a pattern replaced. -/
def replaceAll (pattern replacement : List Char) : Nat → List Char → List Char
  | 0, characters => characters
  | fuel + 1, characters =>
      if pattern.isPrefixOf characters then
        match pattern, characters with
        | [], [] => replacement
        | [], first :: rest => replacement ++ first :: replaceAll pattern replacement fuel rest
        | _, _ =>
            replacement ++
              replaceAll pattern replacement fuel (characters.drop pattern.length)
      else
        match characters with
        | [] => []
        | first :: rest => first :: replaceAll pattern replacement fuel rest

/-- In an empty text there is nothing to replace, not even an empty pattern. -/
def replace (characters pattern replacement : List Char) : List Char :=
  if characters.isEmpty then []
  else replaceAll pattern replacement (characters.length + 1) characters

def subText (characters : List Char) (start count : Int) : List Char :=
  if count ≤ 0 then []
  else
    let (offset, count) := clip characters.length start count
    (characters.drop offset).take count

/-! ## Numbers -/

/-- A digit of a numeral to a base up to 36. -/
def digit? (base : Nat) (character : Char) : Option Nat :=
  let value :=
    if character.isDigit then some (character.toNat - '0'.toNat)
    else if character.isAlpha then some (character.toLower.toNat - 'a'.toNat + 10)
    else none
  value.filter (· < base)

def integerFault (source reason : String) : FaultCause :=
  .arithmetic ("Error parsing integer number '" ++ source ++ "': " ++ reason)

/-- An integer to a base, without blanks at its ends. -/
def parseInteger (base : Nat) (source : String) : Except FaultCause ScriptValue :=
  let characters := trimBoth source.toList
  let (negative, digits) : Bool × List Char := match characters with
    | '-' :: rest => (true, rest)
    | '+' :: rest => (false, rest)
    | _ => (false, characters)
  if characters.isEmpty then
    .error (integerFault source "cannot parse integer from empty string")
  else if digits.isEmpty then .error (integerFault source "invalid digit found in string")
  else
    match digits.foldlM (fun total next => do return total * base + (← digit? base next)) 0 with
    | none => .error (integerFault source "invalid digit found in string")
    | some magnitude =>
        let value : Int := if negative then -(magnitude : Int) else magnitude
        if 2 ^ 63 ≤ value then
          .error (integerFault source "number too large to fit in target type")
        else if value < -(2 ^ 63) then
          .error (integerFault source "number too small to fit in target type")
        else .ok (.int value)

def parseFloat (source : String) : Except FaultCause ScriptValue :=
  let trimmed := String.ofList (trimBoth source.toList)
  let fault (reason : String) : FaultCause :=
    .arithmetic ("Error parsing floating-point number '" ++ source ++ "': " ++ reason)
  match Numeral.number? trimmed with
  | some value => .ok (.float value)
  | none =>
      .error (fault (if trimmed.isEmpty then "cannot parse float from empty string"
        else "invalid float literal"))

/-! ## Functions -/

/-- The part of a string that arguments name by a start and a length, or by a range. -/
def namedPart? (characters : List Char) : List ScriptValue → Option (List Char)
  | [.int start] => some (subText characters start characters.length)
  | [.int start, .int count] => some (subText characters start count)
  | [range] => (span? range).map fun (start, count) => subText characters start count
  | _ => none

/-- Both parts of a string around a place. A negative place counts from the end. -/
def splitAt (characters : List Char) (place : Int) : ScriptValue :=
  let offset := offset characters.length place
  array [characters.take offset, characters.drop offset]

/-- A string filled up to a length. -/
def padded (characters filler : List Char) (length : Int) : List Char :=
  let missing := length.toNat - characters.length
  if missing = 0 || filler.isEmpty then characters
  else
    let copies := (missing + filler.length - 1) / filler.length
    characters ++ ((List.replicate copies filler).flatten).take missing

/-- The last characters cut off a string. -/
def popped (characters : List Char) (count : Int) : Outcome :=
  if count ≤ 0 then becomes (text characters) (text [])
  else
    let kept := characters.length - count.toNat
    becomes (text (characters.take kept)) (text (characters.drop kept))

def functions (value : String) : Functions :=
  let characters := value.toList
  let self : ScriptValue := .string value
  [ ("len", fun
      | [] => gives (.int characters.length)
      | _ => none),
    ("bytes", fun
      | [] => gives (.int value.utf8ByteSize)
      | _ => none),
    ("is_empty", fun
      | [] => gives (.bool characters.isEmpty)
      | _ => none),
    ("chars", fun
      | [] => gives (.stream .characters (characters.map .char))
      | [.int start] =>
          gives (.stream .characters ((subText characters start characters.length).map .char))
      | [.int start, .int count] =>
          gives (.stream .characters ((subText characters start count).map .char))
      | [range] =>
          match span? range with
          | some (start, count) =>
              gives (.stream .characters ((subText characters start count).map .char))
          | none => none
      | _ => none),
    ("contains", fun
      | [argument] =>
          match pattern? argument with
          | some pattern => gives (.bool (indexOf? pattern characters).isSome)
          | none => none
      | _ => none),
    ("starts_with", fun
      | [.string start] => gives (.bool (start.toList.isPrefixOf characters))
      | _ => none),
    ("ends_with", fun
      | [.string ending] => gives (.bool (ending.toList.isSuffixOf characters))
      | _ => none),
    ("to_upper", fun
      | [] => gives (.string (toUpper value))
      | _ => none),
    ("to_lower", fun
      | [] => gives (.string (toLower value))
      | _ => none),
    ("make_upper", fun
      | [] => becomes (.string (toUpper value)) .unit
      | _ => none),
    ("make_lower", fun
      | [] => becomes (.string (toLower value)) .unit
      | _ => none),
    ("trim", fun
      | [] => becomes (text (trimBoth characters)) .unit
      | _ => none),
    ("clear", fun
      | [] => becomes (.string "") .unit
      | _ => none),
    ("truncate", fun
      | [.int length] => becomes (text (characters.take length.toNat)) .unit
      | _ => none),
    ("pop", fun
      | [] =>
          match characters.getLast? with
          | some last => becomes (text characters.dropLast) (.char last)
          | none => becomes self .unit
      | [.int count] => popped characters count
      | _ => none),
    ("append", fun
      | [argument] => becomes (.string (value ++ Operators.appended argument)) .unit
      | _ => none),
    ("remove", fun
      | [argument] =>
          match pattern? argument with
          | some pattern =>
              becomes (text (if pattern.isEmpty then characters
                else replace characters pattern [])) .unit
          | none => none
      | _ => none),
    ("replace", fun
      | [found, replacement] =>
          match pattern? found, pattern? replacement with
          | some found, some replacement =>
              becomes (text (replace characters found replacement)) .unit
          | _, _ => none
      | _ => none),
    ("index_of", fun
      | [argument] =>
          match pattern? argument with
          | some pattern => gives (indexFrom characters pattern 0)
          | none => none
      | [argument, .int start] =>
          match pattern? argument with
          | some pattern => gives (indexFrom characters pattern start)
          | none => none
      | _ => none),
    ("sub_string", fun arguments =>
      match namedPart? characters arguments with
      | some part => gives (text part)
      | none => none),
    ("crop", fun arguments =>
      match namedPart? characters arguments with
      | some part => becomes (text part) .unit
      | none => none),
    ("split", fun
      | [] => gives (array (words characters))
      | [.int place] => gives (splitAt characters place)
      | [argument] =>
          match pattern? argument with
          | some separator =>
              gives (array (split characters separator (characters.length + 2)))
          | none => none
      | [argument, .int limit] =>
          match pattern? argument with
          | some separator => gives (array (split characters separator (max limit 1).toNat))
          | none => none
      | _ => none),
    ("split_rev", fun
      | [argument] =>
          match pattern? argument with
          | some separator =>
              gives (array (splitReverse characters separator (characters.length + 2)))
          | none => none
      | [argument, .int limit] =>
          match pattern? argument with
          | some separator =>
              gives (array (splitReverse characters separator (max limit 1).toNat))
          | none => none
      | _ => none),
    ("pad", fun
      | [.int length, argument] =>
          match pattern? argument with
          | some filler =>
              if DataSize.byteLimit < length then fails (.tooLarge "Length of string")
              else becomes (text (padded characters filler length)) .unit
          | none => none
      | _ => none),
    ("get", fun
      | [.int index] =>
          match place? characters.length index with
          | some place => gives ((characters[place]?.map .char).getD .unit)
          | none => gives .unit
      | _ => none),
    ("set", fun
      | [.int index, .char character] =>
          match place? characters.length index with
          | some place => becomes (text (characters.set place character)) .unit
          | none => becomes self .unit
      | _ => none),
    ("parse_int", fun
      | [] => settles (parseInteger 10 value)
      | [.int base] =>
          if 2 ≤ base ∧ base ≤ 36 then settles (parseInteger base.toNat value)
          else fails (.arithmetic ("Invalid radix: '" ++ toString base ++ "'"))
      | _ => none),
    ("parse_float", fun
      | [] => settles (parseFloat value)
      | _ => none),
    ("to_chars", fun
      | [] => gives (.array (characters.map .char))
      | _ => none),
    ("to_blob", fun
      | [] => gives (.blob value.toUTF8.toList)
      | _ => none),
    ("to_string", fun
      | [] => gives self
      | _ => none),
    ("max", fun
      | [.string other] => gives (if value < other then .string other else self)
      | _ => none),
    ("min", fun
      | [.string other] => gives (if value < other then self else .string other)
      | _ => none) ]

/-- A case map of a character, unless that is more than one character. -/
def single (value : Char) (mapped : String) : ScriptValue :=
  match mapped.toList with
  | [character] => .char character
  | _ => .char value

def characterFunctions (value : Char) : Functions :=
  [ ("to_upper", fun
      | [] => gives (single value (toUpper value.toString))
      | _ => none),
    ("to_lower", fun
      | [] => gives (single value (toLower value.toString))
      | _ => none),
    ("make_upper", fun
      | [] => becomes (single value (toUpper value.toString)) .unit
      | _ => none),
    ("make_lower", fun
      | [] => becomes (single value (toLower value.toString)) .unit
      | _ => none),
    ("max", fun
      | [.char other] => gives (.char (if value < other then other else value))
      | _ => none),
    ("min", fun
      | [.char other] => gives (.char (if value < other then value else other))
      | _ => none),
    ("to_int", fun
      | [] => gives (.int value.toNat)
      | _ => none) ]

end SchemaMatch.Script.Library.Text
