import SchemaMatch.Json.Basic
import SchemaMatch.Log.Level

/-!
Contract: records of the log and their lines.

Owns:
- a record, with its origin, which filters ask for;
- the line of a record, in which no character can steer a terminal.

Does not own: when records are written.
-/

namespace SchemaMatch

/-- A record of the log: level, message and named texts. `origin` is the part of the program
that wrote it. -/
structure LogRecord where
  level : LogLevel
  origin : String
  message : String
  fields : List (String × String)
deriving DecidableEq, Repr

namespace LogRecord

/-- A character of a message. Those that start or end control sequences are spelled out. -/
def shown (character : Char) : List Char :=
  match character with
  | '\x1B' => "\\x1b".toList
  | '\x07' => "\\x07".toList
  | '\x08' => "\\x08".toList
  | '\x0C' => "\\x0c".toList
  | '\x7F' => "\\x7f".toList
  | _ =>
      if 0x80 ≤ character.toNat ∧ character.toNat ≤ 0x9F then
        "\\u\x7b".toList ++
          [Json.hexDigit (character.toNat / 16), Json.hexDigit (character.toNat % 16), '}']
      else [character]

/-- Level, message and fields, with a blank between them. -/
def line (record : LogRecord) : String :=
  let level := String.ofList (record.level.name.toList.map Char.toUpper)
  let message := String.ofList (record.message.toList.flatMap shown)
  let fields := record.fields.map fun field => " " ++ field.1 ++ "=" ++ field.2
  level ++ " " ++ message ++ String.join fields

end LogRecord

end SchemaMatch
