import SchemaMatch.Config
import SchemaMatch.Json.Reader
import SchemaMatch.Toml.Reader

/-!
Contract: the formats of the files that a run looks at.

Owns:
- the readers of the two formats, which a run takes as given, with their reports on texts that they
  refuse;
- the configuration that a text holds;
- the readers of this library as formats, up to the report on texts that hold no configuration.

Does not own: what documents mean.
-/

namespace SchemaMatch.CommandLine

/-- The readers of files. -/
structure Formats where
  /-- The TOML document that a text holds. -/
  toml : String → Option Toml.Entries
  /-- The report on a text that holds no TOML document, or none of a configuration. -/
  tomlReport : String → String
  /-- The JSON document that a text holds, or the report on the text. -/
  json : String → Except String Json

namespace Formats

/-- The configuration a text holds, or the report on the text. -/
def config? (formats : Formats) (text : String) : Except String Config :=
  match (formats.toml text).bind Config.ofToml? with
  | some config => .ok config
  | none => .error (formats.tomlReport text)

/-- The formats as the readers of this library read them. The reader of TOML gives no reports. -/
def standard (tomlReport : String → String) : Formats where
  toml := Toml.ofText?
  tomlReport := tomlReport
  json := fun text => (Json.ofText? text).mapError JsonError.message

end Formats

end SchemaMatch.CommandLine
