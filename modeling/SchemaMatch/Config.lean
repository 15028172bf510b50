import SchemaMatch.Log.Level
import SchemaMatch.Schema.OptionsText
import SchemaMatch.Toml.Basic

/-!
Contract: the configuration of the program.

Owns:
- the settings and their defaults;
- the reading of settings from a TOML document, where a setting has one value at most under its
  names: a group of settings is a table, whose foreign keys do not count, or an array of its
  settings in order, which may be short or too long;
- the text of the settings in the log.

Does not own: arguments, which override settings.
-/

namespace SchemaMatch

structure Config where
  check : Options := {}
  level : LogLevel := LogLevel.default
deriving DecidableEq, Repr

namespace Config

/-- The only value of a row, if there is one. Rows of several values are refused. -/
def only? {α : Type} : List α → Option (Option α)
  | [] => some none
  | [value] => some (some value)
  | _ => none

/-- The values of entries under some names. -/
def valuesUnder (names : List String) (entries : Toml.Entries) : List Toml :=
  (entries.filter fun entry => names.contains entry.1).map Prod.snd

/-- The value of the one setting in a group, if it has one. A date is a group without settings. -/
def settingIn? (names : List String) : Toml → Option (Option Toml)
  | .table _ entries => only? (valuesUnder names entries)
  | .array items => some items.head?
  | .tables elements => some (elements.head?.map (Toml.table .header))
  | .instant => some none
  | _ => none

/-- The value of the setting of a group, if both are there. -/
def setting? (group : String) (names : List String) (entries : Toml.Entries) :
    Option (Option Toml) := do
  match ← only? (valuesUnder [group] entries) with
  | some value => settingIn? names value
  | none => return none

def policy? : Toml → Option Bool
  | .bool value => some value
  | _ => none

/-- Whether a value that stands for the content of a level is empty. -/
def isEmptyContent : Toml → Bool
  | .array items => items.isEmpty
  | .table _ entries => entries.isEmpty
  | _ => false

/-- A level: its name, or a table whose only key is the name and has nothing under it. -/
def level? : Toml → Option LogLevel
  | .string name => LogLevel.ofName? name
  | .table _ [(name, content)] =>
      if isEmptyContent content then LogLevel.ofName? name else none
  | _ => none

/-- The policy for extra keys of a document, if it gives one. -/
def policyOf? (entries : Toml.Entries) : Option (Option Bool) := do
  (← setting? "check" Options.extraKeysNames entries).mapM policy?

/-- The level of a document, or the default. -/
def levelOf? (entries : Toml.Entries) : Option LogLevel := do
  return (← (← setting? "log" ["level"] entries).mapM level?).getD LogLevel.default

/-- The configuration of a document. -/
def ofToml? (entries : Toml.Entries) : Option Config := do
  return ⟨⟨← policyOf? entries⟩, ← levelOf? entries⟩

/-! ## Text in the log -/

def levelText : LogLevel → String
  | .trace => "Trace"
  | .debug => "Debug"
  | .info => "Info"
  | .warn => "Warn"
  | .error => "Error"

def settingText : Option Bool → String
  | none => "None"
  | some true => "Some(true)"
  | some false => "Some(false)"

def text (config : Config) : String :=
  "Config \x7b check: Options \x7b allow_extra_keys: " ++
    settingText config.check.allowExtraKeys ++ " \x7d, log: LogConfig \x7b level: " ++
    levelText config.level ++ " \x7d \x7d"

end Config

end SchemaMatch
