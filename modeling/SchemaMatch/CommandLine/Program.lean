import SchemaMatch.Check.Engine
import SchemaMatch.CommandLine.Arguments
import SchemaMatch.CommandLine.Formats
import SchemaMatch.Log.Filter

/-!
Contract: the program as a function of its arguments, its files and their formats.

Owns:
- the stages of a run: configuration, data, schema, check; the first stage that fails ends it;
- the failure of each stage, with its message;
- what the program prints, and its exit code.

Documents hold no functions, so the check runs in a host that has none.

Does not own: reading real files and printing.
-/

namespace SchemaMatch.CommandLine

/-- Why a file cannot be read. -/
inductive FileError where
  | notFound
  | permissionDenied
  | notDirectory
  | isDirectory
  | nameTooLong
  | notText
  | other (text : String)
deriving DecidableEq, Repr

namespace FileError

def message : FileError → String
  | .notFound => "No such file or directory (os error 2)"
  | .permissionDenied => "Permission denied (os error 13)"
  | .notDirectory => "Not a directory (os error 20)"
  | .isDirectory => "Is a directory (os error 21)"
  | .nameTooLong => "File name too long (os error 36)"
  | .notText => "stream did not contain valid UTF-8"
  | .other text => text

end FileError

/-- The content of files by path. -/
abbrev Files := String → Except FileError String

/-- Why a run fails. -/
inductive Failure where
  | configFile (path : String) (cause : FileError)
  | config (path : String) (report : String)
  | file (path : String) (cause : FileError)
  | json (path : String) (report : String)
  | document (path : String) (cause : ConversionError)
  | mismatch (found : Mismatch)

namespace Failure

/-- What the failed stage was about. The mismatch of a check stands for itself. -/
def context : Failure → String
  | .configFile path _ => "failed to load config: " ++ path
  | .config path _ => "failed to load config: " ++ path
  | .file path _ => "failed to read " ++ path
  | .json path _ => "failed to parse " ++ path
  | .document path _ => "failed to decode " ++ path
  | .mismatch found => found.message

/-- The cause behind the context. -/
def cause? : Failure → Option String
  | .configFile _ cause => some cause.message
  | .config _ report => some report
  | .file _ cause => some cause.message
  | .json _ report => some report
  | .document _ cause => some cause.message
  | .mismatch _ => none

def message (failure : Failure) : String :=
  match failure.cause? with
  | some cause => failure.context ++ ": " ++ cause
  | none => failure.context

end Failure

/-! ## Stages -/

/-- The configuration file, if there is one. -/
def loadConfig (formats : Formats) (files : Files) : Option String → Except Failure Config
  | none => .ok {}
  | some path =>
      match files path with
      | .error cause => .error (.configFile path cause)
      | .ok text => (formats.config? text).mapError (.config path)

/-- The configuration under the arguments that override it. -/
def configure (formats : Formats) (files : Files) (arguments : Arguments) :
    Except Failure Config := do
  let config ← loadConfig formats files arguments.config
  return {
    check := ⟨arguments.allowExtraKeys.or config.check.allowExtraKeys⟩
    level := arguments.logLevel.getD config.level }

/-- The value of the extended document in a file. -/
def readDocument (formats : Formats) (files : Files) (path : String) : Except Failure Value := do
  let text ← (files path).mapError (.file path)
  let json ← (formats.json text).mapError (.json path)
  (Value.ofExtendedJson? json).mapError (.document path)

/-- A host without functions. -/
def noFunctions : Host Unit :=
  ⟨fun function _ _ state =>
    ⟨.error ⟨Value.functionText function ++ " is not a function"⟩, [], state⟩⟩

/-- Check the data file against the schema file. What happened up to the end is reported. -/
def check (formats : Formats) (files : Files) (arguments : Arguments) (config : Config) :
    List CheckEvent × Except Failure Unit :=
  let documents : Except Failure (Value × Value) := do
    let data ← readDocument formats files arguments.data
    let schema ← readDocument formats files arguments.schema
    return (data, schema)
  match documents with
  | .error failure => ([], .error failure)
  | .ok (data, schema) =>
      let (outcome, session) :=
        (Check.run noFunctions data schema config.check).run.run (⟨(), []⟩ : Session Unit)
      (session.events, outcome.mapError .mismatch)

/-- The record of the configuration that a run starts with. -/
def configRecord (config : Config) : LogRecord where
  level := .debug
  origin := "deepcheck::cli"
  message := "config: " ++ config.text
  fields := []

/-! ## Output -/

/-- What the program leaves behind: the texts on both channels and the exit code. -/
structure Outcome where
  exitCode : Nat
  output : String
  diagnostics : String
deriving DecidableEq, Repr

def versionText : String := "deepcheck 0.1.0\n"

def usageText : String :=
  "Usage: deepcheck [OPTIONS] --data <DATA> --schema <SCHEMA>\n"

def helpText : String :=
  "Check a JSON document against a deepcheck schema\n\n" ++ usageText ++ "\nOptions:\n" ++
    "      --data <DATA>\n          Document to check\n" ++
    "      --schema <SCHEMA>\n          Schema to check the document against\n" ++
    "      --config <CONFIG>\n          Path to a TOML configuration file\n" ++
    "      --allow-extra-keys <ALLOW_EXTRA_KEYS>\n          Reject object keys the schema " ++
    "does not declare, unless a schema node says otherwise. Overrides the configuration " ++
    "file [possible values: true, false]\n" ++
    "      --log-level <LOG_LEVEL>\n          Log level (trace, debug, info, warn, error). " ++
    "Overrides the configuration file; \x60RUST_LOG\x60 wins over both\n" ++
    "  -h, --help\n          Print help\n  -V, --version\n          Print version\n"

namespace UsageError

def message : UsageError → String
  | .helpRequested => helpText
  | .versionRequested => versionText
  | .missingRequired => "error: a required argument was not provided"
  | .invalidValue option => "error: invalid value for '--" ++ option.text ++ "'"
  | .unknownLevel cause => "error: " ++ cause.message
  | .unknownArgument argument => "error: unexpected argument '" ++ argument ++ "' found"
  | .repeatedOption option =>
      "error: the argument '--" ++ option.text ++ "' cannot be used multiple times"
  | .needlessValue argument => "error: no value expected for '--" ++ argument ++ "'"

/-- Requests are answered; every other usage error is a failure of its own kind. -/
def outcome (error : UsageError) : Outcome :=
  match error with
  | .helpRequested => ⟨0, helpText, ""⟩
  | .versionRequested => ⟨0, versionText, ""⟩
  | _ => ⟨2, "", error.message ++ "\n\n" ++ usageText⟩

end UsageError

/-- The filter of a run: the one from outside, if it is well formed, or the level of the
configuration. -/
def filter (outside : Option String) (config : Config) : LogFilter :=
  (outside.bind LogFilter.ofText?).getD (LogFilter.upTo config.level.verbosity)

/-- The lines of the records that are kept. -/
def logText (filter : LogFilter) (records : List LogRecord) : String :=
  String.join ((records.filter fun record => filter.keeps record).map fun record =>
    record.line ++ "\n")

/-- A whole run. `outside` is the filter that the environment asks for. -/
def run (formats : Formats) (files : Files) (outside : Option String) (arguments : List String) :
    Outcome :=
  match parse arguments with
  | .error error => error.outcome
  | .ok arguments =>
      match configure formats files arguments with
      | .error failure => ⟨1, "", failure.message ++ "\n"⟩
      | .ok config =>
          let (events, result) := check formats files arguments config
          let log := logText (filter outside config)
            (configRecord config :: events.map CheckEvent.toRecord)
          match result with
          | .ok () => ⟨0, "ok\n", log⟩
          | .error failure => ⟨1, "", log ++ failure.message ++ "\n"⟩

end SchemaMatch.CommandLine
