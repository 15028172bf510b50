import SchemaMatch.CommandLine.Program
import SchemaMatch.Proofs.Check.PlainData
import SchemaMatch.Proofs.CommandLine.Configuration
import SchemaMatch.Proofs.Value.Wrapper

/-!
Contract: a run of the program and the library.

Owns:
- what it means that a configuration or a document is loaded, or refused with a failure;
- the stage at which a run fails, and what the stages up to one look at;
- `CommandLine.run_agrees`: a run succeeds if all is loaded and the check of the library passes,
  and otherwise reports the failure of the first stage that fails.

A run takes the formats of its files as given, with their reports on texts that they refuse.

Does not own: what the document of a configuration says.
-/

namespace SchemaMatch.CommandLine

variable {σ : Type}

/-! ## Loading -/

/-- A configuration is loaded: from the document in a file, or without one from the defaults. -/
inductive ConfigLoads (formats : Formats) (files : Files) : Option String → Config → Prop where
  | defaults : ConfigLoads formats files none {}
  | file {path text : String} {entries : Toml.Entries} {config : Config}
      (content : files path = .ok text) (isToml : formats.toml text = some entries)
      (policy : Toml.GivesPolicy entries config.check.allowExtraKeys)
      (level : Toml.GivesLevel entries config.level) :
      ConfigLoads formats files (some path) config

/-- A file of a configuration is refused: it cannot be read, or holds none. -/
inductive ConfigRefused (formats : Formats) (files : Files) : Option String → Failure → Prop where
  | unread {path : String} {cause : FileError} (noContent : files path = .error cause) :
      ConfigRefused formats files (some path) (.configFile path cause)
  | unparsed {path text : String} (content : files path = .ok text)
      (noConfig : ∀ config, ¬ ConfigLoads formats files (some path) config) :
      ConfigRefused formats files (some path) (.config path (formats.tomlReport text))

/-- A file is loaded: its content is the text of a document, and that of a value. -/
inductive Loads (formats : Formats) (files : Files) (path : String) (value : Value) : Prop where
  | intro (text : String) (document : Json) (content : files path = .ok text)
      (isDocument : formats.json text = .ok document)
      (isValue : Value.ofExtendedJson? document = .ok value)

/-- A file is refused: it cannot be read, parsed or decoded. -/
inductive Refused (formats : Formats) (files : Files) (path : String) : Failure → Prop where
  | unread {cause : FileError} (noContent : files path = .error cause) :
      Refused formats files path (.file path cause)
  | unparsed {text report : String} (content : files path = .ok text)
      (noDocument : formats.json text = .error report) :
      Refused formats files path (.json path report)
  | undecoded {text : String} {document : Json} {cause : ConversionError}
      (content : files path = .ok text) (isDocument : formats.json text = .ok document)
      (noValue : Value.ofExtendedJson? document = .error cause) :
      Refused formats files path (.document path cause)

section Loading

variable {formats : Formats} {files : Files} {failure : Failure}

/-- A file with a content is loaded as the configuration that the content holds. -/
theorem configLoads_file_iff {path text : String} {config : Config}
    (content : files path = .ok text) :
    ConfigLoads formats files (some path) config ↔ formats.config? text = .ok config := by
  rw [Formats.config?_eq_ok_iff]
  constructor
  · intro loads
    cases loads with
    | @file _ _ entries _ isContent isToml policy level =>
        obtain rfl := Except.ok.inj (content.symm.trans isContent)
        exact ⟨entries, isToml, policy, level⟩
  · rintro ⟨entries, isToml, policy, level⟩
    exact .file content isToml policy level

theorem loadConfig_eq_ok_iff {path : Option String} {config : Config} :
    loadConfig formats files path = .ok config ↔ ConfigLoads formats files path config := by
  constructor
  · intro loaded
    cases path with
    | none =>
        cases loaded
        exact .defaults
    | some path =>
        rw [loadConfig] at loaded
        split at loaded
        next => cases loaded
        next text content =>
          exact (configLoads_file_iff content).mpr (mapError_eq_ok_iff.mp loaded)
  · intro loads
    cases loads with
    | defaults => rfl
    | file content isToml policy level =>
        rw [loadConfig, content]
        exact mapError_eq_ok_iff.mpr
          ((configLoads_file_iff content).mp (.file content isToml policy level))

theorem loadConfig_eq_error_iff {path : Option String} :
    loadConfig formats files path = .error failure ↔ ConfigRefused formats files path failure := by
  constructor
  · intro refused
    cases path with
    | none => cases refused
    | some path =>
        rw [loadConfig] at refused
        split at refused
        next cause noContent =>
          cases refused
          exact .unread noContent
        next text content =>
          obtain ⟨report, reported, rfl⟩ := mapError_eq_error_iff.mp refused
          obtain ⟨rfl, noConfig⟩ := Formats.config?_eq_error_iff.mp reported
          exact .unparsed content fun config loads =>
            noConfig config ((configLoads_file_iff content).mp loads)
  · rintro (noContent | ⟨content, noConfig⟩)
    · rw [loadConfig, noContent]
    · have refused := Formats.config?_eq_error_iff.mpr ⟨rfl, fun config isConfig =>
        noConfig config ((configLoads_file_iff content).mpr isConfig)⟩
      rw [loadConfig, content]
      exact mapError_eq_error_iff.mpr ⟨_, refused, rfl⟩

theorem readDocument_eq_ok_iff {path : String} {value : Value} :
    readDocument formats files path = .ok value ↔ Loads formats files path value := by
  constructor
  · intro loaded
    obtain ⟨text, content, parsed⟩ := bind_eq_ok_iff.mp loaded
    obtain ⟨document, isDocument, decoded⟩ := bind_eq_ok_iff.mp parsed
    exact .intro text document (mapError_eq_ok_iff.mp content) (mapError_eq_ok_iff.mp isDocument)
      (mapError_eq_ok_iff.mp decoded)
  · rintro ⟨text, document, content, isDocument, isValue⟩
    refine bind_eq_ok_iff.mpr ⟨text, mapError_eq_ok_iff.mpr content, ?_⟩
    refine bind_eq_ok_iff.mpr ⟨document, mapError_eq_ok_iff.mpr isDocument, ?_⟩
    exact mapError_eq_ok_iff.mpr isValue

theorem readDocument_eq_error_iff {path : String} :
    readDocument formats files path = .error failure ↔ Refused formats files path failure := by
  constructor
  · intro refused
    rcases bind_eq_error_iff.mp refused with unread | ⟨text, isText, refused⟩
    · obtain ⟨cause, noContent, rfl⟩ := mapError_eq_error_iff.mp unread
      exact .unread noContent
    have content := mapError_eq_ok_iff.mp isText
    rcases bind_eq_error_iff.mp refused with unparsed | ⟨document, parsed, undecoded⟩
    · obtain ⟨cause, noDocument, rfl⟩ := mapError_eq_error_iff.mp unparsed
      exact .unparsed content noDocument
    · obtain ⟨cause, noValue, rfl⟩ := mapError_eq_error_iff.mp undecoded
      exact .undecoded content (mapError_eq_ok_iff.mp parsed) noValue
  · rintro (noContent | ⟨content, noDocument⟩ | ⟨content, isDocument, noValue⟩)
    · exact bind_eq_error_iff.mpr (.inl (mapError_eq_error_iff.mpr ⟨_, noContent, rfl⟩))
    · refine bind_eq_error_iff.mpr (.inr ⟨_, mapError_eq_ok_iff.mpr content, ?_⟩)
      exact bind_eq_error_iff.mpr (.inl (mapError_eq_error_iff.mpr ⟨_, noDocument, rfl⟩))
    · refine bind_eq_error_iff.mpr (.inr ⟨_, mapError_eq_ok_iff.mpr content, ?_⟩)
      refine bind_eq_error_iff.mpr (.inr ⟨_, mapError_eq_ok_iff.mpr isDocument, ?_⟩)
      exact mapError_eq_error_iff.mpr ⟨_, noValue, rfl⟩

end Loading

/-! ## Stages -/

/-- The stages of a run, in order. -/
inductive Stage where
  | config
  | data
  | schema
  | check
deriving DecidableEq, Repr

/-- The options of a check: the policy of the arguments, or else that of the configuration. -/
def optionsUnder (arguments : Arguments) (config : Config) : Options :=
  ⟨arguments.allowExtraKeys.or config.check.allowExtraKeys⟩

section Stages

variable (formats : Formats) (host : Host σ) (session : Session σ) (files : Files)
  (arguments : Arguments)

/-- Everything is loaded, and the check of the library passes. -/
inductive Succeeds : Prop where
  | intro (config : Config) (data schema : Value)
      (configLoads : ConfigLoads formats files arguments.config config)
      (dataLoads : Loads formats files arguments.data data)
      (schemaLoads : Loads formats files arguments.schema schema)
      (passes : ((Check.run host data schema (optionsUnder arguments config)).finish session).1 =
        .ok ())

/-- The stages before one pass, and that one fails. What fails the check is the mismatch that the
library finds. -/
inductive FailsAt : Stage → Failure → Prop where
  | config {failure : Failure} (refused : ConfigRefused formats files arguments.config failure) :
      FailsAt .config failure
  | data {config : Config} {failure : Failure}
      (configLoads : ConfigLoads formats files arguments.config config)
      (refused : Refused formats files arguments.data failure) : FailsAt .data failure
  | schema {config : Config} {data : Value} {failure : Failure}
      (configLoads : ConfigLoads formats files arguments.config config)
      (dataLoads : Loads formats files arguments.data data)
      (refused : Refused formats files arguments.schema failure) : FailsAt .schema failure
  | check {config : Config} {data schema : Value} {mismatch : Mismatch}
      (configLoads : ConfigLoads formats files arguments.config config)
      (dataLoads : Loads formats files arguments.data data)
      (schemaLoads : Loads formats files arguments.schema schema)
      (fails : ((Check.run host data schema (optionsUnder arguments config)).finish session).1 =
        .error mismatch) : FailsAt .check (.mismatch mismatch)

end Stages

/-- What a run comes to, whatever it prints. -/
def verdict (formats : Formats) (files : Files) (arguments : Arguments) : Except Failure Unit := do
  let config ← configure formats files arguments
  (check formats files arguments config).2

/-- A run goes through its stages in order. Documents hold no functions, so that the host of the
check plays no part. -/
theorem verdict_eq (host : Host σ) (session : Session σ) (formats : Formats) (files : Files)
    (arguments : Arguments) :
    verdict formats files arguments = (do
      let config ← loadConfig formats files arguments.config
      let data ← readDocument formats files arguments.data
      let schema ← readDocument formats files arguments.schema
      ((Check.run host data schema (optionsUnder arguments config)).finish session).1.mapError
        .mismatch) := by
  rw [verdict, configure]
  cases loadConfig formats files arguments.config with
  | error failure => rfl
  | ok config =>
      simp only [check]
      cases loaded : readDocument formats files arguments.data with
      | error failure => rfl
      | ok data =>
          cases readDocument formats files arguments.schema with
          | error failure => rfl
          | ok schema =>
              obtain ⟨text, document, -, -, isValue⟩ := readDocument_eq_ok_iff.mp loaded
              have plain := Value.isPlain_of_ofExtendedJson? document isValue
              have same := Check.outcome_of_isPlain noFunctions plain schema
                (optionsUnder arguments config) ⟨(), []⟩
              rw [← Check.outcome_of_isPlain host plain schema (optionsUnder arguments config)
                session] at same
              exact congrArg (Except.mapError Failure.mismatch) same

variable {formats : Formats} {host : Host σ} {session : Session σ} {files : Files}
  {arguments : Arguments}

theorem verdict_eq_ok_iff :
    verdict formats files arguments = .ok () ↔ Succeeds formats host session files arguments := by
  rw [verdict_eq host session]
  constructor
  · intro succeeded
    obtain ⟨config, configLoaded, later⟩ := bind_eq_ok_iff.mp succeeded
    obtain ⟨data, dataLoaded, later⟩ := bind_eq_ok_iff.mp later
    obtain ⟨schema, schemaLoaded, checked⟩ := bind_eq_ok_iff.mp later
    exact .intro config data schema (loadConfig_eq_ok_iff.mp configLoaded)
      (readDocument_eq_ok_iff.mp dataLoaded) (readDocument_eq_ok_iff.mp schemaLoaded)
      (mapError_eq_ok_iff.mp checked)
  · rintro ⟨config, data, schema, configLoads, dataLoads, schemaLoads, passes⟩
    rw [loadConfig_eq_ok_iff.mpr configLoads, readDocument_eq_ok_iff.mpr dataLoads,
      readDocument_eq_ok_iff.mpr schemaLoads]
    exact mapError_eq_ok_iff.mpr passes

theorem verdict_of_failsAt {stage : Stage} {failure : Failure}
    (fails : FailsAt formats host session files arguments stage failure) :
    verdict formats files arguments = .error failure := by
  rw [verdict_eq host session]
  cases fails with
  | config refused =>
      rw [loadConfig_eq_error_iff.mpr refused]
      rfl
  | data configLoads refused =>
      rw [loadConfig_eq_ok_iff.mpr configLoads, readDocument_eq_error_iff.mpr refused]
      rfl
  | schema configLoads dataLoads refused =>
      rw [loadConfig_eq_ok_iff.mpr configLoads, readDocument_eq_ok_iff.mpr dataLoads,
        readDocument_eq_error_iff.mpr refused]
      rfl
  | check configLoads dataLoads schemaLoads fails =>
      rw [loadConfig_eq_ok_iff.mpr configLoads, readDocument_eq_ok_iff.mpr dataLoads,
        readDocument_eq_ok_iff.mpr schemaLoads]
      exact mapError_eq_error_iff.mpr ⟨_, fails, rfl⟩

theorem exists_failsAt {failure : Failure}
    (failed : verdict formats files arguments = .error failure) :
    ∃ stage, FailsAt formats host session files arguments stage failure := by
  rw [verdict_eq host session] at failed
  rcases bind_eq_error_iff.mp failed with refused | ⟨config, configLoaded, failed⟩
  · exact ⟨.config, .config (loadConfig_eq_error_iff.mp refused)⟩
  have configLoads := loadConfig_eq_ok_iff.mp configLoaded
  rcases bind_eq_error_iff.mp failed with refused | ⟨data, dataLoaded, failed⟩
  · exact ⟨.data, .data configLoads (readDocument_eq_error_iff.mp refused)⟩
  have dataLoads := readDocument_eq_ok_iff.mp dataLoaded
  rcases bind_eq_error_iff.mp failed with refused | ⟨schema, schemaLoaded, failed⟩
  · exact ⟨.schema, .schema configLoads dataLoads (readDocument_eq_error_iff.mp refused)⟩
  obtain ⟨mismatch, fails, rfl⟩ := mapError_eq_error_iff.mp failed
  exact ⟨.check,
    .check configLoads dataLoads (readDocument_eq_ok_iff.mp schemaLoaded) fails⟩

/-- The last stage that a run reaches. -/
def lastStage (formats : Formats) (files : Files) (arguments : Arguments) : Stage :=
  match loadConfig formats files arguments.config, readDocument formats files arguments.data,
    readDocument formats files arguments.schema with
  | .error _, _, _ => .config
  | .ok _, .error _, _ => .data
  | .ok _, .ok _, .error _ => .schema
  | .ok _, .ok _, .ok _ => .check

theorem lastStage_of_failsAt {stage : Stage} {failure : Failure}
    (fails : FailsAt formats host session files arguments stage failure) :
    lastStage formats files arguments = stage := by
  unfold lastStage
  cases fails with
  | config refused => rw [loadConfig_eq_error_iff.mpr refused]
  | data configLoads refused =>
      rw [loadConfig_eq_ok_iff.mpr configLoads, readDocument_eq_error_iff.mpr refused]
  | schema configLoads dataLoads refused =>
      rw [loadConfig_eq_ok_iff.mpr configLoads, readDocument_eq_ok_iff.mpr dataLoads,
        readDocument_eq_error_iff.mpr refused]
  | check configLoads dataLoads schemaLoads _ =>
      rw [loadConfig_eq_ok_iff.mpr configLoads, readDocument_eq_ok_iff.mpr dataLoads,
        readDocument_eq_ok_iff.mpr schemaLoads]

/-- A run fails at one stage with one failure. -/
theorem FailsAt.unique {stage otherStage : Stage} {failure other : Failure}
    (fails : FailsAt formats host session files arguments stage failure)
    (failsToo : FailsAt formats host session files arguments otherStage other) :
    otherStage = stage ∧ other = failure :=
  ⟨(lastStage_of_failsAt failsToo).symm.trans (lastStage_of_failsAt fails),
    Except.error.inj ((verdict_of_failsAt failsToo).symm.trans (verdict_of_failsAt fails))⟩

/-! ## What later stages look at -/

/-- Files with their contents, by the stage that looks at them, and the policy of the
arguments. -/
structure Inputs where
  config : Option (String × Except FileError String)
  data : Option (String × Except FileError String) := none
  schema : Option (String × Except FileError String) := none
  allowExtraKeys : Option (Option Bool) := none

/-- What the stages up to one look at. -/
def inputs (files : Files) (arguments : Arguments) (stage : Stage) : Inputs :=
  let config := arguments.config.map fun path => (path, files path)
  let data := some (arguments.data, files arguments.data)
  let schema := some (arguments.schema, files arguments.schema)
  match stage with
  | .config => { config }
  | .data => { config, data }
  | .schema => { config, data, schema }
  | .check => { config, data, schema, allowExtraKeys := some arguments.allowExtraKeys }

section Agreement

variable {otherFiles : Files} {otherArguments : Arguments}

theorem loadConfig_congr
    (same : (otherArguments.config.map fun path => (path, otherFiles path)) =
      arguments.config.map fun path => (path, files path)) :
    loadConfig formats otherFiles otherArguments.config =
      loadConfig formats files arguments.config := by
  cases isPath : arguments.config with
  | none =>
      rw [isPath, Option.map_none, Option.map_eq_none_iff] at same
      rw [same]
      rfl
  | some path =>
      rw [isPath, Option.map_some, Option.map_eq_some_iff] at same
      obtain ⟨otherPath, isOther, samePair⟩ := same
      obtain ⟨rfl, sameContent⟩ := Prod.mk.inj samePair
      rw [isOther, loadConfig, loadConfig, sameContent]

theorem readDocument_congr {path otherPath : String}
    (same : (otherPath, otherFiles otherPath) = (path, files path)) :
    readDocument formats otherFiles otherPath = readDocument formats files path := by
  obtain ⟨rfl, sameContent⟩ := Prod.mk.inj same
  rw [readDocument, readDocument, sameContent]

/-- A run fails at the same stage with the same failure if the stages up to there look at the
same. -/
theorem FailsAt.congr {stage : Stage} {failure : Failure}
    (fails : FailsAt formats host session files arguments stage failure)
    (same : inputs otherFiles otherArguments stage = inputs files arguments stage) :
    FailsAt formats host session otherFiles otherArguments stage failure := by
  have sameConfig : loadConfig formats otherFiles otherArguments.config =
      loadConfig formats files arguments.config := by
    apply loadConfig_congr
    cases stage <;> exact congrArg Inputs.config same
  have configLoads {config : Config} (loads : ConfigLoads formats files arguments.config config) :
      ConfigLoads formats otherFiles otherArguments.config config := by
    rwa [← loadConfig_eq_ok_iff, sameConfig, loadConfig_eq_ok_iff]
  have documentLoads {path otherPath : String} {value : Value}
      (same : some (otherPath, otherFiles otherPath) = some (path, files path))
      (loads : Loads formats files path value) : Loads formats otherFiles otherPath value := by
    rwa [← readDocument_eq_ok_iff, readDocument_congr (Option.some.inj same),
      readDocument_eq_ok_iff]
  have documentRefused {path otherPath : String} {failure : Failure}
      (same : some (otherPath, otherFiles otherPath) = some (path, files path))
      (refused : Refused formats files path failure) :
      Refused formats otherFiles otherPath failure := by
    rwa [← readDocument_eq_error_iff, readDocument_congr (Option.some.inj same),
      readDocument_eq_error_iff]
  cases fails with
  | config refused =>
      apply FailsAt.config
      rwa [← loadConfig_eq_error_iff, sameConfig, loadConfig_eq_error_iff]
  | data loads refused =>
      exact .data (configLoads loads) (documentRefused (congrArg Inputs.data same) refused)
  | schema loads dataLoads refused =>
      exact .schema (configLoads loads) (documentLoads (congrArg Inputs.data same) dataLoads)
        (documentRefused (congrArg Inputs.schema same) refused)
  | check loads dataLoads schemaLoads fails =>
      have samePolicy : otherArguments.allowExtraKeys = arguments.allowExtraKeys :=
        Option.some.inj (congrArg Inputs.allowExtraKeys same)
      rw [optionsUnder, ← samePolicy] at fails
      exact .check (configLoads loads) (documentLoads (congrArg Inputs.data same) dataLoads)
        (documentLoads (congrArg Inputs.schema same) schemaLoads) fails

end Agreement

/-! ## Runs -/

/-- The first policy that is given: by the marker of a node, its own setting, the arguments or the
configuration. Without any, extra keys are permitted. -/
def policyUnder (marker : Option Value) (setting : Option Bool) (arguments : Arguments)
    (config : Config) : Bool :=
  firstPolicy [marker.map Policy.ofMarker, setting, arguments.allowExtraKeys,
    config.check.allowExtraKeys]

theorem permitsExtraKeys_optionsUnder (marker : Option Value) (setting : Option Bool)
    (config : Config) :
    Policy.permitsExtraKeys marker setting (optionsUnder arguments config) =
      policyUnder marker setting arguments config := by
  cases marker with
  | some value => rfl
  | none =>
      cases setting with
      | some own => rfl
      | none =>
          unfold Policy.permitsExtraKeys optionsUnder policyUnder
          cases arguments.allowExtraKeys with
          | some flag => rfl
          | none => cases config.check.allowExtraKeys <;> rfl

/-- The obligations of an object node under the options of a run. -/
theorem obligations_of_object {position : Position} {item : Item}
    (read : position.item? = .ok item) (isObject : item.kind = .object) (config : Config) :
    position.obligations (optionsUnder arguments config) =
      { holds := position.data.hasKind .object, failure := .type position.path .object } ::
        (position.classObligations item ++
          if policyUnder (SchemaForm.ofValue position.schema).marker? item.allowExtraKeys arguments
            config then [] else position.keyObligations item) := by
  rw [Position.obligations_of_item read, Position.contentObligations, isObject]
  rw [← permitsExtraKeys_optionsUnder, Position.permitsExtraKeys_eq_policy]

/-- What a run prints, by what it comes to. -/
theorem run_eq (formats : Formats) (files : Files) {given : List String} (outside : Option String)
    (parsed : parse given = .ok arguments) :
    ∃ log, run formats files outside given =
      match verdict formats files arguments with
      | .ok () => ⟨0, "ok\n", log⟩
      | .error failure => ⟨1, "", log ++ failure.message ++ "\n"⟩ := by
  cases configured : configure formats files arguments with
  | error failure =>
      refine ⟨"", ?_⟩
      simp only [run, parsed, verdict, configured, String.empty_append]
      rfl
  | ok config =>
      refine ⟨logText (filter outside config)
        (configRecord config ::
          (check formats files arguments config).1.map CheckEvent.toRecord), ?_⟩
      have reached :
          verdict formats files arguments = (check formats files arguments config).2 := by
        rw [verdict, configured]
        rfl
      rw [reached]
      cases checked : (check formats files arguments config).2 with
      | ok _ => simp only [run, parsed, configured, checked]
      | error failure => simp only [run, parsed, configured, checked]

/-- The program agrees with the library, whatever host and session that has. A run succeeds if and
only if everything is loaded and the check of the library passes. Otherwise it reports the failure
of the one stage that fails, which is the mismatch of the library if the check is that stage. What
only later stages look at plays no part in it. The check passes if all obligations hold, and keys
that an object node does not declare count among these if the first policy given for the node does
not permit them. -/
theorem run_agrees (formats : Formats) (host : Host σ) (session : Session σ) (files : Files)
    (outside : Option String) {given : List String} {arguments : Arguments}
    (parsed : parse given = .ok arguments) :
    let outcome := run formats files outside given
    (outcome.exitCode = 0 ↔ Succeeds formats host session files arguments) ∧
    (Succeeds formats host session files arguments → outcome.output = "ok\n") ∧
    (¬ Succeeds formats host session files arguments →
      ∃ stage failure, FailsAt formats host session files arguments stage failure) ∧
    (∀ stage failure, FailsAt formats host session files arguments stage failure →
      outcome.exitCode = 1 ∧ outcome.output = "" ∧
      (∃ log, outcome.diagnostics = log ++ failure.message ++ "\n") ∧
      (∀ otherStage other, FailsAt formats host session files arguments otherStage other →
        otherStage = stage ∧ other = failure) ∧
      ∀ otherFiles otherArguments,
        inputs otherFiles otherArguments stage = inputs files arguments stage →
          FailsAt formats host session otherFiles otherArguments stage failure) ∧
    ∀ config data schema, ConfigLoads formats files arguments.config config →
      Loads formats files arguments.data data → Loads formats files arguments.schema schema →
      let options := optionsUnder arguments config
      let positions := (Position.root data schema).preorder
      (((Check.run host data schema options).finish session).1 = .ok () ↔
        ∀ position ∈ positions, ∀ obligation ∈ position.obligations options,
          obligation.holds = true) ∧
      ∀ position ∈ positions, ∀ item, position.item? = .ok item → item.kind = .object →
        position.obligations options =
          { holds := position.data.hasKind .object, failure := .type position.path .object } ::
            (position.classObligations item ++
              if policyUnder (SchemaForm.ofValue position.schema).marker? item.allowExtraKeys
                arguments config then [] else position.keyObligations item) := by
  intro outcome
  obtain ⟨log, isOutcome⟩ := run_eq formats files outside parsed
  have succeeds :
      verdict formats files arguments = .ok () ↔
        Succeeds formats host session files arguments :=
    verdict_eq_ok_iff
  have onFailure {failure : Failure} (failed : verdict formats files arguments = .error failure) :
      outcome = ⟨1, "", log ++ failure.message ++ "\n"⟩ := by
    simp only [outcome, isOutcome, failed]
  have onSuccess (succeeded : verdict formats files arguments = .ok ()) :
      outcome = ⟨0, "ok\n", log⟩ := by
    simp only [outcome, isOutcome, succeeded]
  refine ⟨⟨fun exitCode => ?_, fun success => ?_⟩, fun success => ?_, fun noSuccess => ?_,
    fun stage failure fails => ?_, fun config data schema _ dataLoads _ => ⟨?_, ?_⟩⟩
  · cases reached : verdict formats files arguments with
    | ok _ => exact succeeds.mp reached
    | error failure =>
        rw [onFailure reached] at exitCode
        cases exitCode
  · rw [onSuccess (succeeds.mpr success)]
  · rw [onSuccess (succeeds.mpr success)]
  · cases reached : verdict formats files arguments with
    | ok _ => exact absurd (succeeds.mp reached) noSuccess
    | error failure =>
        obtain ⟨stage, fails⟩ :
            ∃ stage, FailsAt formats host session files arguments stage failure :=
          exists_failsAt reached
        exact ⟨stage, failure, fails⟩
  · rw [onFailure (verdict_of_failsAt fails)]
    exact ⟨rfl, rfl, ⟨log, rfl⟩, fun _ _ failsToo => fails.unique failsToo,
      fun _ _ same => fails.congr same⟩
  · obtain ⟨text, document, -, -, isValue⟩ := dataLoads
    rw [Check.outcome_of_isPlain host (Value.isPlain_of_ofExtendedJson? document isValue),
      firstFailure_flatMap_eq_ok_iff]
  · intro position _ item read isObject
    exact obligations_of_object read isObject config

/-- The arguments forbid extra keys and override the configuration, which permits them. The marker
of the root and the setting of the open object override the arguments in turn, so that the key in
the shut object is the one that fails. -/
theorem run_agrees_on_shut_object :
    let formats := Formats.standard fun _ => ""
    let files : Files := fun path =>
      if path = "config" then .ok "check.allow_extra_keys=true"
      else if path = "data" then
        .ok ("\x7b\"more\":null,\"open\":\x7b\"x\":true,\"y\":true\x7d," ++
          "\"shut\":\x7b\"x\":true,\"y\":true\x7d\x7d")
      else if path = "schema" then
        .ok ("\x7b\"_deepCheck_allowExtraKeys\":true," ++
          "\"open\":\x7b\"type\":\"object\",\"data\":\x7b\"x\":true\x7d," ++
          "\"allowExtraKeys\":true\x7d,\"shut\":\x7b\"x\":true\x7d\x7d")
      else .error .notFound
    let given := ["--config=config", "--data=data", "--schema=schema", "--allow-extra-keys=false"]
    let arguments : Arguments := ⟨"data", "schema", some "config", some false, none⟩
    parse given = .ok arguments ∧ (run formats files none given).exitCode = 1 ∧
      ∃ failure, FailsAt formats noFunctions ⟨(), []⟩ files arguments .check failure ∧
        failure.message = "extra key 'y' at root.shut" := by
  intro formats files given arguments
  have parsed : parse given = .ok arguments := by decide +kernel
  have reached : lastStage formats files arguments = .check := by decide +kernel
  have message : (match verdict formats files arguments with
      | .ok () => ""
      | .error failure => failure.message) = "extra key 'y' at root.shut" := by decide +kernel
  obtain ⟨-, -, otherwise, reports, -⟩ := run_agrees formats noFunctions ⟨(), []⟩ files none parsed
  have noSuccess : ¬ Succeeds formats noFunctions ⟨(), []⟩ files arguments := by
    intro success
    rw [verdict_eq_ok_iff.mpr success] at message
    simp at message
  obtain ⟨stage, failure, fails⟩ := otherwise noSuccess
  have exitCode : (run formats files none given).exitCode = 1 := (reports stage failure fails).1
  rw [verdict_of_failsAt fails] at message
  obtain rfl : stage = .check := (lastStage_of_failsAt fails).symm.trans reached
  exact ⟨parsed, exitCode, failure, fails, message⟩

end SchemaMatch.CommandLine
