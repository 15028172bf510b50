import SchemaMatch.CommandLine.Formats

/-!
Contract: what the document of a configuration says.

Owns:
- the value that a document gives a setting, if it does;
- the policy for extra keys and the level that a document gives;
- `Config.ofToml?_eq_some_iff`: a document is read as a configuration exactly if it gives the policy
  and the level of the configuration;
- the configuration of a text, or the report on it.

Does not own: which texts are documents.
-/

namespace SchemaMatch

namespace Toml

/-! ## Settings -/

/-- What entries hold under some names: nothing, or one value. -/
inductive HoldsUnder (names : List String) (entries : Entries) : Option Toml → Prop where
  | nothing (absent : ∀ entry ∈ entries, entry.1 ∉ names) : HoldsUnder names entries none
  | value {before after : Entries} {name : String} {value : Toml}
      (split : entries = before ++ (name, value) :: after) (isName : name ∈ names)
      (absentBefore : ∀ entry ∈ before, entry.1 ∉ names)
      (absentAfter : ∀ entry ∈ after, entry.1 ∉ names) : HoldsUnder names entries (some value)

/-- The value that a group has for its one setting: under the names of the setting, or in the first
place of an array. -/
inductive GroupHolds (names : List String) : Toml → Option Toml → Prop where
  | table {origin : TableOrigin} {entries : Entries} {found : Option Toml}
      (holds : HoldsUnder names entries found) : GroupHolds names (.table origin entries) found
  | array {first : Toml} {rest : List Toml} : GroupHolds names (.array (first :: rest)) (some first)
  | emptyArray : GroupHolds names (.array []) none
  | tables {first : Entries} {rest : List Entries} :
      GroupHolds names (.tables (first :: rest)) (some (.table .header first))
  | noTables : GroupHolds names (.tables []) none
  | instant : GroupHolds names .instant none

/-- The value that a document gives the setting of a group. -/
inductive Gives (entries : Entries) (group : String) (names : List String) :
    Option Toml → Prop where
  | noGroup (absent : HoldsUnder [group] entries none) : Gives entries group names none
  | group {value : Toml} {found : Option Toml} (isGroup : HoldsUnder [group] entries (some value))
      (holds : GroupHolds names value found) : Gives entries group names found

/-- The policy for extra keys that a document gives, under either spelling. -/
inductive GivesPolicy (entries : Entries) : Option Bool → Prop where
  | unset (unset : Gives entries "check" ["allow_extra_keys", "allowExtraKeys"] none) :
      GivesPolicy entries none
  | policy {allowed : Bool}
      (isSet :
        Gives entries "check" ["allow_extra_keys", "allowExtraKeys"] (some (.bool allowed))) :
      GivesPolicy entries (some allowed)

/-- The values that name a level: its name, or a table with nothing but something empty under the
name. -/
inductive NamesLevel (level : LogLevel) : Toml → Prop where
  | name : NamesLevel level (.string level.name)
  | emptyArray {origin : TableOrigin} : NamesLevel level (.table origin [(level.name, .array [])])
  | emptyTable {origin contentOrigin : TableOrigin} :
      NamesLevel level (.table origin [(level.name, .table contentOrigin [])])

/-- The level that a document gives, which is info if it names none. -/
inductive GivesLevel (entries : Entries) : LogLevel → Prop where
  | unset (unset : Gives entries "log" ["level"] none) : GivesLevel entries .info
  | level {value : Toml} {level : LogLevel} (isSet : Gives entries "log" ["level"] (some value))
      (isLevel : NamesLevel level value) : GivesLevel entries level

end Toml

namespace Config

open Toml (HoldsUnder GroupHolds Gives GivesPolicy NamesLevel GivesLevel)

/-! ## Values under names -/

section Entries

variable {names : List String} {entries : Toml.Entries}

theorem valuesUnder_eq_nil_iff :
    valuesUnder names entries = [] ↔ ∀ entry ∈ entries, entry.1 ∉ names := by
  simp [valuesUnder, List.filter_eq_nil_iff]

theorem valuesUnder_eq_singleton_iff {value : Toml} :
    valuesUnder names entries = [value] ↔ HoldsUnder names entries (some value) := by
  rw [valuesUnder, List.map_eq_singleton_iff]
  constructor
  · rintro ⟨⟨name, _⟩, onlyEntry, rfl⟩
    obtain ⟨before, after, split, absentBefore, isName, absentAfter⟩ :=
      List.filter_eq_cons_iff.mp onlyEntry
    refine .value split (List.contains_iff_mem.mp isName) ?_ ?_
    · exact fun entry member isMember =>
        absentBefore entry member (List.contains_iff_mem.mpr isMember)
    · exact fun entry member isMember =>
        List.filter_eq_nil_iff.mp absentAfter entry member (List.contains_iff_mem.mpr isMember)
  · intro holds
    cases holds with | @value before after name _ split isName absentBefore absentAfter => ?_
    refine ⟨(name, value), List.filter_eq_cons_iff.mpr ⟨before, after, split, ?_, ?_, ?_⟩, rfl⟩
    · exact fun entry member isMember =>
        absentBefore entry member (List.contains_iff_mem.mp isMember)
    · exact List.contains_iff_mem.mpr isName
    · exact List.filter_eq_nil_iff.mpr fun entry member isMember =>
        absentAfter entry member (List.contains_iff_mem.mp isMember)

theorem only?_eq_some_none_iff {α : Type} {values : List α} :
    only? values = some none ↔ values = [] := by
  match values with
  | [] | [_] | _ :: _ :: _ => simp [only?]

theorem only?_eq_some_some_iff {α : Type} {values : List α} {value : α} :
    only? values = some (some value) ↔ values = [value] := by
  match values with
  | [] | [_] | _ :: _ :: _ => simp [only?]

theorem only?_valuesUnder_eq_some_iff {found : Option Toml} :
    only? (valuesUnder names entries) = some found ↔ HoldsUnder names entries found := by
  cases found with
  | none =>
      rw [only?_eq_some_none_iff, valuesUnder_eq_nil_iff]
      constructor
      · exact .nothing
      · rintro ⟨absent⟩
        exact absent
  | some value => rw [only?_eq_some_some_iff, valuesUnder_eq_singleton_iff]

end Entries

/-! ## Settings -/

theorem settingIn?_eq_some_iff {names : List String} {group : Toml} {found : Option Toml} :
    settingIn? names group = some found ↔ GroupHolds names group found := by
  constructor
  · intro read
    unfold settingIn? at read
    split at read
    next => exact .table (only?_valuesUnder_eq_some_iff.mp read)
    next items =>
      obtain rfl := Option.some.inj read
      cases items with
      | nil => exact .emptyArray
      | cons first rest => exact .array
    next elements =>
      obtain rfl := Option.some.inj read
      cases elements with
      | nil => exact .noTables
      | cons first rest => exact .tables
    next =>
      obtain rfl := Option.some.inj read
      exact .instant
    next => cases read
  · intro holds
    cases holds with
    | table holds => exact only?_valuesUnder_eq_some_iff.mpr holds
    | array | emptyArray | tables | noTables | instant => rfl

theorem setting?_eq_some_iff {entries : Toml.Entries} {group : String} {names : List String}
    {found : Option Toml} :
    setting? group names entries = some found ↔ Gives entries group names found := by
  constructor
  · intro read
    obtain ⟨ofGroup, isOnly, inGroup⟩ := Option.bind_eq_some_iff.mp read
    have holds := only?_valuesUnder_eq_some_iff.mp isOnly
    cases ofGroup with
    | none =>
        obtain rfl := Option.some.inj inGroup
        exact .noGroup holds
    | some value => exact .group holds (settingIn?_eq_some_iff.mp inGroup)
  · intro gives
    cases gives with
    | noGroup absent =>
        rw [setting?, only?_valuesUnder_eq_some_iff.mpr absent]
        rfl
    | group isGroup holds =>
        rw [setting?, only?_valuesUnder_eq_some_iff.mpr isGroup]
        exact settingIn?_eq_some_iff.mpr holds

theorem policy?_eq_some_iff {value : Toml} {allowed : Bool} :
    policy? value = some allowed ↔ value = .bool allowed := by
  cases value <;> simp [policy?]

theorem ofName?_eq_some_iff {name : String} {level : LogLevel} :
    LogLevel.ofName? name = some level ↔ level.name = name := by
  constructor
  · intro found
    exact beq_iff_eq.mp (List.find?_some found :)
  · rintro rfl
    cases level <;> rfl

theorem isEmptyContent_iff {content : Toml} :
    isEmptyContent content = true ↔
      content = .array [] ∨ ∃ origin, content = .table origin [] := by
  cases content <;> simp [isEmptyContent]

theorem level?_eq_some_iff {value : Toml} {level : LogLevel} :
    level? value = some level ↔ NamesLevel level value := by
  constructor
  · intro read
    unfold level? at read
    split at read
    next name =>
      obtain rfl := ofName?_eq_some_iff.mp read
      exact .name
    next name content =>
      obtain ⟨isEmpty, found⟩ := Option.ite_none_right_eq_some.mp read
      obtain rfl := ofName?_eq_some_iff.mp found
      obtain rfl | ⟨origin, rfl⟩ := isEmptyContent_iff.mp isEmpty
      · exact .emptyArray
      · exact .emptyTable
    next => cases read
  · have found : LogLevel.ofName? level.name = some level := ofName?_eq_some_iff.mpr rfl
    intro names
    cases names with
    | name | emptyArray | emptyTable => exact found

/-! ## Configurations -/

/-- A setting is absent, or has a value that is read. -/
theorem mapM_setting_eq_some_iff {α : Type} {read : Toml → Option α} {found : Option Toml}
    {result : Option α} :
    found.mapM read = some result ↔
      found = none ∧ result = none ∨
        ∃ value content, found = some value ∧ read value = some content ∧
          result = some content := by
  cases found with
  | none => simp [eq_comm]
  | some value => cases read value <;> simp [eq_comm, *]

theorem policyOf?_eq_some_iff {entries : Toml.Entries} {policy : Option Bool} :
    policyOf? entries = some policy ↔ GivesPolicy entries policy := by
  constructor
  · intro read
    obtain ⟨found, isFound, content⟩ := Option.bind_eq_some_iff.mp read
    have gives := setting?_eq_some_iff.mp isFound
    rcases mapM_setting_eq_some_iff.mp content with ⟨rfl, rfl⟩ | ⟨value, allowed, rfl, isBool, rfl⟩
    · exact .unset gives
    · obtain rfl := policy?_eq_some_iff.mp isBool
      exact .policy gives
  · intro gives
    cases gives with
    | unset unset => exact Option.bind_eq_some_iff.mpr ⟨none, setting?_eq_some_iff.mpr unset, rfl⟩
    | policy isSet =>
        exact Option.bind_eq_some_iff.mpr ⟨some _, setting?_eq_some_iff.mpr isSet, rfl⟩

theorem levelOf?_eq_some_iff {entries : Toml.Entries} {level : LogLevel} :
    levelOf? entries = some level ↔ GivesLevel entries level := by
  constructor
  · intro read
    obtain ⟨found, isFound, read⟩ := Option.bind_eq_some_iff.mp read
    obtain ⟨named, content, isLevel⟩ := Option.bind_eq_some_iff.mp read
    have gives := setting?_eq_some_iff.mp isFound
    obtain rfl := Option.some.inj isLevel
    rcases mapM_setting_eq_some_iff.mp content with ⟨rfl, rfl⟩ | ⟨value, level, rfl, names, rfl⟩
    · exact .unset gives
    · exact .level gives (level?_eq_some_iff.mp names)
  · intro gives
    cases gives with
    | unset unset => exact Option.bind_eq_some_iff.mpr ⟨none, setting?_eq_some_iff.mpr unset, rfl⟩
    | @level value _ isSet names =>
        refine Option.bind_eq_some_iff.mpr ⟨some value, setting?_eq_some_iff.mpr isSet, ?_⟩
        refine Option.bind_eq_some_iff.mpr ⟨some level, ?_, rfl⟩
        exact mapM_setting_eq_some_iff.mpr
          (.inr ⟨value, level, rfl, level?_eq_some_iff.mpr names, rfl⟩)

/-- A document is read as the configuration whose policy and level it gives. -/
theorem ofToml?_eq_some_iff {entries : Toml.Entries} {config : Config} :
    ofToml? entries = some config ↔
      GivesPolicy entries config.check.allowExtraKeys ∧ GivesLevel entries config.level := by
  rw [← policyOf?_eq_some_iff, ← levelOf?_eq_some_iff]
  constructor
  · intro read
    obtain ⟨policy, isPolicy, read⟩ := Option.bind_eq_some_iff.mp read
    obtain ⟨level, isLevel, same⟩ := Option.bind_eq_some_iff.mp read
    obtain rfl := Option.some.inj same
    exact ⟨isPolicy, isLevel⟩
  · rintro ⟨isPolicy, isLevel⟩
    rw [ofToml?, isPolicy, isLevel]
    rfl

end Config

/-! ## Texts -/

namespace CommandLine

section Texts

variable {formats : Formats} {text : String}

theorem Formats.config?_eq_ok_iff {config : Config} :
    formats.config? text = .ok config ↔
      ∃ entries, formats.toml text = some entries ∧
        Toml.GivesPolicy entries config.check.allowExtraKeys ∧
        Toml.GivesLevel entries config.level := by
  have isSome : formats.config? text = .ok config ↔
      (formats.toml text).bind Config.ofToml? = some config := by
    rw [config?]
    cases (formats.toml text).bind Config.ofToml? <;> simp
  rw [isSome, Option.bind_eq_some_iff]
  exact exists_congr fun entries => and_congr_right fun _ => Config.ofToml?_eq_some_iff

theorem Formats.config?_eq_error_iff {report : String} :
    formats.config? text = .error report ↔
      report = formats.tomlReport text ∧ ∀ config, formats.config? text ≠ .ok config := by
  rw [config?]
  cases (formats.toml text).bind Config.ofToml? <;> simp [eq_comm]

end Texts

end CommandLine

end SchemaMatch
