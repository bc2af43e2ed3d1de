import Mathlib.Data.List.Nodup
import SessionRegistry.Proofs.Config.Supply

/-!
# Which layer decides a field of the configuration

The layers of a configuration are, from the highest to the lowest, the arguments, the variables of
the environment, the document and the defaults. A field is decided by the highest layer that has it.
The exception is the log: an argument asks to sync every write, and takes back what the document has
about batches, unsynced bytes and the wait for a sync as well.

## Main definitions

* `Written`, `Layered`: a field that the document may give, and one that arguments and variables may
  give as well.
* `LogSettings.WrittenIn`, `Config.WrittenIn`: the settings and the configuration that the fields of
  a document spell.
* `Config.Layers`: the flags and the document that a configuration is made from.
* `Config.LoadedFrom`: what decides each field of a configuration.

## Main results

* `Config.writtenIn_of_ofFields?`: how a document is read, field by field.
* `Config.exists_loadedFrom`: which layer decides each field, and when this goes for the log, too.
-/

namespace SessionRegistry

section Layers

variable {α : Type} {read : String → Option α} {readField : Toml → Option α} {default : α}

/-- A field that a document may give, with its value. -/
inductive Written (readField : Toml → Option α) (default : α) : Option Toml → α → Prop
  | document {field : Toml} {value : α} (spelled : readField field = some value) :
    Written readField default (some field) value
  | default : Written readField default none default

/-- A field that an argument, a variable or a document may give, with its value. -/
inductive Layered (read : String → Option α) (readField : Toml → Option α) (default : α) :
    (argument : Option α) → (text : Option String) → (field : Option Toml) → α → Prop
  | argument (value : α) (text : Option String) (field : Option Toml) :
    Layered read readField default (some value) text field value
  | environment {text : String} {value : α} (spelled : read text = some value)
    (field : Option Toml) : Layered read readField default none (some text) field value
  | below {field : Option Toml} {value : α} (written : Written readField default field value) :
    Layered read readField default none none field value

theorem Config.readOr_eq_some_iff {field : Option Toml} {value : α} :
    readOr default readField field = some value ↔ Written readField default field value := by
  constructor
  · intro spelled
    cases field with
    | none =>
      cases spelled
      exact .default
    | some field => exact .document spelled
  · intro written
    cases written with
    | document spelled => exact spelled
    | default => rfl

/-- A value that is supplied goes before the one that is written. -/
theorem Supplied.layered {argument supplied : Option α} {text : Option String}
    {field : Option Toml} {written : α} (above : Supplied read argument text supplied)
    (below : Written readField default field written) :
    Layered read readField default argument text field (supplied.getD written) := by
  cases above with
  | argument value => exact .argument value text field
  | environment spelled => exact .environment spelled field
  | nothing => exact .below below

end Layers

/-! ## Documents -/

/-- A member of a value: of a table by its name, of an array by its position. -/
def Toml.member? (position : Nat) (name : String) : Toml → Option Toml
  | .table _ fields => fields.lookup name
  | .array items => items[position]?
  | .tables items => items[position]?.map (.table .header)
  | _ => none

/-- What the fields of a document have about a setting of the log. -/
def Toml.logField? (fields : Toml.Fields) (position : Nat) (name : String) : Option Toml :=
  (fields.lookup "wal").bind (member? position name)

open Config (readUInt64 readUInt32 readText readAddress readOr_eq_some_iff)

/-- The settings of the log that the given function finds the fields of. -/
structure LogSettings.WrittenIn (field? : Nat → String → Option Toml) (log : LogSettings) :
    Prop where
  batchTimeout : Written readUInt64 2 (field? 0 "batch_timeout_ms") log.batchTimeout
  maxBatchSize : Written readUInt64 128 (field? 1 "max_batch_size") log.maxBatchSize
  checkpointThreshold : Written readUInt64 4194304
    (field? 2 "checkpoint_threshold_bytes") log.checkpointThreshold
  syncPeriod : Written readUInt64 20 (field? 3 "fsync_interval_ms") log.syncPeriod
  maxUnsyncedBytes : Written readUInt64 1048576 (field? 4 "max_unfsynced_bytes")
    log.maxUnsyncedBytes
  durableWait : Written readUInt64 10000 (field? 5 "durable_wait_ms") log.durableWait

namespace LogSettings

variable {field? : Nat → String → Option Toml} {log : LogSettings}

theorem writtenIn_of_logSettingsFrom (spelled : Config.logSettingsFrom field? = some log) :
    log.WrittenIn field? := by
  simp only [Config.logSettingsFrom, Option.bind_eq_bind, Option.bind_eq_some_iff,
    readOr_eq_some_iff, Option.pure_def, Option.some.injEq] at spelled
  obtain ⟨_, batchTimeout, _, maxBatchSize, _, checkpointThreshold, _, syncPeriod, _,
    maxUnsyncedBytes, _, durableWait, rfl⟩ := spelled
  exact ⟨batchTimeout, maxBatchSize, checkpointThreshold, syncPeriod, maxUnsyncedBytes, durableWait⟩

/-- The default settings are those of a document without fields. -/
theorem writtenIn_default : LogSettings.WrittenIn (fun _ _ => none) {} :=
  ⟨.default, .default, .default, .default, .default, .default⟩

theorem writtenIn_of_readLogSettings {value : Toml}
    (spelled : Config.readLogSettings value = some log) :
    log.WrittenIn fun position name => value.member? position name := by
  cases value with
  | table origin fields => exact writtenIn_of_logSettingsFrom spelled
  | array items => exact writtenIn_of_logSettingsFrom spelled
  | tables items => exact writtenIn_of_logSettingsFrom spelled
  | dateTime =>
    cases spelled
    exact writtenIn_default
  | text | integer | float | boolean => nomatch spelled

theorem writtenIn_of_written {fields : Toml.Fields}
    (written : Written Config.readLogSettings {} (fields.lookup "wal") log) :
    log.WrittenIn (Toml.logField? fields) := by
  change log.WrittenIn fun position name =>
    (fields.lookup "wal").bind (Toml.member? position name)
  generalize fields.lookup "wal" = field at written ⊢
  cases written with
  | document spelled => exact writtenIn_of_readLogSettings spelled
  | default => exact writtenIn_default

/-- The settings with every write synced, if this is asked for. -/
def withSync (log : LogSettings) (syncLog : Bool) : LogSettings :=
  if syncLog then { log with syncPeriod := 0 } else log

/-- To take back everything but the checkpoint threshold makes no difference exactly if the other
settings are the defaults. -/
theorem synced_eq_withSync_iff (log : LogSettings) (syncLog : Bool) :
    (if syncLog then { checkpointThreshold := log.checkpointThreshold, syncPeriod := 0 } else log) =
        log.withSync syncLog ↔
      (syncLog = true → log.batchTimeout = 2 ∧ log.maxBatchSize = 128 ∧
        log.maxUnsyncedBytes = 1048576 ∧ log.durableWait = 10000) := by
  cases syncLog with
  | false => exact iff_of_true rfl nofun
  | true => simp [withSync, eq_comm]

end LogSettings

namespace Config

/-- The fields of a document. -/
structure WrittenIn (fields : Toml.Fields) (config : Config) : Prop where
  address : Written readAddress { host := .four 127 0 0 1, service := 7091 }
    (fields.lookup "bind_addr") config.address
  dataDir : Written readText "./data" (fields.lookup "data_dir") config.dataDir
  lockWait : Written readUInt64 500 (fields.lookup "lock_wait_ms") config.lockWait
  maxPageSize : Written readUInt32 100 (fields.lookup "max_page_size") config.maxPageSize
  retention : Written readUInt64 600000 (fields.lookup "retention_ms") config.retention
  sweepInterval : Written readUInt64 5000 (fields.lookup "sweep_interval_ms") config.sweepInterval
  log : config.log.WrittenIn (Toml.logField? fields)

theorem writtenIn_of_ofFields? {fields : Toml.Fields} {config : Config}
    (spelled : ofFields? fields = some config) : config.WrittenIn fields := by
  simp only [ofFields?, Option.bind_eq_bind, Option.bind_eq_some_iff, readOr_eq_some_iff,
    Option.pure_def, Option.some.injEq] at spelled
  obtain ⟨_, address, _, dataDir, _, lockWait, _, maxPageSize, _, retention, _, sweepInterval, _,
    log, rfl⟩ := spelled
  exact ⟨address, dataDir, lockWait, maxPageSize, retention, sweepInterval,
    LogSettings.writtenIn_of_written log⟩

/-! ## Loading -/

/-- The fields of the document that the file with a certain path holds. Without a path there are
none. -/
inductive DocumentAt (file : String → Except Error String) : Option String → Toml.Fields → Prop
  | missing : DocumentAt file none []
  | read {path document : String} {fields : Toml.Fields} (content : file path = .ok document)
    (parsed : Toml.parse? document = some fields) : DocumentAt file (some path) fields

/-- The layers above the defaults: the flags that the arguments give, the environment, and the
fields of the document in the file that these name. -/
structure Layers (environment : String → Option String) (arguments : List String)
    (file : String → Except Error String) (flags : Options) (fields : Toml.Fields) : Prop where
  flags_eq : CommandLine.readArguments arguments = .ok flags
  document : ∃ path, Supplied Options.readPath flags.config (environment "TXCONSOLE_CONFIG") path ∧
    DocumentAt file path fields

/-- What decides each field of a configuration: the flags, the environment, the fields of the
document and the settings of the log that they spell. -/
structure LoadedFrom (environment : String → Option String) (arguments : List String)
    (file : String → Except Error String) (config : Config) (flags : Options)
    (fields : Toml.Fields) (log : LogSettings) : Prop where
  layers : Layers environment arguments file flags fields
  address : Layered Address.ofText? readAddress { host := .four 127 0 0 1, service := 7091 }
    flags.address (environment "TXCONSOLE_BIND") (fields.lookup "bind_addr") config.address
  dataDir : Layered Options.readPath readText "./data"
    flags.dataDir (environment "TXCONSOLE_DATA_DIR") (fields.lookup "data_dir") config.dataDir
  lockWait : Layered Text.readUInt64 readUInt64 500 flags.lockWait
    (environment "TXCONSOLE_LOCK_WAIT_MS") (fields.lookup "lock_wait_ms") config.lockWait
  maxPageSize : Layered Options.readUInt32 readUInt32 100 flags.maxPageSize
    (environment "TXCONSOLE_MAX_PAGE_SIZE") (fields.lookup "max_page_size") config.maxPageSize
  retention : Layered Text.readUInt64 readUInt64 600000 flags.retention
    (environment "TXCONSOLE_RETENTION_MS") (fields.lookup "retention_ms") config.retention
  sweepInterval : Written readUInt64 5000 (fields.lookup "sweep_interval_ms") config.sweepInterval
  written : log.WrittenIn (Toml.logField? fields)
  /-- To sync every write leaves the document its say about the checkpoint threshold alone. -/
  log_eq : config.log = if flags.syncLog then
    { checkpointThreshold := log.checkpointThreshold, syncPeriod := 0 } else log
  /-- The other settings of the log are the document's exactly if it has them at their defaults. -/
  log_eq_iff : config.log = log.withSync flags.syncLog ↔ (flags.syncLog = true →
    log.batchTimeout = 2 ∧ log.maxBatchSize = 128 ∧ log.maxUnsyncedBytes = 1048576 ∧
      log.durableWait = 10000)

/-- A document is read in two steps. -/
theorem exists_of_ofToml {document : String} {config : Config}
    (read : ofToml document = .ok config) :
    ∃ fields, Toml.parse? document = some fields ∧ ofFields? fields = some config := by
  refine Option.bind_eq_some_iff.1 ?_
  rw [ofToml] at read
  cases spelled : (Toml.parse? document).bind ofFields? with
  | none =>
    rw [spelled] at read
    nomatch read
  | some written =>
    rw [spelled] at read
    cases read
    rfl

theorem eq_of_validated {config loaded : Config}
    (validated : (do config.validate; return config) = Except.ok loaded) : loaded = config := by
  obtain ⟨_, -, same⟩ := exists_of_bind_eq_ok validated
  exact (Except.ok.inj same).symm

/-- A configuration is loaded from the document in the file that the options name. -/
theorem exists_of_load {file : String → Except Error String} {options : Options} {config : Config}
    (loaded : load file options = .ok config) :
    ∃ (fields : Toml.Fields) (written : Config), DocumentAt file options.config fields ∧
      written.WrittenIn fields ∧ config = written.apply options := by
  cases named : options.config with
  | none =>
    rw [load, named] at loaded
    exact ⟨[], {}, .missing, writtenIn_of_ofFields? ofFields?_nil, eq_of_validated loaded⟩
  | some path =>
    rw [load, named] at loaded
    obtain ⟨document, content, loaded⟩ := exists_of_bind_eq_ok loaded
    obtain ⟨written, read, validated⟩ := exists_of_bind_eq_ok loaded
    obtain ⟨fields, parsed, spelled⟩ := exists_of_ofToml read
    exact ⟨fields, written, .read content parsed, writtenIn_of_ofFields? spelled,
      eq_of_validated validated⟩

variable {environment : String → Option String} {arguments : List String}
  {file : String → Except Error String} {options : Options} {config : Config}

/-- Every field of a configuration that is loaded is decided by the highest layer that has it. The
settings of the log are an exception if an argument asks to sync every write and the document sets
more than the period between syncs and the checkpoint threshold. -/
theorem exists_loadedFrom (given : CommandLine.options environment arguments = .ok options)
    (loaded : load file options = .ok config) :
    ∃ flags fields log, LoadedFrom environment arguments file config flags fields log := by
  obtain ⟨flags, flags_eq, syncLog_eq, supplied⟩ := CommandLine.supplied_of_options given
  obtain ⟨fields, written, document, spelled, rfl⟩ := exists_of_load loaded
  refine ⟨flags, fields, written.log, ?_⟩
  exact {
    layers := ⟨flags_eq, options.config, supplied .config, document⟩
    address := (supplied .bind).layered spelled.address
    dataDir := (supplied .dataDir).layered spelled.dataDir
    lockWait := (supplied .lockWait).layered spelled.lockWait
    maxPageSize := (supplied .maxPageSize).layered spelled.maxPageSize
    retention := (supplied .retention).layered spelled.retention
    sweepInterval := spelled.sweepInterval
    written := spelled.log
    log_eq := by
      rw [← syncLog_eq]
      rfl
    log_eq_iff := by
      rw [← syncLog_eq]
      exact written.log.synced_eq_withSync_iff options.syncLog }

/-- An argument, a variable and a document each decide a field, and the document's wait for a sync
is taken back. -/
theorem exists_loadedFrom_of_settings :
    let environment (name : String) : Option String :=
      if name = "TXCONSOLE_LOCK_WAIT_MS" then some "75" else none
    let arguments := ["--config", "settings", "--retention-ms=9000", "--sync-wal"]
    let file (_ : String) : Except Error String :=
      .ok "lock_wait_ms = 50\nmax_page_size = 20\n[wal]\ndurable_wait_ms = 50\n"
    let options : Options :=
      { config := "settings", lockWait := some 75, retention := some 9000, syncLog := true }
    let config : Config :=
      { lockWait := 75, maxPageSize := 20, retention := 9000, log := { syncPeriod := 0 } }
    CommandLine.options environment arguments = .ok options ∧ load file options = .ok config ∧
      ∃ flags fields log, LoadedFrom environment arguments file config flags fields log := by
  intro environment arguments file options config
  have given : CommandLine.options environment arguments = .ok options := by decide +kernel
  have loaded : load file options = .ok config := by decide +kernel
  exact ⟨given, loaded, exists_loadedFrom given loaded⟩

/-- To sync every write makes the settings of the log differ from the document's in more than the
period between syncs. -/
theorem log_ne_withSync_of_settings :
    ∃ options config,
      CommandLine.options (fun _ => none) ["--sync-wal", "--config", "settings"] = .ok options ∧
      load (fun _ => .ok "[wal]\ndurable_wait_ms = 50\n") options = .ok config ∧
      ∀ flags fields log,
        Layers (fun _ => none) ["--sync-wal", "--config", "settings"]
          (fun _ => .ok "[wal]\ndurable_wait_ms = 50\n") flags fields →
        LogSettings.WrittenIn (Toml.logField? fields) log →
        config.log ≠ log.withSync flags.syncLog := by
  refine ⟨{ config := "settings", syncLog := true }, { log := { syncPeriod := 0 } },
    by decide +kernel, by decide +kernel, fun flags fields log layers spelled same => ?_⟩
  have read : CommandLine.readArguments ["--sync-wal", "--config", "settings"] =
      .ok { config := "settings", syncLog := true } := by decide +kernel
  have waits : (Toml.parse? "[wal]\ndurable_wait_ms = 50\n").map (fun fields =>
      (Toml.logField? fields 5 "durable_wait_ms").bind readUInt64) = some (some 50) := by
    decide +kernel
  obtain ⟨flags_eq, path, named, document⟩ := layers
  cases flags_eq.symm.trans read
  cases named
  cases document with | read content parsed =>
  cases content
  rw [parsed, Option.map_some, Option.some.injEq] at waits
  obtain ⟨field, found, fifty⟩ := Option.bind_eq_some_iff.1 waits
  have fifty' : readUInt64 field = some log.durableWait := by
    have written := readOr_eq_some_iff.2 spelled.durableWait
    rwa [found] at written
  have kept : 10000 = log.durableWait := congrArg LogSettings.durableWait same
  rw [← kept, fifty] at fifty'
  exact absurd fifty' (by decide)

end Config

end SessionRegistry
