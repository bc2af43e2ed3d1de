import SessionRegistry.Config.Address
import SessionRegistry.Store.Basic
import SessionRegistry.Toml.Document

/-!
# Configuration

What a registry can be configured with. A configuration starts from the defaults, and a TOML
document replaces the fields that it names; fields that are not known are passed over.

* `ofFields?_nil`: a document without fields leaves the defaults.
-/

namespace SessionRegistry

/-- The configuration of a registry. -/
structure Config where
  /-- The address that the console listens on. -/
  address : Address := { host := .four 127 0 0 1, service := 7091 }
  /-- The directory of the log and the snapshot. -/
  dataDir : String := "./data"
  /-- For how long a command waits for the lock of a session. -/
  lockWait : Millis := 500
  /-- The greatest page size that a query may ask for. -/
  maxPageSize : UInt32 := 100
  /-- For how long a session that has ended is kept after its last change. -/
  retention : Millis := 600000
  /-- The time between two sweeps. -/
  sweepInterval : Millis := 5000
  log : LogSettings := {}
  deriving DecidableEq, Repr

namespace Config

/-- The positive fields must be positive. -/
def validate (config : Config) : Except Error Unit :=
  if config.maxPageSize = 0 then .error (.invalidArgument .zeroPageSize)
  else if config.sweepInterval = 0 then .error (.invalidArgument .zeroSweepInterval)
  else .ok ()

/-- How the store works under the configuration. -/
def storeSettings (config : Config) : StoreSettings where
  lockWait := config.lockWait
  log := config.log

/-- The number of 64 bits that a value of a document is. -/
def readUInt64 : Toml → Option UInt64
  | .integer n => if 0 ≤ n ∧ n < UInt64.size then some (UInt64.ofNat n.toNat) else none
  | _ => none

/-- The number of 32 bits that a value of a document is. -/
def readUInt32 : Toml → Option UInt32
  | .integer n => if 0 ≤ n ∧ n < UInt32.size then some (UInt32.ofNat n.toNat) else none
  | _ => none

/-- The text that a value of a document is. -/
def readText : Toml → Option String
  | .text s => some s
  | _ => none

/-- The address that a value of a document spells. -/
def readAddress (value : Toml) : Option Address := do
  Address.ofText? (← readText value)

/-- A field that may be missing, for which there is a default. -/
def readOr {α : Type} (default : α) (read : Toml → Option α) : Option Toml → Option α
  | none => some default
  | some value => read value

/-- The settings of the log whose fields are found by the given function. -/
def logSettingsFrom (field? : Nat → String → Option Toml) : Option LogSettings := do
  let defaults : LogSettings := {}
  return {
    batchTimeout := ← readOr defaults.batchTimeout readUInt64 (field? 0 "batch_timeout_ms")
    maxBatchSize := ← readOr defaults.maxBatchSize readUInt64 (field? 1 "max_batch_size")
    checkpointThreshold :=
      ← readOr defaults.checkpointThreshold readUInt64 (field? 2 "checkpoint_threshold_bytes")
    syncPeriod := ← readOr defaults.syncPeriod readUInt64 (field? 3 "fsync_interval_ms")
    maxUnsyncedBytes :=
      ← readOr defaults.maxUnsyncedBytes readUInt64 (field? 4 "max_unfsynced_bytes")
    durableWait := ← readOr defaults.durableWait readUInt64 (field? 5 "durable_wait_ms") }

/-- The settings of the log that a value spells. A table gives the fields by name, an array by
position, and a date none of them. -/
def readLogSettings : Toml → Option LogSettings
  | .table _ fields => logSettingsFrom fun _ name => fields.lookup name
  | .array items => logSettingsFrom fun i _ => items[i]?
  | .tables items => logSettingsFrom fun i _ => items[i]?.map (.table .header)
  | .dateTime => some {}
  | _ => none

/-- The configuration that the fields of a document spell. -/
def ofFields? (fields : Toml.Fields) : Option Config := do
  let defaults : Config := {}
  return {
    address := ← readOr defaults.address readAddress (fields.lookup "bind_addr")
    dataDir := ← readOr defaults.dataDir readText (fields.lookup "data_dir")
    lockWait := ← readOr defaults.lockWait readUInt64 (fields.lookup "lock_wait_ms")
    maxPageSize := ← readOr defaults.maxPageSize readUInt32 (fields.lookup "max_page_size")
    retention := ← readOr defaults.retention readUInt64 (fields.lookup "retention_ms")
    sweepInterval := ← readOr defaults.sweepInterval readUInt64 (fields.lookup "sweep_interval_ms")
    log := ← readOr defaults.log readLogSettings (fields.lookup "wal") }

/-- The configuration that a document spells. -/
def ofToml (document : String) : Except Error Config :=
  match (Toml.parse? document).bind ofFields? with
  | some config => .ok config
  | none => .error (.invalidArgument .config)

/-- A document without fields leaves the defaults. -/
theorem ofFields?_nil : ofFields? [] = some {} :=
  rfl

end Config

end SessionRegistry
