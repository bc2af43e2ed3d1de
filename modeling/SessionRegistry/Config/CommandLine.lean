import SessionRegistry.Config.Basic
import SessionRegistry.Text.Basic

/-!
# Command line

What the command line and the environment say about the configuration. An option has a long name,
some have a short one, and each can be given by an environment variable instead. Arguments are read
from the left, and the first one that asks for help or the version, or is wrong, decides. The
environment is looked at afterwards, for the options that no argument gives.

* `apply_none`: without options a configuration stays as it is.
-/

namespace SessionRegistry

/-- An option that has a value. -/
inductive Setting where
  | config
  | bind
  | dataDir
  | lockWait
  | maxPageSize
  | retention
  deriving DecidableEq, Repr, Inhabited

namespace Setting

/-- Every option, in the order of declaration. -/
def all : List Setting :=
  [config, bind, dataDir, lockWait, maxPageSize, retention]

/-- The long name, which follows two hyphens. -/
def longName : Setting → String
  | config => "config"
  | bind => "bind"
  | dataDir => "data-dir"
  | lockWait => "lock-wait-ms"
  | maxPageSize => "max-page-size"
  | retention => "retention-ms"

/-- The short name, which follows one hyphen. -/
def shortName? : Setting → Option Char
  | config => some 'c'
  | bind => some 'b'
  | dataDir => some 'd'
  | _ => none

/-- The environment variable that may give the option. -/
def variableName : Setting → String
  | config => "TXCONSOLE_CONFIG"
  | bind => "TXCONSOLE_BIND"
  | dataDir => "TXCONSOLE_DATA_DIR"
  | lockWait => "TXCONSOLE_LOCK_WAIT_MS"
  | maxPageSize => "TXCONSOLE_MAX_PAGE_SIZE"
  | retention => "TXCONSOLE_RETENTION_MS"

end Setting

/-- The options that have been given. -/
structure Options where
  /-- The file that holds a TOML document. -/
  config : Option String := none
  address : Option Address := none
  dataDir : Option String := none
  lockWait : Option Millis := none
  maxPageSize : Option UInt32 := none
  retention : Option Millis := none
  /-- Whether every write to the log is synced. -/
  syncLog : Bool := false
  deriving DecidableEq, Repr

namespace Options

/-- Whether an option has been given. -/
def has (options : Options) : Setting → Bool
  | .config => options.config.isSome
  | .bind => options.address.isSome
  | .dataDir => options.dataDir.isSome
  | .lockWait => options.lockWait.isSome
  | .maxPageSize => options.maxPageSize.isSome
  | .retention => options.retention.isSome

/-- A path. It is not empty. -/
def readPath (text : String) : Option String :=
  if text = "" then none else some text

/-- A number of 32 bits. It may carry a sign. -/
def readUInt32 (text : String) : Option UInt32 := do
  let n ← Text.readInt 64 text
  if 0 ≤ n ∧ n < UInt32.size then some (UInt32.ofNat n.toNat) else none

/-- Give an option the value that a text spells. An option is not given twice. -/
def give (setting : Setting) (text : String) (options : Options) : Option Options :=
  if options.has setting then none
  else
    match setting with
    | .config => (readPath text).map fun path => { options with config := some path }
    | .bind => (Address.ofText? text).map fun address => { options with address := some address }
    | .dataDir => (readPath text).map fun path => { options with dataDir := some path }
    | .lockWait => (Text.readUInt64 text).map fun n => { options with lockWait := some n }
    | .maxPageSize => (readUInt32 text).map fun n => { options with maxPageSize := some n }
    | .retention => (Text.readUInt64 text).map fun n => { options with retention := some n }

end Options

namespace CommandLine

/-- Why a command line gives no options. -/
inductive Stop where
  | help
  | version
  /-- The command line or the environment is wrong. -/
  | usage
  deriving DecidableEq, Repr, Inhabited

/-- What is expected next. -/
inductive Expected where
  | anything
  /-- The value of an option. -/
  | value (setting : Setting)
  /-- Two hyphens have ended the options, and there is nothing else to be given. -/
  | nothing
  deriving DecidableEq, Repr

/-- The options so far, and what is expected next. -/
abbrev State := Expected × Options

/-- Give an option a value. -/
def giveOption (setting : Setting) (text : List Char) (options : Options) : Except Stop State :=
  match options.give setting (String.ofList text) with
  | some options => .ok (.anything, options)
  | none => .error .usage

/-- Read an argument that begins with two hyphens, without these. -/
def readLong (options : Options) (cs : List Char) : Except Stop State :=
  let name := String.ofList (cs.takeWhile (· != '='))
  match Setting.all.find? (·.longName == name), cs.dropWhile (· != '=') with
  | some setting, [] => .ok (.value setting, options)
  | some setting, _ :: text => giveOption setting text options
  | none, [] =>
    if name = "help" then .error .help
    else if name = "version" then .error .version
    else if name = "sync-wal" ∧ !options.syncLog then
      .ok (.anything, { options with syncLog := true })
    else .error .usage
  | none, _ => .error .usage

/-- Read an argument that begins with one hyphen: the letter after it, and the rest, which is the
value if there is one. -/
def readShort (options : Options) (letter : Char) (rest : List Char) : Except Stop State :=
  if letter = 'h' then .error .help
  else if letter = 'V' then .error .version
  else
    match Setting.all.find? (·.shortName? == some letter), rest with
    | some setting, [] => .ok (.value setting, options)
    -- an equals sign after the letter is no part of the value
    | some setting, '=' :: text => giveOption setting text options
    | some setting, text => giveOption setting text options
    | none, _ => .error .usage

/-- Read an argument. A single hyphen is a value, and no value but it begins with a hyphen. -/
def readArgument : State → String → Except Stop State
  | (.nothing, _), _ => .error .usage
  | (.value setting, options), argument =>
    match argument.toList with
    -- an option where a value is expected
    | '-' :: _ :: _ => .error .usage
    | text => giveOption setting text options
  | (.anything, options), argument =>
    match argument.toList with
    | ['-', '-'] => .ok (.nothing, options)
    | '-' :: '-' :: cs => readLong options cs
    | '-' :: letter :: rest => readShort options letter rest
    | _ => .error .usage

/-- The options that arguments give. -/
def readArguments (arguments : List String) : Except Stop Options := do
  match ← arguments.foldlM readArgument (.anything, {}) with
  | (.value _, _) => .error .usage
  | (_, options) => .ok options

/-- Add an option from the environment, unless it has been given. -/
def addVariable (environment : String → Option String) (options : Options) (setting : Setting) :
    Except Stop Options :=
  match environment setting.variableName with
  | none => .ok options
  | some text =>
    -- a variable that an argument overrides may be wrong
    if options.has setting then .ok options
    else
      match options.give setting text with
      | some options => .ok options
      | none => .error .usage

/-- The options that arguments and environment give. -/
def options (environment : String → Option String) (arguments : List String) :
    Except Stop Options := do
  Setting.all.foldlM (addVariable environment) (← readArguments arguments)

end CommandLine

namespace Config

/-- The configuration with the options that have been given. To sync every write takes back what
else has been set about the log, except for the checkpoint threshold. -/
def apply (options : Options) (config : Config) : Config where
  address := options.address.getD config.address
  dataDir := options.dataDir.getD config.dataDir
  lockWait := options.lockWait.getD config.lockWait
  maxPageSize := options.maxPageSize.getD config.maxPageSize
  retention := options.retention.getD config.retention
  sweepInterval := config.sweepInterval
  log :=
    if options.syncLog then
      { checkpointThreshold := config.log.checkpointThreshold, syncPeriod := 0 }
    else config.log

/-- The configuration that the document of a file and the options make. -/
def load (file : String → Except Error String) (options : Options) : Except Error Config := do
  let config ←
    match options.config with
    | none => pure {}
    | some path => ofToml (← file path)
  let config := config.apply options
  config.validate
  return config

/-- Without options a configuration stays as it is. -/
theorem apply_none (config : Config) : config.apply {} = config :=
  rfl

end Config

end SessionRegistry
