import SessionRegistry.Config.CommandLine
import SessionRegistry.Console.Router
import SessionRegistry.Json.Basic
import SessionRegistry.Store.Opening

/-!
# The registry as a program

The program opens the store of its data directory and serves the console on its standard streams.
Each line of the input is a request, `time method target` with the time in milliseconds since the
epoch, and is answered by one line with the status and the body of the response. The files of the
store are written before the answer, and when the input ends the store is shut down.
-/

namespace SessionRegistry.Program

/-- What `--help` prints. -/
def help : String :=
  "Distributed transaction session console\n\n"
    ++ "Usage: txconsole [OPTIONS]\n\n"
    ++ "Options:\n"
    ++ "  -c, --config <CONFIG>                TOML configuration file\n"
    ++ "  -b, --bind <BIND_ADDR>               Address to bind the HTTP console to\n"
    ++ "  -d, --data-dir <DATA_DIR>            Data directory for the session WAL and snapshot\n"
    ++ "      --lock-wait-ms <LOCK_WAIT_MS>    Per-session lock wait in milliseconds\n"
    ++ "      --max-page-size <MAX_PAGE_SIZE>  Maximum page size accepted by queries\n"
    ++ "      --retention-ms <RETENTION_MS>    Retention of finished sessions in milliseconds\n"
    ++ "      --sync-wal                       fsync every WAL batch instead of deferring\n"
    ++ "  -h, --help                           Print help\n"
    ++ "  -V, --version                        Print version"

/-- What `--version` prints. -/
def version : String :=
  "txconsole 0.1.0"

/-- The path of the log in a data directory. -/
def logPath (dir : String) : String :=
  dir ++ "/sessions.wal"

/-- The path of the snapshot in a data directory. -/
def snapshotPath (dir : String) : String :=
  dir ++ "/sessions.snapshot.json"

/-- The words for a failed access to a file. -/
def ioText : IO.Error → String
  | .noFileOrDirectory .. => "No such file or directory (os error 2)"
  | e => toString e

/-- Read a file as text. -/
def readText (path : String) : IO (Except Error String) := do
  match ← (IO.FS.readFile path).toBaseIO with
  | .ok text => return .ok text
  | .error e => return .error (.internal (.io (ioText e)))

/-- The files of a data directory. -/
def readFiles (dir : String) : IO Files := do
  IO.FS.createDirAll dir
  let log ← (IO.FS.readBinFile (logPath dir)).toBaseIO
  let snapshot ← (IO.FS.readFile (snapshotPath dir)).toBaseIO
  return {
    log := (log.toOption.map fun bytes => bytes.toList).getD []
    snapshot := snapshot.toOption }

/-- Write the files of a store where they have changed. The snapshot is replaced as a whole. -/
def writeFiles (dir : String) (old new : Files) : IO Unit := do
  if old.snapshot ≠ new.snapshot then
    for text in new.snapshot do
      IO.FS.writeFile (snapshotPath dir ++ ".tmp") text
      IO.FS.rename (snapshotPath dir ++ ".tmp") (snapshotPath dir)
  if old.log ≠ new.log then
    IO.FS.writeBinFile (logPath dir) ⟨new.log.toArray⟩

/-- The line that shows a response. -/
def responseLine (response : Response) : String :=
  let body := match response.body with
    | .empty => ""
    | .text s => s
    | .json value => value.render
  s!"{response.status} {body}"

/-- The time and the request of a line. -/
def readRequest (line : String) : Option (Millis × Request) :=
  match line.splitOn " " with
  | [time, method, target] =>
    (Text.readUInt64 time).map fun now => (now, { method := Method.ofName method, target })
  | _ => none

/-- The line that a notice of the store leaves in the program's journal. -/
def noticeLine : Notice → String
  | .command c => "INFO command: " ++ c.announcement
  | .audit e => "WARN audit: " ++ e.text

/-- Serve requests until the input ends. -/
partial def serve (config : Config) (store : Store) (input output journal : IO.FS.Stream) :
    IO Store := do
  let line ← input.getLine
  if line.isEmpty then return store
  match readRequest (line.trimAsciiEnd.toString) with
  | none =>
    output.putStrLn "400 expected: time method target"
    serve config store input output journal
  | some (clock, request) =>
    let (response, next) := (request.serve config.maxPageSize).run { store with clock }
    writeFiles config.dataDir store.files next.files
    for notice in next.trail do
      journal.putStrLn (noticeLine notice)
    output.putStrLn (responseLine response)
    output.flush
    serve config { next with trail := [] } input output journal

/-- Open the store, serve, and shut the store down. -/
def run (config : Config) : IO UInt32 := do
  let journal ← IO.getStderr
  let files ← readFiles config.dataDir
  match Store.openFiles config.storeSettings 0 files with
  | .error e =>
    journal.putStrLn e.message
    return 1
  | .ok store =>
    writeFiles config.dataDir files store.files
    journal.putStrLn s!"Data directory: {config.dataDir}"
    let store ← serve config store (← IO.getStdin) (← IO.getStdout) journal
    writeFiles config.dataDir store.files store.filesAfterShutdown
    return 0

/-- The environment variables that may give options. -/
def readEnvironment : IO (String → Option String) := do
  let given ← Setting.all.filterMapM fun setting => do
    return (← IO.getEnv setting.variableName).map fun text => (setting.variableName, text)
  return fun name => given.lookup name

end SessionRegistry.Program

section

open SessionRegistry SessionRegistry.Program

/-- Read the command line and the environment, and run the registry. -/
def main (arguments : List String) : IO UInt32 := do
  match CommandLine.options (← readEnvironment) arguments with
  | .error .help =>
    IO.println help
    return 0
  | .error .version =>
    IO.println version
    return 0
  | .error .usage =>
    IO.eprintln "error: wrong arguments\n\nFor more information, try '--help'."
    return 2
  | .ok options =>
    let document ← match options.config with
      | none => pure (.ok "")
      | some path => readText path
    match Config.load (fun _ => document) options with
    | .ok config => run config
    | .error e =>
      IO.eprintln e.message
      return 1

end
