import SessionRegistry.Store.Checkpoint

/-!
# Opening a store

A store is opened on the files that an earlier one left, in whatever state. If log records had to be
replayed, a checkpoint follows at once. No store is opened when there is no number behind the highest
one that was recovered.
-/

namespace SessionRegistry.Store

/-- The store that resumes with what was recovered. It appends to the log file as it is. -/
def resume (settings : StoreSettings) (clock : Millis) (files : Files)
    (recovered : Recovered) : Store where
  settings
  clock
  sessions := recovered.sessions
  locks := .empty
  log := LogWriter.start settings.log files.log
  snapshotFile := files.snapshot
  lsn := recovered.lastLsn
  lastModified := recovered.lastModified
  nextId := recovered.maxId + 1
  bytesSinceCheckpoint := 0
  closed := false
  trail := []

/-- Open a store on the files of an earlier one. -/
def openFiles (settings : StoreSettings) (clock : Millis) (files : Files) : Except Error Store :=
  match recover files with
  | .error e => .error e
  | .ok recovered =>
    let store := resume settings clock files recovered
    -- the number behind the highest one has wrapped around
    if store.nextId = 0 then .error (.internal .overflow)
    else if recovered.replayed = 0 then .ok store
    else
      match checkpoint.run.run store with
      | (.ok _, store) => .ok store
      | (.error e, _) => .error e

/-- The files that a store leaves when it is shut down. -/
def filesAfterShutdown (store : Store) : Files :=
  (shutdown.run.run store).2.files

end SessionRegistry.Store
