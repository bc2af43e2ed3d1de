import SessionRegistry.Log.Frame
import SessionRegistry.Session.Table
import SessionRegistry.Store.Snapshot

/-!
# Recovery

What a store resumes with after a restart: the sessions of the last snapshot, brought up to date by
the log records that the snapshot does not cover, in the order of their positions.
-/

namespace SessionRegistry

/-- The files of a store. -/
structure Files where
  /-- The text of the snapshot file, once there is one. -/
  snapshot : Option String
  /-- The content of the log file. -/
  log : Bytes
  deriving DecidableEq, Repr, Inhabited

/-- What a store resumes with. -/
structure Recovered where
  sessions : SessionTable
  lastLsn : Lsn
  /-- When the last change was made. -/
  lastModified : Millis
  /-- The highest number known to have been handed out. -/
  maxId : UInt64
  /-- The number of log records that the snapshot did not cover. -/
  replayed : Nat

namespace Recovered

/-- What a snapshot alone gives. -/
def ofSnapshot (snapshot : Snapshot) : Recovered where
  sessions := SessionTable.ofList snapshot.sessions
  lastLsn := snapshot.lsn
  lastModified := snapshot.lastModified
  maxId := snapshot.sessions.foldl (fun top session => max top session.maxId) snapshot.maxId
  replayed := 0

/-- Bring the sessions up to date with one record. -/
def replay (state : Recovered) (record : LogRecord) : Recovered :=
  let state :=
    { state with lastLsn := max state.lastLsn record.lsn, replayed := state.replayed + 1 }
  match record.op with
  | .upsert session =>
    { state with
      lastModified := max state.lastModified record.timestamp
      maxId := max state.maxId session.maxId
      sessions := state.sessions.insert session }
  | .remove xid =>
    { state with
      lastModified := max state.lastModified record.timestamp
      sessions := state.sessions.erase xid }
  | .checkpoint _ => state

/-- The records that a snapshot does not cover, in the order of their positions. Records with the
same position keep the order of the file. -/
def uncovered (snapshot : Snapshot) (records : List LogRecord) : List LogRecord :=
  -- a stable sort, so that of two records with one position the later one has the last word
  (records.mergeSort fun a b => decide (a.lsn ≤ b.lsn)).filter fun record =>
    decide (snapshot.lsn < record.lsn)

/-- Replay the records that a snapshot does not cover. -/
def ofParts (snapshot : Snapshot) (records : List LogRecord) : Recovered :=
  (uncovered snapshot records).foldl replay (ofSnapshot snapshot)

end Recovered

/-- What a store resumes with from its files. -/
def recover (files : Files) : Except Error Recovered :=
  (Snapshot.read files.snapshot).map fun snapshot =>
    Recovered.ofParts snapshot (Frame.records files.log)

end SessionRegistry
