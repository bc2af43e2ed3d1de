import SessionRegistry.Store.Basic

/-!
# Checkpoints

A checkpoint writes a snapshot of all sessions and empties the log. It runs in steps, and the files
are complete after each of them: the log is synced, the snapshot file is replaced as a whole, the
log is emptied, and a marker is logged. The marker has the position of the snapshot, so replaying
passes it over.
-/

namespace SessionRegistry.Store

/-- The image of the store as it is now. -/
def image (store : Store) : Snapshot where
  lsn := store.lsn
  timestamp := store.clock
  lastModified := store.lastModified
  maxId := if store.nextId = 0 then 0 else store.nextId - 1
  sessions := store.sessions.toList

/-- Replace the snapshot file. -/
def writeSnapshot (snapshot : Snapshot) : StoreM Unit :=
  modify fun store => { store with snapshotFile := some snapshot.write }

/-- The record that marks a checkpoint at the current position. -/
def marker (store : Store) : LogRecord where
  lsn := store.lsn
  op := .checkpoint store.lsn
  timestamp := store.clock

/-- Write a snapshot of all sessions and empty the log. -/
def checkpoint : StoreM Unit := do
  let store ← get
  discard <| onLog LogWriter.forceSync
  writeSnapshot store.image
  -- the snapshot covers the whole log, which may go now
  onLog LogWriter.truncate
  modify fun store => { store with bytesSinceCheckpoint := 0 }
  discard <| onLog (LogWriter.append store.marker)

/-- Make a checkpoint and take no more changes. A second shutdown does nothing. -/
def shutdown : StoreM Unit := do
  if (← get).closed then
    return
  -- the store is closed from here on, even if the checkpoint fails
  modify fun store => { store with closed := true }
  let result ← attempt checkpoint
  modify fun store => { store with log := store.log.shutdown }
  answer result

end SessionRegistry.Store
