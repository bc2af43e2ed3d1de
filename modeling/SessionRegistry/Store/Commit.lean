import SessionRegistry.Store.Checkpoint

/-!
# Changes of a store

A change is logged at the next position, waits until it is durable, and is published then. When
enough bytes have been logged a checkpoint follows. The operations here are those of the holder of
a session's lock.
-/

namespace SessionRegistry.Store

/-- The sessions after a logged operation. -/
def publish (sessions : SessionTable) : LogOperation → SessionTable
  | .upsert session => sessions.insert session
  | .remove xid => sessions.erase xid
  | .checkpoint _ => sessions

/-- Log an operation at the next position and wait until it is durable. The position is used up
even if that fails. Behind the last position there is none: the counter wraps around, and nothing is
logged. The answer is the number of bytes logged. -/
def logDurably (op : LogOperation) : StoreM Nat := do
  modify fun store => { store with lsn := store.lsn + 1 }
  let store ← get
  if store.lsn = 0 then throw (.internal .overflow)
  else onLog (LogWriter.appendDurable { lsn := store.lsn, op, timestamp := store.clock })

/-- Make a logged operation visible. -/
def publishOperation (op : LogOperation) : StoreM Unit :=
  modify fun store =>
    { store with
      sessions := publish store.sessions op
      lastModified := max store.lastModified store.clock }

/-- Count the bytes that were logged, and make a checkpoint when there are enough of them. The
change stands also if the checkpoint fails. -/
def countBytes (bytes : Nat) : StoreM Unit := do
  modify fun store =>
    { store with bytesSinceCheckpoint := store.bytesSinceCheckpoint + UInt64.ofNat bytes }
  let store ← get
  -- exactly as many bytes as the threshold says are not enough
  if store.settings.log.checkpointThreshold < store.bytesSinceCheckpoint then
    discard <| attempt checkpoint

/-- Make a change: log it, publish it, and make a checkpoint if one is due. -/
def commit (op : LogOperation) : StoreM Modification := do
  let bytes ← logDurably op
  publishOperation op
  countBytes bytes
  return (← get).modification

/-- The first branch that names another session than its own, or whose number occurs before it. -/
def checkBranches (owner : Xid) : List BranchId → List Branch → Except Error Unit
  | _, [] => .ok ()
  | seen, branch :: rest =>
    if branch.xid ≠ owner then
      .error (.invalidArgument (.foreignBranch branch.id branch.xid owner))
    else if branch.id ∈ seen then
      .error (.invalidArgument (.duplicateBranch branch.id owner))
    else checkBranches owner (branch.id :: seen) rest

/-- Refuse an image that does not belong under the lock of an xid, or that would corrupt the
store. -/
def checkImage (locked : Xid) (session : Session) : Except Error Unit := do
  if session.xid ≠ locked then
    throw (.invalidArgument (.xidMismatch session.xid locked))
  if Text.isBlankText session.xid then
    throw (.invalidArgument .blankXid)
  checkBranches session.xid [] session.branches

/-- The session whose lock is held, or the error that there is none. -/
def load (xid : Xid) : StoreM Session := do
  answer ((← get).session xid)

/-- Write a new image of the session whose lock is held. -/
def putLocked (locked : Xid) (session : Session) : StoreM Modification := do
  answer (checkImage locked session)
  commit (.upsert { session with modifiedTime := (← get).clock })

/-- Remove the session whose lock is held. The answer is what was removed. -/
def removeLocked (xid : Xid) : StoreM Session := do
  let session ← load xid
  discard <| commit (.remove xid)
  return session

/-- Remove a branch of the session whose lock is held. The answer is what was removed. -/
def removeBranchLocked (xid : Xid) (id : BranchId) : StoreM Branch := do
  let session ← load xid
  match session.branch? id with
  | none => throw (.notFound (.branch xid id))
  | some branch =>
    discard <| putLocked xid (session.removeBranch id)
    return branch

/-- Insert or replace a session with its branches. -/
def put (session : Session) : StoreM Modification :=
  withLock session.xid (putLocked session.xid session)

/-- Remove a session and all of its branches. -/
def delete (xid : Xid) : StoreM Session :=
  withLock xid (removeLocked xid)

/-- Remove one branch of a session. -/
def deleteBranch (xid : Xid) (id : BranchId) : StoreM Branch :=
  withLock xid (removeBranchLocked xid id)

end SessionRegistry.Store
