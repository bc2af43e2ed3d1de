import SessionRegistry.Command.Notice
import SessionRegistry.Log.Writer
import SessionRegistry.Store.LockTable
import SessionRegistry.Store.Recovery

/-!
# The session store

A store holds the sessions in memory and, on disk, a snapshot and a log of the changes since. A
change is logged and made durable first and published after that, so that readers see the old image
of a session or the new one and never a mix.

An operation is a step of type `StoreM`: it answers or fails, and either way it leaves a store. What
a failed operation has already done stays done.
-/

namespace SessionRegistry

/-- How a store works. -/
structure StoreSettings where
  /-- For how long an operation waits for the lock of a session. -/
  lockWait : Millis := 500
  /-- For how long a reader waits for the sessions. -/
  readWait : Millis := 200
  log : LogSettings := {}
  deriving DecidableEq, Repr, Inhabited

/-- The latest successful change. -/
structure Modification where
  lsn : Lsn
  timestamp : Millis
  deriving DecidableEq, Repr, Inhabited

/-- A session store: its sessions, its files and its counters. -/
structure Store where
  settings : StoreSettings
  /-- The reading of the clock. -/
  clock : Millis
  /-- The published images. -/
  sessions : SessionTable
  locks : LockTable
  /-- The log file and its writer. -/
  log : LogWriter
  /-- The text of the snapshot file, once there is one. -/
  snapshotFile : Option String
  /-- The position of the latest change. -/
  lsn : Lsn
  /-- When the latest change was made. -/
  lastModified : Millis
  /-- The next number for a transaction or a branch. -/
  nextId : UInt64
  /-- The bytes logged since the last checkpoint. -/
  bytesSinceCheckpoint : UInt64
  /-- Whether the store has been shut down. -/
  closed : Bool
  /-- What the store has told about its work, the latest last. -/
  trail : List Notice

/-- An operation on a store. -/
abbrev StoreM := ExceptT Error (StateM Store)

namespace Store

/-- The files of a store as they are now. -/
def files (store : Store) : Files where
  snapshot := store.snapshotFile
  log := store.log.file

/-- The latest successful change. -/
def modification (store : Store) : Modification where
  lsn := store.lsn
  timestamp := store.lastModified

/-- The session with a given xid, or the error that there is none. -/
def session (store : Store) (xid : Xid) : Except Error Session :=
  match store.sessions.get? xid with
  | some session => .ok session
  | none => .error (.notFound (.session xid))

/-- The branch of a given number, or the error that there is none. -/
def branch (store : Store) (xid : Xid) (id : BranchId) : Except Error Branch :=
  match store.session xid with
  | .error e => .error e
  | .ok session =>
    match session.branch? id with
    | some branch => .ok branch
    | none => .error (.notFound (.branch xid id))

/-- The branches of a session, in the order of registration. -/
def branches (store : Store) (xid : Xid) : Except Error (List Branch) :=
  (store.session xid).map Session.branches

/-- Whether a session exists and has a branch of a given number. -/
def ownsBranch (store : Store) (xid : Xid) (id : BranchId) : Bool :=
  (store.sessions.get? xid).any (·.hasBranch id)

/-- Add to what the store tells about its work. -/
def tell (notice : Notice) : StoreM Unit :=
  modify fun store => { store with trail := store.trail ++ [notice] }

/-- The answer of a computation that does not touch the store. -/
def answer {α : Type} (result : Except Error α) : StoreM α :=
  liftExcept result

/-- Do something and report how it ended. -/
def attempt {α : Type} (act : StoreM α) : StoreM (Except Error α) :=
  ExceptT.lift act.run

/-- A step of the log's writer. -/
def onLog {α : Type} (step : LogM α) : StoreM α := do
  let (result, log) := step.run.run (← get).log
  modify fun store => { store with log }
  answer result

/-- The store must not have been shut down. -/
def requireOpen : StoreM Unit := do
  if (← get).closed then
    throw (.internal .storeClosed)

/-- Take the lock of a session. -/
def lock (xid : Xid) : StoreM Unit := do
  requireOpen
  let store ← get
  let locks ← answer (store.locks.acquire xid store.settings.lockWait)
  modify fun store => { store with locks }

/-- Give the lock of a session back. -/
def unlock (xid : Xid) : StoreM Unit :=
  modify fun store => { store with locks := store.locks.release xid }

/-- Do something under the lock of a session. The lock is given back whether that fails or not. -/
def withLock {α : Type} (xid : Xid) (act : StoreM α) : StoreM α := do
  lock xid
  let result ← attempt act
  unlock xid
  answer result

/-- Hand out a number. -/
def takeId : StoreM UInt64 := do
  let id := (← get).nextId
  modify fun store => { store with nextId := store.nextId + 1 }
  return id

end Store

end SessionRegistry
