import SessionRegistry.Command.Revision
import SessionRegistry.Store.Commit

/-!
# Execution of commands

Each command takes the lock of its session, revises the current image, and writes the new image if
there is one. A command that does not get the lock in time fails and is never tried again here.
What goes beyond the regular moves of the protocol is written into the audit trail.
-/

namespace SessionRegistry

namespace Store

/-- Revise a session under its lock. The answer is its image before and after. -/
def revise (xid : Xid) (revision : Session → Revision) : StoreM (Session × Session) :=
  withLock xid do
    let before ← load xid
    match ← answer (revision before) with
    | none => return (before, before)
    | some after =>
      discard <| putLocked xid after
      return (before, after)

/-- Announce a command. -/
def announce (command : Command) : StoreM Unit :=
  tell (.command command)

/-- Remove a session that has ended, with all of its branches. -/
def deleteSession (xid : Xid) : StoreM Unit := do
  announce (.deleteSession xid)
  withLock xid do
    let session ← load xid
    unless session.status.isTerminal do
      throw (.stillActive (.session xid session.status))
    discard <| removeLocked xid

/-- Remove a session, whatever its status. -/
def forceDeleteSession (xid : Xid) : StoreM Unit := do
  announce (.forceDeleteSession xid)
  let removed ← withLock xid (removeLocked xid)
  tell (.audit (.forceDeletedSession xid removed.status removed.branches.length))

/-- Stop an active session. Stopping a stopped one changes nothing. -/
def stopSession (xid : Xid) : StoreM Unit := do
  announce (.stopSession xid)
  discard <| revise xid Session.stop

/-- Let a stopped session go on with the status that it had before. -/
def startSession (xid : Xid) : StoreM Unit := do
  announce (.startSession xid)
  discard <| revise xid Session.restart

/-- Send a session towards commit or rollback. The answer is its new status. -/
def sendOutcome (xid : Xid) (direction : Option Direction) : StoreM GlobalStatus := do
  announce (.sendOutcome xid direction)
  let (_, after) ← revise xid (Session.sendOutcome direction)
  return after.status

/-- Override the status of a session. The answer is its new status. -/
def changeStatus (xid : Xid) (status : Option GlobalStatus) : StoreM GlobalStatus := do
  announce (.changeStatus xid status)
  if status = some .suspended then
    throw (.invalidArgument .suspensionRequested)
  let (before, after) ← revise xid (Session.changeStatus status)
  unless before.status = after.status do
    tell (.audit (.changedStatus xid before.status after.status))
  return after.status

/-- Remove one branch that has ended. -/
def deleteEndedBranch (xid : Xid) (id : BranchId) : StoreM Unit := do
  announce (.deleteBranch xid id)
  discard <| revise xid (Session.dropBranch id)

/-- Remove one branch, whatever its status. -/
def forceDeleteBranch (xid : Xid) (id : BranchId) : StoreM Unit := do
  announce (.forceDeleteBranch xid id)
  let (before, _) ← revise xid (Session.forceDropBranch id)
  -- the audit trail shows the status that the branch had
  for branch in before.branch? id do
    tell (.audit (.forceDeletedBranch xid id branch.status))

/-- Stop a branch that has not entered phase two. Stopping a stopped one changes nothing. -/
def stopBranch (xid : Xid) (id : BranchId) : StoreM Unit := do
  announce (.stopBranch xid id)
  discard <| revise xid (Session.stopBranch id)

/-- Let a stopped branch go on with the status that it had before. -/
def startBranch (xid : Xid) (id : BranchId) : StoreM Unit := do
  announce (.startBranch xid id)
  discard <| revise xid (Session.restartBranch id)

/-- Release a row in one session. The answer is the number of branches that lost it. -/
def releaseIn (target : LockTarget) (xid : Xid) : StoreM Nat := do
  let (before, _) ← revise xid (Session.releaseRow target)
  let (count, _) := target.release before
  if 0 < count then
    tell (.audit (.releasedRow xid target.resourceId target.row count))
  return count

/-- Release a row in several sessions. A session that is gone by now is passed over, unless the
target names it. -/
def releaseInAll (target : LockTarget) : List Xid → StoreM Nat
  | [] => return 0
  | xid :: rest => do
    let count ← match ← attempt (releaseIn target xid), target.xid with
      | .ok count, _ => pure count
      | .error (.notFound _), none => pure 0
      | .error e, _ => throw e
    return count + (← releaseInAll target rest)

/-- The sessions in which a row is to be released: the one that the target names, or all that hold
the row. -/
def targets (target : LockTarget) (store : Store) : List Xid :=
  match target.xid with
  | some xid => [xid]
  | none => (store.sessions.toList.filter target.heldBy).map Session.xid

/-- Release a row from the branches that hold it. The answer is their number, and there must be
one. -/
def deleteLock (target : LockTarget) : StoreM Nat := do
  announce (.deleteLock target)
  answer target.validate
  -- the sessions are chosen before the first of them is locked
  let released ← releaseInAll target (targets target (← get))
  if released = 0 then
    throw (.notFound (.rowLock target.resourceId target.row.table target.row.key))
  return released

end Store

/-- What a command answers. -/
inductive Command.Reply where
  | done
  /-- The status that the session was moved to. -/
  | status (status : GlobalStatus)
  /-- The number of branches that released the row. -/
  | released (count : Nat)
  deriving DecidableEq, Repr

/-- Carry out a command. -/
def Command.execute : Command → StoreM Command.Reply
  | deleteSession xid => do Store.deleteSession xid; return .done
  | forceDeleteSession xid => do Store.forceDeleteSession xid; return .done
  | stopSession xid => do Store.stopSession xid; return .done
  | startSession xid => do Store.startSession xid; return .done
  | sendOutcome xid direction => return .status (← Store.sendOutcome xid direction)
  | changeStatus xid status => return .status (← Store.changeStatus xid status)
  | deleteBranch xid id => do Store.deleteEndedBranch xid id; return .done
  | forceDeleteBranch xid id => do Store.forceDeleteBranch xid id; return .done
  | stopBranch xid id => do Store.stopBranch xid id; return .done
  | startBranch xid id => do Store.startBranch xid id; return .done
  | deleteLock target => return .released (← Store.deleteLock target)

end SessionRegistry
