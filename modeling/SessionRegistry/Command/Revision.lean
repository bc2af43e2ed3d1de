import SessionRegistry.Command.Notice
import SessionRegistry.RowLock.Basic

/-!
# Revisions of a session

What commands and reports do to the image of one session. A revision refuses, finds that nothing has
to change, or gives the new image. Nothing here reads or writes a store.

Commands set the status as the operator wishes; reports only make the moves of the protocol, and a
stopped session or branch refuses them.
-/

namespace SessionRegistry

/-- What becomes of an image: `none` where nothing has to change. -/
abbrev Revision := Except Error (Option Session)

/-- The retrying status that takes a failed session up again. -/
def GlobalStatus.remedy? : GlobalStatus → Option GlobalStatus
  | commitFailed => some commitRetrying
  | rollbackFailed => some rollbackRetrying
  | timeoutRollbackFailed => some timeoutRollbackRetrying
  | _ => none

/-- The direction in which a status leans. -/
def GlobalStatus.leaning (status : GlobalStatus) : Direction :=
  if status.leansCommit then .commit else .rollback

namespace Session

/-- The session with another status, or nothing to change where it has that status. -/
def moveTo (session : Session) (target : GlobalStatus) : Option Session :=
  if session.status = target then none else some { session with status := target }

/-- Stop an active session. A stopped one stays as it is. -/
def stop (session : Session) : Revision :=
  if session.status = .suspended then .ok none
  else if session.status.isTerminal then
    .error (.invalidState (.sessionEnded session.xid session.status))
  else
    .ok (some { session with status := .suspended, suspendedFrom := some session.status })

/-- Let a stopped session go on with the status that it had before. -/
def restart (session : Session) : Revision :=
  if session.status ≠ .suspended then
    .error (.invalidState (.sessionNotStopped session.xid session.status))
  else
    .ok (some
      { session with status := session.suspendedFrom.getD .begin, suspendedFrom := none })

/-- Send a session towards commit or rollback, without a direction the way it leans. -/
def sendOutcome (direction : Option Direction) (session : Session) : Revision :=
  if session.status.isTerminal ∨ session.status = .suspended then
    .error (.invalidState (.outcomeNotSendable session.xid session.status))
  else
    .ok (session.moveTo (direction.getD session.status.leaning).target)

/-- Override the status, without a status by the one that takes a failed session up again. -/
def changeStatus (status : Option GlobalStatus) (session : Session) : Revision :=
  if session.status = .suspended then
    .error (.invalidState (.changeWhileStopped session.xid))
  else
    match status with
    | some target =>
      if target.isConsistentWith session.branchStatuses then .ok (session.moveTo target)
      else .error (.invalidState (.branchesDisagree session.xid target))
    | none =>
      match session.status.remedy? with
      | some target => .ok (session.moveTo target)
      | none => .error (.invalidState (.nothingToRemedy session.xid session.status))

/-- A branch of a given number, or the error that there is none. -/
def requireBranch (session : Session) (id : BranchId) : Except Error Branch :=
  match session.branch? id with
  | some branch => .ok branch
  | none => .error (.notFound (.branch session.xid id))

/-- A branch that an operator may manage. The branches of a Saga are not managed one by one. -/
def steerableBranch (session : Session) (id : BranchId) : Except Error Branch :=
  if session.isSaga then .error (.invalidState (.sagaBranches session.xid))
  else session.requireBranch id

/-- Remove a branch that has ended. -/
def dropBranch (id : BranchId) (session : Session) : Revision := do
  let branch ← session.steerableBranch id
  if branch.status.isTerminal then return some (session.removeBranch id)
  else throw (.stillActive (.branch id branch.status))

/-- Remove a branch, whatever its status. -/
def forceDropBranch (id : BranchId) (session : Session) : Revision := do
  discard <| session.steerableBranch id
  return some (session.removeBranch id)

/-- Stop a branch that has not entered phase two. A stopped one stays as it is. -/
def stopBranch (id : BranchId) (session : Session) : Revision := do
  let branch ← session.steerableBranch id
  if branch.status = .suspended then return none
  else if branch.status.isStoppable then
    return some <| session.modifyBranch id fun branch =>
      { branch with status := .suspended, suspendedFrom := some branch.status }
  else throw (.invalidState (.branchNotStoppable id branch.status))

/-- Let a stopped branch go on with the status that it had before. -/
def restartBranch (id : BranchId) (session : Session) : Revision := do
  let branch ← session.steerableBranch id
  if branch.status ≠ .suspended then throw (.invalidState (.branchNotStopped id branch.status))
  else
    return some <| session.modifyBranch id fun branch =>
      { branch with status := branch.suspendedFrom.getD .registered, suspendedFrom := none }

/-- Release a row. Nothing has to change where no branch of the session loses it. -/
def releaseRow (target : LockTarget) (session : Session) : Revision :=
  let (released, after) := target.release session
  .ok (if 0 < released then some after else none)

/-- Take the outcome that a branch reports. -/
def reportBranch (id : BranchId) (status : BranchStatus) (now : Millis) (session : Session) :
    Revision := do
  if session.status = .suspended then throw (.invalidState (.sessionStopped session.xid))
  let branch ← session.requireBranch id
  if branch.status = .suspended then throw (.invalidState (.branchStopped id session.xid))
  if branch.status.canMoveTo status then
    return some <| session.modifyBranch id fun branch =>
      { branch with status, modifiedTime := now }
  else throw (.invalidState (.branchMove id branch.status status))

/-- Take the outcome that is reported for the session. -/
def report (status : GlobalStatus) (session : Session) : Revision := do
  if session.status = .suspended then throw (.invalidState (.sessionStopped session.xid))
  if ¬ session.status.canMoveTo status then
    throw (.invalidState (.globalMove session.xid session.status status))
  if ¬ status.isConsistentWith session.branchStatuses then
    throw (.invalidState (.branchesUnfinished session.xid status))
  return some { session with status }

end Session

end SessionRegistry
