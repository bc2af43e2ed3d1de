import SessionRegistry.Command.Execution

/-!
# Coordination

The updates that the live transaction coordinator makes: it begins sessions, registers branches and
reports outcomes. Unlike commands these always make the regular moves of the protocol.
-/

namespace SessionRegistry

/-- What is registered as a branch. -/
structure Registration where
  type : BranchType
  resourceId : String
  lockKey : Option String := none
  clientId : Option String := none
  applicationData : Option String := none
  deriving DecidableEq, Repr

/-- The branch of a registration. -/
def Session.registeredBranch (session : Session) (registration : Registration) (id : BranchId)
    (now : Millis) : Branch :=
  { session.newBranch id registration.type registration.resourceId now with
    lockKey := registration.lockKey
    clientId := registration.clientId
    applicationData := registration.applicationData }

namespace Store

/-- Begin a session. Its xid is the coordinator's address and a fresh number. The answer is the
xid. -/
def begin (address applicationId serviceGroup name : String) (timeout : Millis) : StoreM Xid := do
  if Text.isBlankText applicationId then
    throw (.invalidArgument .blankApplication)
  -- the number is used up even if the session cannot be stored
  let transactionId ← takeId
  let xid := s!"{address}:{transactionId}"
  let session := Session.start xid transactionId applicationId name (← get).clock
  discard <| put { session with serviceGroup, timeout }
  return xid

/-- Register a branch with a session that has just begun. The answer is the branch's number. -/
def register (xid : Xid) (registration : Registration) : StoreM BranchId :=
  withLock xid do
    let session ← load xid
    if session.status ≠ .begin then
      throw (.invalidState (.registrationClosed xid session.status))
    let id ← takeId
    let branch := session.registeredBranch registration id (← get).clock
    discard <| putLocked xid (session.addBranch branch)
    return id

/-- Take the outcome that a branch reports. -/
def reportBranch (xid : Xid) (id : BranchId) (status : BranchStatus) : StoreM Unit := do
  let now := (← get).clock
  discard <| revise xid (Session.reportBranch id status now)

/-- Take the outcome that is reported for a session. -/
def reportSession (xid : Xid) (status : GlobalStatus) : StoreM Unit := do
  discard <| revise xid (Session.report status)

end Store

end SessionRegistry
