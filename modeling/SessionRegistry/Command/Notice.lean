import SessionRegistry.RowLock.Basic

/-!
# Commands and notices

The commands that an operator can give, and the notices that a registry leaves of them: each command
is announced when it is given, and what it does beyond the regular moves of the protocol is
written into the audit trail.
-/

namespace SessionRegistry

/-! ## Directions -/

/-- Where an operator sends a session. -/
inductive Direction where
  | commit
  | rollback
  deriving DecidableEq, Repr, Inhabited

namespace Direction

/-- The readable name. -/
def name : Direction → String
  | commit => "commit"
  | rollback => "rollback"

/-- The status that a session sent in this direction gets. -/
def target : Direction → GlobalStatus
  | commit => .committing
  | rollback => .rollbacking

/-- Read a direction, in any letter case and with blank characters around it. -/
def ofText (text : String) : Except Error Direction :=
  let word := Text.lowerASCII (Text.trim text)
  if word = commit.name then .ok commit
  else if word = rollback.name then .ok rollback
  else .error (.invalidArgument (.unreadable (.action word)))

end Direction

/-! ## Commands -/

/-- What an operator can ask for. -/
inductive Command where
  | deleteSession (xid : Xid)
  | forceDeleteSession (xid : Xid)
  | stopSession (xid : Xid)
  | startSession (xid : Xid)
  /-- Send a session towards commit or rollback; without a direction, the way it already leans. -/
  | sendOutcome (xid : Xid) (direction : Option Direction)
  /-- Override the status; without a status, move a failed session to its retrying status. -/
  | changeStatus (xid : Xid) (status : Option GlobalStatus)
  | deleteBranch (xid : Xid) (id : BranchId)
  | forceDeleteBranch (xid : Xid) (id : BranchId)
  | stopBranch (xid : Xid) (id : BranchId)
  | startBranch (xid : Xid) (id : BranchId)
  /-- Release a row from the branches that hold it. -/
  | deleteLock (target : LockTarget)
  deriving DecidableEq, Repr

/-- The announcement of a command. -/
def Command.announcement : Command → String
  | deleteSession xid => s!"delete global session, xid = {xid}"
  | forceDeleteSession xid => s!"force delete global session, xid = {xid}"
  | stopSession xid => s!"stop global session, xid = {xid}"
  | startSession xid => s!"start global session, xid = {xid}"
  | sendOutcome xid direction =>
    let action := match direction with
      | none => "auto"
      | some direction => direction.name
    s!"send commit or rollback, xid = {xid}, action = {action}"
  | changeStatus xid _ => s!"change global status, xid = {xid}"
  | deleteBranch xid id => s!"delete branch session, xid = {xid}, branchId = {id}"
  | forceDeleteBranch xid id => s!"force delete branch session, xid = {xid}, branchId = {id}"
  | stopBranch xid id => s!"stop branch session, xid = {xid}, branchId = {id}"
  | startBranch xid id => s!"start branch session, xid = {xid}, branchId = {id}"
  | deleteLock target =>
    s!"delete global lock, resourceId = {target.resourceId}, "
      ++ s!"tableName = {target.row.table}, pk = {target.row.key}"

/-! ## Notices -/

/-- What is written into the audit trail. -/
inductive AuditEntry where
  | forceDeletedSession (xid : Xid) (status : GlobalStatus) (branches : Nat)
  | changedStatus (xid : Xid) (source target : GlobalStatus)
  | forceDeletedBranch (xid : Xid) (id : BranchId) (status : BranchStatus)
  | releasedRow (xid : Xid) (resourceId : String) (row : Row) (branches : Nat)
  deriving DecidableEq, Repr

/-- The session that an entry of the audit trail names. -/
def AuditEntry.xid : AuditEntry → Xid
  | forceDeletedSession xid .. | changedStatus xid .. | forceDeletedBranch xid ..
  | releasedRow xid .. => xid

/-- The text of an entry of the audit trail. -/
def AuditEntry.text : AuditEntry → String
  | forceDeletedSession xid status branches =>
    s!"force deleted global session {xid} (status {status.name}, {branches} branches)"
  | changedStatus xid source target =>
    s!"changed status of global session {xid} from {source.name} to {target.name}"
  | forceDeletedBranch xid id status =>
    s!"force deleted branch session {id} of global session {xid} (status {status.name})"
  | releasedRow xid resourceId row branches =>
    s!"released row lock {rowKey resourceId row} of global session {xid} ({branches} branches)"

/-- What a registry tells about its work. -/
inductive Notice where
  | command (given : Command)
  | audit (entry : AuditEntry)
  deriving DecidableEq, Repr

end SessionRegistry
