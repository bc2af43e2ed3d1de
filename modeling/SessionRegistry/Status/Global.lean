/-!
# Status of a global session

The statuses of a distributed transaction, their numeric codes, and the moves between them that the
coordination protocol makes. `suspended` stands outside the protocol: only an operator's stop and
start enter and leave it.

* `canMoveTo_self_iff`: reporting the current status again is a move, save for a stopped session.
-/

namespace SessionRegistry

/-- Status of a global (distributed) transaction. -/
inductive GlobalStatus where
  | begin
  | committing
  | commitRetrying
  | rollbacking
  | rollbackRetrying
  | timeoutRollbacking
  | timeoutRollbackRetrying
  | asyncCommitting
  | committed
  | commitFailed
  | rollbacked
  | rollbackFailed
  | timeoutRollbacked
  | timeoutRollbackFailed
  | finished
  /-- Stopped by an operator; the retention sweep and the coordinator leave it alone. -/
  | suspended
  deriving DecidableEq, Repr, Inhabited

namespace GlobalStatus

/-- Every status, in the order of declaration. -/
def all : List GlobalStatus :=
  [begin, committing, commitRetrying, rollbacking, rollbackRetrying, timeoutRollbacking,
    timeoutRollbackRetrying, asyncCommitting, committed, commitFailed, rollbacked, rollbackFailed,
    timeoutRollbacked, timeoutRollbackFailed, finished, suspended]

/-- Every status is listed. -/
theorem mem_all (status : GlobalStatus) : status ∈ all := by
  cases status <;> decide

/-- The readable name, as files, answers and messages spell it. -/
def name : GlobalStatus → String
  | begin => "Begin"
  | committing => "Committing"
  | commitRetrying => "CommitRetrying"
  | rollbacking => "Rollbacking"
  | rollbackRetrying => "RollbackRetrying"
  | timeoutRollbacking => "TimeoutRollbacking"
  | timeoutRollbackRetrying => "TimeoutRollbackRetrying"
  | asyncCommitting => "AsyncCommitting"
  | committed => "Committed"
  | commitFailed => "CommitFailed"
  | rollbacked => "Rollbacked"
  | rollbackFailed => "RollbackFailed"
  | timeoutRollbacked => "TimeoutRollbacked"
  | timeoutRollbackFailed => "TimeoutRollbackFailed"
  | finished => "Finished"
  | suspended => "Suspended"

/-- The numeric code that the console's frontend filters on. -/
def code : GlobalStatus → Nat
  | begin => 1
  | committing => 2
  | commitRetrying => 3
  | rollbacking => 4
  | rollbackRetrying => 5
  | timeoutRollbacking => 6
  | timeoutRollbackRetrying => 7
  | asyncCommitting => 8
  | committed => 9
  | commitFailed => 10
  | rollbacked => 11
  | rollbackFailed => 12
  | timeoutRollbacked => 13
  | timeoutRollbackFailed => 14
  | finished => 15
  | suspended => 21

/-- The status with exactly the given name. -/
def ofName? (name : String) : Option GlobalStatus :=
  all.find? fun status => status.name == name

/-- No further move of the protocol happens from here, except to `finished`. -/
def isTerminal : GlobalStatus → Bool
  | committed | commitFailed | rollbacked | rollbackFailed
  | timeoutRollbacked | timeoutRollbackFailed | finished => true
  | _ => false

/-- Neither terminal nor stopped by an operator. -/
def isActive (status : GlobalStatus) : Bool :=
  !status.isTerminal && status != suspended

/-- The statuses that the retry engine picks up on its next pass. -/
def isRetrying : GlobalStatus → Bool
  | commitRetrying | rollbackRetrying | timeoutRollbackRetrying | asyncCommitting => true
  | _ => false

/-- Whether the session is heading towards commit rather than rollback. -/
def leansCommit : GlobalStatus → Bool
  | committing | commitRetrying | asyncCommitting | committed | commitFailed => true
  | _ => false

/-- The moves of the coordination protocol between two different statuses. -/
def hasStep : GlobalStatus → GlobalStatus → Bool
  | begin, committing | begin, asyncCommitting | begin, rollbacking
  | begin, timeoutRollbacking => true
  | committing, commitRetrying | committing, committed | committing, commitFailed => true
  | commitRetrying, committed | commitRetrying, commitFailed => true
  | asyncCommitting, commitRetrying | asyncCommitting, committed => true
  | rollbacking, rollbackRetrying | rollbacking, rollbacked | rollbacking, rollbackFailed => true
  | rollbackRetrying, rollbacked | rollbackRetrying, rollbackFailed => true
  | timeoutRollbacking, timeoutRollbackRetrying | timeoutRollbacking, timeoutRollbacked
  | timeoutRollbacking, timeoutRollbackFailed => true
  | timeoutRollbackRetrying, timeoutRollbacked
  | timeoutRollbackRetrying, timeoutRollbackFailed => true
  | source, finished => source.isTerminal
  | _, _ => false

/-- The moves that a report may make. Reporting the current status again is allowed, unless the
session is stopped. -/
def canMoveTo (source target : GlobalStatus) : Bool :=
  if source = target then source != suspended else source.hasStep target

/-- A report of the current status is a move exactly when the session is not stopped. -/
theorem canMoveTo_self_iff (status : GlobalStatus) :
    status.canMoveTo status = true ↔ status ≠ suspended := by
  simp [canMoveTo]

end GlobalStatus

end SessionRegistry
