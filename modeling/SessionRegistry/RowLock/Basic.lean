import SessionRegistry.RowLock.Key
import SessionRegistry.Error

/-!
# Row locks

The rows that the branches of a session hold, one entry for each row of each branch, and the
release of a single row.
-/

namespace SessionRegistry

/-- One row held by one branch. -/
structure RowLock where
  xid : Xid
  transactionId : UInt64
  branchId : BranchId
  resourceId : String
  row : Row
  beginTime : Millis
  modifiedTime : Millis
  deriving DecidableEq, Repr, Inhabited

/-- The text that names a row of a resource. -/
def rowKey (resourceId : String) (row : Row) : String :=
  s!"{resourceId}^^^{row.table}^^^{row.key}"

/-- The rows held by a branch. -/
def Branch.lockedRows (branch : Branch) : List Row :=
  LockKey.rows branch.lockKey

/-- Every row held by the branches of a session. -/
def Session.rowLocks (session : Session) : List RowLock :=
  session.branches.flatMap fun branch =>
    branch.lockedRows.map fun row =>
      { xid := session.xid
        transactionId := session.transactionId
        branchId := branch.id
        resourceId := branch.resourceId
        row
        beginTime := branch.beginTime
        modifiedTime := branch.modifiedTime }

/-- An exact match on row locks; the fields that are present must all agree. -/
structure LockFilter where
  xid : Option Xid := none
  branchId : Option BranchId := none
  resourceId : Option String := none
  table : Option String := none
  key : Option String := none
  deriving DecidableEq, Repr, Inhabited

/-- Whether a row lock satisfies every field of a filter. -/
def LockFilter.accepts (filter : LockFilter) (lock : RowLock) : Bool :=
  filter.xid.all (lock.xid == ·) && filter.branchId.all (lock.branchId == ·)
    && filter.resourceId.all (lock.resourceId == ·) && filter.table.all (lock.row.table == ·)
    && filter.key.all (lock.row.key == ·)

/-- A row to release. The session and the branch narrow the search where they are given. -/
structure LockTarget where
  xid : Option Xid := none
  branchId : Option BranchId := none
  resourceId : String
  row : Row
  deriving DecidableEq, Repr, Inhabited

namespace LockTarget

/-- The row must be named in full. -/
def validate (target : LockTarget) : Except Error Unit := do
  if Text.isBlankText target.resourceId then throw (.invalidArgument (.missing "resourceId"))
  if Text.isBlankText target.row.table then throw (.invalidArgument (.missing "tableName"))
  if Text.isBlankText target.row.key then throw (.invalidArgument (.missing "pk"))

/-- Whether a branch is one of those that the target speaks about. -/
def covers (target : LockTarget) (branch : Branch) : Bool :=
  branch.resourceId == target.resourceId && target.branchId.all (branch.id == ·)

/-- Whether a branch that the target speaks about holds the row. -/
def heldByBranch (target : LockTarget) (branch : Branch) : Bool :=
  target.covers branch && branch.lockedRows.any (· == target.row)

/-- Whether any branch of a session holds the row. -/
def heldBy (target : LockTarget) (session : Session) : Bool :=
  session.branches.any target.heldByBranch

/-- The branch without the row, if the target speaks about the branch and taking the row out of its
lock key leaves fewer rows. Nothing else is written anew. -/
def releaseBranch? (target : LockTarget) (branch : Branch) : Option Branch :=
  match target.covers branch, branch.lockKey with
  | true, some lockKey =>
    let rows := LockKey.parse lockKey
    let left := rows.filter (· != target.row)
    if left.length = rows.length then none
    else some { branch with lockKey := LockKey.format left }
  | _, _ => none

/-- Take the row out of one branch after another, and count those that lose it. -/
def releaseAll (target : LockTarget) (released : Nat) : List Branch → Nat × List Branch
  | [] => (released, [])
  | branch :: rest =>
    match target.releaseBranch? branch with
    | some freed =>
      let (released, rest) := releaseAll target (released + 1) rest
      (released, freed :: rest)
    | none =>
      let (released, rest) := releaseAll target released rest
      (released, branch :: rest)

/-- The number of branches of a session that lose the row, and the session without it. -/
def release (target : LockTarget) (session : Session) : Nat × Session :=
  let (released, branches) := target.releaseAll 0 session.branches
  (released, { session with branches })

end LockTarget

end SessionRegistry
