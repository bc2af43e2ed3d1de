import SessionRegistry.Command.Notice
import SessionRegistry.Console.Parameter
import SessionRegistry.Query.Filter
import SessionRegistry.Query.Page
import SessionRegistry.RowLock.Basic
import SessionRegistry.Status.Reading

/-!
# Reading parameters

What the texts of a request denote: names, numbers, statuses, and the filters, pages and targets
made of them. The first text that denotes nothing decides the error. A text that fails as part of a
filter is an invalid query, elsewhere an invalid argument.

Page numbers and sizes are read as signed integers and brought into the range of their type, so that
a request out of range is refused for its value and not for its spelling.
-/

namespace SessionRegistry

/-- An unreadable argument, seen as part of a filter. -/
def Error.inFilter : Error → Error
  | .invalidArgument (.unreadable why) => .invalidQuery (.unreadable why)
  | e => e

namespace Parameters

/-- The number of a branch. -/
def readBranchId (text : String) : Except Error BranchId :=
  match Text.readUInt64 text with
  | some id => .ok id
  | .none => .error (.invalidArgument (.unreadable (.branchId text)))

/-- A truth value. -/
def readFlag (text : String) : Except Error Bool :=
  if text = "true" then .ok true
  else if text = "false" then .ok false
  else .error (.invalidQuery (.notBoolean text))

/-- A time in milliseconds since the epoch. -/
def readTime (parameter : Parameter) (text : String) : Except Error Millis :=
  match Text.readUInt64 text with
  | some time => .ok time
  | .none => .error (.invalidQuery (.notTime parameter.name text))

/-- The number of 32 bits that is nearest to an integer. -/
def nearestUInt32 (n : Int) : UInt32 :=
  UInt32.ofNat (min n.toNat (UInt32.size - 1))

/-- A page number or a page size. -/
def readPageField (parameter : Parameter) (text : String) : Except Error UInt32 :=
  match Text.readInt 64 text with
  | some n => .ok (nearestUInt32 n)
  | .none => .error (.invalidPagination (.notInteger parameter.name text))

/-- The session that a request is about. -/
def xid (parameters : Parameters) : Except Error Xid :=
  parameters.require .xid

/-- The branch that a request is about. -/
def branchId (parameters : Parameters) : Except Error BranchId := do
  readBranchId (← parameters.require .branchId)

/-- Where a session is to be sent. -/
def direction (parameters : Parameters) : Except Error (Option Direction) :=
  parameters.optional .action Direction.ofText

/-- The status that a session is to get. -/
def status (parameters : Parameters) : Except Error (Option GlobalStatus) :=
  parameters.optional .status GlobalStatus.ofText

/-- The conditions on a listing of sessions. -/
def sessionFilter (parameters : Parameters) : Except Error SessionFilter := do
  let status ← parameters.status.mapError Error.inFilter
  let withBranch ← parameters.optional .withBranch readFlag
  let timeStart ← parameters.optional .timeStart (readTime .timeStart)
  let timeEnd ← parameters.optional .timeEnd (readTime .timeEnd)
  return {
    xid := parameters.present? .xid
    applicationId := parameters.present? .applicationId
    status
    name := parameters.present? .transactionName
    timeStart
    timeEnd
    withBranch := withBranch.getD false }

/-- The wanted page of a listing. What is not given is that of the first page. -/
def page (parameters : Parameters) : Except Error PageRequest := do
  let first : PageRequest := {}
  let number ← parameters.optional .pageNum (readPageField .pageNum)
  let size ← parameters.optional .pageSize (readPageField .pageSize)
  return {
    number := number.getD first.number
    size := size.getD first.size }

/-- The conditions on a listing of row locks. -/
def lockFilter (parameters : Parameters) : Except Error LockFilter := do
  let branchId ← (parameters.optional .branchId readBranchId).mapError Error.inFilter
  return {
    xid := parameters.present? .xid
    branchId
    resourceId := parameters.present? .resourceId
    table := parameters.present? .tableName
    key := parameters.present? .pk }

/-- The row to release, which must be named in full. -/
def lockTarget (parameters : Parameters) : Except Error LockTarget := do
  -- an unreadable number is reported before a missing name
  let branchId ← parameters.optional .branchId readBranchId
  let resourceId ← parameters.require .resourceId
  let table ← parameters.require .tableName
  let key ← parameters.require .pk
  return { xid := parameters.present? .xid, branchId, resourceId, row := { table, key } }

end Parameters

end SessionRegistry
