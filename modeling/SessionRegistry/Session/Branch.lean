import SessionRegistry.Status.Branch
import SessionRegistry.Text.Basic

/-!
# Branches

A branch is the part of a distributed transaction that one resource manager carries out. Its mode
says how that resource manager commits and rolls back.
-/

namespace SessionRegistry

/-- The name of a distributed transaction. -/
abbrev Xid := String

/-- The number of a branch, unique within its session. -/
abbrev BranchId := UInt64

/-- A time in milliseconds since the epoch, or a span of milliseconds. -/
abbrev Millis := UInt64

/-- How a resource manager takes part in a transaction. -/
inductive BranchType where
  /-- Automatic compensation from before and after images. -/
  | automatic
  /-- Try, confirm, cancel. -/
  | tcc
  /-- A chain of local transactions with compensations; its branches are not managed one by one. -/
  | saga
  /-- Two-phase commit by the resource itself. -/
  | xa
  deriving DecidableEq, Repr, Inhabited

namespace BranchType

/-- Every mode, in the order of declaration. -/
def all : List BranchType :=
  [automatic, tcc, saga, xa]

/-- The readable name. -/
def name : BranchType → String
  | automatic => "AT"
  | tcc => "TCC"
  | saga => "Saga"
  | xa => "XA"

/-- The mode with exactly the given name. -/
def ofName? (name : String) : Option BranchType :=
  all.find? fun mode => mode.name == name

/-- The mode whose name agrees with a text in capital letters. -/
def ofText? (text : String) : Option BranchType :=
  all.find? fun mode => text.toList.map Text.capital == mode.name.toList.map Text.capital

end BranchType

/-- One resource manager's part of a session. -/
structure Branch where
  /-- The session that the branch belongs to. -/
  xid : Xid
  id : BranchId
  applicationId : String
  transactionName : String
  type : BranchType
  /-- The resource that the branch works on. -/
  resourceId : String
  /-- The rows that the branch has locked, written as a lock key. -/
  lockKey : Option String
  clientId : Option String
  applicationData : Option String
  status : BranchStatus
  /-- The status that a stopped branch had before. -/
  suspendedFrom : Option BranchStatus
  beginTime : Millis
  modifiedTime : Millis
  deriving DecidableEq, Repr, Inhabited

end SessionRegistry
