import SessionRegistry.Coordinator
import SessionRegistry.Sweep

/-!
# Operations

Everything that can be asked of an open store and may change it, as data: the updates of the
coordinator, the commands of an operator, the sweep, and the writes and the upkeep of the store
itself. Whatever an operation answers, it leaves a store behind.
-/

namespace SessionRegistry

/-- Something that is asked of a store and may change it. -/
inductive Operation where
  /-- Insert or replace a session with its branches. -/
  | put (session : Session)
  /-- Remove a session with its branches. -/
  | delete (xid : Xid)
  /-- Remove one branch. -/
  | deleteBranch (xid : Xid) (id : BranchId)
  | begin (address applicationId serviceGroup name : String) (timeout : Millis)
  | register (xid : Xid) (registration : Registration)
  | reportBranch (xid : Xid) (id : BranchId) (status : BranchStatus)
  | reportSession (xid : Xid) (status : GlobalStatus)
  | command (command : Command)
  | sweep (retention now : Millis)
  /-- Hand out a number. -/
  | takeId
  | checkpoint
  | shutdown
  deriving DecidableEq, Repr

namespace Operation

/-- What an operation answers when it succeeds. -/
inductive Outcome where
  | done
  /-- The change that was made. -/
  | changed (modification : Modification)
  /-- The session that was removed. -/
  | session (session : Session)
  /-- The branch that was removed. -/
  | branch (branch : Branch)
  /-- The session that was begun. -/
  | begun (xid : Xid)
  /-- The number of the branch that was registered, or that was handed out. -/
  | id (id : UInt64)
  | reply (reply : Command.Reply)
  | swept (report : SweepReport)
  deriving DecidableEq, Repr

/-- Perform an operation. -/
def perform : Operation → StoreM Outcome
  | put session => return .changed (← Store.put session)
  | delete xid => return .session (← Store.delete xid)
  | deleteBranch xid id => return .branch (← Store.deleteBranch xid id)
  | begin address applicationId serviceGroup name timeout =>
    return .begun (← Store.begin address applicationId serviceGroup name timeout)
  | register xid registration => return .id (← Store.register xid registration)
  | reportBranch xid id status => do Store.reportBranch xid id status; return .done
  | reportSession xid status => do Store.reportSession xid status; return .done
  | command c => return .reply (← c.execute)
  | sweep retention now => return .swept (← Store.sweep retention now)
  | takeId => return .id (← Store.takeId)
  | checkpoint => do Store.checkpoint; return .done
  | shutdown => do Store.shutdown; return .done

/-- The result of an operation, and the store that it leaves. -/
def runOn (store : Store) (operation : Operation) : Except Error Outcome × Store :=
  operation.perform.run.run store

end Operation

end SessionRegistry
