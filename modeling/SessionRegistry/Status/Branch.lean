import SessionRegistry.Status.Global

/-!
# Status of a branch

The statuses of one resource manager's branch, their codes and moves, and the rule that ties the
status of a global session to those of its branches.
-/

namespace SessionRegistry

/-- Status of one resource manager's branch. -/
inductive BranchStatus where
  | registered
  | phaseOneDone
  | phaseTwoCommitted
  | phaseTwoRollbacked
  /-- Phase two failed and will not be retried. -/
  | phaseTwoFailed
  /-- Stopped by an operator. -/
  | suspended
  deriving DecidableEq, Repr, Inhabited

namespace BranchStatus

/-- Every status, in the order of declaration. -/
def all : List BranchStatus :=
  [registered, phaseOneDone, phaseTwoCommitted, phaseTwoRollbacked, phaseTwoFailed, suspended]

/-- Every status is listed. -/
theorem mem_all (status : BranchStatus) : status ∈ all := by
  cases status <;> decide

/-- The readable name, as files, answers and messages spell it. -/
def name : BranchStatus → String
  | registered => "Registered"
  | phaseOneDone => "PhaseOneDone"
  | phaseTwoCommitted => "PhaseTwoCommitted"
  | phaseTwoRollbacked => "PhaseTwoRollbacked"
  | phaseTwoFailed => "PhaseTwoFailed"
  | suspended => "Suspended"

/-- The numeric code that the console's frontend shows. -/
def code : BranchStatus → Nat
  | registered => 1
  | phaseOneDone => 2
  | phaseTwoCommitted => 5
  | phaseTwoFailed => 7
  | phaseTwoRollbacked => 8
  | suspended => 13

/-- The status with exactly the given name. -/
def ofName? (name : String) : Option BranchStatus :=
  all.find? fun status => status.name == name

/-- Phase two has ended, one way or another. -/
def isTerminal : BranchStatus → Bool
  | phaseTwoCommitted | phaseTwoRollbacked | phaseTwoFailed => true
  | _ => false

/-- Only a branch that has not entered phase two can be stopped. -/
def isStoppable : BranchStatus → Bool
  | registered | phaseOneDone => true
  | _ => false

/-- The moves of the coordination protocol between two different statuses. -/
def hasStep : BranchStatus → BranchStatus → Bool
  | registered, phaseOneDone => true
  | phaseOneDone, phaseTwoCommitted | phaseOneDone, phaseTwoRollbacked
  | phaseOneDone, phaseTwoFailed => true
  | _, _ => false

/-- The moves that a report may make. Reporting the current status again is allowed, unless the
branch is stopped. -/
def canMoveTo (source target : BranchStatus) : Bool :=
  if source = target then source != suspended else source.hasStep target

/-- A report of the current status is a move exactly when the branch is not stopped. -/
theorem canMoveTo_self_iff (status : BranchStatus) :
    status.canMoveTo status = true ↔ status ≠ suspended := by
  simp [canMoveTo]

end BranchStatus

/-- The rule between a global status and the statuses of its branches: a committed session has only
committed branches, a rolled back one only rolled back branches, a finished one only branches that
ended. -/
def GlobalStatus.isConsistentWith (status : GlobalStatus) (branches : List BranchStatus) : Bool :=
  match status with
  | .committed => branches.all (· == .phaseTwoCommitted)
  | .rollbacked | .timeoutRollbacked => branches.all (· == .phaseTwoRollbacked)
  | .finished => branches.all BranchStatus.isTerminal
  | _ => true

end SessionRegistry
