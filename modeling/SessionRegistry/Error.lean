import SessionRegistry.Session.Basic

/-!
# Errors

Everything that can go wrong in a session registry, as causes sorted by kind. The console transmits
the kind next to the message of the cause, so that clients never have to infer the failure from the
status of a response alone.

* `message_invalidQuery_unreadable`: a filter that cannot be read is reported with the words that
  the same text would get as an argument.
* `bind_eq_ok_iff`, `of_guard_eq_ok`: how a sequence of steps that may fail is opened.
-/

namespace SessionRegistry

/-- The classes of failures that a client can tell apart. -/
inductive ErrorKind where
  | notFound
  | invalidState
  | stillActive
  | invalidArgument
  | invalidQuery
  | invalidPagination
  | busy
  | internal
  deriving DecidableEq, Repr, Inhabited

namespace ErrorKind

/-- Every kind, in the order of declaration. -/
def all : List ErrorKind :=
  [notFound, invalidState, stillActive, invalidArgument, invalidQuery, invalidPagination, busy,
    internal]

/-- The stable code of a kind. -/
def code : ErrorKind → String
  | notFound => "NotFound"
  | invalidState => "InvalidState"
  | stillActive => "StillActive"
  | invalidArgument => "InvalidArgument"
  | invalidQuery => "InvalidQuery"
  | invalidPagination => "InvalidPagination"
  | busy => "Busy"
  | internal => "Internal"

/-- The status of an HTTP response that reports the kind. -/
def httpStatus : ErrorKind → Nat
  | notFound => 404
  | invalidState | stillActive => 409
  | invalidArgument | invalidQuery | invalidPagination => 400
  | busy => 503
  | internal => 500

/-- The command does not fit the current status of its target. -/
def isStateConflict : ErrorKind → Bool
  | invalidState | stillActive => true
  | _ => false

/-- The same request may succeed later. -/
def isTransient : ErrorKind → Bool
  | busy | internal => true
  | _ => false

end ErrorKind

/-- What was looked for and is not there. -/
inductive Missing where
  | session (xid : Xid)
  | branch (xid : Xid) (id : BranchId)
  /-- No branch holds the row. -/
  | rowLock (resourceId table key : String)
  | route (path : String)
  deriving DecidableEq, Repr

/-- Why an operation does not fit the status of its target. -/
inductive Conflict where
  | registrationClosed (xid : Xid) (status : GlobalStatus)
  | sessionStopped (xid : Xid)
  | branchStopped (id : BranchId) (xid : Xid)
  | branchMove (id : BranchId) (source target : BranchStatus)
  | globalMove (xid : Xid) (source target : GlobalStatus)
  | branchesUnfinished (xid : Xid) (target : GlobalStatus)
  | sessionEnded (xid : Xid) (status : GlobalStatus)
  | sessionNotStopped (xid : Xid) (status : GlobalStatus)
  | outcomeNotSendable (xid : Xid) (status : GlobalStatus)
  | changeWhileStopped (xid : Xid)
  | branchesDisagree (xid : Xid) (target : GlobalStatus)
  | nothingToRemedy (xid : Xid) (status : GlobalStatus)
  | sagaBranches (xid : Xid)
  | branchNotStoppable (id : BranchId) (status : BranchStatus)
  | branchNotStopped (id : BranchId) (status : BranchStatus)
  deriving DecidableEq, Repr

/-- What has to end before it can be deleted. -/
inductive Unfinished where
  | session (xid : Xid) (status : GlobalStatus)
  | branch (id : BranchId) (status : BranchStatus)
  deriving DecidableEq, Repr

/-- A text that does not denote what it should. -/
inductive Unreadable where
  | globalCode (code : Int)
  | globalName (text : String)
  | branchCode (code : Int)
  | branchName (text : String)
  | action (text : String)
  | branchId (text : String)
  deriving DecidableEq, Repr

/-- Why an argument is refused. -/
inductive BadArgument where
  | unreadable (why : Unreadable)
  | missing (name : String)
  | xidMismatch (given locked : Xid)
  | blankXid
  | foreignBranch (id : BranchId) (named owner : Xid)
  | duplicateBranch (id : BranchId) (xid : Xid)
  | blankApplication
  | suspensionRequested
  | zeroPageSize
  | zeroSweepInterval
  | config
  deriving DecidableEq, Repr

/-- Why a filter is refused. -/
inductive BadQuery where
  | unreadable (why : Unreadable)
  | emptyTimeRange (first last : Millis)
  | notBoolean (text : String)
  | notTime (name text : String)
  deriving DecidableEq, Repr

/-- Why a page request is refused. -/
inductive BadPage where
  | numberTooSmall (number : UInt32)
  | sizeOutOfRange (limit size : UInt32)
  | notInteger (name text : String)
  deriving DecidableEq, Repr

/-- What broke inside the registry. -/
inductive Outage where
  | storeClosed
  /-- The log takes no more records. -/
  | logStopped
  /-- A record did not reach the disk within the wait. -/
  | notDurable (lsn durable : UInt64)
  | io (detail : String)
  /-- Stored data could not be read. -/
  | codec (detail : String)
  /-- A counter has come to its end. What was being done is broken off. -/
  | overflow
  deriving DecidableEq, Repr

/-- A failure: its kind and its cause. -/
inductive Error where
  | notFound (what : Missing)
  | invalidState (why : Conflict)
  | stillActive (what : Unfinished)
  | invalidArgument (why : BadArgument)
  | invalidQuery (why : BadQuery)
  | invalidPagination (why : BadPage)
  /-- Another holder kept the lock of a session for the whole wait. -/
  | busy (xid : Xid) (waited : Millis)
  | internal (why : Outage)
  /-- A failure that is known by its kind and its text alone. -/
  | other (kind : ErrorKind) (text : String)
  deriving DecidableEq, Repr

/-- The words for something missing. -/
def Missing.message : Missing → String
  | session xid => s!"global session '{xid}' does not exist"
  | branch xid id => s!"branch session '{id}' does not exist in global session '{xid}'"
  | rowLock resourceId table key => s!"no branch holds a lock on {table}:{key} in {resourceId}"
  | route path => s!"no console route for {path}"

/-- The words for a conflict of status. -/
def Conflict.message : Conflict → String
  | registrationClosed xid status =>
    s!"global session '{xid}' is {status.name}, branches can only register while it is Begin"
  | sessionStopped xid =>
    s!"global session '{xid}' is stopped and does not accept coordinator updates"
  | branchStopped id xid =>
    s!"branch session '{id}' of '{xid}' is stopped and does not accept status reports"
  | branchMove id source target =>
    s!"branch session '{id}' cannot move from {source.name} to {target.name}"
  | globalMove xid source target =>
    s!"global session '{xid}' cannot move from {source.name} to {target.name}"
  | branchesUnfinished xid target =>
    s!"global session '{xid}' cannot become {target.name} "
      ++ "while its branches are not all finished accordingly"
  | sessionEnded xid status =>
    s!"global session '{xid}' is already {status.name} and cannot be stopped"
  | sessionNotStopped xid status => s!"global session '{xid}' is {status.name}, not stopped"
  | outcomeNotSendable xid status =>
    s!"global session '{xid}' is {status.name}, commit or rollback cannot be sent"
  | changeWhileStopped xid =>
    s!"global session '{xid}' is stopped, start it before changing its status"
  | branchesDisagree xid target =>
    s!"global session '{xid}' cannot be {target.name} while its branches disagree"
  | nothingToRemedy xid status =>
    s!"global session '{xid}' is {status.name}, "
      ++ "only failed sessions can be changed without a target status"
  | sagaBranches xid =>
    s!"global session '{xid}' runs in Saga mode, its branches cannot be managed individually"
  | branchNotStoppable id status =>
    s!"branch session '{id}' is {status.name} and cannot be stopped"
  | branchNotStopped id status => s!"branch session '{id}' is {status.name}, not stopped"

/-- The words for something that has not ended. -/
def Unfinished.message : Unfinished → String
  | session xid status =>
    s!"global session '{xid}' is {status.name} and cannot be deleted until it finishes"
  | branch id status =>
    s!"branch session '{id}' is {status.name} and cannot be deleted until phase two completes"

/-- The words for an unreadable text. -/
def Unreadable.message : Unreadable → String
  | globalCode code => s!"unknown global status code {code}"
  | globalName text => s!"unknown global status '{text}'"
  | branchCode code => s!"unknown branch status code {code}"
  | branchName text => s!"unknown branch status '{text}'"
  | action text => s!"action must be 'commit' or 'rollback', got '{text}'"
  | branchId text => s!"branchId must be a non-negative integer, got '{text}'"

/-- The words for a refused argument. -/
def BadArgument.message : BadArgument → String
  | unreadable why => why.message
  | missing name => s!"{name} is required"
  | xidMismatch given locked =>
    s!"session xid '{given}' does not match locked xid '{locked}'"
  | blankXid => "xid must not be blank"
  | foreignBranch id named owner =>
    s!"branch {id} references xid '{named}' but belongs to '{owner}'"
  | duplicateBranch id xid => s!"duplicate branch id {id} in global session '{xid}'"
  | blankApplication => "applicationId must not be blank"
  | suspensionRequested => "Suspended cannot be set directly, stop the session instead"
  | zeroPageSize => "max_page_size must be positive"
  | zeroSweepInterval => "sweep_interval_ms must be positive"
  | config => "invalid config"

/-- The words for a refused filter. -/
def BadQuery.message : BadQuery → String
  | unreadable why => why.message
  | emptyTimeRange first last => s!"timeStart ({first}) is after timeEnd ({last})"
  | notBoolean text => s!"withBranch must be true or false, got '{text}'"
  | notTime name text => s!"{name} must be epoch milliseconds, got '{text}'"

/-- The words for a refused page request. -/
def BadPage.message : BadPage → String
  | numberTooSmall number => s!"pageNum must be at least 1, got {number}"
  | sizeOutOfRange limit size => s!"pageSize must be between 1 and {limit}, got {size}"
  | notInteger name text => s!"{name} must be an integer, got '{text}'"

/-- The words for an outage. -/
def Outage.message : Outage → String
  | storeClosed => "session store is shut down"
  | logStopped => "WAL worker unavailable: sending on a closed channel"
  | notDurable lsn durable =>
    s!"timed out waiting for LSN {lsn} to become durable (durable: {durable})"
  | io detail => s!"I/O error: {detail}"
  | codec detail => s!"codec error: {detail}"
  | overflow => "attempt to add with overflow"

namespace Error

/-- The kind of a failure. -/
def kind : Error → ErrorKind
  | notFound _ => .notFound
  | invalidState _ => .invalidState
  | stillActive _ => .stillActive
  | invalidArgument _ => .invalidArgument
  | invalidQuery _ => .invalidQuery
  | invalidPagination _ => .invalidPagination
  | busy .. => .busy
  | internal _ => .internal
  | other kind _ => kind

/-- The text that describes a failure to a client. -/
def message : Error → String
  | notFound what => what.message
  | invalidState why => why.message
  | stillActive what => what.message
  | invalidArgument why => why.message
  | invalidQuery why => why.message
  | invalidPagination why => why.message
  | busy xid waited =>
    s!"global session '{xid}' is being modified, lock not acquired within {waited} ms"
  | internal why => why.message
  | other _ text => text

/-- A filter that cannot be read is reported with the words that the same text would get as an
argument. -/
theorem message_invalidQuery_unreadable (why : Unreadable) :
    (invalidQuery (.unreadable why)).message = (invalidArgument (.unreadable why)).message :=
  rfl

end Error

/-! ## Sequences that may fail -/

section Sequences

variable {ε α β : Type} {result : Except ε α} {f : α → Except ε β} {b : β}

/-- A sequence that gives a value has a first step that gives one. -/
theorem exists_of_bind_eq_ok (h : (result >>= f) = .ok b) : ∃ a, result = .ok a ∧ f a = .ok b := by
  cases result with
  | error e => cases h
  | ok a => exact ⟨a, rfl, h⟩

theorem bind_eq_ok_iff : (result >>= f) = .ok b ↔ ∃ a, result = .ok a ∧ f a = .ok b :=
  ⟨exists_of_bind_eq_ok, fun ⟨_, first, rest⟩ => first ▸ rest⟩

/-- A guard that gives a value has passed. -/
theorem of_guard_eq_ok {p : Prop} [Decidable p] {e : ε} {rest : Except ε β}
    (h : (if p then throw e >>= f else rest) = .ok b) : ¬ p ∧ rest = .ok b := by
  split at h
  · cases h
  · next fails => exact ⟨fails, h⟩

end Sequences

end SessionRegistry
