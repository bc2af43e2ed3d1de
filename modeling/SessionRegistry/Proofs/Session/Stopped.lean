import SessionRegistry.Proofs.Session.Outcome

/-!
# Stopped sessions and branches

A stopped session refuses to be moved, and every revision but the one that lets it go on keeps the
status that it remembers. A stopped branch refuses reports.

## Main definitions

* `Session.StoppedFrom`, `Branch.StoppedFrom`: what is stopped, and the status that it remembers.
* `Session.StopsNone`: an image with no branch that has been stopped since the one before.
* `GlobalStatus.agreed`: the outcomes that branches have to agree with.
* `Operation.setsStatus`: the operations that set the status of a session.

## Main results

* `Operation.Revises.keeps_stopped`: revisions keep a session stopped.
* `Operation.Revises.stopsNone`: revisions but the stop of a branch leave no other branch stopped.
* `Operation.Revises.edits`, `Operation.Revises.branches_eq`: a revision leaves the branches of a
  session alone, or everything but its branches.
-/

namespace SessionRegistry

/-- A session is stopped and remembers the status that it had before. -/
structure Session.StoppedFrom (session : Session) (status : GlobalStatus) : Prop where
  stopped : session.status = .suspended
  earlier : session.suspendedFrom = some status

/-- A branch is stopped and remembers the status that it had before. -/
structure Branch.StoppedFrom (branch : Branch) (status : BranchStatus) : Prop where
  stopped : branch.status = .suspended
  earlier : branch.suspendedFrom = some status

/-- The outcomes that the branches of a session have to agree with. -/
def GlobalStatus.agreed : List GlobalStatus :=
  [.committed, .rollbacked, .timeoutRollbacked, .finished]

namespace Session

variable {session : Session} {id : BranchId}

/-- A stopped branch holds its session back from every outcome that it would have to agree with. -/
theorem Sound.not_mem_agreed {branch : Branch} (h : session.Sound)
    (hbranch : branch ∈ session.branches) (stopped : branch.status = .suspended) :
    session.status ∉ GlobalStatus.agreed := by
  have refuses : ∀ status ∈ GlobalStatus.agreed,
      status.isConsistentWith [BranchStatus.suspended] = false := by decide
  have agrees := h.agrees hbranch
  rw [stopped] at agrees
  intro mem
  cases agrees.symm.trans (refuses _ mem)

/-- A branch of a session whose branches have different numbers is found under its number. -/
theorem branch?_of_mem {branch : Branch} (distinct : (session.branches.map Branch.id).Nodup)
    (hbranch : branch ∈ session.branches) : session.branch? branch.id = some branch := by
  have some : (session.branch? branch.id).isSome = true :=
    List.find?_isSome.2 ⟨branch, hbranch, beq_self_eq_true _⟩
  obtain ⟨found, hfound⟩ := Option.isSome_iff_exists.1 some
  have same : found.id = branch.id :=
    beq_iff_eq.1 (List.find?_some (p := fun other : Branch => other.id == branch.id) hfound)
  rw [hfound, eq_of_id_eq distinct (List.mem_of_find?_eq_some hfound) hbranch same]

/-! ## What is refused -/

theorem sendOutcome_of_stopped (stopped : session.status = .suspended)
    (direction : Option Direction) : session.sendOutcome direction
      = .error (.invalidState (.outcomeNotSendable session.xid session.status)) :=
  if_pos (.inr stopped)

theorem changeStatus_of_stopped (stopped : session.status = .suspended)
    (status : Option GlobalStatus) :
    session.changeStatus status = .error (.invalidState (.changeWhileStopped session.xid)) :=
  if_pos stopped

theorem report_of_stopped (stopped : session.status = .suspended) (status : GlobalStatus) :
    session.report status = .error (.invalidState (.sessionStopped session.xid)) := by
  rw [report, if_pos stopped]
  rfl

theorem reportBranch_of_stopped (stopped : session.status = .suspended) (id : BranchId)
    (status : BranchStatus) (now : Millis) : session.reportBranch id status now
      = .error (.invalidState (.sessionStopped session.xid)) := by
  rw [reportBranch, if_pos stopped]
  rfl

/-- A stopped branch takes no report, whether its session is stopped or not. -/
theorem exists_reportBranch_of_stopped_branch {branch : Branch}
    (found : session.branch? id = some branch) (stopped : branch.status = .suspended)
    (status : BranchStatus) (now : Millis) :
    ∃ rejection, session.reportBranch id status now = .error (.invalidState rejection) := by
  by_cases whole : session.status = .suspended
  · exact ⟨_, reportBranch_of_stopped whole id status now⟩
  · have required : session.requireBranch id = .ok branch := by
      rw [requireBranch, found]
    refine ⟨.branchStopped id session.xid, ?_⟩
    rw [reportBranch, if_neg whole, required]
    exact if_pos stopped

/-! ## What goes on -/

/-- A session that is stopped goes on with the status that it remembers. -/
theorem restart_of_stoppedFrom {status : GlobalStatus} (h : session.StoppedFrom status) :
    session.restart = .ok (some { session with status, suspendedFrom := none }) := by
  rw [restart, if_neg (fun active => active h.stopped), h.earlier]
  rfl

/-- A branch that is stopped goes on with the status that it remembers, unless its session runs in
Saga mode. -/
theorem restartBranch_of_stopped {branch : Branch} (found : session.branch? id = some branch)
    (stopped : branch.status = .suspended) (plain : session.isSaga = false) :
    session.restartBranch id = .ok (some <| session.modifyBranch id fun branch =>
      { branch with status := branch.suspendedFrom.getD .registered, suspendedFrom := none }) := by
  have steerable : session.steerableBranch id = .ok branch := by
    rw [steerableBranch, if_neg (by simp [plain]), requireBranch, found]
  rw [restartBranch, steerable]
  exact if_neg fun active => active stopped

/-- In Saga mode no branch goes on by itself. -/
theorem restartBranch_of_isSaga (saga : session.isSaga = true) (id : BranchId) :
    session.restartBranch id = .error (.invalidState (.sagaBranches session.xid)) := by
  rw [restartBranch, steerableBranch, if_pos saga]
  rfl

/-- An image that differs in its branches alone is stopped like the one before it. -/
theorem Edits.stoppedFrom {after : Session} {status : GlobalStatus} (h : after.Edits session)
    (stopped : session.StoppedFrom status) : after.StoppedFrom status := by
  rw [h.same]
  exact ⟨stopped.stopped, stopped.earlier⟩

end Session

/-! ## Stopped branches -/

namespace Session

variable {before middle after : Session} {id : BranchId} {f : Branch → Branch}

/-- Every branch that is stopped was stopped before, and remembers the status that it remembered
then. -/
def StopsNone (after before : Session) : Prop :=
  ∀ branch ∈ after.branches, ∀ status, branch.StoppedFrom status →
    ∃ earlier ∈ before.branches, earlier.id = branch.id ∧ earlier.StoppedFrom status

theorem StopsNone.trans (first : middle.StopsNone before) (second : after.StopsNone middle) :
    after.StopsNone before := by
  intro branch hbranch status stopped
  obtain ⟨between, hbetween, same, stopped⟩ := second branch hbranch status stopped
  obtain ⟨earlier, hearlier, same', stopped⟩ := first between hbetween status stopped
  exact ⟨earlier, hearlier, same'.trans same, stopped⟩

/-- No branch is stopped by taking branches out. -/
theorem stopsNone_of_subset (h : ∀ branch ∈ after.branches, branch ∈ before.branches) :
    after.StopsNone before :=
  fun branch hbranch _ stopped => ⟨branch, h branch hbranch, rfl, stopped⟩

theorem stopsNone_removeBranch (session : Session) (id : BranchId) :
    (session.removeBranch id).StopsNone session :=
  stopsNone_of_subset fun _ hbranch => List.mem_of_mem_eraseP hbranch

/-- No branch is stopped by a change after which the changed branch is not stopped. -/
theorem stopsNone_modifyBranch (active : ∀ branch status, ¬ (f branch).StoppedFrom status) :
    (before.modifyBranch id f).StopsNone before := by
  intro branch hbranch status stopped
  rcases mem_modifyFirst hbranch with kept | ⟨earlier, -, rfl⟩
  · exact ⟨branch, kept, rfl, stopped⟩
  · exact absurd stopped (active earlier status)

/-- No branch is stopped by the registration of another. -/
theorem stopsNone_addRegistered (session : Session) (registration : Registration) (id : BranchId)
    (now : Millis) :
    (session.addBranch (session.registeredBranch registration id now)).StopsNone session := by
  intro branch hbranch status stopped
  rw [branches_addBranch] at hbranch
  split at hbranch
  · exact ⟨branch, hbranch, rfl, stopped⟩
  · rcases List.mem_append.1 hbranch with kept | fresh
    · exact ⟨branch, kept, rfl, stopped⟩
    · rw [List.mem_singleton.1 fresh] at stopped
      cases stopped.stopped

/-- No branch is stopped by the release of a row. -/
theorem stopsNone_release (target : LockTarget) (session : Session) :
    (target.without session).StopsNone session := by
  intro released hreleased status stopped
  obtain ⟨branch, hbranch, rfl⟩ := List.mem_map.1 hreleased
  obtain ⟨lockKey, same⟩ := target.releaseBranch_eq branch
  rw [same] at stopped ⊢
  exact ⟨branch, hbranch, rfl, stopped.stopped, stopped.earlier⟩

/-- A branch that the stop of a branch leaves stopped was so before, or is the branch that is
stopped, and remembers the status that it had. -/
theorem cases_of_stopBranch {branch : Branch} {status : BranchStatus}
    (revised : before.stopBranch id = .ok (some after)) (hbranch : branch ∈ after.branches)
    (stopped : branch.StoppedFrom status) :
    branch ∈ before.branches ∨ branch.id = id ∧ status ≠ .suspended
      ∧ ∃ earlier ∈ before.branches, earlier.id = id ∧ earlier.status = status := by
  obtain ⟨active, found, stoppable, rfl⟩ := of_stopBranch_eq_ok revised
  rcases mem_modifyFirst hbranch with kept | ⟨earlier, found', rfl⟩
  · exact .inl kept
  · cases found.symm.trans found'
    have same : active.id = id :=
      beq_iff_eq.1 (List.find?_some (p := fun branch : Branch => branch.id == id) found)
    -- The branch remembers the status that it has just lost.
    obtain rfl : active.status = status := Option.some.inj stopped.earlier
    refine .inr ⟨same, ?_, active, List.mem_of_find?_eq_some found, same, rfl⟩
    intro held
    rw [held] at stoppable
    cases stoppable

end Session

/-! ## Revisions -/

namespace Operation

/-- The operations that set the status of a session and leave its branches alone. -/
def setsStatus : Operation → Bool
  | .reportSession .. | .command (.stopSession _) | .command (.startSession _)
  | .command (.sendOutcome ..) | .command (.changeStatus ..) => true
  | _ => false

variable {now : Millis} {op : Operation} {xid : Xid} {revision : Session → Revision}
  {before after : Session}

/-- The revisions of an operation that sets no status change the branches alone. -/
theorem Revises.edits (h : op.Revises now xid revision) (other : op.setsStatus = false)
    (revised : revision before = .ok (some after)) : after.Edits before := by
  cases h with
  | reportBranch _ id status => exact Session.edits_reportBranch revised
  | dropBranch _ id => exact Session.edits_dropBranch revised
  | forceDropBranch _ id => exact Session.edits_forceDropBranch revised
  | stopBranch _ id => exact Session.edits_stopBranch revised
  | restartBranch _ id => exact Session.edits_restartBranch revised
  | releaseRow _ => exact Session.edits_releaseRow revised
  | _ => cases other

/-- The revisions of an operation that sets a status leave the branches alone. -/
theorem Revises.branches_eq (h : op.Revises now xid revision) (sets : op.setsStatus = true)
    (revised : revision before = .ok (some after)) : after.branches = before.branches := by
  cases h with
  | reportSession _ status =>
    obtain ⟨-, -, -, rfl⟩ := Session.of_report_eq_ok revised
    rfl
  | stop _ =>
    obtain ⟨-, -, rfl⟩ := Session.of_stop_eq_ok revised
    rfl
  | restart _ =>
    obtain ⟨-, rfl⟩ := Session.of_restart_eq_ok revised
    rfl
  | sendOutcome _ direction =>
    obtain ⟨-, rfl⟩ := Session.of_sendOutcome_eq_ok revised
    rfl
  | changeStatus _ _ =>
    obtain ⟨-, _, rfl, -⟩ := Session.of_changeStatus_eq_ok revised
    rfl
  | _ => cases sets

/-- Every revision but the one that lets a session go on keeps it stopped. -/
theorem Revises.keeps_stopped {status : GlobalStatus} (h : op.Revises now xid revision)
    (other : op ≠ .command (.startSession xid)) (stopped : before.StoppedFrom status)
    (revised : revision before = .ok (some after)) : after.StoppedFrom status := by
  cases sets : op.setsStatus with
  | false => exact (h.edits sets revised).stoppedFrom stopped
  | true =>
    -- The other operations that set a status are refused.
    cases h with
    | reportSession _ target => exact absurd stopped.stopped (Session.of_report_eq_ok revised).1
    | stop _ => exact absurd stopped.stopped (Session.of_stop_eq_ok revised).1
    | restart _ => exact absurd rfl other
    | sendOutcome _ direction =>
      exact absurd stopped.stopped (Session.of_sendOutcome_eq_ok revised).1
    | changeStatus _ _ => exact absurd stopped.stopped (Session.of_changeStatus_eq_ok revised).1
    | _ => cases sets

/-- Every revision but the stop of a branch stops no branch. -/
theorem Revises.stopsNone (h : op.Revises now xid revision)
    (other : ∀ id, op ≠ .command (.stopBranch xid id))
    (revised : revision before = .ok (some after)) : after.StopsNone before := by
  cases sets : op.setsStatus with
  | true => exact Session.stopsNone_of_subset (by simp [h.branches_eq sets revised])
  | false =>
    cases h with
    | reportBranch _ id status =>
      obtain ⟨_, -, -, move, rfl⟩ := Session.of_reportBranch_eq_ok revised
      exact Session.stopsNone_modifyBranch fun _ _ stopped =>
        BranchStatus.ne_suspended_of_canMoveTo move stopped.stopped
    | dropBranch _ id =>
      exact Session.of_dropBranch_eq_ok revised ▸ before.stopsNone_removeBranch id
    | forceDropBranch _ id =>
      exact Session.of_forceDropBranch_eq_ok revised ▸ before.stopsNone_removeBranch id
    | stopBranch _ id => exact absurd rfl (other id)
    | restartBranch _ id =>
      -- A branch that has gone on remembers no status.
      obtain ⟨_, -, -, rfl⟩ := Session.of_restartBranch_eq_ok revised
      refine Session.stopsNone_modifyBranch fun _ _ stopped => ?_
      cases stopped.earlier
    | @releaseRow target =>
      exact Session.of_releaseRow_eq_ok revised ▸ Session.stopsNone_release target before
    | _ => cases sets

end Operation

end SessionRegistry
