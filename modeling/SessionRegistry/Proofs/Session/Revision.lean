import SessionRegistry.Coordinator
import SessionRegistry.Proofs.RowLock.Holding

/-!
# What revisions make

What each revision of a session demands of the image and what it makes of it, wherever it gives a
new image. Everything that is said of the images that commands and reports leave follows from this.

## Main results

* `Session.of_stop_eq_ok` and so on: one law for each revision.
-/

namespace SessionRegistry

namespace Session

variable {session after : Session} {id : BranchId} {branch : Branch}

/-- The branch that a revision requires is found. -/
theorem branch?_of_requireBranch (h : session.requireBranch id = .ok branch) :
    session.branch? id = some branch := by
  unfold requireBranch at h
  split at h
  · next found =>
    cases h
    exact found
  · cases h

/-- The branch that an operator may manage is found. -/
theorem branch?_of_steerableBranch (h : session.steerableBranch id = .ok branch) :
    session.branch? id = some branch := by
  unfold steerableBranch at h
  split at h
  · cases h
  · exact branch?_of_requireBranch h

/-! ## Revisions of the status -/

/-- A session that is moved gets another status. -/
theorem of_moveTo_eq_some {target : GlobalStatus} (h : session.moveTo target = some after) :
    after = { session with status := target } := by
  unfold moveTo at h
  split at h
  · cases h
  · exact (Option.some.inj h).symm

/-- Nothing has to change only for a session that has the status already. -/
theorem moveTo_eq_none_iff {target : GlobalStatus} :
    session.moveTo target = none ↔ session.status = target := by
  unfold moveTo
  split
  · next same => simp [same]
  · next differs => simp [differs]

/-- An active session is stopped, and remembers its status. -/
theorem of_stop_eq_ok (h : session.stop = .ok (some after)) :
    session.status ≠ .suspended ∧ session.status.isTerminal = false
      ∧ after = { session with status := .suspended, suspendedFrom := some session.status } := by
  unfold stop at h
  split at h
  · cases h
  · next active =>
    split at h
    · cases h
    · next unended =>
      cases h
      exact ⟨active, by simpa using unended, rfl⟩

/-- A stopped session goes on with the status that it remembers. -/
theorem of_restart_eq_ok (h : session.restart = .ok (some after)) :
    session.status = .suspended ∧ after
      = { session with status := session.suspendedFrom.getD .begin, suspendedFrom := none } := by
  unfold restart at h
  split at h
  · cases h
  · next stopped =>
    cases h
    exact ⟨Decidable.not_not.1 stopped, rfl⟩

/-- An active session is sent towards an outcome. -/
theorem of_sendOutcome_eq_ok {direction : Option Direction}
    (h : session.sendOutcome direction = .ok (some after)) :
    session.status ≠ .suspended ∧ after
      = { session with status := (direction.getD session.status.leaning).target } := by
  unfold sendOutcome at h
  split at h
  · cases h
  · next sendable =>
    exact ⟨(not_or.1 sendable).2, of_moveTo_eq_some (Except.ok.inj h)⟩

/-- The status of a session that is not stopped is overridden by one that agrees with its branches,
or, without a status, by the one that takes a failed session up again. -/
theorem of_changeStatus_eq_ok {status : Option GlobalStatus}
    (h : session.changeStatus status = .ok (some after)) :
    session.status ≠ .suspended ∧ ∃ target, after = { session with status := target }
      ∧ (status = some target ∧ target.isConsistentWith session.branchStatuses = true
        ∨ status = none ∧ session.status.remedy? = some target) := by
  unfold changeStatus at h
  split at h
  · cases h
  · next active =>
    refine ⟨active, ?_⟩
    split at h
    · next target =>
      split at h
      · next agrees =>
        exact ⟨target, of_moveTo_eq_some (Except.ok.inj h), .inl ⟨rfl, agrees⟩⟩
      · cases h
    · split at h
      · next target remedy =>
        exact ⟨target, of_moveTo_eq_some (Except.ok.inj h), .inr ⟨rfl, remedy⟩⟩
      · cases h

/-- A report moves a session that is not stopped to a status that agrees with its branches. -/
theorem of_report_eq_ok {status : GlobalStatus} (h : session.report status = .ok (some after)) :
    session.status ≠ .suspended ∧ session.status.canMoveTo status = true
      ∧ status.isConsistentWith session.branchStatuses = true
      ∧ after = { session with status } := by
  obtain ⟨active, h⟩ := of_guard_eq_ok h
  obtain ⟨move, h⟩ := of_guard_eq_ok h
  obtain ⟨agrees, h⟩ := of_guard_eq_ok h
  cases h
  exact ⟨active, Decidable.not_not.1 move, Decidable.not_not.1 agrees, rfl⟩

/-! ## Revisions of a branch -/

/-- A branch that is dropped is taken out. -/
theorem of_dropBranch_eq_ok (h : session.dropBranch id = .ok (some after)) :
    after = session.removeBranch id := by
  obtain ⟨branch, -, h⟩ := exists_of_bind_eq_ok h
  split at h
  · cases h
    rfl
  · cases h

theorem of_forceDropBranch_eq_ok (h : session.forceDropBranch id = .ok (some after)) :
    after = session.removeBranch id := by
  obtain ⟨branch, -, h⟩ := exists_of_bind_eq_ok h
  cases h
  rfl

/-- A branch that has not entered phase two is stopped, and remembers its status. -/
theorem of_stopBranch_eq_ok (h : session.stopBranch id = .ok (some after)) :
    ∃ branch, session.branch? id = some branch ∧ branch.status.isStoppable = true
      ∧ after = session.modifyBranch id fun branch =>
        { branch with status := .suspended, suspendedFrom := some branch.status } := by
  obtain ⟨branch, steerable, h⟩ := exists_of_bind_eq_ok h
  split at h
  · cases h
  · split at h
    · next stoppable =>
      cases h
      exact ⟨branch, branch?_of_steerableBranch steerable, stoppable, rfl⟩
    · cases h

/-- A stopped branch goes on with the status that it remembers. -/
theorem of_restartBranch_eq_ok (h : session.restartBranch id = .ok (some after)) :
    ∃ branch, session.branch? id = some branch ∧ branch.status = .suspended
      ∧ after = session.modifyBranch id fun branch =>
        { branch with status := branch.suspendedFrom.getD .registered, suspendedFrom := none } := by
  obtain ⟨branch, steerable, h⟩ := exists_of_bind_eq_ok h
  split at h
  · cases h
  · next stopped =>
    cases h
    exact ⟨branch, branch?_of_steerableBranch steerable, Decidable.not_not.1 stopped, rfl⟩

/-- A report moves a branch that is not stopped. -/
theorem of_reportBranch_eq_ok {status : BranchStatus} {now : Millis}
    (h : session.reportBranch id status now = .ok (some after)) :
    ∃ branch, session.branch? id = some branch ∧ branch.status ≠ .suspended
      ∧ branch.status.canMoveTo status = true
      ∧ after = session.modifyBranch id fun branch =>
        { branch with status, modifiedTime := now } := by
  obtain ⟨-, h⟩ := of_guard_eq_ok h
  obtain ⟨branch, required, h⟩ := exists_of_bind_eq_ok h
  obtain ⟨active, h⟩ := of_guard_eq_ok h
  split at h
  · next move =>
    cases h
    exact ⟨branch, branch?_of_requireBranch required, active, move, rfl⟩
  · cases h

/-- A row is released in the branches of the session. -/
theorem of_releaseRow_eq_ok {target : LockTarget}
    (h : session.releaseRow target = .ok (some after)) : after = target.without session := by
  rw [releaseRow_eq] at h
  split at h
  · exact (Option.some.inj (Except.ok.inj h)).symm
  · cases h

end Session

end SessionRegistry
