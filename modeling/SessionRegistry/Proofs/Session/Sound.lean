import SessionRegistry.Proofs.Session.Revision

/-!
# Sound sessions

What holds of every session that only reports, commands and sweeps have touched: its status agrees
with its branches, and a session or a branch remembers an earlier status exactly while it is
stopped. The status that a stopped session remembers makes no demand on its branches, and a branch
that has not ended belongs to a session whose status makes none; so neither letting a session go on
nor changing such a branch can break the agreement.

## Main definitions

* `Branch.Sound`, `Session.Sound`: the invariant of a branch and of a session.

## Main results

* `Session.Sound.stop` and so on: each revision of a sound session gives a sound session.
* `Session.sound_start`, `Session.Sound.addRegistered`: sessions begin sound, and branches are
  registered sound.
-/

namespace SessionRegistry

/-! ## Statuses and branches -/

/-- The rule between a session and its branches speaks about each branch alone. -/
theorem GlobalStatus.isConsistentWith_iff {status : GlobalStatus} {branches : List BranchStatus} :
    status.isConsistentWith branches = true
      ↔ ∀ branch ∈ branches, status.isConsistentWith [branch] = true := by
  cases status <;> simp [isConsistentWith]

/-- A status that has not ended agrees with all branches. -/
theorem GlobalStatus.isConsistentWith_of_not_isTerminal {status : GlobalStatus}
    (h : status.isTerminal = false) (branches : List BranchStatus) :
    status.isConsistentWith branches = true := by
  cases status with
  | committed => cases h
  | rollbacked => cases h
  | timeoutRollbacked => cases h
  | finished => cases h
  | _ => rfl

/-- A status that agrees with a branch that has not ended agrees with all branches. -/
theorem GlobalStatus.isConsistentWith_of_unended {status : GlobalStatus} {branch : BranchStatus}
    (h : status.isConsistentWith [branch] = true) (unended : branch.isTerminal = false)
    (branches : List BranchStatus) : status.isConsistentWith branches = true := by
  cases status with
  | committed =>
    obtain rfl : branch = .phaseTwoCommitted := by simpa [isConsistentWith] using h
    cases unended
  | rollbacked =>
    obtain rfl : branch = .phaseTwoRollbacked := by simpa [isConsistentWith] using h
    cases unended
  | timeoutRollbacked =>
    obtain rfl : branch = .phaseTwoRollbacked := by simpa [isConsistentWith] using h
    cases unended
  | finished =>
    have ended : branch.isTerminal = true := by simpa [isConsistentWith] using h
    cases ended.symm.trans unended
  | _ => rfl

namespace BranchStatus

/-- No report moves a branch that has ended. -/
theorem eq_of_canMoveTo {source target : BranchStatus} (h : source.canMoveTo target = true)
    (ended : source.isTerminal = true) : target = source := by
  unfold canMoveTo at h
  split at h
  · next same => exact same.symm
  -- A branch that has ended has no step to another status.
  · cases source with
    | registered => cases ended
    | phaseOneDone => cases ended
    | suspended => cases ended
    | _ => simp [hasStep] at h

/-- No report stops a branch. -/
theorem ne_suspended_of_canMoveTo {source target : BranchStatus}
    (h : source.canMoveTo target = true) : target ≠ .suspended := by
  rintro rfl
  cases source <;> cases h

/-- A branch that can be stopped has not ended. -/
theorem not_isTerminal_of_isStoppable {status : BranchStatus} (h : status.isStoppable = true) :
    status.isTerminal = false := by
  cases status <;> first | rfl | cases h

/-- A branch that can be stopped has not entered phase two. -/
theorem eq_or_eq_of_isStoppable {status : BranchStatus} (h : status.isStoppable = true) :
    status = .registered ∨ status = .phaseOneDone := by
  cases status with
  | registered => exact .inl rfl
  | phaseOneDone => exact .inr rfl
  | _ => cases h

end BranchStatus

/-- No report stops a session. -/
theorem GlobalStatus.ne_suspended_of_canMoveTo {source target : GlobalStatus}
    (h : source.canMoveTo target = true) : target ≠ .suspended := by
  rintro rfl
  cases source <;> cases h

/-- A retrying status that takes a failed session up again has not ended. -/
theorem GlobalStatus.not_isTerminal_of_remedy? {status target : GlobalStatus}
    (h : status.remedy? = some target) : target.isTerminal = false ∧ target ≠ .suspended := by
  cases status <;> cases h <;> decide

/-- A session that is sent in a direction has not ended, nor is it stopped. -/
theorem Direction.target_active (direction : Direction) :
    direction.target.isTerminal = false ∧ direction.target ≠ .suspended := by
  cases direction <;> decide

/-- The status that takes a failed session up again is another one than it has. -/
theorem GlobalStatus.remedy?_ne (status : GlobalStatus) : status.remedy? ≠ some status := by
  cases status <;> decide

/-! ## The invariant -/

/-- A branch remembers an earlier status exactly while it is stopped, and had not entered phase two
when it was stopped. -/
structure Branch.Sound (branch : Branch) : Prop where
  suspended : branch.suspendedFrom.isSome = true ↔ branch.status = .suspended
  earlier : ∀ status ∈ branch.suspendedFrom, status = .registered ∨ status = .phaseOneDone

/-- The status of a session agrees with its branches. The session remembers an earlier status
exactly while it is stopped, and was active when it was stopped. Its branches are sound. -/
structure Session.Sound (session : Session) : Prop where
  consistent : session.status.isConsistentWith session.branchStatuses = true
  suspended : session.suspendedFrom.isSome = true ↔ session.status = .suspended
  earlier : ∀ status ∈ session.suspendedFrom, status.isTerminal = false ∧ status ≠ .suspended
  branches : ∀ branch ∈ session.branches, branch.Sound

/-! ## Branches of a session -/

/-- An entry of a modified list is an entry of the list or the modified one. -/
theorem mem_modifyFirst {α : Type} {test : α → Bool} {f : α → α} {l : List α} {b : α}
    (h : b ∈ modifyFirst test f l) : b ∈ l ∨ ∃ a, l.find? test = some a ∧ b = f a := by
  induction l with
  | nil => cases h
  | cons a rest ih =>
    unfold modifyFirst at h
    split at h
    · next passes =>
      rcases List.mem_cons.1 h with rfl | h
      · exact .inr ⟨a, List.find?_cons_of_pos passes, rfl⟩
      · exact .inl (List.mem_cons_of_mem a h)
    · next fails =>
      rcases List.mem_cons.1 h with rfl | h
      · exact .inl List.mem_cons_self
      · rcases ih h with h | ⟨found, hfound, rfl⟩
        · exact .inl (List.mem_cons_of_mem a h)
        · exact .inr ⟨found, (List.find?_cons_of_neg fails).trans hfound, rfl⟩

namespace Session.Sound

variable {session after : Session} {id : BranchId} {branch : Branch}

/-- A session agrees with each of its branches. -/
theorem agrees (h : session.Sound) (hbranch : branch ∈ session.branches) :
    session.status.isConsistentWith [branch.status] = true :=
  GlobalStatus.isConsistentWith_iff.1 h.consistent _ (List.mem_map_of_mem hbranch)

/-- Other branches keep a session sound if they are sound and agree with its status. -/
theorem withBranches (h : session.Sound) {branches : List Branch}
    (sound : ∀ branch ∈ branches,
      branch.Sound ∧ session.status.isConsistentWith [branch.status] = true) :
    Sound { session with branches } where
  consistent := by
    refine GlobalStatus.isConsistentWith_iff.2 fun status hstatus => ?_
    obtain ⟨branch, hbranch, rfl⟩ := List.mem_map.1 hstatus
    exact (sound branch hbranch).2
  suspended := h.suspended
  earlier := h.earlier
  branches branch hbranch := (sound branch hbranch).1

/-- Another status keeps a session sound if it agrees with the branches and no operator has stopped
the session, before or after. -/
theorem withStatus (h : session.Sound) {status : GlobalStatus}
    (active : session.status ≠ .suspended) (active' : status ≠ .suspended)
    (agrees : status.isConsistentWith session.branchStatuses = true) :
    Sound { session with status } where
  consistent := agrees
  suspended := ⟨fun some => absurd (h.suspended.1 some) active, fun same => absurd same active'⟩
  earlier := h.earlier
  branches := h.branches

/-- A session without one of its branches is sound. -/
theorem removeBranch (h : session.Sound) (id : BranchId) : (session.removeBranch id).Sound :=
  h.withBranches fun _ hbranch =>
    have kept := List.mem_of_mem_eraseP hbranch
    ⟨h.branches _ kept, h.agrees kept⟩

/-- A session with one branch changed is sound if the new branch is sound and agrees with the
status. -/
theorem modifyBranch (h : session.Sound) {f : Branch → Branch}
    (found : session.branch? id = some branch) (sound : (f branch).Sound)
    (agrees : session.status.isConsistentWith [(f branch).status] = true) :
    (session.modifyBranch id f).Sound := by
  refine h.withBranches fun b hb => ?_
  rcases mem_modifyFirst hb with kept | ⟨a, ha, rfl⟩
  · exact ⟨h.branches b kept, h.agrees kept⟩
  · cases found.symm.trans ha
    exact ⟨sound, agrees⟩

/-! ## Revisions of the session -/

/-- A session that is stopped remembers a status that has not ended, and a stopped session agrees
with all branches. -/
theorem stop (h : session.Sound) (revised : session.stop = .ok (some after)) : after.Sound := by
  obtain ⟨active, unended, rfl⟩ := of_stop_eq_ok revised
  exact {
    consistent := rfl
    suspended := by simp
    earlier := by
      intro status hstatus
      cases hstatus
      exact ⟨unended, active⟩
    branches := h.branches }

/-- A session that goes on has the status that it had before it was stopped, which makes no demand
on the branches. -/
theorem restart (h : session.Sound) (revised : session.restart = .ok (some after)) :
    after.Sound := by
  obtain ⟨stopped, rfl⟩ := of_restart_eq_ok revised
  -- The session is stopped, so it remembers a status and does not fall back to a default.
  obtain ⟨status, hstatus⟩ := Option.isSome_iff_exists.1 (h.suspended.2 stopped)
  obtain ⟨unended, active⟩ := h.earlier status hstatus
  rw [hstatus]
  exact {
    consistent := GlobalStatus.isConsistentWith_of_not_isTerminal unended _
    suspended := by simp [active]
    earlier := by simp
    branches := h.branches }

/-- A session that is told its outcome gets a status that has not ended. -/
theorem sendOutcome (h : session.Sound) {direction : Option Direction}
    (revised : session.sendOutcome direction = .ok (some after)) : after.Sound := by
  obtain ⟨active, rfl⟩ := of_sendOutcome_eq_ok revised
  obtain ⟨unended, active'⟩ := (direction.getD session.status.leaning).target_active
  exact h.withStatus active active' (GlobalStatus.isConsistentWith_of_not_isTerminal unended _)

/-- A session that an operator changes agrees with its branches by the check of the command, or has
failed and is taken up again. -/
theorem changeStatus (h : session.Sound) {status : Option GlobalStatus}
    (active' : status ≠ some .suspended)
    (revised : session.changeStatus status = .ok (some after)) : after.Sound := by
  obtain ⟨active, target, rfl, ⟨rfl, agrees⟩ | ⟨-, remedy⟩⟩ := of_changeStatus_eq_ok revised
  · exact h.withStatus active (fun same => active' (congrArg some same)) agrees
  · obtain ⟨unended, active'⟩ := GlobalStatus.not_isTerminal_of_remedy? remedy
    exact h.withStatus active active' (GlobalStatus.isConsistentWith_of_not_isTerminal unended _)

/-- A session that takes a reported status agrees with its branches by the check of the report. -/
theorem report (h : session.Sound) {status : GlobalStatus}
    (revised : session.report status = .ok (some after)) : after.Sound := by
  obtain ⟨active, move, agrees, rfl⟩ := of_report_eq_ok revised
  exact h.withStatus active (GlobalStatus.ne_suspended_of_canMoveTo move) agrees

/-! ## Revisions of a branch -/

/-- A session without a dropped branch is sound. -/
theorem dropBranch (h : session.Sound) (revised : session.dropBranch id = .ok (some after)) :
    after.Sound :=
  of_dropBranch_eq_ok revised ▸ h.removeBranch id

theorem forceDropBranch (h : session.Sound)
    (revised : session.forceDropBranch id = .ok (some after)) : after.Sound :=
  of_forceDropBranch_eq_ok revised ▸ h.removeBranch id

/-- A branch that is stopped had not ended, so its session agrees with every branch. -/
theorem stopBranch (h : session.Sound) (revised : session.stopBranch id = .ok (some after)) :
    after.Sound := by
  obtain ⟨branch, found, stoppable, rfl⟩ := of_stopBranch_eq_ok revised
  have agrees := h.agrees (List.mem_of_find?_eq_some found)
  refine h.modifyBranch found ⟨by simp, ?_⟩ (GlobalStatus.isConsistentWith_of_unended agrees
    (BranchStatus.not_isTerminal_of_isStoppable stoppable) _)
  intro status hstatus
  cases hstatus
  exact BranchStatus.eq_or_eq_of_isStoppable stoppable

/-- A branch that goes on was stopped, so its session agrees with every branch. -/
theorem restartBranch (h : session.Sound) (revised : session.restartBranch id = .ok (some after)) :
    after.Sound := by
  obtain ⟨branch, found, stopped, rfl⟩ := of_restartBranch_eq_ok revised
  have stored := List.mem_of_find?_eq_some found
  have agrees := h.agrees stored
  rw [stopped] at agrees
  obtain ⟨status, hstatus⟩ := Option.isSome_iff_exists.1
    ((h.branches branch stored).suspended.2 stopped)
  have active : status ≠ .suspended := by
    rcases (h.branches branch stored).earlier status hstatus with rfl | rfl <;> decide
  refine h.modifyBranch found ⟨?_, by simp⟩
    (GlobalStatus.isConsistentWith_of_unended agrees rfl _)
  simp [hstatus, active]

/-- A reported move of a branch that has ended is none, and a session agrees with every branch if
it agrees with one that has not ended. -/
theorem reportBranch (h : session.Sound) {status : BranchStatus} {now : Millis}
    (revised : session.reportBranch id status now = .ok (some after)) : after.Sound := by
  obtain ⟨branch, found, active, move, rfl⟩ := of_reportBranch_eq_ok revised
  have stored := List.mem_of_find?_eq_some found
  have agrees := h.agrees stored
  refine h.modifyBranch found ⟨?_, (h.branches branch stored).earlier⟩ ?_
  · exact ⟨fun some => absurd ((h.branches branch stored).suspended.1 some) active,
      fun same => absurd same (BranchStatus.ne_suspended_of_canMoveTo move)⟩
  · cases ended : branch.status.isTerminal with
    | true =>
      -- The only move from a status that has ended is to that status itself.
      dsimp only
      rw [BranchStatus.eq_of_canMoveTo move ended]
      exact agrees
    | false => exact GlobalStatus.isConsistentWith_of_unended agrees ended _

/-- Releasing a row changes neither the statuses nor what is remembered of them. -/
theorem releaseRow (h : session.Sound) {target : LockTarget}
    (revised : session.releaseRow target = .ok (some after)) : after.Sound := by
  rw [of_releaseRow_eq_ok revised]
  refine h.withBranches fun released hreleased => ?_
  obtain ⟨branch, hbranch, rfl⟩ := List.mem_map.1 hreleased
  obtain ⟨lockKey, same⟩ := target.releaseBranch_eq branch
  have sound := h.branches branch hbranch
  have agrees := h.agrees hbranch
  rw [same]
  exact ⟨⟨sound.suspended, sound.earlier⟩, agrees⟩

/-! ## Beginning -/

/-- A fresh branch is added to a session that has just begun. -/
theorem addRegistered (h : session.Sound) (begun : session.status = .begin)
    (registration : Registration) (id : BranchId) (now : Millis) :
    (session.addBranch (session.registeredBranch registration id now)).Sound := by
  unfold Session.addBranch
  split
  · exact h
  · refine h.withBranches fun branch hbranch => ?_
    rcases List.mem_append.1 hbranch with hbranch | hbranch
    · exact ⟨h.branches branch hbranch, h.agrees hbranch⟩
    · rw [List.mem_singleton.1 hbranch, begun]
      exact ⟨⟨by simp [Session.registeredBranch, Session.newBranch], by
        simp [Session.registeredBranch, Session.newBranch]⟩, rfl⟩

end Session.Sound

/-- A fresh session is sound. -/
theorem Session.sound_start (xid : Xid) (transactionId : UInt64) (applicationId name : String)
    (now : Millis) : (Session.start xid transactionId applicationId name now).Sound where
  consistent := rfl
  suspended := by simp [start]
  earlier := by simp [start]
  branches := by simp [start]

end SessionRegistry
