import SessionRegistry.Proofs.Operation.Changes
import SessionRegistry.Proofs.Session.Sound
import SessionRegistry.Proofs.Store.Recovery

/-!
# Succession of images

What every revision keeps of the image that it revises: the session's number, the branches in their
order as far as they stay, and the status of each branch that has ended.

## Main definitions

* `Session.numbers`, `Session.Ascending`: the numbers in a session, and their order.
* `Session.Succeeds`: one image comes after another.
* `Session.Edits`: it differs from that one in its branches alone.

## Main results

* `Operation.Revises.succeeds`: every revision gives an image that succeeds the revised one.
* `Session.Succeeds.ascending`, `Session.Succeeds.maxId_le`: what succession does to the numbers.
-/

namespace SessionRegistry

namespace Session

/-- The numbers in a session: its own and those of its branches, in the order of registration. -/
def numbers (session : Session) : List UInt64 :=
  session.transactionId :: session.branches.map Branch.id

/-- The numbers in a session ascend: each was handed out after those in front of it. -/
def Ascending (session : Session) : Prop :=
  session.numbers.Pairwise (· < ·)

/-- The highest number in a session is at most a bound exactly if every number in it is. -/
theorem maxId_le_iff_numbers {session : Session} {b : UInt64} :
    session.maxId ≤ b ↔ ∀ n ∈ session.numbers, n ≤ b := by
  rw [maxId_le_iff, numbers, List.forall_mem_cons, List.forall_mem_map]

/-- One image comes after another: it has the same number and no new branches, and a branch that
had ended has the same status. -/
structure Succeeds (after before : Session) : Prop where
  transactionId : after.transactionId = before.transactionId
  ids : (after.branches.map Branch.id).Sublist (before.branches.map Branch.id)
  ended : ∀ branch ∈ after.branches, ∃ earlier ∈ before.branches, branch.id = earlier.id
    ∧ (earlier.status.isTerminal = true → branch.status = earlier.status)

/-- One image comes after another and differs from it in its branches alone. -/
structure Edits (after before : Session) : Prop extends after.Succeeds before where
  same : after = { before with branches := after.branches }

variable {session after : Session} {id : BranchId}

/-- A session whose branches stay as they are. -/
theorem succeeds_of_branches_eq (transactionId : after.transactionId = session.transactionId)
    (branches : after.branches = session.branches) : after.Succeeds session where
  transactionId := transactionId
  ids := by simp [branches]
  ended branch hbranch := ⟨branch, branches ▸ hbranch, rfl, fun _ => rfl⟩

theorem edits_removeBranch (session : Session) (id : BranchId) :
    (session.removeBranch id).Edits session where
  same := rfl
  transactionId := rfl
  ids := List.eraseP_sublist.map _
  ended branch hbranch := ⟨branch, List.mem_of_mem_eraseP hbranch, rfl, fun _ => rfl⟩

/-- Modifying an entry does not show where the modification does not. -/
theorem map_modifyFirst {α β : Type} {test : α → Bool} {f : α → α} {g : α → β}
    (h : ∀ a, g (f a) = g a) (l : List α) : (modifyFirst test f l).map g = l.map g := by
  induction l with
  | nil => rfl
  | cons a rest ih =>
    unfold modifyFirst
    split
    · rw [List.map_cons, List.map_cons, h]
    · rw [List.map_cons, List.map_cons, ih]

/-- A branch may change its status if it has not ended. -/
theorem edits_modifyBranch {branch : Branch} {f : Branch → Branch}
    (found : session.branch? id = some branch) (same : ∀ branch, (f branch).id = branch.id)
    (ended : branch.status.isTerminal = true → (f branch).status = branch.status) :
    (session.modifyBranch id f).Edits session where
  same := rfl
  transactionId := rfl
  ids := by simp [modifyBranch, map_modifyFirst same]
  ended changed hchanged := by
    rcases mem_modifyFirst hchanged with kept | ⟨earlier, hearlier, rfl⟩
    · exact ⟨changed, kept, rfl, fun _ => rfl⟩
    · cases found.symm.trans hearlier
      exact ⟨branch, List.mem_of_find?_eq_some found, same branch, ended⟩

/-! ## Revisions -/

theorem succeeds_stop (h : session.stop = .ok (some after)) : after.Succeeds session := by
  obtain ⟨-, -, rfl⟩ := of_stop_eq_ok h
  exact succeeds_of_branches_eq rfl rfl

theorem succeeds_restart (h : session.restart = .ok (some after)) : after.Succeeds session := by
  obtain ⟨-, rfl⟩ := of_restart_eq_ok h
  exact succeeds_of_branches_eq rfl rfl

theorem succeeds_sendOutcome {direction : Option Direction}
    (h : session.sendOutcome direction = .ok (some after)) : after.Succeeds session := by
  obtain ⟨-, rfl⟩ := of_sendOutcome_eq_ok h
  exact succeeds_of_branches_eq rfl rfl

theorem succeeds_changeStatus {status : Option GlobalStatus}
    (h : session.changeStatus status = .ok (some after)) : after.Succeeds session := by
  obtain ⟨-, _, rfl, -⟩ := of_changeStatus_eq_ok h
  exact succeeds_of_branches_eq rfl rfl

theorem succeeds_report {status : GlobalStatus} (h : session.report status = .ok (some after)) :
    after.Succeeds session := by
  obtain ⟨-, -, -, rfl⟩ := of_report_eq_ok h
  exact succeeds_of_branches_eq rfl rfl

theorem edits_dropBranch (h : session.dropBranch id = .ok (some after)) : after.Edits session :=
  of_dropBranch_eq_ok h ▸ session.edits_removeBranch id

theorem edits_forceDropBranch (h : session.forceDropBranch id = .ok (some after)) :
    after.Edits session :=
  of_forceDropBranch_eq_ok h ▸ session.edits_removeBranch id

/-- Only a branch that has not ended is stopped. -/
theorem edits_stopBranch (h : session.stopBranch id = .ok (some after)) : after.Edits session := by
  obtain ⟨branch, found, stoppable, rfl⟩ := of_stopBranch_eq_ok h
  refine edits_modifyBranch found (fun _ => rfl) fun ended => ?_
  cases ended.symm.trans (BranchStatus.not_isTerminal_of_isStoppable stoppable)

/-- Only a branch that is stopped goes on, and that one has not ended. -/
theorem edits_restartBranch (h : session.restartBranch id = .ok (some after)) :
    after.Edits session := by
  obtain ⟨branch, found, stopped, rfl⟩ := of_restartBranch_eq_ok h
  refine edits_modifyBranch found (fun _ => rfl) fun ended => ?_
  rw [stopped] at ended
  cases ended

/-- No report moves a branch that has ended. -/
theorem edits_reportBranch {status : BranchStatus} {now : Millis}
    (h : session.reportBranch id status now = .ok (some after)) : after.Edits session := by
  obtain ⟨branch, found, -, move, rfl⟩ := of_reportBranch_eq_ok h
  exact edits_modifyBranch found (fun _ => rfl) (BranchStatus.eq_of_canMoveTo move)

/-- Releasing a row changes the lock keys alone. -/
theorem edits_releaseRow {target : LockTarget}
    (h : session.releaseRow target = .ok (some after)) : after.Edits session := by
  have same : ∀ branch : Branch, (target.releaseBranch branch).id = branch.id
      ∧ (target.releaseBranch branch).status = branch.status := by
    intro branch
    obtain ⟨lockKey, same⟩ := target.releaseBranch_eq branch
    rw [same]
    exact ⟨rfl, rfl⟩
  rw [of_releaseRow_eq_ok h]
  refine ⟨⟨rfl, ?_, fun branch hbranch => ?_⟩, rfl⟩
  · have ids : (target.without session).branches.map Branch.id = session.branches.map Branch.id := by
      simp [LockTarget.without, same]
    simp [ids]
  · obtain ⟨earlier, hearlier, rfl⟩ := List.mem_map.1 hbranch
    exact ⟨earlier, hearlier, (same earlier).1, fun _ => (same earlier).2⟩

end Session

/-- Every revision gives an image that succeeds the revised one. -/
theorem Operation.Revises.succeeds {now : Millis} {op : Operation} {xid : Xid}
    {revision : Session → Revision} {before after : Session} (h : op.Revises now xid revision)
    (revised : revision before = .ok (some after)) : after.Succeeds before := by
  cases h with
  | reportBranch _ id status => exact (Session.edits_reportBranch revised).toSucceeds
  | reportSession _ status => exact Session.succeeds_report revised
  | stop _ => exact Session.succeeds_stop revised
  | restart _ => exact Session.succeeds_restart revised
  | sendOutcome _ direction => exact Session.succeeds_sendOutcome revised
  | changeStatus _ _ => exact Session.succeeds_changeStatus revised
  | dropBranch _ id => exact (Session.edits_dropBranch revised).toSucceeds
  | forceDropBranch _ id => exact (Session.edits_forceDropBranch revised).toSucceeds
  | stopBranch _ id => exact (Session.edits_stopBranch revised).toSucceeds
  | restartBranch _ id => exact (Session.edits_restartBranch revised).toSucceeds
  | releaseRow _ => exact (Session.edits_releaseRow revised).toSucceeds

namespace Session.Succeeds

variable {before after : Session}

/-- The time of its latest change does not matter to what an image succeeds. -/
theorem modifiedAt (h : after.Succeeds before) (now : Millis) :
    Succeeds { after with modifiedTime := now } before :=
  ⟨h.transactionId, h.ids, h.ended⟩

/-- No number is added. -/
theorem numbers (h : after.Succeeds before) : after.numbers.Sublist before.numbers := by
  rw [Session.numbers, Session.numbers, h.transactionId]
  exact h.ids.cons_cons _

theorem ascending (h : after.Succeeds before) (ascending : before.Ascending) : after.Ascending :=
  ascending.sublist h.numbers

theorem maxId_le (h : after.Succeeds before) : after.maxId ≤ before.maxId :=
  maxId_le_iff_numbers.2 fun n hn =>
    maxId_le_iff_numbers.1 (UInt64.le_refl _) n (h.numbers.subset hn)

end Session.Succeeds

end SessionRegistry
