import SessionRegistry.Proofs.Store.Discretion
import SessionRegistry.Proofs.Store.Run

/-!
# Operations give back the locks that they take

Every operation leaves the locks as it finds them, whether it succeeds or fails: most of them because
they are discreet, the others part by part. So as long as nobody else holds a lock, no lock is held
between two operations.

## Main definitions

* `KeepsLocks`: a computation leaves the locks as it finds them.

## Main results

* `Operation.keepsLocks`: every operation does.
* `Run.locks_eq_empty`: no lock is held after a run in which nobody else takes one.
-/

namespace SessionRegistry

namespace Store

/-- The locks are the same. -/
def SameLocks (s next : Store) : Prop :=
  next.locks = s.locks

instance : IsPreorder Store SameLocks where
  refl _ := rfl
  trans _ _ _ first second := Eq.trans second first

/-- A computation leaves the locks as it finds them. -/
def KeepsLocks {α : Type} (act : StoreM α) : Prop :=
  Leaves SameLocks act

namespace KeepsLocks

variable {α : Type}

theorem of_discreet {act : StoreM α} (h : Leaves Discreet act) : KeepsLocks act :=
  h.mono fun _ _ discreet => discreet.locks

theorem tell (notice : Notice) : KeepsLocks (Store.tell notice) :=
  .modify fun _ => rfl

theorem checkpoint : KeepsLocks Store.checkpoint :=
  of_discreet .checkpoint

theorem sweepSession (xid : Xid) (retention now : Millis) :
    KeepsLocks (Store.sweepSession xid retention now) :=
  of_discreet (.sweepSession xid retention now)

/-! ## Commands that leave an entry in the audit trail -/

theorem forceDeleteSession (xid : Xid) : KeepsLocks (Store.forceDeleteSession xid) :=
  .bind (tell _) fun _ => .bind (of_discreet (.delete xid)) fun _ => tell _

theorem changeStatus (xid : Xid) (status : Option GlobalStatus) :
    KeepsLocks (Store.changeStatus xid status) := by
  refine .bind (tell _) fun _ => ?_
  dsimp only
  split
  · exact .throw_bind _ _
  · refine .bind (of_discreet (.revise xid _)) fun images => ?_
    obtain ⟨before, after⟩ := images
    dsimp only
    split
    · exact .pure _
    · exact .bind (tell _) fun _ => .pure _

theorem forceDeleteBranch (xid : Xid) (id : BranchId) :
    KeepsLocks (Store.forceDeleteBranch xid id) := by
  refine .bind (tell _) fun _ => .bind (of_discreet (.revise xid _)) fun images => ?_
  obtain ⟨before, after⟩ := images
  dsimp only
  cases before.branch? id with
  | none => exact .pure _
  | some branch => exact .bind (tell _) fun _ => .pure _

theorem releaseIn (target : LockTarget) (xid : Xid) : KeepsLocks (Store.releaseIn target xid) := by
  refine .bind (of_discreet (.revise xid _)) fun images => ?_
  obtain ⟨before, after⟩ := images
  dsimp only
  split
  · exact .bind (tell _) fun _ => .pure _
  · exact .pure _

theorem deleteLock (target : LockTarget) : KeepsLocks (Store.deleteLock target) :=
  Leaves.deleteLock (tell _) (releaseIn target)

end KeepsLocks

end Store

open Store in
/-- Every operation leaves the locks as it finds them. -/
theorem Operation.keepsLocks (op : Operation) : KeepsLocks op.perform := by
  by_cases audited : op.isAudited = true
  · cases op with
    | command c =>
      refine .bind ?_ fun _ => .pure _
      cases c with
      | forceDeleteSession xid => exact .bind (KeepsLocks.forceDeleteSession xid) fun _ => .pure _
      | changeStatus xid status => exact .bind (KeepsLocks.changeStatus xid status) fun _ => .pure _
      | forceDeleteBranch xid id => exact .bind (KeepsLocks.forceDeleteBranch xid id) fun _ => .pure _
      | deleteLock target => exact .bind (KeepsLocks.deleteLock target) fun _ => .pure _
      | _ => cases audited
    | _ => cases audited
  · exact .of_discreet (op.discreet (Bool.eq_false_iff.2 audited))

/-! ## Runs -/

namespace Store

variable {s next start : Store} {e : Event} {new : List Attempt} {past : List Moment}

/-- A store that is opened holds no lock. -/
theorem locks_of_open {settings : StoreSettings} {now : Millis} {files : Files}
    (opened : openFiles settings now files = .ok next) : next.locks = .empty := by
  obtain ⟨recovered, -, -, ⟨-, rfl⟩ | ⟨-, rfl⟩⟩ := of_openFiles_eq_ok opened
  · rfl
  · rw [KeepsLocks.checkpoint]
    rfl

/-- No lock is held after an event that takes none, if none was held before. -/
theorem Next.locks_eq_empty (h : Next s e new next) (own : ∀ locks, e ≠ .hold locks)
    (free : s.locks = .empty) : next.locks = .empty := by
  cases h with
  | @perform op => exact (op.keepsLocks s).trans free
  | hold locks => exact absurd rfl (own locks)
  | tick now => exact free
  | reopen opened => exact locks_of_open opened
  | crash opened => exact locks_of_open opened

/-- No lock is held after a run in which nobody else takes one. -/
theorem Run.locks_eq_empty {settings : StoreSettings} {now : Millis} {files : Files}
    (opened : openFiles settings now files = .ok start) (run : Run start past s)
    (own : ∀ moment ∈ past, ∀ locks, moment.event ≠ .hold locks) : s.locks = .empty := by
  induction run with
  | start => exact locks_of_open opened
  | @step past moment _ happens ih =>
    obtain ⟨earlier, last⟩ := List.forall_mem_append.1 own
    exact happens.leads.locks_eq_empty (last moment (List.mem_singleton_self _)) (ih earlier)

end Store

end SessionRegistry
