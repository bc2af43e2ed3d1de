import Mathlib.Order.Defs.Unbundled
import SessionRegistry.Operation
import SessionRegistry.Proofs.Store.Step

/-!
# What computations leave

Most of what a store does gives back the locks that it takes and leaves no entry in the audit trail.
That a computation does so follows from its parts, as for everything that a step may keep: what is
true between the stores before and after each part is true between the first and the last store, if
it is reflexive and transitive.

## Main definitions

* `Store.audits`: the audit trail.
* `Store.Leaves`: a computation leaves a store that is related to the one that it finds.
* `Store.Discreet`: the locks and the audit trail are the same.
* `Operation.isAudited`: whether an operation may leave an entry in the audit trail.

## Main results

* `Leaves.bind`: a sequence of computations.
* `Leaves.withLock`: what is done under a lock is discreet if it is discreet without the lock.
* `Operation.discreet`: which operations are discreet.
-/

namespace SessionRegistry

/-- The entry of the audit trail that a notice is. -/
def Notice.entry? : Notice → Option AuditEntry
  | .command _ => none
  | .audit entry => some entry

/-- Tables with the same locks are the same. -/
theorem LockTable.ext {a b : LockTable} (h : a.held = b.held) : a = b := by
  cases a
  cases b
  cases h
  rfl

/-- A lock that has been given out and is given back leaves the locks as they were. -/
theorem LockTable.release_of_acquire {table taken : LockTable} {xid : Xid} {wait : Millis}
    (h : table.acquire xid wait = .ok taken) : taken.release xid = table := by
  obtain ⟨-, held⟩ := (acquire_eq_ok_iff table taken xid wait).1 h
  refine ext ?_
  show taken.held.erase xid = table.held
  rw [held, List.erase_cons_head]

namespace Store

/-- The audit trail: what a store has told beyond the announcements of the commands. -/
def audits (s : Store) : List AuditEntry :=
  s.trail.filterMap Notice.entry?

/-- What a computation leaves is related to what it finds, whether it succeeds or fails. -/
def Leaves {α : Type} (R : Store → Store → Prop) (act : StoreM α) : Prop :=
  ∀ s : Store, R s (act.run.run s).2

/-- The locks and the audit trail are the same. -/
structure Discreet (s next : Store) : Prop where
  locks : next.locks = s.locks
  audits : next.audits = s.audits

instance : IsPreorder Store Discreet where
  refl _ := ⟨rfl, rfl⟩
  trans _ _ _ first second :=
    ⟨second.locks.trans first.locks, second.audits.trans first.audits⟩

namespace Leaves

variable {α β : Type} {xid : Xid} {R R' : Store → Store → Prop}

section Parts

theorem mono {act : StoreM α} (h : Leaves R act) (weaker : ∀ s next, R s next → R' s next) :
    Leaves R' act :=
  fun s => weaker _ _ (h s)

theorem modify {f : Store → Store} (h : ∀ s, R s (f s)) : Leaves R (modify f : StoreM Unit) :=
  h

theorem attempt {act : StoreM α} (h : Leaves R act) : Leaves R (Store.attempt act) :=
  h

variable [IsPreorder Store R]

theorem pure (a : α) : Leaves R (Pure.pure a : StoreM α) :=
  refl_of R

theorem throw (e : Error) : Leaves R (MonadExcept.throw e : StoreM α) :=
  refl_of R

theorem get : Leaves R (MonadState.get : StoreM Store) :=
  refl_of R

theorem answer (result : Except Error α) : Leaves R (Store.answer result) := by
  intro s
  rw [run_answer]
  exact refl_of R s

theorem bind {act : StoreM α} {f : α → StoreM β} (h : Leaves R act) (hf : ∀ a, Leaves R (f a)) :
    Leaves R (act >>= f) := by
  intro s
  have first := h s
  rcases run : act.run.run s with ⟨e | a, next⟩
  · rw [run] at first
    rwa [run_bind_of_error s f run]
  · rw [run] at first
    rw [run_bind_of_ok s f run]
    exact trans_of R first (hf a next)

theorem discard {act : StoreM α} (h : Leaves R act) : Leaves R (Functor.discard act) :=
  h.bind fun _ => .pure ()

theorem throw_bind (e : Error) (f : α → StoreM β) : Leaves R (MonadExcept.throw e >>= f) := by
  intro s
  rw [run_bind_of_error s f (run_throw s e)]
  exact refl_of R s

end Parts

/-! ## Steps of a store -/

theorem onLog (step : LogM α) : Leaves Discreet (Store.onLog step) := by
  intro s
  rcases ended : step.run.run s.log with ⟨result, log⟩
  rw [run_onLog s ended]
  exact ⟨rfl, rfl⟩

/-- What is done after a lock has been given out, and then giving it back, leaves the locks and the
audit trail as they were before. -/
theorem discreet_of_given {act : StoreM α} {s : Store} {locks : LockTable} {wait : Millis}
    (h : Leaves Discreet act) (given : s.locks.acquire xid wait = .ok locks) :
    Discreet s (((do
      let result ← Store.attempt act
      unlock xid
      Store.answer result : StoreM α)).run.run { s with locks }).2 := by
  rw [run_bind_of_ok _ _ (run_attempt _ act), run_unlock_answer]
  obtain ⟨same, silent⟩ := h { s with locks }
  refine ⟨?_, silent⟩
  dsimp only at same ⊢
  rw [same, LockTable.release_of_acquire given]

/-- What is done under a lock leaves the locks as it finds them, because the lock is given back. -/
theorem withLock {act : StoreM α} (h : Leaves Discreet act) :
    Leaves Discreet (Store.withLock xid act) := by
  intro s
  unfold Store.withLock
  rcases s.run_lock_cases xid with ⟨-, run⟩ | ⟨-, -, run⟩ | ⟨-, locks, given, run⟩
  · rw [run_bind_of_error s _ run]
    exact refl_of Discreet s
  · rw [run_bind_of_error s _ run]
    exact refl_of Discreet s
  · rw [run_bind_of_ok s _ run]
    exact h.discreet_of_given given

/-- The announcement of a command is no entry of the audit trail. -/
theorem announce (command : Command) : Leaves Discreet (Store.announce command) :=
  .modify fun s => ⟨rfl, by simp [Store.audits, List.filterMap_append, Notice.entry?]⟩

theorem takeId : Leaves Discreet Store.takeId :=
  fun _ => ⟨rfl, rfl⟩

theorem load (xid : Xid) : Leaves Discreet (Store.load xid) :=
  .bind .get fun _ => .answer _

theorem checkpoint : Leaves Discreet Store.checkpoint := by
  intro s
  obtain ⟨_, _, _, frame, -⟩ := s.checkpoint_frame
  rw [frame]
  exact ⟨rfl, rfl⟩

theorem shutdown : Leaves Discreet Store.shutdown := by
  intro s
  obtain ⟨_, _, _, frame, -⟩ := s.shutdown_frame
  rw [frame]
  exact ⟨rfl, rfl⟩

theorem countBytes (bytes : Nat) : Leaves Discreet (Store.countBytes bytes) := by
  intro s
  obtain ⟨_, _, _, frame, -⟩ := s.countBytes_frame bytes
  rw [frame]
  exact ⟨rfl, rfl⟩

theorem commit (op : LogOperation) : Leaves Discreet (Store.commit op) := by
  have logs : Leaves Discreet (logDurably op) := by
    refine .bind (.modify fun _ => ⟨rfl, rfl⟩) fun _ => .bind .get fun s => ?_
    by_cases full : s.lsn = 0
    · rw [if_pos full]
      exact .throw _
    · rw [if_neg full]
      exact .onLog _
  exact .bind logs fun _ => .bind (.modify fun _ => ⟨rfl, rfl⟩) fun _ =>
    .bind (.countBytes _) fun _ => .bind .get fun _ => .pure _

theorem putLocked (locked : Xid) (session : Session) :
    Leaves Discreet (Store.putLocked locked session) :=
  .bind (.answer _) fun _ => .bind .get fun _ => .commit _

theorem removeLocked (xid : Xid) : Leaves Discreet (Store.removeLocked xid) :=
  .bind (.load xid) fun _ => .bind (.discard (.commit _)) fun _ => .pure _

theorem revise (xid : Xid) (revision : Session → Revision) :
    Leaves Discreet (Store.revise xid revision) := by
  -- The new image is written under the lock that is held already.
  refine .withLock (.bind (.load xid) fun before => .bind (.answer _) fun image => ?_)
  cases image with
  | none => exact .pure _
  | some after => exact .bind (.discard (.putLocked xid after)) fun _ => .pure _

theorem put (session : Session) : Leaves Discreet (Store.put session) :=
  .withLock (.putLocked _ session)

theorem delete (xid : Xid) : Leaves Discreet (Store.delete xid) :=
  .withLock (.removeLocked xid)

theorem deleteBranch (xid : Xid) (id : BranchId) : Leaves Discreet (Store.deleteBranch xid id) := by
  refine .withLock (.bind (.load xid) fun session => ?_)
  split
  · exact .throw _
  · exact .bind (.discard (.putLocked xid _)) fun _ => .pure _

/-! ## The coordinator -/

theorem begin (address applicationId serviceGroup name : String) (timeout : Millis) :
    Leaves Discreet (Store.begin address applicationId serviceGroup name timeout) := by
  unfold Store.begin
  dsimp only
  split
  · exact .throw_bind _ _
  · exact .bind .takeId fun _ => .bind .get fun _ => .bind (.discard (.put _)) fun _ => .pure _

theorem register (xid : Xid) (registration : Registration) :
    Leaves Discreet (Store.register xid registration) := by
  refine .withLock (.bind (.load xid) fun session => ?_)
  dsimp only
  split
  · exact .throw_bind _ _
  · exact .bind .takeId fun _ => .bind .get fun _ =>
      .bind (.discard (.putLocked xid _)) fun _ => .pure _

/-! ## Commands that stay within the protocol -/

theorem deleteSession (xid : Xid) : Leaves Discreet (Store.deleteSession xid) := by
  refine .bind (.announce _) fun _ => .withLock (.bind (.load xid) fun session => ?_)
  dsimp only
  split
  · exact .discard (.removeLocked xid)
  · exact .throw_bind _ _

/-- Most commands announce themselves and revise a session. -/
theorem announced (command : Command) (revision : Session → Revision) :
    Leaves Discreet (do
      Store.announce command
      Functor.discard <| Store.revise xid revision) :=
  .bind (.announce command) fun _ => .discard (.revise xid revision)

theorem sendOutcome (xid : Xid) (direction : Option Direction) :
    Leaves Discreet (Store.sendOutcome xid direction) :=
  .bind (.announce _) fun _ => .bind (.revise xid _) fun _ => .pure _

/-! ## The sweep -/

theorem sweepSession (xid : Xid) (retention now : Millis) :
    Leaves Discreet (Store.sweepSession xid retention now) := by
  intro s
  unfold Store.sweepSession
  -- A lock that is held is skipped, and without a lock nothing is given back.
  rw [run_bind_of_ok s _ (run_attempt s _)]
  rcases s.run_lock_cases xid with ⟨-, run⟩ | ⟨-, -, run⟩ | ⟨-, locks, given, run⟩
  · rw [run]
    exact refl_of Discreet s
  · rw [run]
    exact refl_of Discreet s
  · rw [run]
    refine discreet_of_given (.bind .get fun _ => ?_) given
    split
    · split
      · exact .bind (.discard (.removeLocked xid)) fun _ => .pure _
      · exact .pure _
    · exact .pure _

theorem sweepAll (retention now : Millis) (xids : List Xid) :
    Leaves Discreet (Store.sweepAll retention now xids) := by
  induction xids with
  | nil => exact .pure _
  | cons xid rest ih =>
    exact .bind (.sweepSession xid retention now) fun _ => .bind ih fun _ => .pure _

theorem sweep (retention now : Millis) : Leaves Discreet (Store.sweep retention now) :=
  .bind .get fun _ => .bind (.sweepAll retention now _) fun _ => .pure _

/-! ## Releases in several sessions -/

section Releases

variable [IsPreorder Store R] {target : LockTarget}

/-- A release in several sessions leaves what the release in one session does. -/
theorem releaseInAll (one : ∀ xid, Leaves R (releaseIn target xid)) (xids : List Xid) :
    Leaves R (Store.releaseInAll target xids) := by
  induction xids with
  | nil => exact .pure _
  | cons xid rest ih =>
    unfold Store.releaseInAll
    refine .bind (.attempt (one xid)) fun result => ?_
    dsimp only
    split
    · exact .bind (.pure _) fun _ => .bind ih fun _ => .pure _
    · exact .bind (.pure _) fun _ => .bind ih fun _ => .pure _
    · exact .throw_bind _ _

theorem deleteLock (announced : Leaves R (Store.announce (.deleteLock target)))
    (one : ∀ xid, Leaves R (releaseIn target xid)) : Leaves R (Store.deleteLock target) := by
  refine .bind announced fun _ => .bind (.answer _) fun _ => .bind .get fun s => ?_
  refine .bind (.releaseInAll one _) fun released => ?_
  dsimp only
  split
  · exact .throw_bind _ _
  · exact .pure _

end Releases

end Leaves

end Store

/-- Whether an operation may leave an entry in the audit trail. -/
def Operation.isAudited : Operation → Bool
  | command (.forceDeleteSession _) => true
  | command (.changeStatus ..) => true
  | command (.forceDeleteBranch ..) => true
  | command (.deleteLock _) => true
  | _ => false

open Store in
/-- An operation that leaves no entry in the audit trail gives the locks back that it takes. -/
theorem Operation.discreet (op : Operation) (h : op.isAudited = false) :
    Leaves Discreet op.perform := by
  cases op with
  | put session => exact .bind (.put session) fun _ => .pure _
  | delete xid => exact .bind (.delete xid) fun _ => .pure _
  | deleteBranch xid id => exact .bind (.deleteBranch xid id) fun _ => .pure _
  | begin address applicationId serviceGroup name timeout =>
    exact .bind (.begin address applicationId serviceGroup name timeout) fun _ => .pure _
  | register xid registration => exact .bind (.register xid registration) fun _ => .pure _
  | reportBranch xid id status =>
    exact .bind (.bind .get fun _ => .discard (.revise xid _)) fun _ => .pure _
  | reportSession xid status => exact .bind (.discard (.revise xid _)) fun _ => .pure _
  | sweep retention now => exact .bind (.sweep retention now) fun _ => .pure _
  | takeId => exact .bind .takeId fun _ => .pure _
  | checkpoint => exact .bind .checkpoint fun _ => .pure _
  | shutdown => exact .bind .shutdown fun _ => .pure _
  | command c =>
    refine .bind ?_ fun _ => .pure _
    cases c with
    | deleteSession xid => exact .bind (.deleteSession xid) fun _ => .pure _
    | sendOutcome xid direction => exact .bind (.sendOutcome xid direction) fun _ => .pure _
    | stopSession xid => exact .bind (.announced _ _) fun _ => .pure _
    | startSession xid => exact .bind (.announced _ _) fun _ => .pure _
    | deleteBranch xid id => exact .bind (.announced _ _) fun _ => .pure _
    | stopBranch xid id => exact .bind (.announced _ _) fun _ => .pure _
    | startBranch xid id => exact .bind (.announced _ _) fun _ => .pure _
    | forceDeleteSession | changeStatus | forceDeleteBranch | deleteLock => cases h

end SessionRegistry
