import SessionRegistry.Proofs.Operation.Changes

/-!
# Tracing operations

Every operation is traced: what it does to a store is a list of moves, and each change that it logs
is one that it may log. The proofs follow the way in which operations are put together from steps
under a lock.

## Main results

* `Operation.traced`: every operation but the upkeep of the store is traced.
-/

namespace SessionRegistry

namespace Store

/-- A session is found exactly if it is stored. -/
theorem session_eq_ok_iff {s : Store} {xid : Xid} {session : Session} :
    s.session xid = .ok session ↔ s.sessions.get? xid = some session := by
  unfold Store.session
  split <;> simp_all

theorem run_load (s : Store) (xid : Xid) : (load xid).run.run s = (s.session xid, s) := by
  rw [load, run_bind_of_ok s _ (run_get s), run_answer]

theorem run_takeId (s : Store) :
    takeId.run.run s = (.ok s.nextId, { s with nextId := s.nextId + 1 }) :=
  rfl

namespace Traced

variable {may : Store → LogOperation → Prop} {s : Store} {α : Type} {xid : Xid} {k n : Nat}

/-- What follows the reading of a session may rely on that session being stored. -/
theorem load_bind {f : Session → StoreM α}
    (h : ∀ session, s.sessions.get? xid = some session → Traced may k n (f session) s) :
    Traced may k n (load xid >>= f) s := by
  refine quiet_bind (of_run_eq (run_load s xid) (s.plain_session xid)) fun session next hload => ?_
  obtain ⟨found, rfl⟩ := Prod.mk.inj ((run_load s xid).symm.trans hload)
  exact h session (session_eq_ok_iff.1 found)

/-- Writing an image logs it, if it is valid. -/
theorem putLocked {locked : Xid} {session : Session}
    (h : checkImage locked session = .ok () → may s (s.upsertOf session)) :
    Traced may 1 n (Store.putLocked locked session) s :=
  answer_bind (plain_checkImage locked session) fun _ valid => get_bind (commit (h valid))

/-- Removing a session logs its removal, if it is stored. -/
theorem removeLocked (h : ∀ session, s.sessions.get? xid = some session → may s (.remove xid)) :
    Traced may 1 n (Store.removeLocked xid) s :=
  load_bind fun session stored => bind (discard (commit (h session stored))) fun _ _ _ => pure _

/-- Revising a session under its lock logs the new image, if there is one. -/
theorem revise {revision : Session → Revision} (plain : ∀ session, Plain (revision session))
    (h : ∀ (locks : LockTable) (before after : Session), s.sessions.get? xid = some before →
      revision before = .ok (some after) → checkImage xid after = .ok () →
        may { s with locks } (s.upsertOf after)) :
    Traced may 1 n (Store.revise xid revision) s := by
  refine withLock fun locks => load_bind fun before stored =>
    answer_bind (plain before) fun result revised => ?_
  cases result with
  | none => exact pure _
  | some after =>
    exact bind (discard (putLocked fun valid => h locks before after stored revised valid))
      fun _ _ _ => pure _

/-- Storing a session logs its image, if it is valid. -/
theorem put {session : Session}
    (h : ∀ locks : LockTable, checkImage session.xid session = .ok () →
      may { s with locks } (s.upsertOf session)) :
    Traced may 1 n (Store.put session) s :=
  withLock fun locks => putLocked (h locks)

/-- Telling something is one move. -/
theorem tell (notice : Notice) : Traced may k n (Store.tell notice) s :=
  of_move (run_modify s _) (.tell notice)

/-- What follows something that is told. -/
theorem tell_bind {notice : Notice} {f : Unit → StoreM α}
    (h : Traced may k n (f ()) { s with trail := s.trail ++ [notice] }) :
    Traced may k n (Store.tell notice >>= f) s :=
  bind_of_move (run_modify s _) (.tell notice) h

/-- What follows the handing out of a number. -/
theorem takeId_bind {f : UInt64 → StoreM α}
    (h : Traced may k n (f s.nextId) { s with nextId := s.nextId + 1 }) :
    Traced may k (n + 1) (Store.takeId >>= f) s := by
  obtain ⟨attempts, drawn, few, fewer, moves, settles⟩ := h
  refine ⟨attempts, drawn + 1, few, Nat.succ_le_succ fewer, ?_, ?_⟩
  · rw [run_bind_of_ok s _ (run_takeId s)]
    exact .draw moves
  · rw [run_bind_of_ok s _ (run_takeId s)]
    exact settles

/-- A computation that fails with no failure of the log is traced, whatever would follow. -/
theorem throw_bind {β : Type} {e : Error} {f : α → StoreM β} (h : e.isLogFailure = false) :
    Traced may k n (MonadExcept.throw e >>= f) s :=
  of_run_eq (run_bind_of_error s f (run_throw s e)) (plain_error.2 h)

end Traced

end Store

namespace Operation

open Store

variable {s : Store}

/-- The most changes that an operation attempts: one, unless it goes through many sessions. -/
def mostChanges (s : Store) : Operation → Nat
  | .command (.deleteLock target) => (targets target s).length
  | .sweep retention now => (s.sessions.toList.filter (·.isExpired retention now)).length
  | _ => 1

/-- The numbers that an operation hands out at most. -/
def draws : Operation → Nat
  | .begin .. | .register .. | .takeId => 1
  | _ => 0

theorem draws_le_one (op : Operation) : op.draws ≤ 1 := by
  cases op <;> simp [draws]

/-- The changes that an operation which began in one store may log in another one. It logs nothing
before it has handed out its numbers, and if it hands out any, then nothing else has changed the
sessions. -/
def Allows (op : Operation) (origin s : Store) (logged : LogOperation) : Prop :=
  MayLog s op logged ∧ s.nextId = origin.nextId + UInt64.ofNat op.draws
    ∧ (op.draws ≠ 0 → s.sessions = origin.sessions)

/-! ## The coordinator -/

theorem traced_begin (address applicationId serviceGroup name : String) (timeout : Millis) :
    Traced (Allows (.begin address applicationId serviceGroup name timeout) s) 1 1
      (Store.begin address applicationId serviceGroup name timeout) s := by
  unfold Store.begin
  dsimp only
  split
  · exact .throw_bind rfl
  · refine .takeId_bind (.get_bind (.bind (.discard (.put fun locks valid => ?_))
      fun _ _ _ => .pure _))
    exact ⟨.begin rfl rfl valid, rfl, fun _ => rfl⟩

theorem traced_register (xid : Xid) (registration : Registration) :
    Traced (Allows (.register xid registration) s) 1 1 (Store.register xid registration) s := by
  refine .withLock fun locks => .load_bind fun session stored => ?_
  dsimp only
  split
  · exact .throw_bind rfl
  · next status =>
    refine .takeId_bind (.get_bind (.bind (.discard (.putLocked fun valid => ?_))
      fun _ _ _ => .pure _))
    exact ⟨.register stored (Decidable.not_not.1 status) rfl valid, rfl, fun _ => rfl⟩

/-- An operation that revises a session may log the new image. -/
theorem traced_revise {op : Operation} {xid : Xid} {revision : Session → Revision}
    (revises : op.Revises s.clock xid revision) :
    Traced (fun s => MayLog s op) 1 0 (Store.revise xid revision) s :=
  .revise revises.plain fun _ _ _ stored revised valid => .revise revises stored revised valid

/-! ## Commands -/

theorem traced_deleteSession (xid : Xid) :
    Traced (fun s => MayLog s (.command (.deleteSession xid))) 1 0 (Store.deleteSession xid) s := by
  refine .tell_bind (.withLock fun locks => .load_bind fun session stored => ?_)
  dsimp only
  split
  · next ended => exact .discard (.removeLocked fun _ _ => .deleteEnded stored ended)
  · exact .throw_bind rfl

theorem traced_forceDeleteSession (xid : Xid) :
    Traced (fun s => MayLog s (.command (.forceDeleteSession xid))) 1 0 (Store.forceDeleteSession xid)
      s := by
  refine .tell_bind (.bind (.withLock fun locks => .removeLocked fun session stored => ?_)
    fun _ _ _ => .tell _)
  exact .forceDelete stored

theorem traced_sendOutcome (xid : Xid) (direction : Option Direction) :
    Traced (fun s => MayLog s (.command (.sendOutcome xid direction))) 1 0
      (Store.sendOutcome xid direction) s :=
  .tell_bind (.bind (traced_revise (.sendOutcome xid direction)) fun _ _ _ => .pure _)

theorem traced_changeStatus (xid : Xid) (status : Option GlobalStatus) :
    Traced (fun s => MayLog s (.command (.changeStatus xid status))) 1 0
      (Store.changeStatus xid status) s := by
  refine .tell_bind ?_
  dsimp only
  split
  · exact .throw_bind rfl
  · next active =>
    refine .bind (traced_revise (.changeStatus xid active)) fun images next _ => ?_
    obtain ⟨before, after⟩ := images
    dsimp only
    split
    · exact .pure _
    · exact .tell_bind (.pure _)

theorem traced_forceDeleteBranch (xid : Xid) (id : BranchId) :
    Traced (fun s => MayLog s (.command (.forceDeleteBranch xid id))) 1 0
      (Store.forceDeleteBranch xid id) s := by
  refine .tell_bind (.bind (traced_revise (.forceDropBranch xid id)) fun images next _ => ?_)
  obtain ⟨before, after⟩ := images
  dsimp only
  -- The notice is about the branch in the image before it was dropped.
  cases before.branch? id with
  | none => exact .pure _
  | some branch => exact .tell_bind (.pure _)

theorem traced_releaseIn {target : LockTarget} {xid : Xid} (named : ∀ x ∈ target.xid, x = xid) :
    Traced (fun s => MayLog s (.command (.deleteLock target))) 1 0 (Store.releaseIn target xid)
      s := by
  refine .bind (traced_revise (.releaseRow named)) fun images next _ => ?_
  obtain ⟨before, after⟩ := images
  dsimp only
  split
  · exact .tell_bind (.pure _)
  · exact .pure _

theorem traced_releaseInAll {target : LockTarget} {xids : List Xid}
    (named : ∀ x ∈ target.xid, ∀ xid ∈ xids, x = xid) :
    Traced (fun s => MayLog s (.command (.deleteLock target))) xids.length 0
      (Store.releaseInAll target xids) s := by
  induction xids generalizing s with
  | nil => exact .pure _
  | cons xid rest ih =>
    have most : (xid :: rest).length = 1 + rest.length := Nat.add_comm ..
    have first : ∀ x ∈ target.xid, x = xid := fun x hx => named x hx xid List.mem_cons_self
    have others : ∀ x ∈ target.xid, ∀ y ∈ rest, x = y := fun x hx y hy =>
      named x hx y (List.mem_cons_of_mem xid hy)
    rw [most]
    unfold releaseInAll
    -- A session that has gone is passed over unless the target names it.
    refine .attempt_bind (traced_releaseIn first) (fun result next _ plain => ?_) ?_
    · dsimp only
      split
      · exact .bind_of_run_eq (run_pure next _) (.bind (ih others) fun _ _ _ => .pure _)
      · exact .bind_of_run_eq (run_pure next _) (.bind (ih others) fun _ _ _ => .pure _)
      · exact .throw_bind (plain_error.1 plain)
    · intro e next log
      obtain ⟨outage, rfl⟩ := Error.eq_internal_of_isLogFailure log
      -- A failure of the log is never passed over, whether or not the target names a session.
      cases target.xid with
      | none => exact ⟨rfl, .refl next⟩
      | some named => exact ⟨rfl, .refl next⟩

theorem traced_deleteLock (target : LockTarget) :
    Traced (fun s => MayLog s (.command (.deleteLock target))) (targets target s).length 0
      (Store.deleteLock target) s := by
  refine .tell_bind (.answer_bind ?_ fun _ _ => .get_bind ?_)
  · exact .ite (.throw_bind rfl) (.ite (.throw_bind rfl) (.ite (.throw rfl) (.pure _)))
  · refine .bind (traced_releaseInAll fun x hx xid hxid => ?_) fun released next _ => ?_
    -- The only target of a lock whose session is named is that session.
    · rw [targets, Option.mem_def.1 hx] at hxid
      exact (List.mem_singleton.1 hxid).symm
    · dsimp only
      split
      · exact .throw_bind rfl
      · exact .pure _

/-- Every command is traced. -/
theorem traced_command (c : Command) :
    Traced (fun s => MayLog s (.command c)) (Operation.mostChanges s (.command c)) 0 c.execute s := by
  cases c with
  | deleteSession xid => exact .bind (traced_deleteSession xid) fun _ _ _ => .pure _
  | forceDeleteSession xid => exact .bind (traced_forceDeleteSession xid) fun _ _ _ => .pure _
  | stopSession xid =>
    exact .bind (.tell_bind (.discard (traced_revise (.stop xid)))) fun _ _ _ => .pure _
  | startSession xid =>
    exact .bind (.tell_bind (.discard (traced_revise (.restart xid)))) fun _ _ _ => .pure _
  | sendOutcome xid direction =>
    exact .bind (traced_sendOutcome xid direction) fun _ _ _ => .pure _
  | changeStatus xid status => exact .bind (traced_changeStatus xid status) fun _ _ _ => .pure _
  | deleteBranch xid id =>
    exact .bind (.tell_bind (.discard (traced_revise (.dropBranch xid id)))) fun _ _ _ => .pure _
  | forceDeleteBranch xid id => exact .bind (traced_forceDeleteBranch xid id) fun _ _ _ => .pure _
  | stopBranch xid id =>
    exact .bind (.tell_bind (.discard (traced_revise (.stopBranch xid id)))) fun _ _ _ => .pure _
  | startBranch xid id =>
    exact .bind (.tell_bind (.discard (traced_revise (.restartBranch xid id))))
      fun _ _ _ => .pure _
  | deleteLock target => exact .bind (traced_deleteLock target) fun _ _ _ => .pure _

/-! ## The sweep -/

theorem traced_sweepSession (xid : Xid) (retention now : Millis) :
    Traced (fun s => MayLog s (.sweep retention now)) 1 0 (Store.sweepSession xid retention now)
      s := by
  unfold sweepSession
  -- A session whose lock is not free is left for the next sweep.
  rcases s.run_lock_cases xid with ⟨-, run⟩ | ⟨-, -, run⟩ | ⟨-, locks, -, run⟩
  · refine .bind_of_run_eq (a := .error (.internal .storeClosed)) (by rw [run_attempt, run]) ?_
    exact .throw rfl
  · refine .bind_of_run_eq (a := .error (.busy xid s.settings.lockWait))
      (by rw [run_attempt, run]) ?_
    exact .pure _
  · refine .bind_of_move (a := .ok ()) (by rw [run_attempt, run]) (.lock locks) ?_
    refine .attempt_bind (k := 1) (m := 0) (.get_bind ?_) (fun result next _ plain => ?_)
      fun e next _ => ?_
    · dsimp only
      -- The session may have gone or been changed since it was listed.
      split
      · next session stored =>
        split
        · next expired =>
          refine .bind (.discard (.removeLocked fun _ _ => ?_)) fun _ _ _ => .pure _
          exact .sweep stored expired
        · exact .pure _
      · exact .pure _
    · exact .bind_of_move (run_modify next _) (.lock _) (.answer plain)
    · rw [run_unlock_answer]
      exact ⟨rfl, .single (.lock _)⟩

theorem traced_sweepAll (retention now : Millis) (xids : List Xid) :
    Traced (fun s => MayLog s (.sweep retention now)) xids.length 0
      (Store.sweepAll retention now xids) s := by
  induction xids generalizing s with
  | nil => exact .pure _
  | cons xid rest ih =>
    have most : (xid :: rest).length = 1 + rest.length := Nat.add_comm ..
    rw [most]
    exact .bind_add (traced_sweepSession xid retention now) fun _ _ _ =>
      .bind ih fun _ _ _ => .pure _

theorem traced_sweep (retention now : Millis) :
    Traced (fun s => MayLog s (.sweep retention now))
      (s.sessions.toList.filter (·.isExpired retention now)).length 0
      (Store.sweep retention now) s := by
  refine .get_bind (.bind ?_ fun _ _ _ => .pure _)
  have all := traced_sweepAll (s := s) retention now
    ((s.sessions.toList.filter (·.isExpired retention now)).map Session.xid)
  rwa [List.length_map] at all

/-! ## All operations -/

/-- An operation that only keeps the store in order and changes no session. -/
def isUpkeep : Operation → Bool
  | .checkpoint | .shutdown => true
  | _ => false

/-- Every operation that hands out no number, but the upkeep of the store, is traced. -/
theorem traced_of_no_draws (op : Operation) (h : op.isUpkeep = false) (none : op.draws = 0)
    (s : Store) : Traced (fun s => MayLog s op) (op.mostChanges s) 0 op.perform s := by
  cases op with
  | put session =>
    exact .bind (.put fun locks valid => .put valid) fun _ _ _ => .pure _
  | delete xid =>
    exact .bind (.withLock fun locks => .removeLocked fun session stored => .delete stored)
      fun _ _ _ => .pure _
  | deleteBranch xid id =>
    refine .bind (.withLock fun locks => .load_bind fun session stored => ?_) fun _ _ _ => .pure _
    split
    · exact .throw rfl
    · next branch found =>
      exact .bind (.discard (.putLocked fun valid => .deleteBranch stored found valid))
        fun _ _ _ => .pure _
  | reportBranch xid id status =>
    exact .bind (.get_bind (.discard (traced_revise (.reportBranch xid id status))))
      fun _ _ _ => .pure _
  | reportSession xid status =>
    exact .bind (.discard (traced_revise (.reportSession xid status))) fun _ _ _ => .pure _
  | command c => exact .bind (traced_command c) fun _ _ _ => .pure _
  | sweep retention now => exact .bind (traced_sweep retention now) fun _ _ _ => .pure _
  | checkpoint => cases h
  | shutdown => cases h
  | begin => cases none
  | register => cases none
  | takeId => cases none

/-- Every operation but the upkeep of the store is traced. -/
theorem traced (op : Operation) (h : op.isUpkeep = false) (s : Store) :
    Traced (op.Allows s) (op.mostChanges s) op.draws op.perform s := by
  by_cases none : op.draws = 0
  · have allowed : op.Allows s = fun m logged => MayLog m op logged ∧ m.nextId = s.nextId := by
      funext m logged
      simp [Allows, none]
    rw [allowed, none]
    exact (op.traced_of_no_draws h none s).still
  · cases op with
    | begin address applicationId serviceGroup name timeout =>
      exact .bind (traced_begin address applicationId serviceGroup name timeout)
        fun _ _ _ => .pure _
    | register xid registration =>
      exact .bind (traced_register xid registration) fun _ _ _ => .pure _
    | takeId => exact .takeId_bind (.pure _)
    | _ => exact absurd rfl none

end Operation

end SessionRegistry
