import SessionRegistry.Proofs.Operation.Registration

/-!
# How operations on one session end

A revision of a session under its lock is refused for one of six reasons, or finds that nothing has
to change, or stores the new image. Every operation that revises one session ends in one of these
ways, whatever it tells before and after. An operation that removes a session and fails has removed
nothing.

## Main definitions

* `Refusal`: why a revision is refused.
* `Revised`: how a revision ends.

## Main results

* `Operation.Revises.revised`: how every operation that revises one session ends.
* `of_run_sweep_eq_ok`: what a sweep reports.
-/

namespace SessionRegistry

namespace Store

variable {α β : Type} {s next : Store} {xid : Xid} {revision : Session → Revision} {e : Error}

/-! ## Revisions -/

/-- Why a revision of a session is refused. -/
inductive Refusal (s : Store) (xid : Xid) (revision : Session → Revision) : Error → Prop where
  | closed (closed : s.closed = true) : Refusal s xid revision (.internal .storeClosed)
  | busy (held : xid ∈ s.locks.held) : Refusal s xid revision (.busy xid s.settings.lockWait)
  | missing (none : s.sessions.get? xid = none) :
    Refusal s xid revision (.notFound (.session xid))
  | refused {before : Session} {e : Error} (stored : s.sessions.get? xid = some before)
    (refused : revision before = .error e) : Refusal s xid revision e
  | invalid {before after : Session} {e : Error} (stored : s.sessions.get? xid = some before)
    (revised : revision before = .ok (some after)) (invalid : checkImage xid after = .error e) :
    Refusal s xid revision e
  | unlogged {before after : Session} {e : Error} {log : LogWriter}
    (stored : s.sessions.get? xid = some before) (revised : revision before = .ok (some after))
    (failed : s.handOver (s.upsertOf after) = (.error e, log)) : Refusal s xid revision e

/-- How a revision of a session ends: it is refused, nothing has to change, or the new image is
stored with the time of the change. -/
inductive Revised (s : Store) (xid : Xid) (revision : Session → Revision) {α : Type} :
    Except Error α → Store → Prop where
  | refused {e : Error} {next : Store} (reason : Refusal s xid revision e)
    (same : next.sessions = s.sessions) : Revised s xid revision (.error e) next
  | kept {a : α} {before : Session} {next : Store} (stored : s.sessions.get? xid = some before)
    (nothing : revision before = .ok none) (same : next.sessions = s.sessions) :
    Revised s xid revision (.ok a) next
  | changed {a : α} {before after : Session} {next : Store}
    (stored : s.sessions.get? xid = some before) (revised : revision before = .ok (some after))
    (valid : checkImage xid after = .ok ())
    (sessions : next.sessions = s.sessions.insert { after with modifiedTime := s.clock }) :
    Revised s xid revision (.ok a) next

/-- A computation revises a session. -/
def Revising (s : Store) (xid : Xid) (revision : Session → Revision) (act : StoreM α) : Prop :=
  Revised s xid revision (act.run.run s).1 (act.run.run s).2

/-- A computation that succeeds and whose answer is dropped goes on. -/
theorem run_discard_bind_of_ok {act : StoreM α} {a : α} (f : Unit → StoreM β)
    (h : act.run.run s = (.ok a, next)) :
    (discard act >>= f).run.run s = (f ()).run.run next := by
  refine run_bind_of_ok s f (a := ()) ?_
  rw [run_discard, h]
  rfl

/-- A computation that fails ends what follows, also where its answer is dropped. -/
theorem run_discard_bind_of_error {act : StoreM α} (f : Unit → StoreM β)
    (h : act.run.run s = (.error e, next)) :
    (discard act >>= f).run.run s = (.error e, next) := by
  refine run_bind_of_error s f ?_
  rw [run_discard, h]
  rfl

/-- An image that is invalid is not written. -/
theorem run_putLocked_of_invalid {session : Session} (h : checkImage xid session = .error e) :
    (putLocked xid session).run.run s = (.error e, s) := by
  rw [putLocked, h, run_bind_of_error s _ (run_answer s _)]

/-- An image that is valid is committed with the time of the change. -/
theorem run_putLocked_of_valid {session : Session} (h : checkImage xid session = .ok ()) :
    (putLocked xid session).run.run s = (commit (s.upsertOf session)).run.run s := by
  rw [putLocked, h, run_bind_of_ok s _ (run_answer s _), run_bind_of_ok s _ (run_get s)]
  rfl

/-- A revision under the lock of its session ends as a revision does. -/
theorem revising_revise (s : Store) (xid : Xid) (revision : Session → Revision) :
    Revising s xid revision (revise xid revision) := by
  unfold Revising revise
  rcases s.run_withLock_cases _ xid with ⟨closed, run⟩ | ⟨-, held, run⟩ | ⟨-, locks, run⟩
  · rw [run]
    exact .refused (.closed closed) rfl
  · rw [run]
    exact .refused (.busy held) rfl
  -- The lock is given out, and given back however the rest ends.
  rw [run]
  have loaded := run_load { s with locks } xid
  rcases stored : s.sessions.get? xid with _ | before
  · have missing : Store.session { s with locks } xid = .error (.notFound (.session xid)) := by
      simp [Store.session, stored]
    rw [run_bind_of_error _ _ (missing ▸ loaded)]
    exact .refused (.missing stored) rfl
  rw [run_bind_of_ok _ _ ((session_eq_ok_iff (s := { s with locks })).2 stored ▸ loaded)]
  rcases revised : revision before with e | _ | after
  · rw [run_bind_of_error _ _ (run_answer _ _)]
    exact .refused (.refused stored revised) rfl
  · rw [run_bind_of_ok _ _ (run_answer _ _)]
    exact .kept stored revised rfl
  rw [run_bind_of_ok _ _ (run_answer _ _)]
  dsimp only
  rcases valid : checkImage xid after with e | _
  · rw [run_discard_bind_of_error _ (run_putLocked_of_invalid valid)]
    exact .refused (.invalid stored revised valid) rfl
  have write := run_putLocked_of_valid (s := { s with locks }) valid
  rcases cases_of_run_commit { s with locks } (s.upsertOf after) with
    ⟨e, log, next, failed, run, same⟩ | ⟨modification, next, run, sessions, -⟩
  · rw [run_discard_bind_of_error _ (write.trans run)]
    exact .refused (.unlogged stored revised failed) same
  · rw [run_discard_bind_of_ok _ (write.trans run)]
    exact .changed stored revised valid sessions

/-! ## Before and after a revision -/

/-- A computation that cannot fail and leaves the sessions as they are. -/
def Quiet (act : StoreM α) : Prop :=
  ∀ s : Store, ∃ a next, act.run.run s = (.ok a, next) ∧ next.sessions = s.sessions

namespace Quiet

theorem pure (a : α) : Quiet (pure a) :=
  fun s => ⟨a, s, run_pure s a, rfl⟩

theorem tell (notice : Notice) : Quiet (Store.tell notice) :=
  fun s => ⟨(), _, run_modify s _, rfl⟩

theorem bind {act : StoreM α} {f : α → StoreM β} (h : Quiet act) (hf : ∀ a, Quiet (f a)) :
    Quiet (act >>= f) := by
  intro s
  obtain ⟨a, middle, run, same⟩ := h s
  obtain ⟨b, last, run', same'⟩ := hf a middle
  exact ⟨b, last, (run_bind_of_ok s f run).trans run', same'.trans same⟩

end Quiet

namespace Revising

/-- What follows a revision changes nothing if it is quiet. -/
theorem bind {act : StoreM α} {f : α → StoreM β} (h : Revising s xid revision act)
    (quiet : ∀ a, Quiet (f a)) : Revising s xid revision (act >>= f) := by
  unfold Revising at h ⊢
  rcases run : act.run.run s with ⟨e | a, middle⟩
  · rw [run] at h
    rw [run_bind_of_error s f run]
    cases h with
    | refused reason same => exact .refused reason same
  · obtain ⟨b, last, run', same'⟩ := quiet a middle
    rw [run] at h
    rw [run_bind_of_ok s f run, run']
    cases h with
    | kept stored nothing same => exact .kept stored nothing (same'.trans same)
    | changed stored revised valid sessions =>
      exact .changed stored revised valid (same'.trans sessions)

theorem discard {act : StoreM α} (h : Revising s xid revision act) :
    Revising s xid revision (discard act) :=
  h.bind fun _ => .pure ()

/-- A revision may depend on what was read before. -/
theorem get_bind {f : Store → StoreM α} (h : Revising s xid revision (f s)) :
    Revising s xid revision (get >>= f) := by
  unfold Revising at h ⊢
  rwa [run_bind_of_ok s f (run_get s)]

/-- What was told before does not matter to why a revision is refused. -/
theorem tell_bind {notice : Notice} {f : Unit → StoreM α}
    (h : Revising { s with trail := s.trail ++ [notice] } xid revision (f ())) :
    Revising s xid revision (Store.tell notice >>= f) := by
  unfold Revising at h ⊢
  rw [Store.tell, run_bind_of_ok s f (run_modify s _)]
  generalize (f ()).run.run { s with trail := s.trail ++ [notice] } = ended at h ⊢
  obtain ⟨result, last⟩ := ended
  cases h with
  | refused reason same =>
    refine .refused ?_ same
    cases reason with
    | closed closed => exact .closed closed
    | busy held => exact .busy held
    | missing none => exact .missing none
    | refused stored refused => exact .refused stored refused
    | invalid stored revised invalid => exact .invalid stored revised invalid
    | unlogged stored revised failed => exact .unlogged stored revised failed
  | kept stored nothing same => exact .kept stored nothing same
  | changed stored revised valid sessions => exact .changed stored revised valid sessions

end Revising

end Store

open Store

/-- Every operation that revises one session is a revision under its lock. -/
theorem Operation.Revises.revising {s : Store} {op : Operation} {xid : Xid}
    {revision : Session → Revision} (h : op.Revises s.clock xid revision)
    (single : ∀ target, op ≠ .command (.deleteLock target)) :
    Revising s xid revision op.perform := by
  have revising (s : Store) := revising_revise s xid revision
  -- most commands announce themselves and revise
  have announced (notice : Notice) : Revising s xid revision (do
      Store.tell notice
      discard <| revise xid revision) := .tell_bind (revising _).discard
  cases h with
  | reportBranch xid id status =>
    exact (Revising.get_bind (revising s).discard).bind fun _ => .pure _
  | reportSession xid status => exact (revising s).discard.bind fun _ => .pure _
  | stop xid => exact ((announced _).bind fun _ => .pure _).bind fun _ => .pure _
  | restart xid => exact ((announced _).bind fun _ => .pure _).bind fun _ => .pure _
  | sendOutcome xid direction =>
    exact .bind (.bind (.tell_bind ((revising _).bind fun _ => .pure _)) fun _ => .pure _)
      fun _ => .pure _
  | @changeStatus xid status active =>
    refine .bind (.bind (.tell_bind ?_) fun _ => .pure _) fun _ => .pure _
    rw [if_neg active]
    refine (revising _).bind fun images => ?_
    obtain ⟨before, after⟩ := images
    dsimp only
    split
    · exact .pure _
    · exact .bind (.tell _) fun _ => .pure _
  | dropBranch xid id => exact ((announced _).bind fun _ => .pure _).bind fun _ => .pure _
  | forceDropBranch xid id =>
    refine .bind (.bind (.tell_bind ((revising _).bind fun images => ?_)) fun _ => .pure _)
      fun _ => .pure _
    obtain ⟨before, after⟩ := images
    dsimp only
    cases before.branch? id with
    | none => exact .pure _
    | some branch => exact .bind (.tell _) fun _ => .pure _
  | stopBranch xid id => exact ((announced _).bind fun _ => .pure _).bind fun _ => .pure _
  | restartBranch xid id => exact ((announced _).bind fun _ => .pure _).bind fun _ => .pure _
  | releaseRow named => exact absurd rfl (single _)

/-- Every operation that revises one session ends as a revision does. -/
theorem Operation.Revises.revised {s next : Store} {op : Operation} {xid : Xid}
    {revision : Session → Revision} {answer : Except Error Operation.Outcome}
    (h : op.Revises s.clock xid revision)
    (single : ∀ target, op ≠ .command (.deleteLock target)) (run : op.runOn s = (answer, next)) :
    Revised s xid revision answer next := by
  have ended := h.revising single
  unfold Revising at ended
  rw [Operation.runOn] at run
  rwa [run] at ended

namespace Store

variable {s : Store} {op : Operation} {xid : Xid} {revision : Session → Revision}

/-- An image that is inserted with the time of the change is found under its xid. -/
theorem get?_of_inserted {next : Store} {after : Session} {now : Millis} (owner : after.xid = xid)
    (sessions : next.sessions = s.sessions.insert { after with modifiedTime := now }) :
    next.sessions.get? xid = some { after with modifiedTime := now } := by
  subst owner
  rw [sessions]
  exact SessionTable.get?_insert_self _ _

/-- An operation is refused: it fails and leaves the sessions as they are. -/
def Refuses (s : Store) (op : Operation) : Prop :=
  ∃ e next, op.runOn s = (.error e, next) ∧ next.sessions = s.sessions

/-- An operation is refused wherever its revision is. -/
theorem refuses_of_revises (revises : op.Revises s.clock xid revision)
    (single : ∀ target, op ≠ .command (.deleteLock target))
    (h : ∀ before, s.sessions.get? xid = some before → ∃ e, revision before = .error e) :
    s.Refuses op := by
  rcases run : op.runOn s with ⟨result, next⟩
  cases revises.revised single run with
  | refused _ same => exact ⟨_, next, run, same⟩
  | kept stored nothing _ =>
    obtain ⟨e, refused⟩ := h _ stored
    cases refused.symm.trans nothing
  | changed stored revised _ _ =>
    obtain ⟨e, refused⟩ := h _ stored
    cases refused.symm.trans revised

/-- Nothing stands in the way of a change: the store is open, nobody holds the lock of the session,
and the log runs and takes every operation. -/
structure Ready (s : Store) (xid : Xid) : Prop where
  isOpen : s.closed = false
  free : xid ∉ s.locks.held
  running : s.log.running = true
  accepts : ∀ logged, s.Accepts logged

/-- Where nothing stands in the way, a revision is refused only for what it revises. -/
theorem Ready.of_refusal {before : Session} {e : Error} (ready : s.Ready xid)
    (stored : s.sessions.get? xid = some before) (reason : Refusal s xid revision e) :
    revision before = .error e
      ∨ ∃ after, revision before = .ok (some after) ∧ checkImage xid after = .error e := by
  cases reason with
  | closed closed => cases closed.symm.trans ready.isOpen
  | busy held => exact absurd held ready.free
  | missing none => cases none.symm.trans stored
  | refused stored' refused =>
    cases stored.symm.trans stored'
    exact .inl refused
  | invalid stored' revised invalid =>
    cases stored.symm.trans stored'
    exact .inr ⟨_, revised, invalid⟩
  | unlogged _ _ failed =>
    obtain ⟨_, logged⟩ := exists_handOver ready.running (ready.accepts _)
    cases logged.symm.trans failed

/-- Where nothing stands in the way, a revision that is refused answers with its own error. -/
theorem Ready.runOn_of_error {before : Session} {e : Error} (ready : s.Ready xid)
    (revises : op.Revises s.clock xid revision)
    (single : ∀ target, op ≠ .command (.deleteLock target))
    (stored : s.sessions.get? xid = some before) (refused : revision before = .error e) :
    ∃ next, op.runOn s = (.error e, next) ∧ next.sessions = s.sessions := by
  rcases run : op.runOn s with ⟨result, next⟩
  cases revises.revised single run with
  | refused reason same =>
    rcases ready.of_refusal stored reason with refused' | ⟨after, revised, -⟩
    · cases refused.symm.trans refused'
      exact ⟨next, rfl, same⟩
    · cases refused.symm.trans revised
  | kept stored' nothing _ =>
    cases stored.symm.trans stored'
    cases refused.symm.trans nothing
  | changed stored' revised _ _ =>
    cases stored.symm.trans stored'
    cases refused.symm.trans revised

/-- Where nothing stands in the way, a revision to a valid image succeeds. -/
theorem Ready.exists_runOn {before after : Session} (ready : s.Ready xid)
    (revises : op.Revises s.clock xid revision)
    (single : ∀ target, op ≠ .command (.deleteLock target))
    (stored : s.sessions.get? xid = some before) (revised : revision before = .ok (some after))
    (valid : checkImage xid after = .ok ()) :
    ∃ outcome next, op.runOn s = (.ok outcome, next)
      ∧ next.sessions = s.sessions.insert { after with modifiedTime := s.clock } := by
  rcases run : op.runOn s with ⟨result, next⟩
  cases revises.revised single run with
  | refused reason _ =>
    rcases ready.of_refusal stored reason with refused | ⟨_, revised', invalid⟩
    · cases refused.symm.trans revised
    · cases revised.symm.trans revised'
      cases invalid.symm.trans valid
  | kept stored' nothing _ =>
    cases stored.symm.trans stored'
    cases nothing.symm.trans revised
  | changed stored' revised' _ sessions =>
    cases stored.symm.trans stored'
    cases revised.symm.trans revised'
    exact ⟨_, next, rfl, sessions⟩

/-! ## Operations that remove or register -/

/-- What fails under a lock without doing anything is refused. -/
theorem exists_run_withLock_of_error {α : Type} {act : StoreM α}
    (h : ∀ locks : LockTable, ∃ e, act.run.run { s with locks } = (.error e, { s with locks })) :
    ∃ e next, (withLock xid act).run.run s = (.error e, next) ∧ next.sessions = s.sessions := by
  rcases s.run_withLock_cases act xid with ⟨-, run⟩ | ⟨-, -, run⟩ | ⟨-, locks, run⟩
  · exact ⟨_, s, run, rfl⟩
  · exact ⟨_, s, run, rfl⟩
  · obtain ⟨e, failed⟩ := h locks
    rw [failed] at run
    exact ⟨e, _, run, rfl⟩

/-- No branch is registered with a session that does not begin. -/
theorem refuses_register {session : Session} (registration : Registration)
    (stored : s.sessions.get? xid = some session) (active : session.status ≠ .begin) :
    s.Refuses (.register xid registration) := by
  obtain ⟨e, next, run, same⟩ : ∃ e next,
      (register xid registration).run.run s = (.error e, next) ∧ next.sessions = s.sessions := by
    refine exists_run_withLock_of_error fun locks => ?_
    have loaded := run_load { s with locks } xid
    rw [run_bind_of_ok _ _ ((session_eq_ok_iff (s := { s with locks })).2 stored ▸ loaded)]
    dsimp only
    rw [if_pos active, run_bind_of_error _ _ (run_throw _ _)]
    exact ⟨_, rfl⟩
  exact ⟨e, next, run_bind_of_error s _ run, same⟩

/-- A session that has not ended is not deleted without force. -/
theorem refuses_deleteSession {session : Session} (stored : s.sessions.get? xid = some session)
    (unended : session.status.isTerminal = false) :
    s.Refuses (.command (.deleteSession xid)) := by
  let told : Store := { s with trail := s.trail ++ [.command (.deleteSession xid)] }
  have stored : told.sessions.get? xid = some session := stored
  obtain ⟨e, next, run, same⟩ : ∃ e next,
      (deleteSession xid).run.run s = (.error e, next) ∧ next.sessions = s.sessions := by
    rw [deleteSession, announce, tell, run_bind_of_ok s _ (run_modify s _)]
    refine exists_run_withLock_of_error (s := told) fun locks => ?_
    have loaded := run_load { told with locks } xid
    rw [run_bind_of_ok _ _ ((session_eq_ok_iff (s := { told with locks })).2 stored ▸ loaded)]
    dsimp only
    rw [if_neg (by simp [unended]), run_bind_of_error _ _ (run_throw _ _)]
    exact ⟨_, rfl⟩
  have executed : (Command.deleteSession xid).execute.run.run s = (.error e, next) :=
    run_bind_of_error s _ run
  exact ⟨e, next, run_bind_of_error s _ executed, same⟩

/-- A removal that fails has removed nothing. -/
theorem sessions_of_run_removeLocked_eq_error {next : Store} {e : Error}
    (h : (removeLocked xid).run.run s = (.error e, next)) : next.sessions = s.sessions := by
  rcases cases_of_run_bind_eq_error h with missing | ⟨session, _, loaded, h⟩
  · exact congrArg sessions (Prod.mk.inj ((run_load s xid).symm.trans missing)).2.symm
  · obtain ⟨-, rfl⟩ := Prod.mk.inj ((run_load s xid).symm.trans loaded)
    rcases cases_of_run_commit s (.remove xid) with ⟨_, _, _, -, run, same⟩ | ⟨_, _, run, -⟩
    · rw [run_discard_bind_of_error _ run] at h
      rw [← (Prod.mk.inj h).2, same]
    · rw [run_discard_bind_of_ok _ run] at h
      cases h

/-- A deletion of a session that fails has removed nothing. -/
theorem sessions_of_delete_eq_error {next : Store} {e : Error}
    (h : (Operation.delete xid).runOn s = (.error e, next)) : next.sessions = s.sessions := by
  rcases cases_of_run_bind_eq_error h with run | ⟨_, _, -, done⟩
  · exact sessions_of_run_withLock_eq_error run fun _ _ _ =>
      sessions_of_run_removeLocked_eq_error
  · cases done

/-- A forced deletion of a session that fails has removed nothing. -/
theorem sessions_of_forceDeleteSession_eq_error {next : Store} {e : Error}
    (h : (Operation.command (.forceDeleteSession xid)).runOn s = (.error e, next)) :
    next.sessions = s.sessions := by
  rcases cases_of_run_bind_eq_error h with run | ⟨_, _, -, done⟩
  · rcases cases_of_run_bind_eq_error run with run | ⟨_, _, -, done⟩
    · rw [forceDeleteSession, announce, tell, run_bind_of_ok s _ (run_modify s _)] at run
      rcases cases_of_run_bind_eq_error run with run | ⟨_, _, -, told⟩
      · have kept := sessions_of_run_withLock_eq_error run fun _ _ _ =>
          sessions_of_run_removeLocked_eq_error
        exact kept
      · cases told
    · cases done
  · cases done

/-- No command makes a session a stopped one by its status alone. -/
theorem refuses_changeStatus_to_suspended (s : Store) (xid : Xid) :
    s.Refuses (.command (.changeStatus xid (some .suspended))) := by
  obtain ⟨e, next, run, same⟩ : ∃ e next,
      (changeStatus xid (some .suspended)).run.run s = (.error e, next)
        ∧ next.sessions = s.sessions := by
    rw [changeStatus, announce, tell, run_bind_of_ok s _ (run_modify s _), if_pos rfl,
      run_bind_of_error _ _ (run_throw _ _)]
    exact ⟨_, _, rfl, rfl⟩
  have executed : (Command.changeStatus xid (some .suspended)).execute.run.run s
      = (.error e, next) := run_bind_of_error s _ run
  exact ⟨e, next, run_bind_of_error s _ executed, same⟩

/-! ## Sweeps -/

/-- A sweep of given sessions removes only some of them. -/
theorem mem_of_run_sweepAll_eq_ok {retention now : Millis} {xids removed : List Xid}
    {skipped : Nat} {next : Store}
    (h : (sweepAll retention now xids).run.run s = (.ok (removed, skipped), next)) :
    ∀ x ∈ removed, x ∈ xids := by
  induction xids generalizing s removed skipped next with
  | nil =>
    cases h
    simp
  | cons xid rest ih =>
    obtain ⟨step, middle, -, h⟩ := exists_of_run_bind_eq_ok h
    obtain ⟨⟨later, others⟩, last, run, h⟩ := exists_of_run_bind_eq_ok h
    have these := ih run
    intro x hx
    cases step with
    | removed =>
      cases h
      rcases List.mem_cons.1 hx with rfl | hx
      · exact List.mem_cons_self
      · exact List.mem_cons_of_mem xid (these x hx)
    | skipped =>
      cases h
      exact List.mem_cons_of_mem xid (these x hx)
    | kept =>
      cases h
      exact List.mem_cons_of_mem xid (these x hx)

/-- A sweep reports the removal of expired sessions only, and lists those that wait for a retry. -/
theorem of_run_sweep_eq_ok {retention now : Millis} {report : SweepReport} {next : Store}
    (h : (sweep retention now).run.run s = (.ok report, next)) :
    (∀ xid ∈ report.removed,
        xid ∈ (s.sessions.toList.filter (·.isExpired retention now)).map Session.xid)
      ∧ report.retryCandidates
        = (s.sessions.toList.filter (·.status.isRetrying)).map Session.xid := by
  unfold sweep at h
  rw [run_bind_of_ok s _ (run_get s)] at h
  obtain ⟨⟨removed, skipped⟩, last, run, h⟩ := exists_of_run_bind_eq_ok h
  cases h
  exact ⟨mem_of_run_sweepAll_eq_ok run, rfl⟩

end Store

end SessionRegistry
