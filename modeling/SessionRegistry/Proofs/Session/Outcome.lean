import Mathlib.Logic.Relation
import Mathlib.Data.List.Nodup
import SessionRegistry.Proofs.Session.Succession

/-!
# Outcomes of sessions

Where the status of a session may go as long as no operator directs it. The moves of the protocol
never lead back to the beginning, nor from the side of commit to that of rollback or back, and an
outcome that was reached is only followed by its being finished. While a session is stopped its
status is hidden: what counts is the status that it remembers.

## Main definitions

* `GlobalStatus.Leads`: moves of the protocol lead from one status to another.
* `Session.effectiveStatus`: the status of a session, also while it is stopped.
* `Session.Continues`: what the commands and reports to a session keep of it.

## Main results

* `GlobalStatus.Leads.ne_begin` and so on: where the moves of the protocol lead.
* `Operation.Revises.leads`: every revision without a direction makes such moves.
-/

namespace SessionRegistry

/-! ## The moves of the protocol -/

namespace GlobalStatus

/-- Whether the session is heading towards rollback rather than commit. -/
def leansRollback : GlobalStatus → Bool
  | rollbacking | rollbackRetrying | timeoutRollbacking | timeoutRollbackRetrying
  | rollbacked | rollbackFailed | timeoutRollbacked | timeoutRollbackFailed => true
  | _ => false

/-- No status is on both sides. -/
theorem not_leansRollback_of_leansCommit {status : GlobalStatus}
    (h : status.leansCommit = true) : status.leansRollback = false := by
  cases status <;> first | rfl | cases h

theorem not_leansCommit_of_leansRollback {status : GlobalStatus}
    (h : status.leansRollback = true) : status.leansCommit = false := by
  cases status <;> first | rfl | cases h

/-- Moves of the protocol lead from one status to another. -/
def Leads : GlobalStatus → GlobalStatus → Prop :=
  Relation.ReflTransGen fun source target => source.hasStep target = true

namespace Leads

variable {source target : GlobalStatus}

/-- What every move of the protocol keeps is kept wherever moves lead. -/
theorem keeps {p : GlobalStatus → Bool}
    (moves : ∀ a ∈ all, ∀ b ∈ all, a.hasStep b = true → p a = true → p b = true)
    (h : source.Leads target) (hp : p source = true) : p target = true := by
  induction h with
  | refl => exact hp
  | @tail a b _ step ih => exact moves a (mem_all a) b (mem_all b) step ih

/-- No move leads back to the beginning. -/
theorem ne_begin (h : source.Leads target) (left : source ≠ .begin) : target ≠ .begin := by
  have kept := h.keeps (p := (· != .begin)) (by decide) (by simpa using left)
  simpa using kept

/-- From the side of commit moves lead to that side or to the finish. -/
theorem leansCommit_or (h : source.Leads target) (commit : source.leansCommit = true) :
    target.leansCommit = true ∨ target = .finished := by
  have kept := h.keeps (p := fun status => status.leansCommit || status == .finished) (by decide)
    (by simp [commit])
  simpa using kept

/-- From the side of rollback moves lead to that side or to the finish. -/
theorem leansRollback_or (h : source.Leads target) (rollback : source.leansRollback = true) :
    target.leansRollback = true ∨ target = .finished := by
  have kept := h.keeps (p := fun status => status.leansRollback || status == .finished)
    (by decide) (by simp [rollback])
  simpa using kept

/-- A status that has ended is kept, unless it moves to the finish. -/
theorem eq_or_eq_finished (h : source.Leads target) (ended : source.isTerminal = true) :
    target = source ∨ target = .finished := by
  -- A status that has ended moves to the finish alone, and the finish to nowhere else.
  have only : ∀ last ∈ all, last.isTerminal = true → ∀ a ∈ all, ∀ b ∈ all, a.hasStep b = true →
      (a == last || a == .finished) = true → (b == last || b == .finished) = true := by
    decide
  have kept := h.keeps (p := fun status => status == source || status == .finished)
    (only source (mem_all source) ended) (by simp)
  simpa using kept

/-- A report moves a session by a move of the protocol, or not at all. -/
theorem of_canMoveTo (h : source.canMoveTo target = true) : source.Leads target := by
  unfold canMoveTo at h
  split at h
  · next same =>
    rw [same]
    exact .refl
  · exact .single h

end Leads

end GlobalStatus

/-! ## The status that counts -/

namespace Session

variable {session before after : Session}

/-- The status that counts: that of the session, or while it is stopped the one that it had before,
which is also the one that it goes on with. -/
def effectiveStatus (session : Session) : GlobalStatus :=
  if session.status = .suspended then session.suspendedFrom.getD .begin else session.status

theorem effectiveStatus_of_active (h : session.status ≠ .suspended) :
    session.effectiveStatus = session.status :=
  if_neg h

theorem effectiveStatus_of_stopped (h : session.status = .suspended) :
    session.effectiveStatus = session.suspendedFrom.getD .begin :=
  if_pos h

/-- Only the status and what is remembered of it count. -/
theorem leads_of_status_eq (status : after.status = before.status)
    (suspendedFrom : after.suspendedFrom = before.suspendedFrom) :
    before.effectiveStatus.Leads after.effectiveStatus := by
  rw [effectiveStatus, effectiveStatus, status, suspendedFrom]
  exact .refl

/-- A session that is stopped remembers its status. -/
theorem leads_stop (h : session.stop = .ok (some after)) :
    session.effectiveStatus.Leads after.effectiveStatus := by
  obtain ⟨active, -, rfl⟩ := of_stop_eq_ok h
  rw [effectiveStatus_of_active active, effectiveStatus_of_stopped rfl]
  exact .refl

/-- A stopped session goes on with the status that it remembers, which is none of a stopped one. -/
theorem leads_restart (sound : session.Sound) (h : session.restart = .ok (some after)) :
    session.effectiveStatus.Leads after.effectiveStatus := by
  obtain ⟨stopped, rfl⟩ := of_restart_eq_ok h
  obtain ⟨status, hstatus⟩ := Option.isSome_iff_exists.1 (sound.suspended.2 stopped)
  have active := (sound.earlier status hstatus).2
  rw [effectiveStatus_of_stopped stopped, hstatus, effectiveStatus_of_active active]
  exact .refl

/-- A report makes a move of the protocol. -/
theorem leads_report {status : GlobalStatus} (h : session.report status = .ok (some after)) :
    session.effectiveStatus.Leads after.effectiveStatus := by
  obtain ⟨active, move, -, rfl⟩ := of_report_eq_ok h
  rw [effectiveStatus_of_active active,
    effectiveStatus_of_active (GlobalStatus.ne_suspended_of_canMoveTo move)]
  exact .of_canMoveTo move

/-- What is done to the branches leaves the status. -/
theorem Edits.leads (h : after.Edits before) :
    before.effectiveStatus.Leads after.effectiveStatus :=
  leads_of_status_eq (by rw [h.same]) (by rw [h.same])

end Session

/-- An operator directs the session: sends it an outcome or overrides its status. -/
def Operation.Directs (op : Operation) (xid : Xid) : Prop :=
  match op with
  | .command (.sendOutcome directed _) => directed = xid
  | .command (.changeStatus directed _) => directed = xid
  | _ => False

/-- Every revision of a sound session by which no operator directs it makes moves of the
protocol. -/
theorem Operation.Revises.leads {now : Millis} {op : Operation} {xid : Xid}
    {revision : Session → Revision} {before after : Session} (h : op.Revises now xid revision)
    (free : ¬ op.Directs xid) (sound : before.Sound) (revised : revision before = .ok (some after)) :
    before.effectiveStatus.Leads after.effectiveStatus := by
  cases h with
  | reportBranch _ id status => exact (Session.edits_reportBranch revised).leads
  | reportSession _ status => exact Session.leads_report revised
  | stop _ => exact Session.leads_stop revised
  | restart _ => exact Session.leads_restart sound revised
  | sendOutcome _ direction => exact absurd rfl free
  | changeStatus _ _ => exact absurd rfl free
  | dropBranch _ id => exact (Session.edits_dropBranch revised).leads
  | forceDropBranch _ id => exact (Session.edits_forceDropBranch revised).leads
  | stopBranch _ id => exact (Session.edits_stopBranch revised).leads
  | restartBranch _ id => exact (Session.edits_restartBranch revised).leads
  | releaseRow _ => exact (Session.edits_releaseRow revised).leads

/-! ## What becomes of a session -/

/-- What a session keeps of the way that it took: it stays on its side, does not begin again, and an
outcome that it reached is only followed by the finish. -/
structure Session.KeepsOutcome (after before : Session) : Prop where
  commit : before.effectiveStatus.leansCommit = true → after.effectiveStatus.leansRollback = false
  rollback : before.effectiveStatus.leansRollback = true → after.effectiveStatus.leansCommit = false
  left : before.effectiveStatus ≠ .begin → after.effectiveStatus ≠ .begin
  ended : before.status.isTerminal = true → after.status = before.status ∨ after.status = .finished

/-- An outcome that counts is the status of the session, because only an active session is
stopped. -/
theorem Session.Sound.status_eq {session : Session} (h : session.Sound)
    (ended : session.effectiveStatus.isTerminal = true) :
    session.status = session.effectiveStatus := by
  by_cases stopped : session.status = .suspended
  · obtain ⟨status, hstatus⟩ := Option.isSome_iff_exists.1 (h.suspended.2 stopped)
    rw [effectiveStatus_of_stopped stopped, hstatus] at ended
    cases ended.symm.trans (h.earlier status hstatus).1
  · exact (effectiveStatus_of_active stopped).symm

/-- A session whose status went where moves of the protocol lead keeps its outcome. -/
theorem Session.keepsOutcome_of_leads {before after : Session} (sound : after.Sound)
    (h : before.effectiveStatus.Leads after.effectiveStatus) : after.KeepsOutcome before where
  commit leans := by
    rcases h.leansCommit_or leans with leans | finished
    · exact GlobalStatus.not_leansRollback_of_leansCommit leans
    · rw [finished]
      rfl
  rollback leans := by
    rcases h.leansRollback_or leans with leans | finished
    · exact GlobalStatus.not_leansCommit_of_leansRollback leans
    · rw [finished]
      rfl
  left := h.ne_begin
  ended ended := by
    -- A session that has ended is not stopped, so that its status is the one that counts.
    have active : before.status ≠ .suspended := by
      intro stopped
      rw [stopped] at ended
      cases ended
    have same := effectiveStatus_of_active active
    rw [same] at h
    rcases h.eq_or_eq_finished ended with kept | finished
    · left
      rw [sound.status_eq (kept ▸ ended), kept]
    · right
      rw [sound.status_eq (by rw [finished]; rfl), finished]

namespace Session

variable {directed : Prop} {before middle after : Session}

theorem Succeeds.refl (session : Session) : session.Succeeds session :=
  succeeds_of_branches_eq rfl rfl

theorem Succeeds.trans (h : after.Succeeds middle) (h' : middle.Succeeds before) :
    after.Succeeds before where
  transactionId := h.transactionId.trans h'.transactionId
  ids := h.ids.trans h'.ids
  ended branch hbranch := by
    obtain ⟨mid, hmid, id, same⟩ := h.ended branch hbranch
    obtain ⟨earlier, hearlier, id', same'⟩ := h'.ended mid hmid
    refine ⟨earlier, hearlier, id.trans id', fun ended => ?_⟩
    have kept := same' ended
    rw [← kept] at ended
    exact (same ended).trans kept

/-- What reports and commands keep of a session: it is succeeded and stays sound, and its status
goes where moves of the protocol lead, unless an operator directs it. -/
structure Continues (directed : Prop) (after before : Session) : Prop where
  succeeds : after.Succeeds before
  sound : before.Sound → after.Sound
  leads : ¬ directed → before.Sound → before.effectiveStatus.Leads after.effectiveStatus

theorem Continues.refl (session : Session) : session.Continues directed session :=
  ⟨.refl session, id, fun _ _ => .refl⟩

theorem Continues.trans (h : after.Continues directed middle)
    (h' : middle.Continues directed before) : after.Continues directed before where
  succeeds := h.succeeds.trans h'.succeeds
  sound sound := h.sound (h'.sound sound)
  leads free sound := (h'.leads free sound).trans (h.leads free (h'.sound sound))

/-- What becomes of a session: a branch that has ended and that stays keeps its status, and the
status of the session goes where moves of the protocol lead, unless an operator directs it. -/
structure Follows (directed : Prop) (after before : Session) : Prop where
  ended : ∀ earlier ∈ before.branches, earlier.status.isTerminal = true →
    ∀ branch ∈ after.branches, branch.id = earlier.id → branch.status = earlier.status
  leads : ¬ directed → before.effectiveStatus.Leads after.effectiveStatus

/-- Branches of different numbers are told apart by them. -/
theorem eq_of_id_eq {branches : List Branch} (distinct : (branches.map Branch.id).Nodup)
    {branch other : Branch} (hbranch : branch ∈ branches) (hother : other ∈ branches)
    (same : branch.id = other.id) : branch = other :=
  List.inj_on_of_nodup_map distinct hbranch hother same

/-- What continues a sound session follows it, if its branches have different numbers. -/
theorem Continues.follows (h : after.Continues directed before) (sound : before.Sound)
    (distinct : (before.branches.map Branch.id).Nodup) : after.Follows directed before where
  ended earlier hearlier ended branch hbranch same := by
    obtain ⟨source, hsource, id, kept⟩ := h.succeeds.ended branch hbranch
    obtain rfl := eq_of_id_eq distinct hearlier hsource (same.symm.trans id)
    exact kept ended
  leads free := h.leads free sound

/-- A registration adds a branch of a new number, or none. -/
theorem follows_addBranch {branch : Branch} (now : Millis)
    (distinct : (before.branches.map Branch.id).Nodup) :
    Follows directed { before.addBranch branch with modifiedTime := now } before where
  ended earlier hearlier _ other hother same := by
    have hother : other ∈ (before.addBranch branch).branches := hother
    rw [branches_addBranch] at hother
    split at hother
    · rw [eq_of_id_eq distinct hother hearlier same]
    · next free =>
      rcases List.mem_append.1 hother with hother | hother
      · rw [eq_of_id_eq distinct hother hearlier same]
      · -- A branch of the session would have the new number.
        obtain rfl := List.mem_singleton.1 hother
        have taken : before.hasBranch other.id = true :=
          List.any_eq_true.2 ⟨earlier, hearlier, beq_iff_eq.2 same.symm⟩
        exact absurd taken free
  leads _ := by
    unfold addBranch
    split <;> exact leads_of_status_eq rfl rfl

end Session

end SessionRegistry
