import SessionRegistry.Proofs.Session.Outcome
import SessionRegistry.Proofs.Store.FreshNumbers
import SessionRegistry.Proofs.Store.Moments
import SessionRegistry.Proofs.Store.Soundness

/-!
# Outcomes are stable

What can become of a session between two points of a run. A branch that has ended keeps its status
for as long as it is there, and as long as no operator directs the session, the session stays on the
side of commit or rollback, does not begin again, and keeps an outcome that it has reached.

This is about one session: an xid could be used again only after all numbers have been handed out.

## Main definitions

* `Operation.Makes`: how an operation makes a new image of a session from the stored one.

## Main results

* `Operation.MayLog.makes`: every image that is logged is made in one of these ways.
* `Operation.MayLog.continues`: what an image that is logged keeps of the stored one.
* `Moment.Regular.follows`: what a moment of a regular run leaves of a session.
* `Run.begun_of_stored`: a session that is stored was begun in the run.
* `Store.outcomes_stable`: outcomes are stable.
-/

namespace SessionRegistry

/-! ## Logged images -/

namespace Operation

variable {s : Store} {op : Operation} {image : Session}

/-- Every image that is logged has passed the check of images. -/
theorem MayLog.checked (h : op.MayLog s (.upsert image)) :
    ∃ xid session, Store.checkImage xid session = .ok ()
      ∧ image = { session with modifiedTime := s.clock } := by
  generalize hlogged : LogOperation.upsert image = logged at h
  cases h with
  | put valid => exact ⟨_, _, valid, LogOperation.upsert.inj hlogged⟩
  | deleteBranch _ _ valid => exact ⟨_, _, valid, LogOperation.upsert.inj hlogged⟩
  | begin _ _ valid => exact ⟨_, _, valid, LogOperation.upsert.inj hlogged⟩
  | register _ _ _ valid => exact ⟨_, _, valid, LogOperation.upsert.inj hlogged⟩
  | revise _ _ _ valid => exact ⟨_, _, valid, LogOperation.upsert.inj hlogged⟩
  | _ => cases hlogged

/-- The branches of an image that is logged have different numbers. -/
theorem MayLog.nodup (h : op.MayLog s (.upsert image)) :
    (image.branches.map Branch.id).Nodup := by
  obtain ⟨_, session, valid, rfl⟩ := h.checked
  exact (Store.of_checkImage_eq_ok valid).2

/-- How an operation makes a new image of a session from the stored one: it takes a branch out, it
adds the branch that it registers, or it revises the session. -/
inductive Makes (s : Store) : Operation → Session → Session → Prop where
  | deleteBranch {xid : Xid} {id : BranchId} {before : Session} :
    Makes s (.deleteBranch xid id) before (before.removeBranch id)
  | register {xid : Xid} {registration : Registration} {before : Session} {id : BranchId} :
    Makes s (.register xid registration) before
      (before.addBranch (before.registeredBranch registration id s.clock))
  | revise {op : Operation} {revision : Session → Revision} {before after : Session}
    (revises : op.Revises s.clock after.xid revision)
    (revised : revision before = .ok (some after)) : Makes s op before after

/-- An image that an operation logs is made from the stored one, unless the operation puts an image
as it is given or begins a session. -/
theorem MayLog.makes (h : op.MayLog s (.upsert image)) (given : ∀ session, op ≠ .put session)
    (others : ∀ address applicationId serviceGroup name timeout,
      op ≠ .begin address applicationId serviceGroup name timeout) :
    ∃ before after, s.sessions.get? after.xid = some before ∧ Makes s op before after
      ∧ image = { after with modifiedTime := s.clock } := by
  generalize hlogged : LogOperation.upsert image = logged at h
  cases h with
  | put _ => exact absurd rfl (given _)
  | begin _ _ _ => exact absurd rfl (others _ _ _ _ _)
  | @deleteBranch xid id before branch stored _ valid =>
    obtain rfl := (Store.of_checkImage_eq_ok valid).1
    exact ⟨before, _, stored, .deleteBranch, LogOperation.upsert.inj hlogged⟩
  | @register xid registration before id stored _ _ valid =>
    obtain rfl := (Store.of_checkImage_eq_ok valid).1
    exact ⟨before, _, stored, .register, LogOperation.upsert.inj hlogged⟩
  | @revise _ xid revision before after revises stored revised valid =>
    obtain rfl := (Store.of_checkImage_eq_ok valid).1
    exact ⟨before, after, stored, .revise revises revised, LogOperation.upsert.inj hlogged⟩
  | _ => cases hlogged

end Operation

/-- The time of its latest change does not matter to what an image continues. -/
theorem Session.Continues.modifiedAt {directed : Prop} {before after : Session}
    (h : after.Continues directed before) (now : Millis) :
    Continues directed { after with modifiedTime := now } before :=
  ⟨h.succeeds.modifiedAt now, fun sound => (h.sound sound).modifiedAt now, h.leads⟩

/-- An image that an operation logs without drawing a number continues the stored one. -/
theorem Operation.MayLog.continues {s : Store} {op : Operation} {image : Session}
    (h : op.MayLog s (.upsert image)) (given : ∀ session, op ≠ .put session)
    (none : op.draws = 0) : ∃ before, s.sessions.get? image.xid = some before
      ∧ image.Continues (op.Directs image.xid) before := by
  have others : ∀ address applicationId serviceGroup name timeout,
      op ≠ .begin address applicationId serviceGroup name timeout := by
    rintro _ _ _ _ _ rfl
    cases none
  obtain ⟨before, after, stored, makes, rfl⟩ := h.makes given others
  refine ⟨before, stored, Session.Continues.modifiedAt ?_ s.clock⟩
  cases makes with
  | @deleteBranch _ id =>
    have edits := before.edits_removeBranch id
    exact ⟨edits.toSucceeds, fun sound => sound.removeBranch id, fun _ _ => edits.leads⟩
  | register => cases none
  | revise revises revised =>
    exact ⟨revises.succeeds revised, fun sound => revises.sound sound revised,
      fun free sound => revises.leads free sound revised⟩

/-! ## Moves -/

namespace Store

variable {exposed : Prop} {may : Store → LogOperation → Prop} {s t next start : Store}
  {attempts new : List Attempt} {past moments : List Moment} {xid : Xid}
  {session before after : Session}

/-- A session that is stored after a move was stored before or is an image that was logged. -/
theorem Move.get?_of_made (move : Move may s new next) (made : AllMade new)
    (found : next.sessions.get? xid = some session) :
    s.sessions.get? xid = some session ∨ may s (.upsert session) := by
  cases move with
  | lock locks => exact .inl found
  | tell notice => exact .inl found
  | takeId => exact .inl found
  | @change logged bytes log allowed _ =>
    obtain ⟨_, _, _, frame, -⟩ := (s.published logged log).countBytes_frame bytes
    rw [frame] at found
    rcases SessionTable.get?_publish found with found | same
    · exact .inl found
    · exact .inr (same ▸ allowed)
  | fail _ _ => cases made _ (List.mem_singleton_self _)

theorem Moves.get?_of_made (moves : Moves may s attempts t) (made : AllMade attempts)
    (found : t.sessions.get? xid = some session) :
    s.sessions.get? xid = some session ∨ ∃ m, may m (.upsert session) := by
  induction moves with
  | refl s => exact .inl found
  | cons move _ ih =>
    obtain ⟨first, more⟩ := allMade_append.1 made
    rcases ih more found with found | logged
    · exact (move.get?_of_made first found).imp_right fun logged => ⟨_, logged⟩
    · exact .inr logged

/-- A session that is stored after the moves of an operation that draws no number continues the one
that was stored under its xid. -/
theorem Moves.continues {op : Operation}
    (moves : Moves (fun s => Operation.MayLog s op) s attempts t) (made : AllMade attempts)
    (given : ∀ session, op ≠ .put session) (none : op.draws = 0)
    (found : t.sessions.get? xid = some after) :
    ∃ before, s.sessions.get? xid = some before
      ∧ after.Continues (op.Directs xid) before := by
  induction moves with
  | refl s => exact ⟨after, found, .refl after⟩
  | cons move _ ih =>
    obtain ⟨first, more⟩ := allMade_append.1 made
    obtain ⟨middle, found, continues⟩ := ih more found
    rcases move.get?_of_made first found with found | logged
    · -- The move leaves the session as it is.
      exact ⟨middle, found, continues⟩
    · obtain ⟨before, found', continues'⟩ := logged.continues given none
      rw [SessionTable.xid_of_get? found] at found' continues'
      exact ⟨before, found', continues.trans continues'⟩

/-- A session that is stored after a begin was begun by it, without branches, or was stored
before. -/
theorem get?_of_begin {address applicationId serviceGroup name : String} {timeout : Millis}
    {answer : Except Error Operation.Outcome}
    (run : (Operation.begin address applicationId serviceGroup name timeout).runOn s
      = (answer, next)) (found : next.sessions.get? xid = some after) :
    answer = .ok (.begun xid) ∧ after.branches = [] ∨ s.sessions.get? xid = some after := by
  cases answer with
  | error e =>
    rw [sessions_of_begin_eq_error run] at found
    exact .inr found
  | ok outcome =>
    obtain ⟨rfl, sessions, -⟩ := sessions_of_begin run
    rw [sessions] at found
    by_cases same : s!"{address}:{s.nextId}" = xid
    · subst same
      have stored := SessionTable.get?_insert_self s.sessions
        (s.begunSession address applicationId serviceGroup name timeout)
      cases found.symm.trans stored
      exact .inl ⟨rfl, rfl⟩
    · rw [SessionTable.get?_insert_of_ne _ _ same] at found
      exact .inr found

end Store

/-! ## Operations -/

/-- A session as regular runs keep it: it is sound, and its branches have different numbers. -/
structure Session.Proper (session : Session) : Prop where
  sound : session.Sound
  distinct : (session.branches.map Branch.id).Nodup

/-- A session that is left alone follows itself. -/
theorem Session.Proper.follows_self {directed : Prop} {session : Session} (h : session.Proper) :
    session.Follows directed session :=
  (Continues.refl session).follows h.sound h.distinct

/-- An image that an operation other than a begin logs with a number that it draws follows the stored
session. -/
theorem Operation.MayLog.follows_of_draws {directed : Prop} {s : Store} {op : Operation}
    {image : Session} (logged : op.MayLog s (.upsert image)) (drawn : op.draws ≠ 0)
    (others : ∀ address applicationId serviceGroup name timeout,
      op ≠ .begin address applicationId serviceGroup name timeout)
    (proper : s.sessions.Every Session.Proper) :
    ∃ before, s.sessions.get? image.xid = some before ∧ image.Follows directed before := by
  have given : ∀ session, op ≠ .put session := by
    rintro _ rfl
    exact drawn rfl
  obtain ⟨before, after, stored, makes, rfl⟩ := logged.makes given others
  refine ⟨before, stored, ?_⟩
  cases makes with
  | deleteBranch => exact absurd rfl drawn
  | register => exact Session.follows_addBranch s.clock (proper _ before stored).distinct
  | revise revises _ =>
    -- No revision draws a number.
    cases revises <;> exact absurd rfl drawn

/-- A session that is stored after an operation which begins none follows the one that was stored
under its xid. -/
theorem Operation.Effects.follows {op : Operation} {s : Store} {attempts : List Attempt} {xid : Xid}
    {after : Session} (h : op.Effects s attempts) (mutation : op.isUpkeep = false)
    (made : AllMade attempts) (given : ∀ session, op ≠ .put session)
    (others : ∀ address applicationId serviceGroup name timeout,
      op ≠ .begin address applicationId serviceGroup name timeout)
    (proper : s.sessions.Every Session.Proper)
    (found : (op.runOn s).2.sessions.get? xid = some after) :
    ∃ before, s.sessions.get? xid = some before ∧ after.Follows (op.Directs xid) before := by
  cases h with
  | upkeep upkeep => cases mutation.symm.trans upkeep
  | moves _ _ _ draws _ =>
    by_cases none : op.draws = 0
    · have moves := draws.moves.mono fun _ _ allowed => allowed.1
      obtain ⟨before, found, continues⟩ := moves.continues made given none found
      obtain ⟨sound, distinct⟩ := proper xid before found
      exact ⟨before, found, continues.follows sound distinct⟩
    · rcases draws.moves.get?_of_made made found with stored | ⟨m, logged, -, still⟩
      · exact ⟨after, stored, (proper xid after stored).follows_self⟩
      · -- An operation that draws a number logs nothing before, so that the stored sessions are
        -- those from which it started.
        have origin : m.sessions = s.sessions := still none
        rw [← origin] at proper ⊢
        rw [← SessionTable.xid_of_get? found]
        exact logged.follows_of_draws none others proper

/-! ## Moments -/

/-- An operator directs the session at this moment. -/
def Moment.Directs (moment : Moment) (xid : Xid) : Prop :=
  ∃ op, moment.event = .perform op ∧ op.Directs xid

/-- A session that is stored after a moment of a regular run was begun at that moment, or follows
the one that was stored under its xid. -/
theorem Moment.Regular.follows {exposed : Prop} {moment : Moment} {xid : Xid} {after : Session}
    (h : moment.Regular exposed) (proper : moment.store.sessions.Every Session.Proper)
    (found : moment.next.sessions.get? xid = some after) :
    moment.begun = some xid ∧ after.branches = []
      ∨ ∃ before, moment.store.sessions.get? xid = some before
        ∧ after.Follows (moment.Directs xid) before := by
  have same (found : moment.store.sessions.get? xid = some after) :
      ∃ before, moment.store.sessions.get? xid = some before
        ∧ after.Follows (moment.Directs xid) before :=
    ⟨after, found, (proper xid after found).follows_self⟩
  by_cases quiet : ∀ op, moment.event = .perform op → op.isUpkeep = true
  · rw [h.durable.sessions_eq h.happens.leads h.dies quiet] at found
    exact .inr (same found)
  · obtain ⟨op, hop, mutation⟩ : ∃ op, moment.event = .perform op ∧ op.isUpkeep = false := by
      simpa using quiet
    have leaves := h.happens.runOn hop
    by_cases begins : ∃ address applicationId serviceGroup name timeout,
        op = .begin address applicationId serviceGroup name timeout
    · obtain ⟨address, applicationId, serviceGroup, name, timeout, rfl⟩ := begins
      have run : (Operation.begin address applicationId serviceGroup name timeout).runOn
          moment.store = (_, moment.next) := Prod.ext rfl leaves
      rcases Store.get?_of_begin run found with ⟨answered, fresh⟩ | found
      · rw [answered] at run
        exact .inl ⟨Moment.begun_of_ok hop run, fresh⟩
      · exact .inr (same found)
    · have given : ∀ session, op ≠ .put session := fun session same => h.given session (same ▸ hop)
      rw [← leaves] at found
      obtain ⟨before, stored, follows⟩ := (h.happens.effects op hop).follows mutation h.made given
        (fun _ _ _ _ _ same => begins ⟨_, _, _, _, _, same⟩) proper found
      exact .inr ⟨before, stored, follows.ended,
        fun free => follows.leads fun directed => free ⟨op, hop, directed⟩⟩

/-! ## Runs -/

namespace Store

variable {exposed : Prop} {s t start : Store} {past moments : List Moment} {xid : Xid}
  {before : Session} {settings : StoreSettings} {now : Millis}

/-- Every moment of a regular run is regular and finds proper sessions, and the run leaves proper
sessions. -/
theorem Run.proper (opened : openFiles settings now { snapshot := none, log := [] } = .ok start)
    (run : Run start moments s) (regular : Regular exposed moments) :
    (∀ moment ∈ moments, moment.Regular exposed ∧ moment.store.sessions.Every Session.Proper)
      ∧ s.sessions.Every Session.Proper := by
  have first : start.Every Session.Proper exposed := .of_open .nothing opened
  have kept := (run.induct (I := fun past s => (∀ moment ∈ past,
    moment.Regular exposed ∧ moment.store.sessions.Every Session.Proper)
      ∧ s.Every Session.Proper exposed) opened regular ⟨by simp, first⟩ ?_).1
  · exact ⟨kept.1, kept.2.shown⟩
  · rintro past moment regular ⟨all, every⟩
    constructor
    · intro other hother
      rcases List.mem_append.1 hother with hother | hother
      · exact all other hother
      · rw [List.mem_singleton.1 hother]
        exact ⟨regular, every.shown⟩
    · refine every.event regular.happens.leads ?_ regular.dies fun mayDie =>
        (regular.recoverable mayDie).fits
      intro op hop s image stored logged
      refine ⟨logged.sound ?_ fun xid session found => (stored xid session found).sound,
        logged.nodup⟩
      rintro session rfl
      exact regular.given session hop

/-- A session that is stored after a run was begun in the run. -/
theorem Run.begun_of_stored
    (opened : openFiles settings now { snapshot := none, log := [] } = .ok start)
    (run : Run start moments s)
    (regular : ∀ moment ∈ moments,
      moment.Regular exposed ∧ moment.store.sessions.Every Session.Proper)
    (stored : s.sessions.get? xid = some before) : xid ∈ moments.filterMap Moment.begun := by
  induction run generalizing before with
  | start =>
    cases (openFiles_nothing settings now).symm.trans opened
    cases stored
  | @step past moment _ _ ih =>
    have last := regular moment (List.mem_append_right _ (List.mem_singleton_self _))
    rw [List.filterMap_append, List.mem_append]
    rcases last.1.follows last.2 stored with ⟨begun, -⟩ | ⟨earlier, stored, -⟩
    · right
      simp [begun]
    · left
      exact ih (fun moment hmoment => regular moment (List.mem_append_left _ hmoment)) stored

/-- As long as there are numbers, the xid of a stored session is not begun again. -/
theorem Run.not_begun_again
    (opened : openFiles settings now { snapshot := none, log := [] } = .ok start)
    (run : Run start past s) (later : Run s moments t) (regular : Regular exposed (past ++ moments))
    (few : ((past ++ moments).map Moment.drawn).sum < UInt64.size - 1)
    (stored : s.sessions.get? xid = some before) :
    ∀ moment ∈ moments, moment.begun ≠ some xid := by
  have whole := run.trans later
  have distinct := whole.nodup_begun (whole.fresh opened regular few).ascending
  have begun := run.begun_of_stored opened (run.proper opened regular.left).1 stored
  -- Another begin would answer an xid that the run has answered before.
  rw [List.filterMap_append, List.nodup_append] at distinct
  intro moment hmoment again
  exact distinct.2.2 xid begun xid (List.mem_filterMap.2 ⟨moment, hmoment, again⟩) rfl

/-- Without a begin and without direction the status of a session goes where moves of the protocol
lead. -/
theorem Run.leads {after : Session} (run : Run s moments t)
    (regular : ∀ moment ∈ moments,
      moment.Regular exposed ∧ moment.store.sessions.Every Session.Proper)
    (same : ∀ moment ∈ moments, moment.begun ≠ some xid)
    (free : ∀ moment ∈ moments, ¬ moment.Directs xid)
    (found : t.sessions.get? xid = some after) :
    ∃ before, s.sessions.get? xid = some before
      ∧ before.effectiveStatus.Leads after.effectiveStatus := by
  refine run.related
    (R := fun before after => before.effectiveStatus.Leads after.effectiveStatus)
    (fun _ => .refl) (fun first second => first.trans second) ?_ found
  intro moment hmoment after found
  obtain ⟨here, proper⟩ := regular moment hmoment
  -- The moment does not begin the session, so it was there before.
  rcases here.follows proper found with ⟨begun, -⟩ | ⟨before, stored, follows⟩
  · exact absurd begun (same moment hmoment)
  · exact ⟨before, stored, follows.leads (free moment hmoment)⟩

/-- A branch that has ended keeps its status for as long as it is there. -/
theorem Run.keeps_ended {earlier : Branch} (run : Run s moments t)
    (regular : ∀ moment ∈ moments,
      moment.Regular exposed ∧ moment.store.sessions.Every Session.Proper)
    (stored : s.sessions.get? xid = some before) (proper : before.Proper)
    (hearlier : earlier ∈ before.branches) (ended : earlier.status.isTerminal = true)
    (stays : ∀ moment ∈ moments, ∃ session, moment.next.sessions.get? xid = some session
      ∧ session.hasBranch earlier.id = true) :
    ∃ after, t.sessions.get? xid = some after ∧ after.hasBranch earlier.id = true
      ∧ ∀ branch ∈ after.branches, branch.id = earlier.id → branch.status = earlier.status := by
  have step : ∀ moment ∈ moments, ∀ before after, moment.store.sessions.get? xid = some before →
      moment.next.sessions.get? xid = some after → ∀ earlier ∈ before.branches,
      ∀ branch ∈ after.branches, branch.id = earlier.id → earlier.status.isTerminal = true →
      branch.status = earlier.status := by
    intro moment hmoment before after stored found earlier hearlier branch hbranch same ended
    obtain ⟨here, proper⟩ := regular moment hmoment
    rcases here.follows proper found with ⟨-, none⟩ | ⟨before', stored', follows⟩
    · -- A session that has just been begun has no branches.
      rw [none] at hbranch
      cases hbranch
    · cases stored.symm.trans stored'
      exact follows.ended earlier hearlier ended branch hbranch same
  have trans : ∀ {first second third : Branch},
      (first.status.isTerminal = true → second.status = first.status) →
      (second.status.isTerminal = true → third.status = second.status) →
      first.status.isTerminal = true → third.status = first.status := by
    intro first second third kept kept' ended
    have same := kept ended
    rw [← same] at ended ⊢
    exact kept' ended
  obtain ⟨after, found, has, kept⟩ := run.related_branch
    (R := fun earlier branch => earlier.status.isTerminal = true → branch.status = earlier.status)
    (fun _ _ => rfl) trans step stored proper.distinct hearlier stays
  exact ⟨after, found, has, fun branch hbranch same => kept branch hbranch same ended⟩

/-! ## Main result -/

/-- Whatever happens to a store that is opened in an empty directory, as long as no image is put as
it is given and no change fails: a branch that has ended keeps its status for as long as it is
there, and a session that no operator directs keeps its outcome for as long as it is there. The
session is the same one if its xid is not begun again, for which it is enough that there are
numbers. -/
theorem outcomes_stable (opened : openFiles settings now { snapshot := none, log := [] } = .ok start)
    (run : Run start past s) (later : Run s moments t) (regular : Regular exposed (past ++ moments))
    (stored : s.sessions.get? xid = some before) :
    (∀ earlier ∈ before.branches, earlier.status.isTerminal = true →
      (∀ moment ∈ moments, ∃ session, moment.next.sessions.get? xid = some session
        ∧ session.hasBranch earlier.id = true) →
      ∃ after, t.sessions.get? xid = some after ∧ after.hasBranch earlier.id = true
        ∧ ∀ branch ∈ after.branches, branch.id = earlier.id → branch.status = earlier.status)
      ∧ ((((past ++ moments).map Moment.drawn).sum < UInt64.size - 1
          ∨ ∀ moment ∈ moments, moment.begun ≠ some xid) →
        (∀ moment ∈ moments, ¬ moment.Directs xid) →
        ∀ after, t.sessions.get? xid = some after → after.KeepsOutcome before) := by
  obtain ⟨all, last⟩ := (run.trans later).proper opened regular
  have these : ∀ moment ∈ moments,
      moment.Regular exposed ∧ moment.store.sessions.Every Session.Proper :=
    fun moment hmoment => all moment (List.mem_append_right past hmoment)
  constructor
  · intro earlier hearlier ended stays
    have proper := (run.proper opened regular.left).2 xid before stored
    exact later.keeps_ended these stored proper hearlier ended stays
  · intro same free after found
    have same : ∀ moment ∈ moments, moment.begun ≠ some xid := by
      rcases same with few | same
      · exact run.not_begun_again opened later regular few stored
      · exact same
    obtain ⟨before', stored', leads⟩ := later.leads these same free found
    cases stored.symm.trans stored'
    exact Session.keepsOutcome_of_leads (last xid after found).sound leads

/-- The branch of a session has been committed and the session is committing when an operator stops
it and lets it go on: the branch stays committed, and the session stays on the side of commit. -/
theorem outcomes_stable_of_stop_and_start :
    ∃ (start s t : Store) (past moments : List Moment) (before after : Session),
      openFiles {} 0 { snapshot := none, log := [] } = .ok start
        ∧ Run start past s ∧ Run s moments t ∧ Regular False (past ++ moments)
        ∧ moments.map Moment.event = [.perform (.command (.stopSession "h:1")),
          .perform (.command (.startSession "h:1"))]
        ∧ s.sessions.get? "h:1" = some before ∧ before.effectiveStatus = .committing
        ∧ before.branches.map (fun branch => (branch.id, branch.status)) = [(2, .phaseTwoCommitted)]
        ∧ t.sessions.get? "h:1" = some after ∧ after.KeepsOutcome before
        ∧ ∀ branch ∈ after.branches, branch.id = 2 → branch.status = .phaseTwoCommitted := by
  let start := resume {} 0 { snapshot := none, log := [] } (Recovered.ofSnapshot Snapshot.empty)
  let shown (s : Store) := (s.sessions.get? "h:1").map fun session =>
    (session.effectiveStatus, session.branches.map fun branch => (branch.id, branch.status))
  have opened : openFiles {} 0 { snapshot := none, log := [] } = .ok start :=
    openFiles_nothing {} 0
  obtain ⟨s1, s2, s3, s4, s5, s6, s7, begins, registers, prepares, commits, decides, stops, starts,
      early, middle, late⟩ :
      ∃ s1 s2 s3 s4 s5 s6 s7 : Store,
        (Operation.begin "h" "app" "" "tx" 1).runOn start = (.ok (.begun "h:1"), s1)
          ∧ (Operation.register "h:1" { type := .tcc, resourceId := "db" }).runOn s1
            = (.ok (.id 2), s2)
          ∧ (Operation.reportBranch "h:1" 2 .phaseOneDone).runOn s2 = (.ok .done, s3)
          ∧ (Operation.reportBranch "h:1" 2 .phaseTwoCommitted).runOn s3 = (.ok .done, s4)
          ∧ (Operation.reportSession "h:1" .committing).runOn s4 = (.ok .done, s5)
          ∧ (Operation.command (.stopSession "h:1")).runOn s5 = (.ok (.reply .done), s6)
          ∧ (Operation.command (.startSession "h:1")).runOn s6 = (.ok (.reply .done), s7)
          ∧ shown s5 = some (.committing, [(2, .phaseTwoCommitted)])
          ∧ shown s6 = some (.committing, [(2, .phaseTwoCommitted)])
          ∧ shown s7 = some (.committing, [(2, .phaseTwoCommitted)]) :=
    ⟨_, _, _, _, _, _, _, runOn_of_toOption (by decide +kernel),
      runOn_of_toOption (by decide +kernel), runOn_of_toOption (by decide +kernel),
      runOn_of_toOption (by decide +kernel), runOn_of_toOption (by decide +kernel),
      runOn_of_toOption (by decide +kernel), runOn_of_toOption (by decide +kernel),
      by decide +kernel, by decide +kernel, by decide +kernel⟩
  -- The process does not die, so that no record has to be read back.
  have goOn {past : List Moment} {s next : Store} {op : Operation} {outcome : Operation.Outcome}
      (run : Run start past s) (regular : Regular False past)
      (performed : op.runOn s = (.ok outcome, next)) (mutation : op.isUpkeep = false)
      (once : op.mostChanges s = 1) (given : ∀ session, op ≠ .put session) :
      ∃ attempts, (Moment.mk s (.perform op) attempts next).Happens
        ∧ Run start (past ++ [⟨s, .perform op, attempts, next⟩]) next
        ∧ Regular False (past ++ [⟨s, .perform op, attempts, next⟩]) := by
    obtain ⟨attempts, happens, -, run, regular⟩ := run.exists_performed regular performed mutation
      once given (fun no => no.elim) (fun no => no.elim)
    exact ⟨attempts, happens, run, regular⟩
  obtain ⟨a1, -, run1, regular1⟩ := goOn .start .nil begins rfl rfl (by simp)
  obtain ⟨a2, -, run2, regular2⟩ := goOn run1 regular1 registers rfl rfl (by simp)
  obtain ⟨a3, -, run3, regular3⟩ := goOn run2 regular2 prepares rfl rfl (by simp)
  obtain ⟨a4, -, run4, regular4⟩ := goOn run3 regular3 commits rfl rfl (by simp)
  obtain ⟨a5, -, run5, regular5⟩ := goOn run4 regular4 decides rfl rfl (by simp)
  obtain ⟨a6, stopped, run6, regular6⟩ := goOn run5 regular5 stops rfl rfl (by simp)
  obtain ⟨a7, started, -, regular7⟩ := goOn run6 regular6 starts rfl rfl (by simp)
  have later := (Run.start.step stopped).step started
  have has : ∀ {session : Session}, session.branches.map (fun branch => (branch.id, branch.status))
      = [(2, .phaseTwoCommitted)] → session.hasBranch 2 = true := by
    intro session branches
    obtain ⟨branch, hbranch, same⟩ := List.mem_map.1 (branches ▸ List.mem_singleton_self _)
    exact List.any_eq_true.2 ⟨branch, hbranch, beq_iff_eq.2 (Prod.mk.inj same).1⟩
  obtain ⟨before, stored, was⟩ := Option.map_eq_some_iff.1 early
  obtain ⟨session, stored', was'⟩ := Option.map_eq_some_iff.1 middle
  obtain ⟨after, found, is⟩ := Option.map_eq_some_iff.1 late
  obtain ⟨committing, branches⟩ := Prod.mk.inj was
  obtain ⟨branch, hbranch, same⟩ := List.mem_map.1 (branches ▸ List.mem_singleton_self _)
  obtain ⟨id, status⟩ := Prod.mk.inj same
  obtain ⟨ended, outcome⟩ := outcomes_stable opened run5 later regular7 stored
  have kept : after.KeepsOutcome before :=
    outcome (.inr (by simp [Moment.begun])) (by simp [Moment.Directs, Operation.Directs]) after found
  have stays : session.hasBranch branch.id = true ∧ after.hasBranch branch.id = true := by
    rw [id]
    exact ⟨has (Prod.mk.inj was').2, has (Prod.mk.inj is).2⟩
  obtain ⟨_, found', -, same⟩ := ended branch hbranch (by rw [status]; rfl)
    (by simpa using ⟨⟨session, stored', stays.1⟩, after, found, stays.2⟩)
  cases found.symm.trans found'
  rw [id, status] at same
  exact ⟨start, s5, s7, _, _, before, after, opened, run5, later, regular7, rfl, stored,
    committing, branches, found, kept, same⟩

end Store

end SessionRegistry
