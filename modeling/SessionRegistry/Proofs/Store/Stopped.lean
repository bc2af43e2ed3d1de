import SessionRegistry.Proofs.Operation.Revised
import SessionRegistry.Proofs.Session.Stopped
import SessionRegistry.Proofs.Store.Moments
import SessionRegistry.Proofs.Store.Stability

/-!
# Stopped sessions are left alone

From the moment at which an operator stops a session until it is started or deleted by force, the
session stays in the store, stopped, and remembers its status. Whatever would move it on is refused,
and no sweep removes it or lists it. A branch that is stopped takes no report, and holds its session
back from every outcome that its branches have to agree with.

## Main definitions

* `Operation.Advances`: the operations that would move a session on or end it.
* `Operation.EndsStop`: the operations that end the time for which a session is stopped.
* `Store.Rests`: a stopped session that is left alone.

## Main results

* `Store.rests_of_stoppedFrom`: a store leaves every stopped session alone.
* `Moment.Regular.keeps_stopped`: what a moment of a regular run leaves of a stopped session.
* `Store.stopped_left_alone`: a session that is stopped is left alone until it is started.
-/

namespace SessionRegistry

namespace Operation

/-- The operations that would move a session on or end it. -/
inductive Advances (xid : Xid) : Operation → Prop where
  | register (registration : Registration) : Advances xid (.register xid registration)
  | reportBranch (id : BranchId) (status : BranchStatus) :
    Advances xid (.reportBranch xid id status)
  | reportSession (status : GlobalStatus) : Advances xid (.reportSession xid status)
  | sendOutcome (direction : Option Direction) :
    Advances xid (.command (.sendOutcome xid direction))
  | changeStatus (status : Option GlobalStatus) :
    Advances xid (.command (.changeStatus xid status))
  | deleteSession : Advances xid (.command (.deleteSession xid))

/-- The operations that end the time for which a session is stopped, where they succeed. -/
def EndsStop (op : Operation) (xid : Xid) : Prop :=
  match op with
  | .command (.startSession ended) | .command (.forceDeleteSession ended) | .delete ended =>
    ended = xid
  | _ => False

variable {s : Store} {op : Operation} {xid : Xid} {session : Session} {status : GlobalStatus}

/-- A stopped session is not moved on. -/
theorem Advances.refused (h : op.Advances xid) (stored : s.sessions.get? xid = some session)
    (stopped : session.status = .suspended) : s.Refuses op := by
  have only {before : Session} (stored' : s.sessions.get? xid = some before) :
      before = session := Option.some.inj (stored'.symm.trans stored)
  cases h with
  | register registration =>
    exact Store.refuses_register registration stored (by simp [stopped])
  | reportBranch id status =>
    refine Store.refuses_of_revises (.reportBranch xid id status) (by simp) fun before stored' => ?_
    exact ⟨_, Session.reportBranch_of_stopped (only stored' ▸ stopped) id status s.clock⟩
  | reportSession status =>
    refine Store.refuses_of_revises (.reportSession xid status) (by simp) fun before stored' => ?_
    exact ⟨_, Session.report_of_stopped (only stored' ▸ stopped) status⟩
  | sendOutcome direction =>
    refine Store.refuses_of_revises (.sendOutcome xid direction) (by simp) fun before stored' => ?_
    exact ⟨_, Session.sendOutcome_of_stopped (only stored' ▸ stopped) direction⟩
  | changeStatus status =>
    by_cases active : status = some .suspended
    · rw [active]
      exact Store.refuses_changeStatus_to_suspended s xid
    · refine Store.refuses_of_revises (.changeStatus xid active) (by simp) fun before stored' => ?_
      exact ⟨_, Session.changeStatus_of_stopped (only stored' ▸ stopped) status⟩
  | deleteSession => exact Store.refuses_deleteSession stored (by rw [stopped]; rfl)

/-- Every change but a given image, a begin and those that end the stop keeps a session stopped. -/
theorem MayLog.keeps_stopped {logged : LogOperation} (h : op.MayLog s logged)
    (given : ∀ image, op ≠ .put image)
    (others : ∀ address applicationId serviceGroup name timeout,
      op ≠ .begin address applicationId serviceGroup name timeout)
    (lasts : ¬ op.EndsStop xid) (stored : s.sessions.get? xid = some session)
    (stopped : session.StoppedFrom status) :
    ∃ after, (Store.publish s.sessions logged).get? xid = some after
      ∧ after.StoppedFrom status := by
  -- An image of another session, and a removal of another session, leave this one as it is.
  have upsert (image : Session) (same : image.xid = xid → image.StoppedFrom status) :
      ∃ after, (Store.publish s.sessions (.upsert image)).get? xid = some after
        ∧ after.StoppedFrom status := by
    rw [Store.get?_publish_upsert]
    split
    · next here => exact ⟨image, rfl, same here⟩
    · exact ⟨session, stored, stopped⟩
  have remove (removed : Xid) (other : removed ≠ xid) :
      ∃ after, (Store.publish s.sessions (.remove removed)).get? xid = some after
        ∧ after.StoppedFrom status :=
    ⟨session, (SessionTable.get?_erase_of_ne _ other).trans stored, stopped⟩
  -- What has ended is not stopped.
  have unended {removed : Xid} {other : Session} (stored' : s.sessions.get? removed = some other)
      (ended : other.status.isTerminal = true) : removed ≠ xid := by
    rintro rfl
    cases stored.symm.trans stored'
    rw [stopped.stopped] at ended
    cases ended
  cases h with
  | put _ => exact absurd rfl (given _)
  | delete _ => exact remove _ lasts
  | @deleteBranch xid' id before branch stored' _ valid =>
    refine upsert _ fun here => ?_
    obtain rfl := (Store.of_checkImage_eq_ok valid).1.symm.trans here
    cases stored.symm.trans stored'
    exact ⟨stopped.stopped, stopped.earlier⟩
  | begin _ _ _ => exact absurd rfl (others _ _ _ _ _)
  | @register xid' registration before id stored' active _ valid =>
    refine upsert _ fun here => ?_
    obtain rfl := (Store.of_checkImage_eq_ok valid).1.symm.trans here
    cases stored.symm.trans stored'
    rw [stopped.stopped] at active
    cases active
  | @revise _ xid' revision before after revises stored' revised valid =>
    refine upsert _ fun here => ?_
    obtain rfl := (Store.of_checkImage_eq_ok valid).1.symm.trans here
    cases stored.symm.trans stored'
    have kept := revises.keeps_stopped (fun starts => lasts (starts ▸ rfl)) stopped revised
    exact ⟨kept.stopped, kept.earlier⟩
  | deleteEnded stored' ended => exact remove _ (unended stored' ended)
  | forceDelete _ => exact remove _ lasts
  | sweep stored' expired => exact remove _ (unended stored' (Bool.and_eq_true_iff.1 expired).1)

/-- An image that is logged has the status of the stored one, unless the operation begins a session
or sets statuses. -/
theorem MayLog.status_eq {image : Session} (h : op.MayLog s (.upsert image))
    (given : ∀ image, op ≠ .put image)
    (others : ∀ address applicationId serviceGroup name timeout,
      op ≠ .begin address applicationId serviceGroup name timeout)
    (sets : op.setsStatus = false) :
    ∃ before, s.sessions.get? image.xid = some before ∧ image.status = before.status := by
  obtain ⟨before, after, stored, makes, rfl⟩ := h.makes given others
  refine ⟨before, stored, ?_⟩
  show after.status = before.status
  cases makes with
  | deleteBranch => rfl
  | register =>
    unfold Session.addBranch
    split <;> rfl
  | revise revises revised => rw [(revises.edits sets revised).same]

/-- An image that is logged by an operation that sets statuses has the branches of the stored
one. -/
theorem MayLog.branches_eq {image : Session} (h : op.MayLog s (.upsert image))
    (sets : op.setsStatus = true) :
    ∃ before, s.sessions.get? image.xid = some before ∧ image.branches = before.branches := by
  obtain ⟨before, after, stored, makes, rfl⟩ := h.makes (by rintro _ rfl; cases sets)
    (by rintro _ _ _ _ _ rfl; cases sets)
  refine ⟨before, stored, ?_⟩
  show after.branches = before.branches
  cases makes with
  | deleteBranch => cases sets
  | register => cases sets
  | revise revises revised => exact revises.branches_eq sets revised

/-- An operation that would end the stop of a session, and fails, has changed nothing. -/
theorem EndsStop.sessions_of_error {next : Store} {e : Error} (h : op.EndsStop xid)
    (run : op.runOn s = (.error e, next)) : next.sessions = s.sessions := by
  unfold EndsStop at h
  split at h
  · next ended =>
    have revises : Revises s.clock _ ended Session.restart := .restart ended
    cases revises.revised (by simp) run with
    | refused _ same => exact same
  · exact Store.sessions_of_forceDeleteSession_eq_error run
  · exact Store.sessions_of_delete_eq_error run
  · exact h.elim

end Operation

/-! ## Moments -/

namespace Moment

/-- The stop of a session ends at this moment. -/
def EndsStop (moment : Moment) (xid : Xid) : Prop :=
  ∃ op, moment.event = .perform op ∧ op.EndsStop xid ∧ moment.answer.isSome = true

/-- An operator stops a session at this moment, which had another status until then. -/
structure Stops (moment : Moment) (xid : Xid) (status : GlobalStatus) : Prop where
  event : moment.event = .perform (.command (.stopSession xid))
  stored : ∃ session, moment.store.sessions.get? xid = some session ∧ session.status = status
  active : status ≠ .suspended
  succeeds : moment.answer.isSome = true

variable {exposed : Prop} {moment : Moment} {xid : Xid} {session : Session} {status : GlobalStatus}

/-- The stop leaves a stopped session. -/
theorem Stops.stoppedFrom (h : moment.Stops xid status) (happens : moment.Happens) :
    ∃ after, moment.next.sessions.get? xid = some after ∧ after.StoppedFrom status := by
  obtain ⟨outcome, run⟩ := exists_runOn_of_answer happens h.event h.succeeds
  obtain ⟨session, stored, rfl⟩ := h.stored
  have revises : Operation.Revises moment.store.clock _ _ Session.stop := .stop xid
  cases revises.revised (by simp) run with
  | kept stored' nothing _ =>
    -- A session that is active is stopped or refuses.
    cases stored.symm.trans stored'
    rw [Session.stop, if_neg h.active] at nothing
    split at nothing <;> cases nothing
  | changed stored' revised valid sessions =>
    cases stored.symm.trans stored'
    obtain ⟨-, -, rfl⟩ := Session.of_stop_eq_ok revised
    exact ⟨_, Store.get?_of_inserted (Store.of_checkImage_eq_ok valid).1 sessions, rfl, rfl⟩

/-- A moment of a regular run keeps a session stopped, unless it begins the session or ends the
stop. -/
theorem Regular.keeps_stopped (h : moment.Regular exposed) (same : moment.begun ≠ some xid)
    (lasts : ¬ moment.EndsStop xid) (stored : moment.store.sessions.get? xid = some session)
    (stopped : session.StoppedFrom status) :
    ∃ after, moment.next.sessions.get? xid = some after ∧ after.StoppedFrom status := by
  cases h.shows with
  | still still => exact ⟨session, still ▸ stored, stopped⟩
  | begins fresh begun _ _ sessions =>
    have other : fresh.xid ≠ xid := fun again => same (again ▸ begun)
    rw [sessions]
    exact ⟨session, (SessionTable.get?_insert_of_ne _ _ other).trans stored, stopped⟩
  | moves op hop given others moves =>
    by_cases ends : op.EndsStop xid
    · rcases run : op.runOn moment.store with ⟨e | outcome, next⟩
      · have leaves := h.happens.runOn hop
        rw [run] at leaves
        rw [← leaves, ends.sessions_of_error run]
        exact ⟨session, stored, stopped⟩
      · refine absurd ⟨op, hop, ends, ?_⟩ lasts
        simp only [answer, hop, run]
        rfl
    · refine moves.keeps (P := fun table => ∃ after, table.get? xid = some after
        ∧ after.StoppedFrom status) ⟨session, stored, stopped⟩ ?_
      rintro m logged allowed ⟨session, stored, stopped⟩
      exact allowed.keeps_stopped given others ends stored stopped

/-- A moment of a regular run brings no session with a stopped branch to an outcome that the branch
would have to agree with. -/
theorem Regular.not_mem_agreed {branch : Branch} {after : Session} (h : moment.Regular exposed)
    (sound : session.Sound) (sound' : after.Sound)
    (stored : moment.store.sessions.get? xid = some session) (hbranch : branch ∈ session.branches)
    (stopped : branch.status = .suspended)
    (found : moment.next.sessions.get? xid = some after) :
    after.status ∉ GlobalStatus.agreed := by
  have held := sound.not_mem_agreed hbranch stopped
  cases h.shows with
  | still still =>
    rw [still] at found
    cases stored.symm.trans found
    exact held
  | begins fresh _ status _ sessions =>
    rw [sessions, ← Store.publish, Store.get?_publish_upsert] at found
    split at found
    · cases found
      rw [status]
      decide
    · cases stored.symm.trans found
      exact held
  | moves op hop given others moves =>
    cases sets : op.setsStatus with
    | true =>
      -- The stopped branch is still there.
      obtain ⟨before, stored', same⟩ := moves.related
        (R := fun before after => after.branches = before.branches) (fun _ => rfl)
        (fun first second => second.trans first) (fun m image allowed => allowed.branches_eq sets)
        found
      cases stored.symm.trans stored'
      exact sound'.not_mem_agreed (same ▸ hbranch) stopped
    | false =>
      obtain ⟨before, stored', same⟩ := moves.related
        (R := fun before after => after.status = before.status) (fun _ => rfl)
        (fun first second => second.trans first)
        (fun m image allowed => allowed.status_eq given others sets) found
      cases stored.symm.trans stored'
      rw [same]
      exact held

end Moment

/-! ## Runs -/

namespace Store

variable {exposed : Prop} {s t start : Store} {past moments : List Moment} {xid : Xid}
  {session : Session} {status : GlobalStatus} {settings : StoreSettings} {now : Millis}

/-- A stopped session is left alone: it is stored, stopped from the given status, whatever would
move it on is refused, no sweep touches or lists it, and a start gives the status back. -/
structure Rests (s : Store) (xid : Xid) (status : GlobalStatus) : Prop where
  stored : ∃ session, s.sessions.get? xid = some session ∧ session.StoppedFrom status
  refuses : ∀ op, op.Advances xid → s.Refuses op
  sweeps : ∀ retention now answer next,
    (Operation.sweep retention now).runOn s = (answer, next) →
      next.sessions.get? xid = s.sessions.get? xid ∧ ∀ report, answer = .ok (.swept report) →
        xid ∉ report.removed ∧ xid ∉ report.retryCandidates
  starts : ∀ outcome next, (Operation.command (.startSession xid)).runOn s = (.ok outcome, next) →
    ∃ session, next.sessions.get? xid = some session ∧ session.status = status
      ∧ session.suspendedFrom = none

/-- A sweep lists an xid only for a session that passes its test. -/
theorem not_mem_xids_filter {holds : Session → Bool}
    (h : ∀ session, s.sessions.get? xid = some session → holds session = false) :
    xid ∉ (s.sessions.toList.filter holds).map Session.xid := by
  intro mem
  obtain ⟨listed, hlisted, rfl⟩ := List.mem_map.1 mem
  obtain ⟨hlisted, passes⟩ := List.mem_filter.1 hlisted
  cases passes.symm.trans (h listed ((s.sessions.mem_toList_iff listed).1 hlisted))

/-- No sweep touches a session that is not expired, whether it is stored or not. -/
theorem sweeps_of_unexpired {retention now : Millis} {answer : Except Error Operation.Outcome}
    {next : Store} (unexpired : ∀ session, s.sessions.get? xid = some session →
      session.isExpired retention now = false)
    (run : (Operation.sweep retention now).runOn s = (answer, next)) :
    next.sessions.get? xid = s.sessions.get? xid ∧ ∀ report, answer = .ok (.swept report) →
      xid ∉ report.removed := by
  constructor
  · obtain ⟨attempts, attempted⟩ := (Operation.sweep retention now).exists_attempts s
    obtain ⟨-, moves, -⟩ := attempted.of_mutation rfl
    rw [run] at moves
    refine moves.keeps (P := fun table => table.get? xid = s.sessions.get? xid) rfl ?_
    rintro m logged allowed same
    cases allowed with
    | @sweep _ _ removed found stored expired =>
      refine (SessionTable.get?_erase_of_ne _ ?_).trans same
      rintro rfl
      cases expired.symm.trans (unexpired found (same ▸ stored))
    | revise revises _ _ _ => cases revises
  · rintro report rfl
    obtain ⟨found, _, swept, done⟩ := exists_of_run_bind_eq_ok run
    cases done
    exact fun mem => not_mem_xids_filter unexpired ((of_run_sweep_eq_ok swept).1 xid mem)

/-- No sweep touches or lists a stopped session, whatever the clock and the retention. -/
theorem sweeps_of_stopped {retention now : Millis} {answer : Except Error Operation.Outcome}
    {next : Store} (stored : s.sessions.get? xid = some session)
    (stopped : session.status = .suspended)
    (run : (Operation.sweep retention now).runOn s = (answer, next)) :
    next.sessions.get? xid = s.sessions.get? xid ∧ ∀ report, answer = .ok (.swept report) →
      xid ∉ report.removed ∧ xid ∉ report.retryCandidates := by
  have only {holds : Session → Bool} (h : holds session = false) :
      ∀ other, s.sessions.get? xid = some other → holds other = false := by
    intro other stored'
    cases stored.symm.trans stored'
    exact h
  have unexpired : session.isExpired retention now = false := by
    simp [Session.isExpired, stopped, GlobalStatus.isTerminal]
  obtain ⟨same, unswept⟩ := sweeps_of_unexpired (only unexpired) run
  refine ⟨same, ?_⟩
  rintro report rfl
  refine ⟨unswept report rfl, ?_⟩
  obtain ⟨found, _, swept, done⟩ := exists_of_run_bind_eq_ok run
  cases done
  rw [(of_run_sweep_eq_ok swept).2]
  exact not_mem_xids_filter (only (by rw [stopped]; rfl))

/-- A store leaves every stopped session alone. -/
theorem rests_of_stoppedFrom (stored : s.sessions.get? xid = some session)
    (stopped : session.StoppedFrom status) : s.Rests xid status where
  stored := ⟨session, stored, stopped⟩
  refuses op advances := advances.refused stored stopped.stopped
  sweeps retention now answer next run := sweeps_of_stopped stored stopped.stopped run
  starts outcome next run := by
    have revises : Operation.Revises s.clock _ xid Session.restart := .restart xid
    cases revises.revised (by simp) run with
    | kept stored' nothing _ =>
      cases stored.symm.trans stored'
      cases (Session.restart_of_stoppedFrom stopped).symm.trans nothing
    | changed stored' revised valid sessions =>
      cases stored.symm.trans stored'
      cases (Session.restart_of_stoppedFrom stopped).symm.trans revised
      exact ⟨_, get?_of_inserted (of_checkImage_eq_ok valid).1 sessions, rfl, rfl⟩

/-- A stopped session stays stopped over a run that does not begin it again and does not end the
stop. -/
theorem Run.keeps_stopped (run : Run s moments t)
    (regular : ∀ moment ∈ moments, moment.Regular exposed)
    (same : ∀ moment ∈ moments, moment.begun ≠ some xid)
    (lasts : ∀ moment ∈ moments, ¬ moment.EndsStop xid)
    (stored : s.sessions.get? xid = some session) (stopped : session.StoppedFrom status) :
    ∃ after, t.sessions.get? xid = some after ∧ after.StoppedFrom status := by
  induction run with
  | start => exact ⟨session, stored, stopped⟩
  | @step past moment _ _ ih =>
    have last : moment ∈ past ++ [moment] := List.mem_append_right _ (List.mem_singleton_self _)
    obtain ⟨middle, stored, stopped⟩ :=
      ih (fun moment hmoment => regular moment (List.mem_append_left _ hmoment))
        (fun moment hmoment => same moment (List.mem_append_left _ hmoment))
        (fun moment hmoment => lasts moment (List.mem_append_left _ hmoment))
    exact (regular moment last).keeps_stopped (same moment last) (lasts moment last) stored stopped

/-- A stopped branch takes no report. -/
theorem refuses_reportBranch_of_stopped {branch : Branch} (proper : session.Proper)
    (stored : s.sessions.get? xid = some session) (hbranch : branch ∈ session.branches)
    (stopped : branch.status = .suspended) (status : BranchStatus) :
    s.Refuses (.reportBranch xid branch.id status) := by
  refine refuses_of_revises (.reportBranch xid branch.id status) (by simp) fun before stored' => ?_
  cases stored.symm.trans stored'
  have found := Session.branch?_of_mem proper.distinct hbranch
  obtain ⟨_, refused⟩ :=
    Session.exists_reportBranch_of_stopped_branch found stopped status s.clock
  exact ⟨_, refused⟩

/-- Whatever happens to a store that is opened in an empty directory, as long as no image is put as
it is given and no change fails: from the moment at which an operator stops a session until a start
or a forced deletion of the session succeeds, the session is left alone. The session is the same
one if its xid is not begun again, for which it is enough that there are numbers. And as long as a
branch is stopped, no report on it succeeds, and its session has none of the outcomes that the
branches have to agree with, nor does any next moment bring it there. -/
theorem stopped_left_alone
    (opened : openFiles settings now { snapshot := none, log := [] } = .ok start)
    (run : Run start past s) (regular : Regular exposed past) :
    (∀ (stop : Moment) (moments : List Moment) (t : Store) (xid : Xid) (status : GlobalStatus),
      stop.store = s → stop.Happens → stop.Stops xid status → Run stop.next moments t →
      Regular exposed (past ++ stop :: moments) →
      (((past ++ stop :: moments).map Moment.drawn).sum < UInt64.size - 1
        ∨ ∀ moment ∈ moments, moment.begun ≠ some xid) →
      (∀ moment ∈ moments, ¬ moment.EndsStop xid) → t.Rests xid status)
      ∧ ∀ (xid : Xid) (session : Session), s.sessions.get? xid = some session →
        ∀ branch ∈ session.branches, branch.status = .suspended →
          (∀ status, s.Refuses (.reportBranch xid branch.id status))
          ∧ session.status ∉ GlobalStatus.agreed
          ∧ ∀ moment : Moment, moment.store = s → moment.Happens →
            Regular exposed (past ++ [moment]) →
            ∀ after, moment.next.sessions.get? xid = some after →
              after.status ∉ GlobalStatus.agreed := by
  constructor
  · rintro stop moments t xid status rfl happens stops later regular same lasts
    obtain ⟨session, stored, stopped⟩ := stops.stoppedFrom happens
    have before := run.step happens
    rw [List.append_cons] at regular same
    have all := ((before.trans later).proper opened regular).1
    have same : ∀ moment ∈ moments, moment.begun ≠ some xid := by
      rcases same with few | same
      · exact before.not_begun_again opened later regular few stored
      · exact same
    obtain ⟨after, stored, stopped⟩ := later.keeps_stopped
      (fun moment hmoment => (all moment (List.mem_append_right _ hmoment)).1) same lasts stored
      stopped
    exact rests_of_stoppedFrom stored stopped
  · intro xid session stored branch hbranch stopped
    have proper := (run.proper opened regular).2 xid session stored
    refine ⟨refuses_reportBranch_of_stopped proper stored hbranch stopped,
      proper.sound.not_mem_agreed hbranch stopped, ?_⟩
    rintro moment rfl happens regular after found
    obtain ⟨all, last⟩ := (run.step happens).proper opened regular
    have here := (all moment (List.mem_append_right _ (List.mem_singleton_self _))).1
    exact here.not_mem_agreed proper.sound (last xid after found).sound stored hbranch stopped found

/-- A branch of a session that has just begun is stopped, then the session, and then the branch goes
on: the branch takes no report while it is stopped, and the session is left alone. -/
theorem rests_of_stop_and_start_branch :
    ∃ (start s t : Store) (past moments : List Moment) (stop : Moment),
      openFiles {} 0 { snapshot := none, log := [] } = .ok start ∧ Run start past s
        ∧ stop.store = s ∧ stop.Happens ∧ stop.Stops "h:1" .begin ∧ Run stop.next moments t
        ∧ Regular False (past ++ stop :: moments)
        ∧ moments.map Moment.event = [.perform (.command (.startBranch "h:1" 2))]
        ∧ t.Rests "h:1" .begin ∧ s.Refuses (.reportBranch "h:1" 2 .phaseOneDone) := by
  let start := resume {} 0 { snapshot := none, log := [] } (Recovered.ofSnapshot Snapshot.empty)
  have opened : openFiles {} 0 { snapshot := none, log := [] } = .ok start :=
    openFiles_nothing {} 0
  let shown (s : Store) := (s.sessions.get? "h:1").map fun session =>
    (session.status, session.branches.map fun branch => (branch.id, branch.status))
  obtain ⟨s1, s2, s3, s4, s5, begins, registers, holds, stops, starts, seen⟩ :
      ∃ s1 s2 s3 s4 s5 : Store,
        (Operation.begin "h" "app" "" "tx" 1).runOn start = (.ok (.begun "h:1"), s1)
          ∧ (Operation.register "h:1" { type := .tcc, resourceId := "db" }).runOn s1
            = (.ok (.id 2), s2)
          ∧ (Operation.command (.stopBranch "h:1" 2)).runOn s2 = (.ok (.reply .done), s3)
          ∧ (Operation.command (.stopSession "h:1")).runOn s3 = (.ok (.reply .done), s4)
          ∧ (Operation.command (.startBranch "h:1" 2)).runOn s4 = (.ok (.reply .done), s5)
          ∧ shown s3 = some (.begin, [(2, .suspended)]) :=
    ⟨_, _, _, _, _, runOn_of_toOption (by decide +kernel), runOn_of_toOption (by decide +kernel),
      runOn_of_toOption (by decide +kernel), runOn_of_toOption (by decide +kernel),
      runOn_of_toOption (by decide +kernel), by decide +kernel⟩
  obtain ⟨a1, -, run1, regular1⟩ := Run.start.exists_step .nil begins rfl rfl (by simp)
  obtain ⟨a2, -, run2, regular2⟩ := run1.exists_step regular1 registers rfl rfl (by simp)
  obtain ⟨a3, -, run3, regular3⟩ := run2.exists_step regular2 holds rfl rfl (by simp)
  obtain ⟨a4, stopped, run4, regular4⟩ := run3.exists_step regular3 stops rfl rfl (by simp)
  obtain ⟨a5, started, -, regular5⟩ := run4.exists_step regular4 starts rfl rfl (by simp)
  rw [← List.append_cons] at regular5
  have later := Run.start.step started
  obtain ⟨session, stored, is⟩ := Option.map_eq_some_iff.1 seen
  obtain ⟨begun, branches⟩ := Prod.mk.inj is
  obtain ⟨branch, hbranch, same⟩ := List.mem_map.1 (branches ▸ List.mem_singleton_self _)
  obtain ⟨id, status⟩ := Prod.mk.inj same
  have stop : Moment.Stops ⟨s3, .perform (.command (.stopSession "h:1")), a4, s4⟩ "h:1" .begin :=
    ⟨rfl, ⟨session, stored, begun⟩, by decide, by simp [Moment.answer, stops, Except.toOption]⟩
  obtain ⟨alone, held⟩ := stopped_left_alone opened run3 regular3
  have rests := alone _ _ _ _ _ rfl stopped stop later regular5 (.inr (by simp [Moment.begun]))
    (by simp [Moment.EndsStop, Operation.EndsStop])
  have refuses := (held _ session stored branch hbranch status).1 .phaseOneDone
  rw [id] at refuses
  exact ⟨start, s3, s5, _, _, _, opened, run3, rfl, stopped, stop, later, regular5, rfl, rests,
    refuses⟩

end Store

end SessionRegistry
