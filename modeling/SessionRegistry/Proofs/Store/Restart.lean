import SessionRegistry.Proofs.Store.Locks
import SessionRegistry.Proofs.Store.Stopped

/-!
# Stops can be undone

A session that is stopped can be started whenever the store takes changes, and so can a branch,
unless its session runs in Saga mode. A branch that is started gets back the status that it had at
the moment at which it was stopped, whatever happened to its session in between.

Whether a session runs in Saga mode depends on all its branches. A branch of a Saga that registers
with a session keeps the other branches of the session from being started.

## Main definitions

* `Store.ShowsBranch`: a stored session has a branch of a number with some property.
* `StoppedSince`: a branch has been stopped since a moment of a run at which it had some status.
* `Store.RestartsSession`, `Store.RestartsBranch`: what becomes of starting what is stopped.

## Main results

* `Store.Run.stoppedSince`: a stopped branch remembers the status that it had when it was stopped.
* `Store.Run.valid`: every stored session passes the check of images.
* `Store.stops_reversible`: every stop can be undone, but for branches in Saga mode.
-/

namespace SessionRegistry

/-- A modified list has the modified entry. -/
theorem mem_modifyFirst_of_find? {α : Type} {test : α → Bool} {f : α → α} {l : List α} {a : α}
    (h : l.find? test = some a) : f a ∈ modifyFirst test f l := by
  induction l with
  | nil => cases h
  | cons b rest ih =>
    unfold modifyFirst
    split
    · next passes =>
      cases (List.find?_cons_of_pos passes).symm.trans h
      exact List.mem_cons_self
    · next fails => exact List.mem_cons_of_mem b (ih ((List.find?_cons_of_neg fails).symm.trans h))

/-! ## Valid images -/

namespace Store

variable {owner xid : Xid} {before after : Session}

/-- The check of branches reads the numbers of the branches and of their session alone. -/
theorem checkBranches_congr {branches others : List Branch}
    (h : branches.map (fun branch => (branch.xid, branch.id))
      = others.map fun branch => (branch.xid, branch.id)) (seen : List BranchId) :
    checkBranches owner seen branches = checkBranches owner seen others := by
  induction branches generalizing others seen with
  | nil =>
    obtain rfl := List.map_eq_nil_iff.1 h.symm
    rfl
  | cons branch rest ih =>
    obtain ⟨other, more, rfl, same, hmore⟩ := List.map_eq_cons_iff.1 h.symm
    obtain ⟨hxid, hid⟩ := Prod.mk.inj same
    rw [checkBranches, checkBranches, hxid, hid, ih hmore.symm]

/-- The check of an image reads its xid and the numbers of its branches alone. -/
theorem checkImage_congr (hxid : after.xid = before.xid)
    (h : after.branches.map (fun branch => (branch.xid, branch.id))
      = before.branches.map fun branch => (branch.xid, branch.id)) :
    checkImage xid after = checkImage xid before := by
  rw [checkImage, checkImage, hxid, checkBranches_congr h]

/-- An image with a changed branch is valid if the change keeps the number of the branch. -/
theorem checkImage_modifyBranch {id : BranchId} {f : Branch → Branch}
    (same : ∀ branch, ((f branch).xid, (f branch).id) = (branch.xid, branch.id)) :
    checkImage xid (before.modifyBranch id f) = checkImage xid before :=
  checkImage_congr rfl (Session.map_modifyFirst same before.branches)

variable {exposed : Prop} {settings : StoreSettings} {now : Millis} {start s : Store}
  {moments : List Moment}

/-- Every stored session passes the check of images. -/
theorem Run.valid (opened : openFiles settings now { snapshot := none, log := [] } = .ok start)
    (run : Run start moments s) (regular : Regular exposed moments) :
    s.sessions.Every fun session => checkImage session.xid session = .ok () := by
  have first : start.Every (fun session => checkImage session.xid session = .ok ()) exposed :=
    .of_open .nothing opened
  refine (first.history run.history ?_ ?_ fun mayDie => (regular.recoverable mayDie).fits).shown
  · intro op _ m image _ logged
    obtain ⟨xid, session, valid, rfl⟩ := logged.checked
    obtain rfl := (of_checkImage_eq_ok valid).1
    exact valid
  · intro settings now dies
    obtain ⟨moment, hmoment, dies⟩ := List.mem_map.1 dies
    exact regular.dies moment hmoment ⟨settings, now, dies⟩

end Store

/-! ## Since when a branch is stopped -/

/-- A stored session has a branch of the given number with some property. -/
def Store.ShowsBranch (s : Store) (xid : Xid) (id : BranchId) (P : Branch → Prop) : Prop :=
  ∃ session branch, s.sessions.get? xid = some session ∧ branch ∈ session.branches
    ∧ branch.id = id ∧ P branch

/-- An operator stops a branch at this moment, which had another status until then. -/
structure Moment.StopsBranch (moment : Moment) (xid : Xid) (id : BranchId)
    (status : BranchStatus) : Prop where
  event : moment.event = .perform (.command (.stopBranch xid id))
  shown : moment.store.ShowsBranch xid id (·.status = status)
  active : status ≠ .suspended

/-- A branch has been stopped since a moment of a run at which it had the given status. -/
def StoppedSince (past : List Moment) (xid : Xid) (id : BranchId) (status : BranchStatus) : Prop :=
  ∃ (earlier : List Moment) (stop : Moment) (later : List Moment),
    past = earlier ++ stop :: later ∧ stop.StopsBranch xid id status
      ∧ ∀ moment ∈ stop :: later, moment.next.ShowsBranch xid id (·.status = .suspended)

/-- A branch that is still stopped has been stopped for as long as it was. -/
theorem StoppedSince.step {past : List Moment} {xid : Xid} {id : BranchId} {status : BranchStatus}
    {moment : Moment} (h : StoppedSince past xid id status)
    (still : moment.next.ShowsBranch xid id (·.status = .suspended)) :
    StoppedSince (past ++ [moment]) xid id status := by
  obtain ⟨earlier, stop, later, rfl, stops, lasts⟩ := h
  refine ⟨earlier, stop, later ++ [moment], by simp, stops, ?_⟩
  rw [← List.cons_append]
  exact List.forall_mem_append.2 ⟨lasts, by simpa using still⟩

/-- An image that is logged stops no branch of the stored one, unless the operation puts an image,
begins a session or stops a branch. -/
theorem Operation.MayLog.stopsNone {s : Store} {op : Operation} {image : Session}
    (h : op.MayLog s (.upsert image)) (given : ∀ image, op ≠ .put image)
    (others : ∀ address applicationId serviceGroup name timeout,
      op ≠ .begin address applicationId serviceGroup name timeout)
    (other : ∀ xid id, op ≠ .command (.stopBranch xid id)) :
    ∃ before, s.sessions.get? image.xid = some before ∧ image.StopsNone before := by
  obtain ⟨before, after, stored, makes, rfl⟩ := h.makes given others
  refine ⟨before, stored, ?_⟩
  show after.StopsNone before
  cases makes with
  | @deleteBranch _ id => exact before.stopsNone_removeBranch id
  | @register _ registration _ id =>
    exact before.stopsNone_addRegistered registration id s.clock
  | revise revises revised => exact revises.stopsNone (other _) revised

namespace Moment

variable {exposed : Prop} {moment : Moment} {owner xid : Xid} {id : BranchId} {after : Session}
  {branch : Branch} {status : BranchStatus}

/-- What the stop of a branch leaves stopped was stopped before, from the same status, or is stopped
at this moment. -/
theorem Happens.stopped_before (happens : moment.Happens)
    (hop : moment.event = .perform (.command (.stopBranch owner id)))
    (stored : moment.next.sessions.get? xid = some after) (hbranch : branch ∈ after.branches)
    (stopped : branch.StoppedFrom status) :
    moment.store.ShowsBranch xid branch.id (·.StoppedFrom status)
      ∨ moment.StopsBranch xid branch.id status := by
  have kept (still : moment.next.sessions.get? xid = moment.store.sessions.get? xid) :
      moment.store.ShowsBranch xid branch.id (·.StoppedFrom status) :=
    ⟨after, branch, still ▸ stored, hbranch, rfl, stopped⟩
  have revises : Operation.Revises moment.store.clock _ owner (Session.stopBranch id) :=
    .stopBranch owner id
  rcases run : (Operation.command (.stopBranch owner id)).runOn moment.store with ⟨answer, next⟩
  obtain rfl : next = moment.next := by rw [← happens.runOn hop, run]
  cases revises.revised (by simp) run with
  | refused _ still => exact .inl (kept (by rw [still]))
  | kept _ _ still => exact .inl (kept (by rw [still]))
  | @changed _ before image _ found revised valid sessions =>
    have inserted := Store.get?_of_inserted (Store.of_checkImage_eq_ok valid).1 sessions
    by_cases here : owner = xid
    · -- The image that is stored is the one that was made by the stop.
      subst here
      obtain rfl := Option.some.inj (inserted.symm.trans stored)
      rcases Session.cases_of_stopBranch revised hbranch stopped with
        hbranch | ⟨rfl, active, earlier, hearlier, same, status⟩
      · exact .inl ⟨before, branch, found, hbranch, rfl, stopped⟩
      · exact .inr ⟨hop, ⟨before, earlier, found, hearlier, same, status⟩, active⟩
    · obtain rfl := (Store.of_checkImage_eq_ok valid).1
      exact .inl (kept (by rw [sessions]; exact SessionTable.get?_insert_of_ne _ _ here))

/-- What a moment of a regular run leaves stopped was stopped before, from the same status, or is
stopped at this moment. -/
theorem Regular.stopped_before (h : moment.Regular exposed)
    (stored : moment.next.sessions.get? xid = some after) (hbranch : branch ∈ after.branches)
    (stopped : branch.StoppedFrom status) :
    moment.store.ShowsBranch xid branch.id (·.StoppedFrom status)
      ∨ moment.StopsBranch xid branch.id status := by
  cases h.shows with
  | still same => exact .inl ⟨after, branch, same ▸ stored, hbranch, rfl, stopped⟩
  | begins fresh _ _ branches sessions =>
    rw [sessions] at stored
    by_cases here : fresh.xid = xid
    · subst here
      cases (SessionTable.get?_insert_self _ _).symm.trans stored
      rw [branches] at hbranch
      cases hbranch
    · rw [SessionTable.get?_insert_of_ne _ _ here] at stored
      exact .inl ⟨after, branch, stored, hbranch, rfl, stopped⟩
  | moves op hop given others moves =>
    -- The stop of a branch is the one revision that leaves another branch stopped, so that the
    -- relation which all others keep does not cover it.
    by_cases stops : ∃ owner id, op = .command (.stopBranch owner id)
    · obtain ⟨owner, id, rfl⟩ := stops
      exact h.happens.stopped_before hop stored hbranch stopped
    · obtain ⟨before, stored, stopsNone⟩ := moves.related
        (R := fun before after => after.StopsNone before)
        (fun _ => Session.stopsNone_of_subset fun _ hbranch => hbranch)
        (fun first second => first.trans second)
        (fun m image allowed => allowed.stopsNone given others fun owner id same =>
          stops ⟨owner, id, same⟩) stored
      obtain ⟨earlier, hearlier, same, stopped⟩ := stopsNone branch hbranch status stopped
      exact .inl ⟨before, earlier, stored, hearlier, same, stopped⟩

end Moment

/-! ## Runs -/

namespace Store

variable {exposed : Prop} {settings : StoreSettings} {now : Millis} {start s : Store}
  {past : List Moment} {xid : Xid} {session : Session}

/-- A stopped branch remembers the status that it had at the moment at which it was stopped. -/
theorem Run.stoppedSince
    (opened : openFiles settings now { snapshot := none, log := [] } = .ok start)
    (run : Run start past s) (regular : Regular exposed past)
    (stored : s.sessions.get? xid = some session) {branch : Branch}
    (hbranch : branch ∈ session.branches) {status : BranchStatus}
    (stopped : branch.StoppedFrom status) : StoppedSince past xid branch.id status := by
  -- The invariant speaks of the branch as it is shown, for its image may have been written anew
  -- at every moment since the stop.
  have kept := (run.induct (I := fun past s => ∀ xid id status,
    s.ShowsBranch xid id (·.StoppedFrom status) → StoppedSince past xid id status)
      opened regular ?_ ?_).1
  · exact kept xid branch.id status ⟨session, branch, stored, hbranch, rfl, stopped⟩
  · rintro xid id status ⟨session, _, stored, -⟩
    cases (openFiles_nothing settings now).symm.trans opened
    cases stored
  · rintro past moment regular earlier xid _ status ⟨session, branch, stored, hbranch, rfl, stopped⟩
    have still : moment.next.ShowsBranch xid branch.id (·.status = .suspended) :=
      ⟨session, branch, stored, hbranch, rfl, stopped.stopped⟩
    rcases regular.stopped_before stored hbranch stopped with before | stops
    · exact (earlier xid branch.id status before).step still
    · exact ⟨past, moment, [], rfl, stops, by simpa using still⟩

/-- Every operation can be logged where a sync falls into the wait and there is a position left. -/
theorem accepts_of_syncsWithinWait (within : s.log.syncsWithinWait = true) (room : s.lsn + 1 ≠ 0)
    (logged : LogOperation) : s.Accepts logged := by
  refine ⟨room, ?_⟩
  rintro ⟨-, out⟩
  cases out.symm.trans within

/-- A stopped session remembers a status, and is started with it. -/
def RestartsSession (s : Store) (xid : Xid) (session : Session) : Prop :=
  ∃ status outcome next, session.suspendedFrom = some status
    ∧ (Operation.command (.startSession xid)).runOn s = (.ok outcome, next)
    ∧ ∃ after, next.sessions.get? xid = some after ∧ after.status = status
      ∧ after.suspendedFrom = none

/-- A stopped branch remembers the given status. It is started with that status, unless its session
runs in Saga mode, where it is left as it is. -/
structure RestartsBranch (s : Store) (xid : Xid) (session : Session) (branch : Branch)
    (status : BranchStatus) : Prop where
  remembers : branch.suspendedFrom = some status
  starts : session.isSaga = false → ∃ outcome next,
    (Operation.command (.startBranch xid branch.id)).runOn s = (.ok outcome, next)
      ∧ next.ShowsBranch xid branch.id fun started =>
        started.status = status ∧ started.suspendedFrom = none
  refused : session.isSaga = true → ∃ next,
    (Operation.command (.startBranch xid branch.id)).runOn s
        = (.error (.invalidState (.sagaBranches xid)), next)
      ∧ next.sessions = s.sessions

/-- Where nothing stands in the way, a stopped session is started. -/
theorem Ready.restartsSession {status : GlobalStatus} (ready : s.Ready xid)
    (stored : s.sessions.get? xid = some session) (stopped : session.StoppedFrom status)
    (valid : checkImage xid session = .ok ()) : s.RestartsSession xid session := by
  have checked : checkImage xid { session with status, suspendedFrom := none } = .ok () :=
    (checkImage_congr rfl rfl).trans valid
  obtain ⟨outcome, next, run, sessions⟩ := ready.exists_runOn (.restart xid) (by simp) stored
    (Session.restart_of_stoppedFrom stopped) checked
  have started := get?_of_inserted (of_checkImage_eq_ok checked).1 sessions
  exact ⟨status, outcome, next, stopped.earlier, run, _, started, rfl, rfl⟩

/-- Where nothing stands in the way, a stopped branch is started unless its session runs in Saga
mode. -/
theorem Ready.restartsBranch {branch : Branch} {status : BranchStatus} (ready : s.Ready xid)
    (stored : s.sessions.get? xid = some session)
    (found : session.branch? branch.id = some branch) (stopped : branch.StoppedFrom status)
    (valid : checkImage xid session = .ok ()) : s.RestartsBranch xid session branch status where
  remembers := stopped.earlier
  starts plain := by
    have checked : checkImage xid (session.modifyBranch branch.id fun branch =>
        { branch with status := branch.suspendedFrom.getD .registered, suspendedFrom := none })
        = .ok () := by
      refine (checkImage_modifyBranch fun _ => ?_).trans valid
      rfl
    obtain ⟨outcome, next, run, sessions⟩ := ready.exists_runOn (.restartBranch xid branch.id)
      (by simp) stored (Session.restartBranch_of_stopped found stopped.stopped plain) checked
    have started := get?_of_inserted (of_checkImage_eq_ok checked).1 sessions
    refine ⟨outcome, next, run, _, _, started, mem_modifyFirst_of_find? found, rfl, ?_, rfl⟩
    rw [stopped.earlier]
    rfl
  refused saga := by
    have refused := Session.restartBranch_of_isSaga saga branch.id
    rw [SessionTable.xid_of_get? stored] at refused
    exact ready.runOn_of_error (.restartBranch xid branch.id) (by simp) stored refused

/-- Whatever happens to a store that is opened in an empty directory, as long as no image is put as
it is given and no change fails: while the store is open, can log every operation, and nobody else
holds the lock of a session, the session can be started if it is stopped, and a stopped branch
of it can be started unless the session runs in Saga mode. The branch then gets back the status that
it had at the moment since which it has been stopped. In Saga mode it stays stopped and goes on to
remember that status. -/
theorem stops_reversible
    (opened : openFiles settings now { snapshot := none, log := [] } = .ok start)
    (run : Run start past s) (regular : Regular exposed past) (isOpen : s.closed = false)
    (accepts : ∀ logged, s.Accepts logged)
    (free : xid ∉ s.locks.held ∨ ∀ moment ∈ past, ∀ locks, moment.event ≠ .hold locks)
    (stored : s.sessions.get? xid = some session) :
    (session.status = .suspended → s.RestartsSession xid session)
      ∧ ∀ branch ∈ session.branches, branch.status = .suspended → ∃ status,
        StoppedSince past xid branch.id status ∧ s.RestartsBranch xid session branch status := by
  -- An open store of a regular run has a running log, and its own operations give back their locks.
  have ready : s.Ready xid := by
    refine ⟨isOpen, ?_, (run.durable opened regular).running_of_isOpen isOpen, accepts⟩
    rcases free with free | own
    · exact free
    · rw [run.locks_eq_empty opened own]
      exact List.not_mem_nil
  have proper := (run.proper opened regular).2 xid session stored
  have valid : checkImage xid session = .ok () :=
    SessionTable.xid_of_get? stored ▸ run.valid opened regular xid session stored
  constructor
  · intro stopped
    obtain ⟨status, earlier⟩ := Option.isSome_iff_exists.1 (proper.sound.suspended.2 stopped)
    exact ready.restartsSession stored ⟨stopped, earlier⟩ valid
  · intro branch hbranch stopped
    obtain ⟨status, earlier⟩ := Option.isSome_iff_exists.1
      ((proper.sound.branches branch hbranch).suspended.2 stopped)
    have since := run.stoppedSince opened regular stored hbranch ⟨stopped, earlier⟩
    have found := Session.branch?_of_mem proper.distinct hbranch
    exact ⟨status, since, ready.restartsBranch stored found ⟨stopped, earlier⟩ valid⟩

/-- A branch of a session that has just begun is stopped, and then the session: both can be started,
and the branch gets back the status that it had. -/
theorem started_of_stop_branch_and_stop :
    ∃ (start s : Store) (past : List Moment) (session : Session) (branch : Branch),
      openFiles {} 0 { snapshot := none, log := [] } = .ok start ∧ Run start past s
        ∧ Regular False past ∧ s.closed = false
        ∧ (∀ logged, s.Accepts logged)
        ∧ (∀ moment ∈ past, ∀ locks, moment.event ≠ .hold locks)
        ∧ s.sessions.get? "h:1" = some session ∧ session.status = .suspended
        ∧ branch ∈ session.branches ∧ branch.status = .suspended
        ∧ session.isSaga = false ∧ s.RestartsSession "h:1" session
        ∧ StoppedSince past "h:1" branch.id .registered
        ∧ s.RestartsBranch "h:1" session branch .registered := by
  let start := resume {} 0 { snapshot := none, log := [] } (Recovered.ofSnapshot Snapshot.empty)
  have opened : openFiles {} 0 { snapshot := none, log := [] } = .ok start :=
    openFiles_nothing {} 0
  let shown (s : Store) := (s.sessions.get? "h:1").map fun session =>
    (session.status, session.isSaga,
      session.branches.map fun branch => (branch.status, branch.suspendedFrom))
  obtain ⟨s1, s2, s3, s, begins, registers, holds, stops, isOpen, within, room, seen⟩ :
      ∃ s1 s2 s3 s : Store,
        (Operation.begin "h" "app" "" "tx" 1).runOn start = (.ok (.begun "h:1"), s1)
          ∧ (Operation.register "h:1" { type := .tcc, resourceId := "db" }).runOn s1
            = (.ok (.id 2), s2)
          ∧ (Operation.command (.stopBranch "h:1" 2)).runOn s2 = (.ok (.reply .done), s3)
          ∧ (Operation.command (.stopSession "h:1")).runOn s3 = (.ok (.reply .done), s)
          ∧ s.closed = false ∧ s.log.syncsWithinWait = true ∧ s.lsn + 1 ≠ 0
          ∧ shown s = some (.suspended, false, [(.suspended, some .registered)]) :=
    ⟨_, _, _, _, runOn_of_toOption (by decide +kernel), runOn_of_toOption (by decide +kernel),
      runOn_of_toOption (by decide +kernel), runOn_of_toOption (by decide +kernel),
      by decide +kernel, by decide +kernel, by decide +kernel, by decide +kernel⟩
  obtain ⟨a1, -, run1, regular1⟩ := Run.start.exists_step .nil begins rfl rfl (by simp)
  obtain ⟨a2, -, run2, regular2⟩ := run1.exists_step regular1 registers rfl rfl (by simp)
  obtain ⟨a3, -, run3, regular3⟩ := run2.exists_step regular2 holds rfl rfl (by simp)
  obtain ⟨a4, -, run, regular⟩ := run3.exists_step regular3 stops rfl rfl (by simp)
  obtain ⟨session, stored, is⟩ := Option.map_eq_some_iff.1 seen
  obtain ⟨whole, is⟩ := Prod.mk.inj is
  obtain ⟨plain, branches⟩ := Prod.mk.inj is
  obtain ⟨branch, hbranch, same⟩ := List.mem_map.1 (branches ▸ List.mem_singleton_self _)
  obtain ⟨stopped, earlier⟩ := Prod.mk.inj same
  obtain ⟨starts, branchStarts⟩ :=
    stops_reversible opened run regular isOpen (accepts_of_syncsWithinWait within room)
      (.inr (by simp)) stored
  obtain ⟨status, since, restarts⟩ := branchStarts branch hbranch stopped
  cases earlier.symm.trans restarts.remembers
  exact ⟨start, s, _, session, branch, opened, run, regular, isOpen,
    accepts_of_syncsWithinWait within room, by simp, stored, whole, hbranch, stopped, plain,
    starts whole, since, restarts⟩

/-- A branch of a session is stopped, and then a branch of a Saga registers with the session: the
stopped branch is not started. -/
theorem not_started_of_saga_registered :
    ∃ (start s next : Store) (past : List Moment) (session : Session) (branch : Branch),
      openFiles {} 0 { snapshot := none, log := [] } = .ok start ∧ Run start past s
        ∧ Regular False past
        ∧ past.map Moment.event = [.perform (.begin "h" "app" "" "tx" 1),
          .perform (.register "h:1" { type := .automatic, resourceId := "db" }),
          .perform (.command (.stopBranch "h:1" 2)),
          .perform (.register "h:1" { type := .saga, resourceId := "svc" })]
        ∧ s.Ready "h:1" ∧ s.sessions.get? "h:1" = some session
        ∧ branch ∈ session.branches ∧ branch.id = 2 ∧ branch.status = .suspended
        ∧ (Operation.command (.startBranch "h:1" 2)).runOn s
          = (.error (.invalidState (.sagaBranches "h:1")), next)
        ∧ next.sessions = s.sessions := by
  let start := resume {} 0 { snapshot := none, log := [] } (Recovered.ofSnapshot Snapshot.empty)
  have opened : openFiles {} 0 { snapshot := none, log := [] } = .ok start :=
    openFiles_nothing {} 0
  let shown (s : Store) := (s.sessions.get? "h:1").map fun session =>
    (session.isSaga, session.branches.map fun branch => (branch.id, branch.status))
  obtain ⟨s1, s2, s3, s, begins, registers, holds, joins, isOpen, free, running, within, room,
    seen⟩ :
      ∃ s1 s2 s3 s : Store,
        (Operation.begin "h" "app" "" "tx" 1).runOn start = (.ok (.begun "h:1"), s1)
          ∧ (Operation.register "h:1" { type := .automatic, resourceId := "db" }).runOn s1
            = (.ok (.id 2), s2)
          ∧ (Operation.command (.stopBranch "h:1" 2)).runOn s2 = (.ok (.reply .done), s3)
          ∧ (Operation.register "h:1" { type := .saga, resourceId := "svc" }).runOn s3
            = (.ok (.id 3), s)
          ∧ s.closed = false ∧ "h:1" ∉ s.locks.held ∧ s.log.running = true
          ∧ s.log.syncsWithinWait = true ∧ s.lsn + 1 ≠ 0
          ∧ shown s = some (true, [(2, .suspended), (3, .registered)]) :=
    ⟨_, _, _, _, runOn_of_toOption (by decide +kernel), runOn_of_toOption (by decide +kernel),
      runOn_of_toOption (by decide +kernel), runOn_of_toOption (by decide +kernel),
      by decide +kernel, by decide +kernel, by decide +kernel, by decide +kernel,
      by decide +kernel, by decide +kernel⟩
  obtain ⟨a1, -, run1, regular1⟩ := Run.start.exists_step .nil begins rfl rfl (by simp)
  obtain ⟨a2, -, run2, regular2⟩ := run1.exists_step regular1 registers rfl rfl (by simp)
  obtain ⟨a3, -, run3, regular3⟩ := run2.exists_step regular2 holds rfl rfl (by simp)
  obtain ⟨a4, -, run, regular⟩ := run3.exists_step regular3 joins rfl rfl (by simp)
  have ready : s.Ready "h:1" := ⟨isOpen, free, running, accepts_of_syncsWithinWait within room⟩
  obtain ⟨session, stored, is⟩ := Option.map_eq_some_iff.1 seen
  obtain ⟨saga, branches⟩ := Prod.mk.inj is
  obtain ⟨branch, hbranch, same⟩ := List.mem_map.1 (branches ▸ List.mem_cons_self)
  obtain ⟨id, stopped⟩ := Prod.mk.inj same
  have refused := Session.restartBranch_of_isSaga saga 2
  rw [SessionTable.xid_of_get? stored] at refused
  obtain ⟨next, run', same⟩ :=
    ready.runOn_of_error (.restartBranch "h:1" 2) (by simp) stored refused
  exact ⟨start, s, next, _, session, branch, opened, run, regular, rfl, ready, stored, hbranch, id,
    stopped, run', same⟩

end Store

end SessionRegistry
