import SessionRegistry.Proofs.Store.LatestChange
import SessionRegistry.Proofs.Store.Release

/-!
# What a sweep removes

A sweep lists the sessions that ended long enough ago, and then takes the lock of each of them and
removes it if it is still expired. In a store at rest nothing comes between the listing and the
removals, so that exactly the listed sessions are removed, each by one change.

Every stored image bears the time of the change that wrote it, and that is the latest change of its
session. So a session is kept for as long as the retention asks after its latest change.

## Main definitions

* `Store.SweptIn`: what the sweep of some sessions leaves of a store.
* `Store.Swept`: what a sweep answers and leaves.

## Main results

* `Store.run_sweepAll`: what a sweep of expired sessions does.
* `Store.run_sweep`: what a sweep of a store at rest does.
* `Store.sweep_removes_expired`: a sweep removes exactly the expired sessions.
-/

namespace SessionRegistry

namespace SessionTable

theorem get?_eq_some_iff {table : SessionTable} {xid : Xid} {session : Session} :
    table.get? xid = some session ↔ session ∈ table.toList ∧ session.xid = xid := by
  constructor
  · intro found
    obtain rfl := xid_of_get? found
    exact ⟨(table.mem_toList_iff session).2 found, rfl⟩
  · rintro ⟨member, rfl⟩
    exact (table.mem_toList_iff session).1 member

/-- A table in which the sessions of another one are found that pass a test. -/
theorem toList_eq_filter {a b : SessionTable} {keep : Session → Bool}
    (h : ∀ xid, b.get? xid = (a.get? xid).filter keep) : b.toList = a.toList.filter keep := by
  have sorted : (a.toList.filter keep).Pairwise fun a b => a.xid < b.xid := a.sorted.filter _
  -- The filtered list is a table itself, and tables that find the same are the same.
  refine congrArg toList (eq_of_get?_eq (b := ⟨a.toList.filter keep, sorted⟩) fun xid => ?_)
  ext session
  rw [h, Option.filter_eq_some_iff, get?_eq_some_iff, get?_eq_some_iff, List.mem_filter,
    and_right_comm]

end SessionTable

/-- A session that waits for a retry has not ended. -/
theorem GlobalStatus.not_isTerminal_of_isRetrying {status : GlobalStatus}
    (h : status.isRetrying = true) : status.isTerminal = false := by
  cases status <;> first | rfl | cases h

theorem Session.isExpired_iff {session : Session} {retention now : Millis} :
    session.isExpired retention now = true ↔ session.status.isTerminal = true
      ∧ retention.toNat ≤ now.toNat - session.modifiedTime.toNat := by
  rw [isExpired, Bool.and_eq_true, decide_eq_true_eq]

namespace Store

variable {s m next : Store} {xid : Xid} {session : Session} {retention now : Millis}

/-! ## One session -/

/-- What a sweep does under the lock of a session. -/
def sweepLocked (xid : Xid) (retention now : Millis) : StoreM SweepStep := do
  match (← get).sessions.get? xid with
  | some session =>
    if session.isExpired retention now then
      discard <| removeLocked xid
      return .removed
    else return .kept
  | none => return .kept

/-- Where the lock of a session is free, a sweep does its work under the lock. -/
theorem run_sweepSession (rest : m.AtRest) (xid : Xid) :
    (sweepSession xid retention now).run.run m
      = (withLock xid (sweepLocked xid retention now)).run.run m := by
  rcases m.run_lock_cases xid with ⟨closed, -⟩ | ⟨-, held, -⟩ | ⟨-, locks, -, run⟩
  · cases closed.symm.trans rest.isOpen
  · exact absurd held (rest.not_mem_held xid)
  · rw [sweepSession, run_bind_of_ok m _ (run_attempt m _), withLock, run_bind_of_ok m _ run, run]
    rfl

theorem meets_sweepLocked (stored : m.sessions.get? xid = some session)
    (expired : session.isExpired retention now = true) :
    Meets xid m (sweepLocked xid retention now)
      (.ok { answer := .removed, logged := some (.remove xid) }) := by
  refine .get_bind ?_
  rw [stored]
  dsimp only
  rw [if_pos expired]
  refine .congr ((Meets.discard .removeLocked).map fun _ => SweepStep.removed) ?_
  rw [stored]
  rfl

/-- An expired session is removed by one change, unless the log fails. -/
theorem run_sweepSession_of_expired (rest : m.AtRest) (stored : m.sessions.get? xid = some session)
    (expired : session.isExpired retention now = true) :
    (∃ e next, e.isLogFailure = true
        ∧ (sweepSession xid retention now).run.run m = (.error e, next))
      ∨ ∃ next, (sweepSession xid retention now).run.run m = (.ok .removed, next)
        ∧ m.LogsOnce (.remove xid) next := by
  have meets : Meets xid m (withLock xid (sweepLocked xid retention now)) _ :=
    .withLock rest.isOpen (rest.not_mem_held xid) fun _ => meets_sweepLocked stored expired
  unfold Meets at meets
  rw [← run_sweepSession rest] at meets
  rcases run : (sweepSession xid retention now).run.run m with ⟨result, next⟩
  rw [run] at meets
  cases meets with
  | logged own once => exact .inr ⟨next, rfl, once⟩
  | failed failure => exact .inl ⟨_, next, failure, rfl⟩

/-- A sweep of one session leaves a store at rest. -/
theorem atRest_sweepSession (rest : m.AtRest) (xid : Xid) (retention now : Millis) :
    ((sweepSession xid retention now).run.run m).2.AtRest := by
  obtain ⟨_, _, -, -, moves, -⟩ := Operation.traced_sweepSession (s := m) xid retention now
  exact ⟨moves.moves.frame.2.trans rest.isOpen,
    (KeepsLocks.sweepSession xid retention now m).trans rest.free⟩

/-! ## Several sessions -/

/-- What a sweep of some sessions, all of them expired, leaves of a store: these sessions are gone,
one change has been made for each, and nothing else. -/
structure SweptIn (xids : List Xid) (m next : Store) : Prop where
  sessions : ∀ xid, next.sessions.get? xid = if xid ∈ xids then none else m.sessions.get? xid
  lsn : next.lsn = m.lsn + UInt64.ofNat xids.length

/-- The removal of one session and then a sweep of others is the sweep of all of them. -/
theorem SweptIn.cons {xids : List Xid} {middle : Store} (once : m.LogsOnce (.remove xid) middle)
    (swept : SweptIn xids middle next) : SweptIn (xid :: xids) m next where
  sessions other := by
    rw [swept.sessions, once.sessions, publish]
    by_cases own : other = xid
    · simp [own]
    · rw [SessionTable.get?_erase_of_ne _ (Ne.symm own)]
      simp [own]
  lsn := by
    rw [swept.lsn, once.lsn, List.length_cons, UInt64.ofNat_add, UInt64.add_assoc,
      UInt64.add_comm (UInt64.ofNat _)]
    rfl

/-- A sweep of expired sessions removes all of them, unless the log fails. -/
theorem run_sweepAll {xids : List Xid} (distinct : xids.Nodup) (rest : m.AtRest)
    (expired : ∀ xid ∈ xids, ∃ session, m.sessions.get? xid = some session
      ∧ session.isExpired retention now = true)
    (plain : Plain ((sweepAll retention now xids).run.run m).1) :
    ∃ next, (sweepAll retention now xids).run.run m = (.ok (xids, 0), next)
      ∧ SweptIn xids m next := by
  induction xids generalizing m with
  | nil => exact ⟨m, rfl, by simp, by simp⟩
  | cons xid xids ih =>
    obtain ⟨fresh, apart⟩ := List.nodup_cons.1 distinct
    obtain ⟨session, stored, ended⟩ := expired xid List.mem_cons_self
    rcases run_sweepSession_of_expired rest stored ended with
      ⟨e, middle, failure, run⟩ | ⟨middle, run, once⟩
    · rw [sweepAll, run_bind_of_error m _ run] at plain
      cases failure.symm.trans (plain_error.1 plain)
    have still := atRest_sweepSession rest xid retention now
    rw [run] at still
    -- The other sessions are still there when the first one has gone.
    have expired' : ∀ x ∈ xids, ∃ session, middle.sessions.get? x = some session
        ∧ session.isExpired retention now = true := by
      intro x hx
      have other : xid ≠ x := fun same => fresh (same ▸ hx)
      rw [once.sessions, publish, SessionTable.get?_erase_of_ne _ other]
      exact expired x (List.mem_cons_of_mem _ hx)
    have after : (sweepAll retention now (xid :: xids)).run.run m
        = (((sweepAll retention now xids).run.run middle).1.map fun found =>
            (xid :: found.1, found.2),
          ((sweepAll retention now xids).run.run middle).2) := by
      rw [sweepAll, run_bind_of_ok m _ run, run_bind]
      rcases (sweepAll retention now xids).run.run middle with ⟨_ | found, last⟩ <;> rfl
    rw [after] at plain
    obtain ⟨next, run', swept⟩ := ih apart still expired' plain.of_map
    exact ⟨next, by rw [after, run']; rfl, .cons once swept⟩

/-! ## All sessions -/

/-- What a sweep answers and leaves. -/
structure Swept (retention now : Millis) (s : Store) (report : SweepReport) (next : Store) :
    Prop where
  /-- The sessions that ended at least the retention ago are removed, and no others, -/
  removed : ∀ xid, xid ∈ report.removed ↔ ∃ session, s.sessions.get? xid = some session
    ∧ session.status.isTerminal = true
    ∧ retention.toNat ≤ now.toNat - session.modifiedTime.toNat
  /-- each of them once. -/
  distinct : report.removed.Nodup
  /-- They are gone afterwards, and all others are as they were. -/
  sessions : ∀ xid, next.sessions.get? xid
    = if xid ∈ report.removed then none else s.sessions.get? xid
  /-- No session was passed over. -/
  skipped : report.skipped = 0
  /-- Those that wait for a retry are listed, -/
  candidates : ∀ xid, xid ∈ report.retryCandidates ↔ ∃ session, s.sessions.get? xid = some session
    ∧ session.status.isRetrying = true
  /-- in ascending order. -/
  ascending : report.retryCandidates.Pairwise (· < ·)
  /-- One change has been made for each session that was removed. -/
  lsn : next.lsn = s.lsn + UInt64.ofNat report.removed.length
  /-- The same sweep then removes nothing, lists the same sessions and leaves the store as it is. -/
  again : (Operation.sweep retention now).runOn next
    = (.ok (.swept
      { removed := [], retryCandidates := report.retryCandidates, skipped := 0 }), next)

/-- The xids of the sessions that pass a test, in ascending order. -/
def xidsWhere (s : Store) (holds : Session → Bool) : List Xid :=
  (s.sessions.toList.filter holds).map Session.xid

/-- An xid is listed exactly if the session that is stored under it passes the test. -/
theorem mem_xidsWhere_iff {holds : Session → Bool} :
    xid ∈ s.xidsWhere holds
      ↔ ∃ session, s.sessions.get? xid = some session ∧ holds session = true := by
  constructor
  · intro h
    obtain ⟨session, hsession, rfl⟩ := List.mem_map.1 h
    exact ⟨session, get?_of_mem_filter hsession⟩
  · rintro ⟨session, stored, holds⟩
    obtain rfl := SessionTable.xid_of_get? stored
    exact (xid_mem_map_filter_iff stored).2 holds

/-- A sweep is the sweep of the expired sessions, and lists those that wait for a retry. -/
theorem run_sweep_eq (s : Store) (retention now : Millis) :
    (sweep retention now).run.run s
      = (((sweepAll retention now (s.xidsWhere (·.isExpired retention now))).run.run s).1.map
          fun found =>
            { removed := found.1, retryCandidates := s.xidsWhere (·.status.isRetrying),
              skipped := found.2 },
        ((sweepAll retention now (s.xidsWhere (·.isExpired retention now))).run.run s).2) := by
  rw [sweep, run_bind_of_ok s _ (run_get s)]
  exact run_map s _ (sweepAll retention now (s.xidsWhere (·.isExpired retention now)))

/-- Where no session is expired a sweep only lists the sessions that wait for a retry. -/
theorem run_sweep_of_none
    (none : s.xidsWhere (·.isExpired retention now) = []) :
    (sweep retention now).run.run s
      = (.ok { removed := [], retryCandidates := s.xidsWhere (·.status.isRetrying), skipped := 0 },
        s) := by
  rw [run_sweep_eq, none]
  rfl

/-- The answer of a sweep is its report. -/
theorem runOn_sweep {result : Except Error SweepReport}
    (run : (sweep retention now).run.run s = (result, next)) :
    (Operation.sweep retention now).runOn s = (result.map .swept, next) := by
  cases result with
  | error e => exact run_bind_of_error s _ run
  | ok report => exact run_bind_of_ok s _ run

/-- A sweep of a store at rest removes exactly the expired sessions, unless the log fails. -/
theorem run_sweep (rest : s.AtRest) (plain : Plain ((sweep retention now).run.run s).1) :
    ∃ report next, (sweep retention now).run.run s = (.ok report, next)
      ∧ Swept retention now s report next := by
  have whole := run_sweep_eq s retention now
  have distinct : (s.xidsWhere (·.isExpired retention now)).Nodup :=
    s.sessions.nodup_xids.sublist (List.filter_sublist.map Session.xid)
  rw [whole] at plain
  obtain ⟨next, run, swept⟩ :=
    run_sweepAll distinct rest (fun _ listed => mem_xidsWhere_iff.1 listed) plain.of_map
  rw [run] at whole
  -- What is left is what was not expired, so that the second sweep has nothing to do.
  have left : next.sessions.toList
      = s.sessions.toList.filter fun session => !session.isExpired retention now := by
    refine SessionTable.toList_eq_filter fun xid => ?_
    rw [swept.sessions]
    cases stored : s.sessions.get? xid with
    | none => simp
    | some session =>
      have listed : xid ∈ s.xidsWhere (·.isExpired retention now)
          ↔ session.isExpired retention now = true := by
        rw [mem_xidsWhere_iff, stored]
        simp
      simp only [listed, Option.filter_some, Bool.not_eq_true']
      cases session.isExpired retention now <;> rfl
  have none : next.xidsWhere (·.isExpired retention now) = [] := by
    rw [xidsWhere, left, List.filter_filter]
    simp
  -- A session that waits for a retry has not ended, so it is still there.
  have same : next.xidsWhere (·.status.isRetrying) = s.xidsWhere (·.status.isRetrying) := by
    rw [xidsWhere, left, List.filter_filter]
    refine congrArg (List.map Session.xid) (List.filter_congr fun session _ => ?_)
    cases waits : session.status.isRetrying with
    | false => rfl
    | true => simp [Session.isExpired, GlobalStatus.not_isTerminal_of_isRetrying waits]
  have again := runOn_sweep (run_sweep_of_none none)
  rw [same] at again
  refine ⟨_, next, whole, ⟨fun xid => ?_, distinct, swept.sessions, rfl, fun xid => ?_, ?_,
    swept.lsn, again⟩⟩
  · simp only [← Session.isExpired_iff]
    exact mem_xidsWhere_iff
  · exact mem_xidsWhere_iff
  · exact List.pairwise_map.2 (s.sessions.sorted.filter _)

/-! ## Histories -/

variable {settings : StoreSettings} {clock : Millis} {start : Store} {events : List Event}
  {attempts : List Attempt} {answer : Except Error Operation.Outcome}

/-- A session is not expired before the retention is over that begins with its latest change. -/
theorem unexpired_of_latestChange {record : LogRecord}
    (latest : record.op = .upsert session ∧ record.timestamp = session.modifiedTime)
    (since : record.timestamp.toNat ≤ now.toNat)
    (before : now.toNat < record.timestamp.toNat + retention.toNat) :
    session.isExpired retention now = false := by
  refine Bool.eq_false_iff.2 fun expired => ?_
  have ended := (Session.isExpired_iff.1 expired).2
  rw [← latest.2] at ended
  omega

/-- Whatever happened to a store that was opened in an empty directory: if the store is open and no
lock is held, a sweep removes exactly the sessions that ended at least the retention ago, unless a
write fails. No write fails as long as there is a position for each change, with a log that is synced
after every write, or before any wait is over.
A session whose latest change was made less than the retention ago is not removed, however the sweep
ends, if all changes of the history were made. If the process may have died, the records of all
changes that were attempted have to be readable, and there has to be a position for each. -/
theorem sweep_removes_expired
    (opened : openFiles settings clock { snapshot := none, log := [] } = .ok start)
    (history : History start events attempts s)
    (fits : (∃ settings now, Event.crash settings now ∈ events) →
      ∀ attempt ∈ attempts, (Codec.record.encode attempt.record).length < UInt32.size)
    (isOpen : s.closed = false) (free : s.locks.held = [])
    (run : (Operation.sweep retention now).runOn s = (answer, next)) :
    (Plain answer → ∃ report, answer = .ok (.swept report) ∧ Swept retention now s report next) ∧
      (s.lsn.toNat + (Operation.sweep retention now).mostChanges s < UInt64.size →
        s.log.settings.syncPeriod = 0
          ∨ s.log.settings.syncPeriod < s.log.settings.durableWait → Plain answer) ∧
      (AllMade attempts →
        ((∃ settings now, Event.crash settings now ∈ events) →
          attempts.length < UInt64.size - 1) →
        ∀ xid record, latestChange attempts xid = some record →
          record.timestamp.toNat ≤ now.toNat →
          now.toNat < record.timestamp.toNat + retention.toNat →
          next.sessions.get? xid = s.sessions.get? xid
            ∧ ∀ report, answer = .ok (.swept report) → xid ∉ report.removed) := by
  have rest : s.AtRest := ⟨isOpen, LockTable.ext free⟩
  refine ⟨fun plain => ?removed, fun room prompt => ?plain,
    fun made room xid record latest since before =>
      sweeps_of_unexpired (fun session stored => ?unexpired) run⟩
  case removed =>
    rcases ended : (sweep retention now).run.run s with ⟨result, last⟩
    obtain ⟨rfl, rfl⟩ := Prod.mk.inj ((runOn_sweep ended).symm.trans run)
    have plain : Plain ((sweep retention now).run.run s).1 := by
      rw [ended]
      exact plain.of_map
    obtain ⟨report, next, run', swept⟩ := run_sweep rest plain
    obtain ⟨rfl, rfl⟩ := Prod.mk.inj (run'.symm.trans ended)
    exact ⟨report, rfl, swept⟩
  case plain =>
    have plain : Plain ((Operation.sweep retention now).runOn s).1 :=
      plain_of_prompt rfl isOpen (running_of_history opened history fits isOpen) room prompt
    rwa [run] at plain
  case unexpired =>
    have good : (∃ settings now, Event.crash settings now ∈ events) → Recoverable 0 attempts :=
      fun dies => ⟨made, fits dies, by have := room dies; omega⟩
    obtain ⟨record', latest', image⟩ := history.latestChange_of_stored opened made
      (fun settings now member => ⟨settings, now, member⟩) good stored
    obtain rfl := Option.some.inj (latest'.symm.trans latest)
    exact unexpired_of_latestChange image since before

/-- Sessions `A` and `B` are put at 0, committed and waiting for another commit, and `C` is put at
45, committed. A sweep at 50 with a retention of 10 removes `A`, lists `B` and leaves `C`. -/
theorem sweep_removes_expired_of_three_sessions :
    ∃ (start s next : Store) (events : List Event) (attempts : List Attempt) (report : SweepReport),
      openFiles {} 0 { snapshot := none, log := [] } = .ok start
        ∧ History start events attempts s ∧ AllMade attempts
        ∧ (Operation.sweep 10 50).runOn s = (.ok (.swept report), next)
        ∧ report = { removed := ["A"], retryCandidates := ["B"], skipped := 0 }
        ∧ Swept 10 50 s report next ∧ "C" ∉ report.removed := by
  let start := resume {} 0 { snapshot := none, log := [] } (Recovered.ofSnapshot Snapshot.empty)
  let image (xid : Xid) (status : GlobalStatus) :=
    { Session.start xid 1 "app" "tx" 0 with status }
  let first := Operation.put (image "A" .committed)
  let second := Operation.put (image "B" .commitRetrying)
  let third := Operation.put (image "C" .committed)
  let one := (first.runOn start).2
  let two := (second.runOn one).2
  let later := { two with clock := 45 }
  let s := (third.runOn later).2
  let report : SweepReport := { removed := ["A"], retryCandidates := ["B"], skipped := 0 }
  have put1 : (first.runOn start).1.toOption.isSome := by decide +kernel
  have put2 : (second.runOn one).1.toOption.isSome := by decide +kernel
  have put3 : (third.runOn later).1.toOption.isSome := by decide +kernel
  have run : (Operation.sweep 10 50).runOn s
      = (.ok (.swept report), ((Operation.sweep 10 50).runOn s).2) :=
    runOn_of_toOption (by decide +kernel)
  have stored : ∃ session, s.sessions.get? "C" = some session ∧ session.modifiedTime = 45 :=
    Option.map_eq_some_iff.1 (by decide +kernel)
  obtain ⟨_, put1⟩ := Option.isSome_iff_exists.1 put1
  obtain ⟨_, put2⟩ := Option.isSome_iff_exists.1 put2
  obtain ⟨_, put3⟩ := Option.isSome_iff_exists.1 put3
  obtain ⟨new1, next1, made1⟩ := exists_next_of_ok (runOn_of_toOption put1)
  obtain ⟨new2, next2, made2⟩ := exists_next_of_ok (runOn_of_toOption put2)
  obtain ⟨new3, next3, made3⟩ := exists_next_of_ok (runOn_of_toOption put3)
  let events : List Event :=
    [] ++ [.perform first] ++ [.perform second] ++ [.tick 45] ++ [.perform third]
  have history : History start events ([] ++ new1 ++ new2 ++ [] ++ new3) s :=
    (((History.start.step next1).step next2).step (.tick 45)).step next3
  have made : AllMade ([] ++ new1 ++ new2 ++ [] ++ new3) :=
    allMade_append.2 ⟨allMade_append.2 ⟨allMade_append.2 ⟨allMade_append.2
      ⟨allMade_nil, made1⟩, made2⟩, allMade_nil⟩, made3⟩
  have lives : ¬ ∃ settings now, Event.crash settings now ∈ events := by simp [events]
  obtain ⟨session, stored, time⟩ := stored
  obtain ⟨record, latest, -, timestamp⟩ := history.latestChange_of_stored (openFiles_nothing {} 0)
    made (fun settings now dies => lives ⟨settings, now, dies⟩) False.elim stored
  obtain ⟨removes, prompt, keeps⟩ := sweep_removes_expired (openFiles_nothing {} 0) history
    (fun dies => absurd dies lives) (by decide +kernel) (by decide +kernel) run
  obtain ⟨_, same, swept⟩ := removes (prompt (by decide +kernel) (.inr (by decide +kernel)))
  cases same
  rw [time] at timestamp
  have kept := keeps made (fun dies => absurd dies lives) "C" record latest
    (timestamp ▸ by decide) (timestamp ▸ by decide)
  exact ⟨start, s, _, events, _, report, openFiles_nothing {} 0, history, made, run, rfl, swept,
    kept.2 report rfl⟩

end Store

end SessionRegistry
