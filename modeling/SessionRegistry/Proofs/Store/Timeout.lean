import SessionRegistry.Proofs.Store.Intact

/-!
# Waiting for durability in vain

A change is written behind the log before it is known whether it becomes durable in time. If it does
not, the operation fails and the change is not shown. But its record stays in the log and its
position is used up, so the next recovery makes the change after all, unless a checkpoint comes
first.

## Main definitions

* `Operation.TimedOut`: an operation fails because a wait for durability was in vain.
* `Unaffected`: nothing of an operation can be seen, now or after a crash or a checkpoint.
* `Unsettled`: what is left of a change whose wait was in vain.

## Main results

* `unaffected_iff_not_timedOut`: an operation that fails in this way never leaves a store
  unaffected, and what it leaves.
* `put_found_after_timeout`: a session whose put has failed in this way is found after a crash.
-/

namespace SessionRegistry

/-- An operation fails because a wait for durability was in vain. -/
def Operation.TimedOut (op : Operation) (s : Store) : Prop :=
  ∃ lsn durable, (op.runOn s).1 = .error (.internal (.notDurable lsn durable))

namespace Store

variable {may : Store → LogOperation → Prop} {s before next : Store} {op : Operation}

/-! ## The last of several moves -/

/-- One move makes one attempt at most. -/
theorem Move.length_le {attempts : List Attempt} (move : Move may s attempts next) :
    attempts.length ≤ 1 := by
  cases move <;> simp

/-- Moves without an attempt change only the locks, the trail and the next number. -/
theorem Moves.eq_of_nil (moves : Moves may s [] next) :
    ∃ (locks : LockTable) (trail : List Notice) (nextId : UInt64),
      next = { s with locks, trail, nextId } := by
  generalize none : [] = attempts at moves
  -- Only changes and failures make attempts, so every move is of another kind.
  induction moves with
  | refl s => exact ⟨s.locks, s.trail, s.nextId, rfl⟩
  | cons move moves ih =>
    obtain ⟨rfl, rfl⟩ := List.append_eq_nil_iff.1 none.symm
    obtain ⟨locks, trail, nextId, rfl⟩ := ih rfl
    cases move with
    | lock locks' => exact ⟨locks, trail, nextId, rfl⟩
    | tell notice => exact ⟨locks, trail, nextId, rfl⟩
    | takeId => exact ⟨locks, trail, nextId, rfl⟩

/-- The move that made the last attempt. -/
theorem Moves.exists_last {made : List Attempt} {last : Attempt}
    (moves : Moves may s (made ++ [last]) next) :
    ∃ before after : Store, Moves may s made before ∧ Move may before [last] after
      ∧ Moves may after [] next := by
  generalize h : made ++ [last] = attempts at moves
  induction moves generalizing made with
  | refl s => simp at h
  | @cons s middle next first more move moves ih =>
    have few := move.length_le
    cases first with
    | nil =>
      -- The first move makes no attempt, so the last one is among the rest.
      obtain ⟨before, after, earlier, lastly, quiet⟩ := ih h
      exact ⟨before, after, .cons move earlier, lastly, quiet⟩
    | cons attempt others =>
      obtain rfl : others = [] := List.eq_nil_of_length_eq_zero (Nat.le_zero.1
        (Nat.le_of_succ_le_succ few))
      cases made with
      | nil =>
        -- The first move makes the only attempt.
        obtain ⟨rfl, rfl⟩ := List.cons.inj h
        exact ⟨s, middle, .refl s, move, moves⟩
      | cons attempt' made =>
        obtain ⟨rfl, rest⟩ := List.cons.inj h
        obtain ⟨before, after, earlier, lastly, quiet⟩ := ih rest
        exact ⟨before, after, .cons move earlier, lastly, quiet⟩

/-- Moves take one position for each attempt, and keep the settings of the log. -/
theorem Moves.lsn_eq {attempts : List Attempt} (moves : Moves may s attempts next) :
    next.lsn = s.lsn + UInt64.ofNat attempts.length ∧ next.log.settings = s.log.settings := by
  induction moves with
  | refl s => simp
  | @cons s middle next first more move _ ih =>
    have step : middle.lsn = s.lsn + UInt64.ofNat first.length
        ∧ middle.log.settings = s.log.settings := by
      cases move with
      | lock locks => simp
      | tell notice => simp
      | takeId => simp
      | @change logged bytes log allowed run =>
        obtain ⟨_, _, _, frame, -, settings⟩ := (s.published logged log).countBytes_frame bytes
        rw [frame]
        exact ⟨rfl, settings.trans (handOver_frame run).2.1⟩
      | fail allowed run => exact ⟨rfl, (handOver_frame run).2.1⟩
    obtain ⟨lsn, settings⟩ := ih
    refine ⟨?_, settings.trans step.2⟩
    rw [lsn, step.1, List.length_append, UInt64.ofNat_add, UInt64.add_assoc]

/-! ## What is left -/

/-- What is left of a change that an operation has logged in vain: it is not shown, its position is
used up, and its record stays behind the log. -/
structure Unsettled (op : Operation) (before next : Store) (logged : LogOperation) : Prop where
  allowed : op.MayLog before logged
  timesOut : before.log.TimesOut (before.nextRecord logged)
  sessions : next.sessions = before.sessions
  modification : next.modification = { before.modification with lsn := before.lsn + 1 }
  snapshotFile : next.snapshotFile = before.snapshotFile
  log : next.log.file = before.log.file ++ Frame.ofRecord (before.nextRecord logged)
  running : next.log.running = true

/-- An operation that fails because a wait was in vain has made all changes but the last. -/
theorem exists_unsettled_of_timedOut (mutation : op.isUpkeep = false) (h : op.TimedOut s) :
    ∃ (made : List Attempt) (before : Store) (logged : LogOperation),
      Moves (fun s => op.MayLog s) s made before ∧ AllMade made
        ∧ made.length < op.mostChanges s ∧ Unsettled op before (op.runOn s).2 logged := by
  obtain ⟨lsn, durable, answer⟩ := h
  obtain ⟨attempts, attempted⟩ := op.exists_attempts s
  obtain ⟨few, moves, settles⟩ := attempted.of_mutation mutation
  rw [answer] at settles
  -- The answer is a failure of the log, so it is that of the last attempt.
  cases settles with
  | made _ plain => cases plain_error.1 plain
  | @failed _ made last allMade failure _ =>
    obtain ⟨before, after, earlier, lastly, quiet⟩ := moves.exists_last
    obtain ⟨locks, trail, nextId, frame⟩ := quiet.eq_of_nil
    rw [List.length_append] at few
    cases lastly with
    | change _ _ => cases failure
    | @fail logged e log allowed run =>
      cases failure
      refine ⟨made, before, logged, earlier, allMade, few, ?_⟩
      -- Of the ways in which logging ends, only the wait in vain fails in this way.
      rcases before.handOver_cases logged with
        ⟨-, full⟩ | ⟨-, stopped⟩ | ⟨-, -, _, done, -⟩ | ⟨running, -, out, waited⟩
      · cases full.symm.trans run
      · cases stopped.symm.trans run
      · cases done.symm.trans run
      · cases waited.symm.trans run
        rw [frame]
        exact ⟨allowed, out, rfl, rfl, rfl, LogWriter.file_write .., by
          rw [LogWriter.running_write, running]⟩

/-- With a log that is synced after every write, or before any wait is over, no record that follows
on some moves times out. -/
theorem Moves.not_timesOut_of_prompt {attempts : List Attempt}
    (moves : Moves may s attempts before)
    (prompt : s.log.settings.syncPeriod = 0
      ∨ s.log.settings.syncPeriod < s.log.settings.durableWait) (logged : LogOperation) :
    ¬ before.log.TimesOut (before.nextRecord logged) := by
  intro out
  obtain ⟨late, -, short⟩ := (LogWriter.timesOut_iff ..).1 out
  have settings := moves.lsn_eq.2
  rcases prompt with always | within
  · rw [← settings] at always
    simp [LogWriter.syncsAfterWrite, LogWriter.entered, always] at late
  · rw [settings] at short
    exact UInt64.not_lt.2 short within

/-- With such a log no wait is in vain. -/
theorem not_timedOut_of_prompt (mutation : op.isUpkeep = false)
    (prompt : s.log.settings.syncPeriod = 0
      ∨ s.log.settings.syncPeriod < s.log.settings.durableWait) : ¬ op.TimedOut s := by
  intro out
  obtain ⟨made, before, logged, moves, -, -, unsettled⟩ := exists_unsettled_of_timedOut mutation out
  exact moves.not_timesOut_of_prompt prompt logged unsettled.timesOut

/-- Nothing of an operation can be seen: the store shows what it showed before, recovery finds in
its files what it found before, and a crash and a checkpoint lead to the same sessions. -/
structure Unaffected (s next : Store) : Prop where
  sessions : next.sessions = s.sessions
  modification : next.modification = s.modification
  recovered : ∀ found, recover s.files = .ok found → ∃ again, recover next.files = .ok again
    ∧ again.sessions = found.sessions ∧ again.lastLsn = found.lastLsn
  checkpointed : ∀ found again, recover next.files = .ok found →
    recover (checkpoint.run.run next).2.files = .ok again → again.sessions = found.sessions

/-- Before the last change the store was intact, so that recovery makes the change that is not
shown, while a checkpoint drops it. -/
theorem Unsettled.recovers {logged : LogOperation} (h : Unsettled op before next logged)
    (intact : before.Intact) (fits : Frame.Fits (before.nextRecord logged))
    (room : before.lsn.toNat + 1 < UInt64.size) :
    (∃ found, recover next.files = .ok found ∧ found.sessions = publish next.sessions logged
        ∧ found.lastLsn = next.lsn)
      ∧ ∃ found, recover (checkpoint.run.run next).2.files = .ok found
        ∧ found.sessions = next.sessions ∧ found.lastLsn = next.lsn := by
  have lsn : next.lsn = before.lsn + 1 := congrArg Modification.lsn h.modification
  constructor
  · -- The files are those of the store that has made the change.
    have made : (before.published logged next.log).Intact :=
      intact.published h.allowed.isSome_xid? fits room h.log
    obtain ⟨found, hfound, sessions, last, -⟩ := made.recovers
    refine ⟨found, ?_, ?_, ?_⟩
    · rw [← hfound, files, files, h.snapshotFile]
      rfl
    · rw [sessions, h.sessions]
      rfl
    · rw [last, lsn]
      rfl
  · -- A checkpoint writes what is in memory, where the change is not.
    obtain ⟨found, hfound, sessions, last, -⟩ := (intact_checkpoint h.running).recovers
    obtain ⟨_, _, _, frame, -⟩ := next.checkpoint_frame
    refine ⟨found, hfound, ?_, ?_⟩
    · rw [sessions, frame]
    · rw [last, frame]
      rfl

/-- An operation that fails because a wait was in vain never leaves the store unaffected. It shows
only the changes before the last one; the last one is not shown and has used up a position, and if
the files were intact, the next recovery makes it while a checkpoint drops it. -/
theorem unaffected_iff_not_timedOut (mutation : op.isUpkeep = false)
    (few : op.mostChanges s < UInt64.size) :
    ((op.TimedOut s → Unaffected s (op.runOn s).2) ↔ ¬ op.TimedOut s)
      ∧ (s.log.settings.syncPeriod = 0 ∨ s.log.settings.syncPeriod < s.log.settings.durableWait →
        ¬ op.TimedOut s)
      ∧ (op.TimedOut s → ∃ (made : List Attempt) (before : Store) (logged : LogOperation),
        Moves (fun s => op.MayLog s) s made before ∧ AllMade made
        ∧ made.length < op.mostChanges s ∧ Unsettled op before (op.runOn s).2 logged
        ∧ (made = [] → (op.runOn s).2.sessions = s.sessions
          ∧ (op.runOn s).2.modification = { s.modification with lsn := s.lsn + 1 })
        ∧ (s.Intact → (∀ attempt ∈ made, Frame.Fits attempt.record) →
          Frame.Fits (before.nextRecord logged) → s.lsn.toNat + made.length + 1 < UInt64.size →
          (∃ found, recover (op.runOn s).2.files = .ok found
            ∧ found.sessions = publish (op.runOn s).2.sessions logged
            ∧ found.lastLsn = (op.runOn s).2.lsn)
          ∧ ∃ found, recover (checkpoint.run.run (op.runOn s).2).2.files = .ok found
            ∧ found.sessions = (op.runOn s).2.sessions
            ∧ found.lastLsn = (op.runOn s).2.lsn)) := by
  refine ⟨⟨fun kept out => ?_, fun never out => absurd out never⟩,
    not_timedOut_of_prompt mutation, fun out => ?_⟩
  · obtain ⟨made, before, logged, moves, -, count, unsettled⟩ :=
      exists_unsettled_of_timedOut mutation out
    -- The positions taken are at least one and do not wrap around to the one before.
    have later : s.lsn + UInt64.ofNat (made.length + 1) = s.lsn := by
      calc
        s.lsn + UInt64.ofNat (made.length + 1)
          = before.lsn + 1 := by rw [UInt64.ofNat_add, ← UInt64.add_assoc, moves.lsn_eq.1]; rfl
        _ = (op.runOn s).2.lsn := (congrArg Modification.lsn unsettled.modification).symm
        _ = s.lsn := congrArg Modification.lsn (kept out).modification
    have wrapped := congrArg UInt64.toNat (UInt64.add_eq_left.1 later)
    have bound : made.length + 1 < UInt64.size := by omega
    rw [UInt64.toNat_ofNat', UInt64.toNat_zero, Nat.mod_eq_of_lt bound] at wrapped
    exact Nat.succ_ne_zero _ wrapped
  · obtain ⟨made, before, logged, moves, allMade, count, unsettled⟩ :=
      exists_unsettled_of_timedOut mutation out
    refine ⟨made, before, logged, moves, allMade, count, unsettled, ?_, ?_⟩
    · rintro rfl
      obtain ⟨locks, trail, nextId, rfl⟩ := moves.eq_of_nil
      exact ⟨unsettled.sessions, unsettled.modification⟩
    · intro intact fits fits' room
      obtain ⟨intact', lsn⟩ := intact.moves moves ⟨allMade, fits, by omega⟩
      exact unsettled.recovers intact' fits' (by rw [lsn]; exact room)

/-- A valid image that is put under a free lock of an open store, for which there is a position and
whose wait is in vain. -/
theorem runOn_put_of_timesOut {session : Session} (isOpen : s.closed = false)
    (free : session.xid ∉ s.locks.held) (valid : checkImage session.xid session = .ok ())
    (running : s.log.running = true) (room : s.lsn + 1 ≠ 0)
    (late : s.log.TimesOut (s.nextRecord (s.upsertOf session))) :
    ∃ locks : LockTable, (Operation.put session).runOn s =
      (.error (.internal (.notDurable (s.lsn + 1)
        (s.log.write (s.nextRecord (s.upsertOf session))).durableLsn)),
        { s with
          lsn := s.lsn + 1
          log := s.log.write (s.nextRecord (s.upsertOf session))
          locks }) := by
  obtain ⟨locks, whenCommitted⟩ := runOn_put_of_commit isOpen free valid
  rcases s.handOver_cases (s.upsertOf session) with
    ⟨full, -⟩ | ⟨stopped, -⟩ | ⟨-, accepts, -⟩ | ⟨-, -, -, waited⟩
  · exact absurd full room
  · simp [running] at stopped
  · exact absurd late accepts.intime
  · exact ⟨_, whenCommitted (run_commit_of_error (s := { s with locks }) waited)⟩

/-- Settings under which a writer waits for less than a period between syncs. -/
def hasty : StoreSettings where
  log := { syncPeriod := 1000000, durableWait := 50 }

/-- A store that is opened in an empty directory with hasty settings. -/
def hastyStart : Store :=
  resume hasty 0 { snapshot := none, log := [] } (Recovered.ofSnapshot Snapshot.empty)

/-- The first put to a store with hasty settings is written in vain. -/
theorem runOn_hastyStart :
    ∃ next : Store, (Operation.put (Session.start "A" 1 "app" "tx" 1000)).runOn hastyStart
        = (.error (.internal (.notDurable 1 0)), next)
      ∧ next.sessions = hastyStart.sessions ∧ next.modification.lsn = 1
      ∧ next.snapshotFile = none
      ∧ next.log.file = Frame.ofRecord (hastyStart.nextRecord
        (hastyStart.upsertOf (Session.start "A" 1 "app" "tx" 1000))) := by
  have valid : checkImage "A" (Session.start "A" 1 "app" "tx" 1000) = .ok () :=
    checkImage_of_no_branches (by decide) rfl
  obtain ⟨locks, run⟩ := runOn_put_of_timesOut (s := hastyStart) rfl List.not_mem_nil valid rfl
    (by decide) (by decide)
  have durable : (hastyStart.log.write (hastyStart.nextRecord
      (hastyStart.upsertOf (Session.start "A" 1 "app" "tx" 1000)))).durableLsn = 0 := by decide
  rw [durable] at run
  exact ⟨_, run, rfl, rfl, rfl, LogWriter.file_write ..⟩

/-- A session is put in vain: the put fails and nothing is shown, but its position is used up, and
recovery finds the session. -/
theorem put_found_after_timeout :
    ∃ (start next : Store) (found : Recovered),
      openFiles hasty 0 { snapshot := none, log := [] } = .ok start
        ∧ ((Operation.put (Session.start "A" 1 "app" "tx" 1000)).runOn start)
          = (.error (.internal (.notDurable 1 0)), next)
        ∧ start.sessions.get? "A" = none ∧ start.modification.lsn = 0
        ∧ next.sessions = start.sessions ∧ next.modification.lsn = 1
        ∧ recover next.files = .ok found ∧ (found.sessions.get? "A").isSome = true := by
  obtain ⟨next, run, sessions, lsn, snapshot, file⟩ := runOn_hastyStart
  have fits : Frame.Fits (hastyStart.nextRecord
      (hastyStart.upsertOf (Session.start "A" 1 "app" "tx" 1000))) := by decide
  have found := recover_append recover_nothing Frame.remainder_nil fits (by decide)
  refine ⟨hastyStart, next, (Recovered.ofSnapshot Snapshot.empty).replay (hastyStart.nextRecord
    (hastyStart.upsertOf (Session.start "A" 1 "app" "tx" 1000))), openFiles_nothing hasty 0, run,
    rfl, rfl, sessions, lsn, ?_, ?_⟩
  · rw [← found, files, snapshot, file]
    rfl
  · rw [Recovered.sessions_replay]
    exact congrArg Option.isSome (SessionTable.get?_insert_self _ _)

/-- The put in vain does not leave the store unaffected. -/
theorem not_unaffected_of_put_in_vain :
    (Operation.put (Session.start "A" 1 "app" "tx" 1000)).isUpkeep = false
      ∧ (Operation.put (Session.start "A" 1 "app" "tx" 1000)).mostChanges hastyStart < UInt64.size
      ∧ (Operation.put (Session.start "A" 1 "app" "tx" 1000)).TimedOut hastyStart
      ∧ ¬ Unaffected hastyStart
        ((Operation.put (Session.start "A" 1 "app" "tx" 1000)).runOn hastyStart).2 := by
  have few : (Operation.put (Session.start "A" 1 "app" "tx" 1000)).mostChanges hastyStart
      < UInt64.size := by decide
  obtain ⟨next, run, -⟩ := runOn_hastyStart
  have out : (Operation.put (Session.start "A" 1 "app" "tx" 1000)).TimedOut hastyStart :=
    ⟨1, 0, congrArg Prod.fst run⟩
  exact ⟨rfl, few, out, fun same => (unaffected_iff_not_timedOut rfl few).1.1 (fun _ => same) out⟩

end Store

end SessionRegistry
