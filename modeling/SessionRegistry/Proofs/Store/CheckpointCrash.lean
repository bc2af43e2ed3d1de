import SessionRegistry.Proofs.Store.Intact

/-!
# Crashes within a checkpoint

A checkpoint runs in steps, and the process may die after any of them, or while the marker is being
written. Between the steps the snapshot file and the log are of different age: the new snapshot may
stand next to the old log, next to no log, or next to a part of the marker. Recovery finds the same
in all of them, because the new snapshot covers every record that may still be in the log.

Records are assumed to have fewer than `2 ^ 32` bytes wherever files are read back. That is the limit
of the format of the log: a frame holds the length of its record in four bytes.

## Main definitions

* `checkpointSteps`: the steps of a checkpoint, one after the other.
* `CheckpointCut`: the files that are left if the process dies within a checkpoint or right after it.
* `OldOrNew`: files that a checkpoint has not replaced, or has replaced in part.
* `Checkpoints`: when an event makes a checkpoint.

## Main results

* `run_checkpoint_eq_steps`: a checkpoint is its steps.
* `Intact.recovers_of_cut`: whatever a checkpoint of intact files leaves is recovered as it was.
* `recovers_of_crash_in_checkpoint`: so is every checkpoint of a history.
-/

namespace SessionRegistry.Store

variable {s t : Store} {files : Files}

/-! ## The steps of a checkpoint -/

/-- The steps of a checkpoint: the log is synced, the snapshot file is replaced, the log is emptied,
the bytes are counted from zero, and a marker is appended to the log. -/
def checkpointSteps (s : Store) : List (StoreM Unit) :=
  [discard (onLog LogWriter.forceSync), writeSnapshot s.image, onLog LogWriter.truncate,
    modify fun store => { store with bytesSinceCheckpoint := 0 },
    discard (onLog (LogWriter.append s.marker))]

/-- How the first steps of a checkpoint end, and the store that they leave. -/
def afterSteps (s : Store) (count : Nat) : Except Error Unit × Store :=
  (forM (s.checkpointSteps.take count) id : StoreM Unit).run.run s

/-- A checkpoint is its steps. -/
theorem run_checkpoint_eq_steps (s : Store) :
    checkpoint.run.run s = s.afterSteps s.checkpointSteps.length := by
  rw [checkpoint, run_bind_of_ok s _ (run_get s), afterSteps, List.take_length]
  simp only [checkpointSteps, List.forM_cons, List.forM_nil, id, bind_pure_unit]

/-- A step behind others runs on what they leave. -/
theorem run_forM_concat {acts : List (StoreM Unit)} {act : StoreM Unit} {next : Store}
    (h : (forM acts id : StoreM Unit).run.run s = (.ok (), next)) :
    (forM (acts ++ [act]) id : StoreM Unit).run.run s = act.run.run next := by
  rw [List.forM_append, run_bind_of_ok s _ h, List.forM_cons, List.forM_nil, bind_pure_unit]
  rfl

/-- The steps of a checkpoint on a log that is running. -/
theorem afterSteps_of_running (h : s.log.running = true) :
    ∃ synced emptied marked : LogWriter, synced.file = s.log.file ∧ emptied.file = []
      ∧ marked.file = Frame.ofRecord s.marker ∧ ∀ count, s.afterSteps count = (.ok (),
        match count with
        | 0 => s
        | 1 => { s with log := synced }
        | 2 => { s with snapshotFile := some s.image.write, log := synced }
        | 3 => { s with snapshotFile := some s.image.write, log := emptied }
        | 4 => { s with
          snapshotFile := some s.image.write, bytesSinceCheckpoint := 0, log := emptied }
        | _ + 5 => { s with
          snapshotFile := some s.image.write, bytesSinceCheckpoint := 0, log := marked }) := by
  obtain ⟨_, synced, hsync, file, running, -⟩ := s.log.run_forceSync h
  obtain ⟨emptied, htruncate, nothing, running, -⟩ := synced.run_truncate running
  have appended := emptied.run_append s.marker running
  -- Each step runs on what the steps before it leave.
  have after0 : s.afterSteps 0 = (.ok (), s) := rfl
  have after1 : s.afterSteps 1 = (.ok (), { s with log := synced }) := by
    refine (run_forM_concat after0).trans ?_
    rw [run_discard, run_onLog s hsync, Except.map]
  have after2 := (run_forM_concat after1).trans (run_writeSnapshot _ s.image)
  have after3 := (run_forM_concat after2).trans (run_onLog _ htruncate)
  have after4 := (run_forM_concat after3).trans
    (run_modify _ fun store : Store => { store with bytesSinceCheckpoint := 0 })
  have after5 := (run_forM_concat after4).trans
    ((run_discard _ _).trans (by rw [run_onLog _ appended, Except.map]))
  refine ⟨synced, emptied, emptied.write s.marker, file, nothing, ?_, fun count => ?_⟩
  · rw [LogWriter.file_write, nothing, List.nil_append]
  · match count with
    | 0 => exact after0
    | 1 => exact after1
    | 2 => exact after2
    | 3 => exact after3
    | 4 => exact after4
    | more + 5 =>
      -- There are no more than five steps.
      have all : s.checkpointSteps.take (more + 5) = s.checkpointSteps :=
        List.take_of_length_le (by simp [checkpointSteps])
      rw [afterSteps, all]
      exact after5

/-- A checkpoint of a log that has stopped fails with its first step. -/
theorem afterSteps_of_stopped (h : s.log.running = false) (count : Nat) :
    (s.afterSteps count).2 = s ∧ (count ≠ 0 → (s.afterSteps count).1 ≠ .ok ()) := by
  have stopped : LogWriter.forceSync.run.run s.log = (.error (.internal .logStopped), s.log) := by
    rw [LogWriter.forceSync, run_bind_of_error s.log _ (s.log.run_requireRunning_of_stopped h)]
  have failed : (discard (onLog LogWriter.forceSync)).run.run s
      = (.error (.internal .logStopped), s) := by
    rw [run_discard, run_onLog s stopped, Except.map]
  cases count with
  | zero => exact ⟨rfl, fun no => absurd rfl no⟩
  | succ more =>
    have run : s.afterSteps (more + 1) = (.error (.internal .logStopped), s) :=
      run_bind_of_error s _ failed
    rw [run]
    exact ⟨rfl, fun _ => by simp⟩

/-- The files that are left if the process dies within a checkpoint or right after it: after some of
its steps, with a part of the marker behind the emptied log, or after all of it. -/
inductive CheckpointCut (s : Store) : Files → Prop where
  | between (count : Nat) : CheckpointCut s (s.afterSteps count).2.files
  | within {part : Bytes} (reached : (s.afterSteps 4).1 = .ok ())
      (written : part <+: Frame.ofRecord s.marker) :
    CheckpointCut s { (s.afterSteps 4).2.files with log := (s.afterSteps 4).2.files.log ++ part }
  | behind : CheckpointCut s (checkpoint.run.run s).2.files

/-- Files are the old ones of a store, or its new snapshot with the old log or with a part of the
marker. -/
def OldOrNew (s : Store) (files : Files) : Prop :=
  files = s.files ∨ files.snapshot = some s.image.write
    ∧ (files.log = s.log.file ∨ files.log <+: Frame.ofRecord s.marker)

/-- After any number of steps the files are the old ones, or the new snapshot with the old log or
with a part of the marker. -/
theorem oldOrNew_afterSteps (s : Store) (count : Nat) : s.OldOrNew (s.afterSteps count).2.files := by
  cases running : s.log.running with
  | true =>
    obtain ⟨synced, emptied, marked, same, nothing, marker, after⟩ := afterSteps_of_running running
    have none : emptied.file <+: Frame.ofRecord s.marker := nothing ▸ List.nil_prefix
    rw [after]
    match count with
    | 0 => exact .inl rfl
    | 1 => exact .inl (congrArg (Files.mk s.snapshotFile) same)
    | 2 => exact .inr ⟨rfl, .inl same⟩
    | 3 => exact .inr ⟨rfl, .inr none⟩
    | 4 => exact .inr ⟨rfl, .inr none⟩
    | _ + 5 => exact .inr ⟨rfl, .inr (marker ▸ List.prefix_refl _)⟩
  | false => exact .inl (congrArg Store.files (afterSteps_of_stopped running count).1)

/-- Wherever the process dies, the files that are left are the old ones, or the new snapshot with the
old log or with a part of the marker. -/
theorem CheckpointCut.oldOrNew (h : s.CheckpointCut files) : s.OldOrNew files := by
  cases h with
  | between count => exact s.oldOrNew_afterSteps count
  | @within part reached written =>
    cases running : s.log.running with
    | true =>
      obtain ⟨_, emptied, _, -, nothing, -, after⟩ := afterSteps_of_running running
      rw [after]
      refine .inr ⟨rfl, .inr ?_⟩
      show emptied.file ++ part <+: _
      rwa [nothing, List.nil_append]
    | false => exact absurd reached ((afterSteps_of_stopped running 4).2 (by simp))
  | behind =>
    -- A checkpoint that runs to its end has run all its steps.
    rw [run_checkpoint_eq_steps]
    exact s.oldOrNew_afterSteps _

/-! ## Recovery of what is left -/

/-- Recovery finds in files what a store holds: its sessions, the position and the time of its
latest change, and a number that no number in its sessions exceeds. -/
structure RecoveredFrom (s : Store) (files : Files) (recovered : Recovered) : Prop where
  found : recover files = .ok recovered
  sessions : recovered.sessions = s.sessions
  lastLsn : recovered.lastLsn = s.modification.lsn
  lastModified : recovered.lastModified = s.modification.timestamp
  transaction : ∀ xid session, s.sessions.get? xid = some session →
    session.transactionId ≤ recovered.maxId
  branches : ∀ xid session, s.sessions.get? xid = some session →
    ∀ branch ∈ session.branches, branch.id ≤ recovered.maxId

/-- Recovery never finds a number that is too small. -/
theorem recoveredFrom_of_recover {recovered : Recovered} (found : recover files = .ok recovered)
    (sessions : recovered.sessions = s.sessions) (lastLsn : recovered.lastLsn = s.modification.lsn)
    (lastModified : recovered.lastModified = s.modification.timestamp) :
    RecoveredFrom s files recovered := by
  have covered : ∀ xid session, s.sessions.get? xid = some session →
      session.maxId ≤ recovered.maxId := by
    intro xid session stored
    rw [← sessions] at stored
    exact maxId_le_of_recover found stored
  refine ⟨found, sessions, lastLsn, lastModified, ?_, ?_⟩
  · exact fun xid session stored => (Session.maxId_le_iff.1 (covered xid session stored)).1
  · exact fun xid session stored => (Session.maxId_le_iff.1 (covered xid session stored)).2

/-- Every record in a part of the marker is the marker. -/
theorem eq_marker_of_mem_part {part : Bytes} (h : part <+: Frame.ofRecord s.marker)
    {record : LogRecord} (hrecord : record ∈ Frame.records part) : record = s.marker := by
  obtain ⟨rest, whole⟩ := h
  have records := (Frame.records_ofRecord s.fits_marker).1
  rw [← whole, Frame.records_append] at records
  exact List.mem_singleton.1 (records ▸ List.mem_append_left _ hrecord)

/-- Whatever a checkpoint of intact files leaves is recovered as the store was. -/
theorem Intact.recovers_of_cut (h : s.Intact) (cut : s.CheckpointCut files) :
    ∃ recovered, RecoveredFrom s files recovered := by
  obtain ⟨recovered, found, sessions, lastLsn, lastModified⟩ := h.recovers
  rcases cut.oldOrNew with rfl | ⟨snapshot, log⟩
  · exact ⟨recovered, recoveredFrom_of_recover found sessions lastLsn lastModified⟩
  · -- No record in the log, old or new, has a position beyond that of the new snapshot.
    have covered : ∀ record ∈ Frame.records files.log, record.lsn ≤ s.image.lsn := by
      intro record hrecord
      rcases log with old | part
      · obtain ⟨_, -, rfl⟩ := recover_eq_ok_iff.1 found
        rw [old] at hrecord
        show record.lsn ≤ s.modification.lsn
        exact lastLsn ▸ Recovered.lsn_le_lastLsn hrecord
      · rw [eq_marker_of_mem_part part hrecord]
        exact UInt64.le_refl _
    refine ⟨Recovered.ofSnapshot s.image, recoveredFrom_of_recover ?_ ?_ rfl rfl⟩
    · rw [recover_eq_ok_iff]
      exact ⟨s.image, snapshot ▸ Snapshot.read_write s.image, Recovered.ofParts_of_covered covered⟩
    · exact SessionTable.ofList_toList s.sessions

/-! ## Checkpoints of a history -/

/-- When an event makes a checkpoint: the store of which it makes one, and the changes that it has
made before. -/
inductive Checkpoints (s : Store) : Event → List Attempt → Store → Prop where
  | asked : Checkpoints s (.perform .checkpoint) [] s
  /-- A change of an operation has been published, and enough bytes have been logged. -/
  | due {op : Operation} {attempts : List Attempt} {middle : Store} {logged : LogOperation}
    {bytes : Nat} {log : LogWriter} (mutation : op.isUpkeep = false)
    (moves : Moves (fun s => Operation.MayLog s op) s attempts middle)
    (allowed : op.MayLog middle logged)
    (durable : middle.handOver logged = (.ok bytes, log))
    (enough : middle.settings.log.checkpointThreshold
      < middle.bytesSinceCheckpoint + UInt64.ofNat bytes) :
    Checkpoints s (.perform op)
      (attempts ++ [{ record := middle.nextRecord logged, failure := none }])
      { middle.published logged log with
        bytesSinceCheckpoint := middle.bytesSinceCheckpoint + UInt64.ofNat bytes }
  | closing (isOpen : s.closed = false) :
    Checkpoints s (.perform .shutdown) [] { s with closed := true }
  | reopening {settings : StoreSettings} {now : Millis} (isOpen : s.closed = false) :
    Checkpoints s (.reopen settings now) [] { s with closed := true }
  /-- Records have been replayed when a store was opened after a shutdown. -/
  | reopened {settings : StoreSettings} {now : Millis} {recovered : Recovered}
    (found : recover s.filesAfterShutdown = .ok recovered) (left : recovered.maxId + 1 ≠ 0)
    (replayed : recovered.replayed ≠ 0) :
    Checkpoints s (.reopen settings now) [] (resume settings now s.filesAfterShutdown recovered)
  /-- Records have been replayed when a store was opened after the process had died. -/
  | crashed {settings : StoreSettings} {now : Millis} {recovered : Recovered}
    (found : recover s.files = .ok recovered) (left : recovered.maxId + 1 ≠ 0)
    (replayed : recovered.replayed ≠ 0) :
    Checkpoints s (.crash settings now) [] (resume settings now s.files recovered)

/-- A checkpoint begins with intact files if the event began with intact files. -/
theorem Intact.checkpoints {event : Event} {new : List Attempt} (h : s.Intact)
    (begins : Checkpoints s event new t) (good : Recoverable s.lsn.toNat new) : t.Intact := by
  cases begins with
  | asked => exact h
  | @due op attempts middle logged bytes log mutation moves allowed durable enough =>
    -- The checkpoint begins once the change has been logged and published.
    obtain ⟨intact, lsn⟩ := h.moves moves good.left
    have last := good.right
    have fits := last.fits _ (List.mem_singleton_self _)
    have room : middle.lsn.toNat + 1 < UInt64.size := by
      rw [lsn]
      exact last.room
    obtain ⟨-, -, file, -⟩ := handOver_ok durable
    exact (intact.published allowed.isSome_xid? fits room file).congr rfl rfl rfl
  | closing _ => exact h.congr rfl rfl rfl
  | reopening _ => exact h.congr rfl rfl rfl
  | reopened found _ _ => exact intact_resume _ _ found h.shutdown.whole
  | crashed found _ _ => exact intact_resume _ _ found h.whole

/-- Whatever happened to a store that was opened in an empty directory, and wherever within a
checkpoint or right after it the process dies: recovery finds in the files that are left the
sessions, the position and the time that the store held when the checkpoint began, and a number
that no number in these sessions exceeds. -/
theorem recovers_of_crash_in_checkpoint {settings : StoreSettings} {now : Millis} {start : Store}
    {events : List Event} {event : Event} {attempts new : List Attempt}
    (opened : openFiles settings now { snapshot := none, log := [] } = .ok start)
    (history : History start events attempts s) (begins : Checkpoints s event new t)
    (made : AllMade (attempts ++ new))
    (fits : ∀ attempt ∈ attempts ++ new,
      (Codec.record.encode attempt.record).length < UInt32.size)
    (room : (attempts ++ new).length < UInt64.size - 1) (cut : t.CheckpointCut files) :
    ∃ recovered, RecoveredFrom t files recovered := by
  obtain ⟨intact, lsn⟩ := intact_of_nothing opened
  have good : Recoverable start.lsn.toNat (attempts ++ new) := by
    refine ⟨made, fits, ?_⟩
    rw [lsn, UInt64.toNat_zero]
    omega
  obtain ⟨intact, lsn⟩ := intact.history history good.left
  exact (intact.checkpoints begins (lsn ▸ good.right)).recovers_of_cut cut

/-- A session is put, a checkpoint is asked for, and the process dies when three bytes of the marker
have been written: the session is found in the new snapshot. -/
theorem recovers_of_torn_marker :
    ∃ (start s : Store) (attempts : List Attempt) (recovered : Recovered),
      openFiles {} 0 { snapshot := none, log := [] } = .ok start
        ∧ History start [.perform (.put (Session.start "A" 1 "app" "tx" 1000))] attempts s
        ∧ (s.sessions.get? "A").isSome = true ∧ Checkpoints s (.perform .checkpoint) [] s
        ∧ AllMade (attempts ++ [])
        ∧ (∀ attempt ∈ attempts ++ [],
          (Codec.record.encode attempt.record).length < UInt32.size)
        ∧ (attempts ++ []).length < UInt64.size - 1
        ∧ RecoveredFrom s
          { snapshot := some s.image.write, log := (Frame.ofRecord s.marker).take 3 } recovered := by
  let start := resume {} 0 { snapshot := none, log := [] } (Recovered.ofSnapshot Snapshot.empty)
  let session := Session.start "A" 1 "app" "tx" 1000
  let s := ((Operation.put session).runOn start).2
  let attempts : List Attempt := [⟨start.nextRecord (start.upsertOf session), none⟩]
  have opened : openFiles {} 0 { snapshot := none, log := [] } = .ok start :=
    openFiles_nothing {} 0
  have valid : checkImage session.xid session = .ok () :=
    checkImage_of_no_branches (by decide) rfl
  have accepts : start.Accepts (start.upsertOf session) :=
    ⟨by decide, fun out => absurd out.2 (by decide)⟩
  obtain ⟨log, logged⟩ := exists_handOver rfl accepts
  obtain ⟨_, _, _, -, -, attempted⟩ := runOn_put rfl List.not_mem_nil valid logged
  have put : History start [.perform (.put session)] attempts s :=
    History.start.step (.perform attempted)
  have made : AllMade (attempts ++ []) := by simp [attempts, AllMade]
  have fits : ∀ attempt ∈ attempts ++ [],
      (Codec.record.encode attempt.record).length < UInt32.size := by
    intro attempt hattempt
    rw [List.append_nil] at hattempt
    rw [List.mem_singleton.1 hattempt]
    decide
  have running : s.log.running = true := by decide +kernel
  obtain ⟨_, emptied, _, -, nothing, -, after⟩ := afterSteps_of_running running
  have cut : s.CheckpointCut
      { snapshot := some s.image.write, log := (Frame.ofRecord s.marker).take 3 } := by
    have within := CheckpointCut.within (s := s) (by rw [after])
      (List.take_prefix 3 (Frame.ofRecord s.marker))
    rw [after, files, nothing, List.nil_append] at within
    exact within
  obtain ⟨recovered, found⟩ :=
    recovers_of_crash_in_checkpoint opened put .asked made fits (by decide) cut
  exact ⟨start, s, attempts, recovered, opened, put, by decide +kernel, .asked, made, fits,
    by decide, found⟩

end SessionRegistry.Store
