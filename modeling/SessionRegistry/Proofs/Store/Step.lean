import SessionRegistry.Proofs.Store.Recovery
import SessionRegistry.Store.Commit
import SessionRegistry.Store.Opening

/-!
# What the steps of a store do

The result of each small computation on a store, and the store that it leaves. A computation either
leaves the log's writer running with one more record behind its file, or it tells why not.

## Main results

* `run_bind`: a sequence of two computations.
* `LogWriter.appendDurable_cases`: what can become of a record that is to be made durable.
* `run_checkpoint_of_running`, `run_checkpoint_of_stopped`: a checkpoint.
* `run_shutdown_of_open`, `run_shutdown_of_closed`: a shutdown.
-/

namespace SessionRegistry

/-! ## Steps on a state -/

section Run

variable {σ α β : Type} (s : σ)

@[simp]
theorem run_pure (a : α) : (pure a : ExceptT Error (StateM σ) α).run.run s = (.ok a, s) :=
  rfl

@[simp]
theorem run_throw (e : Error) :
    (throw e : ExceptT Error (StateM σ) α).run.run s = (.error e, s) :=
  rfl

@[simp]
theorem run_get : (get : ExceptT Error (StateM σ) σ).run.run s = (.ok s, s) :=
  rfl

@[simp]
theorem run_modify (f : σ → σ) :
    (modify f : ExceptT Error (StateM σ) Unit).run.run s = (.ok (), f s) :=
  rfl

/-- The second computation runs on what the first one leaves, unless the first one fails. -/
theorem run_bind (act : ExceptT Error (StateM σ) α) (f : α → ExceptT Error (StateM σ) β) :
    (act >>= f).run.run s = match act.run.run s with
      | (.ok a, next) => (f a).run.run next
      | (.error e, next) => (.error e, next) := by
  show (ExceptT.bindCont f (act.run.run s).1).run (act.run.run s).2 = _
  obtain ⟨result, next⟩ := act.run.run s
  cases result <;> rfl

/-- The second computation of a sequence whose first one succeeds. -/
theorem run_bind_of_ok {act : ExceptT Error (StateM σ) α} {a : α} {next : σ}
    (f : α → ExceptT Error (StateM σ) β) (h : act.run.run s = (.ok a, next)) :
    (act >>= f).run.run s = (f a).run.run next := by
  rw [run_bind, h]

/-- A sequence fails with its first computation. -/
theorem run_bind_of_error {act : ExceptT Error (StateM σ) α} {e : Error} {next : σ}
    (f : α → ExceptT Error (StateM σ) β) (h : act.run.run s = (.error e, next)) :
    (act >>= f).run.run s = (.error e, next) := by
  rw [run_bind, h]

/-- A function of an answer changes nothing else. -/
theorem run_map (f : α → β) (act : ExceptT Error (StateM σ) α) :
    (f <$> act).run.run s = ((act.run.run s).1.map f, (act.run.run s).2) := by
  show (act >>= fun a => pure (f a)).run.run s = _
  rw [run_bind]
  obtain ⟨result, next⟩ := act.run.run s
  cases result <;> rfl

/-- Dropping an answer changes nothing else. -/
theorem run_discard (act : ExceptT Error (StateM σ) α) :
    (discard act).run.run s = ((act.run.run s).1.map fun _ => (), (act.run.run s).2) :=
  run_map s (fun _ => ()) act

end Run

/-! ## The log's writer -/

namespace LogWriter

variable (writer : LogWriter)

@[simp]
theorem file_sync : writer.sync.file = writer.file :=
  rfl

@[simp]
theorem settings_sync : writer.sync.settings = writer.settings :=
  rfl

/-- The frame of a record is in the file, and nothing has been synced since. -/
def entered (record : LogRecord) : LogWriter :=
  { writer with
    file := writer.file ++ Frame.ofRecord record
    unsynced := writer.unsynced + (Frame.ofRecord record).length
    writtenLsn := max writer.writtenLsn record.lsn }

/-- A written record is in the file, and is synced if a sync is due. -/
theorem write_eq (record : LogRecord) :
    writer.write record
      = if (writer.entered record).syncsAfterWrite then (writer.entered record).sync
        else writer.entered record :=
  rfl

/-- Writing a record puts its frame at the end of the file. -/
@[simp]
theorem file_write (record : LogRecord) :
    (writer.write record).file = writer.file ++ Frame.ofRecord record := by
  rw [write_eq]
  split <;> rfl

@[simp]
theorem running_write (record : LogRecord) : (writer.write record).running = writer.running := by
  rw [write_eq]
  split <;> rfl

@[simp]
theorem settings_write (record : LogRecord) : (writer.write record).settings = writer.settings := by
  rw [write_eq]
  split <;> rfl

@[simp]
theorem syncsWithinWait_write (record : LogRecord) :
    (writer.write record).syncsWithinWait = writer.syncsWithinWait := by
  rw [syncsWithinWait, settings_write]
  rfl

/-- A written record counts among the written positions. -/
theorem lsn_le_writtenLsn_write (record : LogRecord) :
    record.lsn ≤ (writer.write record).writtenLsn := by
  have entered : (writer.write record).writtenLsn = max writer.writtenLsn record.lsn := by
    rw [write_eq]
    split <;> rfl
  rw [entered, UInt64.le_iff_toNat_le, toNat_max]
  exact Nat.le_max_right ..

/-- The wait for a record passes in vain: the record is not durable when it has been written, and
no sync falls into the wait. -/
def TimesOut (record : LogRecord) : Prop :=
  (writer.write record).durableLsn < record.lsn ∧ writer.syncsWithinWait = false

instance (record : LogRecord) : Decidable (writer.TimesOut record) :=
  inferInstanceAs (Decidable (_ ∧ _))

/-- The wait passes in vain exactly if the write is not followed by a sync, the position was not
durable before, and no sync falls into the wait. -/
theorem timesOut_iff (record : LogRecord) :
    writer.TimesOut record ↔ (writer.entered record).syncsAfterWrite = false
      ∧ writer.durableLsn < record.lsn
      ∧ writer.settings.durableWait ≤ writer.settings.syncPeriod := by
  have within : writer.syncsWithinWait = false
      ↔ writer.settings.durableWait ≤ writer.settings.syncPeriod := by
    simp [syncsWithinWait]
  unfold TimesOut
  rw [within, write_eq]
  cases after : (writer.entered record).syncsAfterWrite with
  | true =>
    -- The sync that follows the write covers the position of the record.
    have synced : ¬ (writer.entered record).sync.durableLsn < record.lsn := by
      rw [UInt64.not_lt, UInt64.le_iff_toNat_le, sync, entered, toNat_max, toNat_max]
      omega
    simp [synced]
  | false => simp [entered]

theorem run_requireRunning (h : writer.running = true) :
    requireRunning.run.run writer = (.ok (), writer) := by
  rw [requireRunning, run_bind_of_ok writer _ (run_get writer), if_pos h, run_pure]

theorem run_requireRunning_of_stopped (h : writer.running = false) :
    requireRunning.run.run writer = (.error (.internal .logStopped), writer) := by
  have stopped : ¬ writer.running = true := by simp [h]
  rw [requireRunning, run_bind_of_ok writer _ (run_get writer), if_neg stopped, run_throw]

/-- A running writer takes a record. -/
theorem run_append (record : LogRecord) (h : writer.running = true) :
    (append record).run.run writer
      = (.ok (Frame.ofRecord record).length, writer.write record) := by
  rw [append, run_bind_of_ok writer _ (writer.run_requireRunning h)]
  rfl

/-- A stopped writer takes no record. -/
theorem run_append_of_stopped (record : LogRecord) (h : writer.running = false) :
    (append record).run.run writer = (.error (.internal .logStopped), writer) := by
  rw [append, run_bind_of_error writer _ (writer.run_requireRunning_of_stopped h)]

/-- The wait for a position: it is over at once, a sync falls into it, or it passes in vain. -/
theorem run_awaitDurable (lsn : Lsn) :
    (awaitDurable lsn).run.run writer =
      if lsn ≤ writer.durableLsn then (.ok (), writer)
      else if writer.syncsWithinWait then
        if lsn ≤ writer.sync.durableLsn then (.ok (), writer.sync)
        else (.error (.internal (.notDurable lsn writer.sync.durableLsn)), writer.sync)
      else (.error (.internal (.notDurable lsn writer.durableLsn)), writer) := by
  rw [awaitDurable, run_bind_of_ok writer _ (run_get writer)]
  -- The wait looks for three things in this order: a position that is durable already, a sync that
  -- falls into the wait, and a position that this sync covers.
  by_cases durable : lsn ≤ writer.durableLsn
  · rw [if_pos durable, if_pos durable, run_pure]
  · rw [if_neg durable, if_neg durable, run_bind_of_ok writer _ (run_get writer)]
    by_cases within : writer.syncsWithinWait = true
    · rw [if_pos within, if_pos within, run_bind_of_ok writer _ (run_modify writer sync),
        run_bind_of_ok writer.sync _ (run_get writer.sync)]
      by_cases synced : lsn ≤ writer.sync.durableLsn
      · rw [if_pos synced, if_pos synced, run_pure]
      · rw [if_neg synced, if_neg synced, run_throw]
    · rw [if_neg within, if_neg within]
      refine (run_bind_of_ok writer _ (run_get writer)).trans ?_
      rw [if_neg durable, run_throw]

/-- What can become of a record that is to be made durable: the writer has stopped, the record is
durable behind the file, or it is behind the file and the wait for it passed in vain. -/
theorem appendDurable_cases (record : LogRecord) :
    writer.running = false
        ∧ (appendDurable record).run.run writer = (.error (.internal .logStopped), writer)
      ∨ writer.running = true ∧ ¬ writer.TimesOut record
        ∧ (∃ after : LogWriter,
          (appendDurable record).run.run writer = (.ok (Frame.ofRecord record).length, after)
            ∧ after.file = writer.file ++ Frame.ofRecord record ∧ after.running = true
            ∧ after.settings = writer.settings)
      ∨ writer.running = true ∧ writer.TimesOut record
        ∧ (appendDurable record).run.run writer
          = (.error (.internal (.notDurable record.lsn (writer.write record).durableLsn)),
            writer.write record) := by
  cases running : writer.running with
  | false =>
    refine .inl ⟨rfl, ?_⟩
    rw [appendDurable, run_bind_of_error writer _ (writer.run_append_of_stopped record running)]
  | true =>
    have written := writer.run_append record running
    have still : (writer.write record).running = true := by rw [running_write, running]
    have waited := (writer.write record).run_awaitDurable record.lsn
    by_cases durable : record.lsn ≤ (writer.write record).durableLsn
    · -- The write itself was followed by a sync, or the position had been durable before.
      rw [if_pos durable] at waited
      have intime : ¬ writer.TimesOut record := fun out => UInt64.not_lt.2 durable out.1
      refine .inr (.inl ⟨rfl, intime, writer.write record, ?_, file_write .., still,
        settings_write ..⟩)
      rw [appendDurable, run_bind_of_ok writer _ written, run_bind_of_ok _ _ waited, run_pure]
    rw [if_neg durable, syncsWithinWait_write] at waited
    cases within : writer.syncsWithinWait with
    | true =>
      -- A sync falls into the wait, and it covers what has been written.
      have synced : record.lsn ≤ (writer.write record).sync.durableLsn := by
        have covered := UInt64.le_iff_toNat_le.1 (writer.lsn_le_writtenLsn_write record)
        rw [UInt64.le_iff_toNat_le, sync, toNat_max]
        omega
      rw [if_pos within, if_pos synced] at waited
      have intime : ¬ writer.TimesOut record := fun out => absurd out.2 (by simp [within])
      refine .inr (.inl ⟨rfl, intime, (writer.write record).sync, ?_, ?_, still, ?_⟩)
      · rw [appendDurable, run_bind_of_ok writer _ written, run_bind_of_ok _ _ waited, run_pure]
      · rw [file_sync, file_write]
      · rw [settings_sync, settings_write]
    | false =>
      -- Nothing makes the record durable in time. It stays behind the file.
      rw [if_neg (by simp [within])] at waited
      refine .inr (.inr ⟨rfl, ⟨UInt64.not_le.1 durable, within⟩, ?_⟩)
      rw [appendDurable, run_bind_of_ok writer _ written, run_bind_of_error _ _ waited]

@[simp]
theorem running_flush : writer.flush.running = writer.running := by
  unfold flush
  split <;> rfl

@[simp]
theorem settings_flush : writer.flush.settings = writer.settings := by
  unfold flush
  split <;> rfl

@[simp]
theorem file_flush : writer.flush.file = writer.file := by
  unfold flush
  split <;> rfl

/-- Syncing a running writer leaves its file. -/
theorem run_forceSync (h : writer.running = true) :
    ∃ (lsn : Lsn) (after : LogWriter), forceSync.run.run writer = (.ok lsn, after)
      ∧ after.file = writer.file ∧ after.running = true ∧ after.settings = writer.settings := by
  rw [forceSync, run_bind_of_ok writer _ (writer.run_requireRunning h),
    run_bind_of_ok writer _ (run_get writer)]
  -- With nothing to sync, the position is answered that has been durable before.
  by_cases nothing : writer.unsynced = 0
  · rw [if_pos nothing]
    exact ⟨_, writer, rfl, rfl, h, rfl⟩
  · rw [if_neg nothing]
    exact ⟨_, writer.sync, rfl, rfl, h, rfl⟩

/-- Emptying the file of a running writer. -/
theorem run_truncate (h : writer.running = true) :
    ∃ after : LogWriter, truncate.run.run writer = (.ok (), after)
      ∧ after.file = [] ∧ after.running = true ∧ after.settings = writer.settings := by
  refine ⟨{ writer.flush with file := [], unsynced := 0 }, ?_, rfl, ?_, settings_flush ..⟩
  · rw [truncate, run_bind_of_ok writer _ (writer.run_requireRunning h)]
    rfl
  · rw [running_flush, h]

@[simp]
theorem file_shutdown : writer.shutdown.file = writer.file := by
  unfold shutdown
  split
  · exact writer.file_flush
  · rfl

@[simp]
theorem running_shutdown : writer.shutdown.running = false := by
  unfold shutdown
  split <;> simp_all

end LogWriter

/-! ## Steps of a store -/

namespace Store

variable {α : Type} (s : Store)

@[simp]
theorem run_answer (result : Except Error α) : (answer result).run.run s = (result, s) := by
  cases result <;> rfl

@[simp]
theorem run_attempt (act : StoreM α) :
    (attempt act).run.run s = (.ok (act.run.run s).1, (act.run.run s).2) :=
  rfl

/-- A step of the log's writer changes nothing but the writer. -/
theorem run_onLog {step : LogM α} {result : Except Error α} {log : LogWriter}
    (h : step.run.run s.log = (result, log)) :
    (onLog step).run.run s = (result, { s with log }) := by
  rw [onLog, run_bind_of_ok s _ (run_get s), h]
  refine (run_bind_of_ok s _ (run_modify s _)).trans ?_
  rw [run_answer]

@[simp]
theorem run_writeSnapshot (snapshot : Snapshot) :
    (writeSnapshot snapshot).run.run s
      = (.ok (), { s with snapshotFile := some snapshot.write }) :=
  rfl

/-- A checkpoint of a store whose log is running leaves the image of the store in the snapshot file
and a marker in the log. -/
theorem run_checkpoint_of_running (h : s.log.running = true) :
    ∃ log : LogWriter, log.file = Frame.ofRecord s.marker ∧ log.running = true
      ∧ log.settings = s.log.settings
      ∧ checkpoint.run.run s = (.ok (),
        { s with snapshotFile := some s.image.write, bytesSinceCheckpoint := 0, log }) := by
  obtain ⟨_, synced, hsync, -, running, settings⟩ := s.log.run_forceSync h
  obtain ⟨emptied, htruncate, nothing, running, settings'⟩ := synced.run_truncate running
  have marked := emptied.run_append s.marker running
  -- Each step of the checkpoint runs on what the steps before it leave.
  refine ⟨emptied.write s.marker, ?_, ?_, ?_, ?_⟩
  · rw [LogWriter.file_write, nothing, List.nil_append]
  · rw [LogWriter.running_write, running]
  · rw [LogWriter.settings_write, settings', settings]
  · have step1 : (discard (onLog LogWriter.forceSync)).run.run s
        = (.ok (), { s with log := synced }) := by
      rw [run_discard, run_onLog s hsync, Except.map]
    rw [checkpoint, run_bind_of_ok s _ (run_get s), run_bind_of_ok s _ step1,
      run_bind_of_ok _ _ (run_writeSnapshot _ _), run_bind_of_ok _ _ (run_onLog _ htruncate),
      run_bind_of_ok _ _ (run_modify _ _), run_discard, run_onLog _ marked, Except.map]

/-- A checkpoint of a store whose log has stopped changes nothing. -/
theorem run_checkpoint_of_stopped (h : s.log.running = false) :
    checkpoint.run.run s = (.error (.internal .logStopped), s) := by
  have stopped : LogWriter.forceSync.run.run s.log = (.error (.internal .logStopped), s.log) := by
    rw [LogWriter.forceSync, run_bind_of_error s.log _ (s.log.run_requireRunning_of_stopped h)]
  have failed : (discard (onLog LogWriter.forceSync)).run.run s
      = (.error (.internal .logStopped), s) := by
    rw [run_discard, run_onLog s stopped, Except.map]
  rw [checkpoint, run_bind_of_ok s _ (run_get s), run_bind_of_error s _ failed]

/-- A checkpoint changes the files, the log's writer and the count of bytes, and keeps the writer
running with its settings. -/
theorem checkpoint_frame :
    ∃ (snapshotFile : Option String) (bytesSinceCheckpoint : UInt64) (log : LogWriter),
      (checkpoint.run.run s).2 = { s with snapshotFile, bytesSinceCheckpoint, log }
        ∧ log.running = s.log.running ∧ log.settings = s.log.settings := by
  by_cases running : s.log.running = true
  · obtain ⟨log, -, still, settings, run⟩ := s.run_checkpoint_of_running running
    exact ⟨_, _, log, by rw [run], by rw [still, running], settings⟩
  · rw [run_checkpoint_of_stopped s (by simpa using running)]
    exact ⟨_, _, _, rfl, rfl, rfl⟩

/-- A shutdown of a store that is open makes a checkpoint of it and stops its log. -/
theorem run_shutdown_of_open (h : s.closed = false) :
    shutdown.run.run s
      = ((checkpoint.run.run { s with closed := true }).1,
        { (checkpoint.run.run { s with closed := true }).2 with
          log := (checkpoint.run.run { s with closed := true }).2.log.shutdown }) := by
  have isOpen : ¬ s.closed = true := by simp [h]
  rw [shutdown, run_bind_of_ok s _ (run_get s), if_neg isOpen]
  refine (run_bind_of_ok s _ (run_modify s _)).trans ?_
  rw [run_bind_of_ok _ _ (run_attempt _ checkpoint), run_bind_of_ok _ _ (run_modify _ _),
    run_answer]

/-- A second shutdown does nothing. -/
theorem run_shutdown_of_closed (h : s.closed = true) : shutdown.run.run s = (.ok (), s) := by
  rw [shutdown, run_bind_of_ok s _ (run_get s), if_pos h, run_pure]

/-- A shutdown closes the store and otherwise changes what a checkpoint changes. The writer runs
after it only if the store had been closed before. -/
theorem shutdown_frame :
    ∃ (snapshotFile : Option String) (bytesSinceCheckpoint : UInt64) (log : LogWriter),
      (shutdown.run.run s).2 = { s with snapshotFile, bytesSinceCheckpoint, log, closed := true }
        ∧ (s.closed = false ∨ s.log.running = false → log.running = false) := by
  by_cases closed : s.closed = true
  · -- Nothing happens, and in particular the writer is left as it is.
    rw [run_shutdown_of_closed s closed]
    refine ⟨s.snapshotFile, s.bytesSinceCheckpoint, s.log, ?_, fun h => ?_⟩
    · obtain ⟨⟩ := s
      cases closed
      rfl
    · exact h.resolve_left (by simp [closed])
  · obtain ⟨snapshotFile, bytes, log, frame, -⟩ := checkpoint_frame { s with closed := true }
    rw [run_shutdown_of_open s (by simpa using closed), frame]
    exact ⟨snapshotFile, bytes, log.shutdown, rfl, fun _ => log.running_shutdown⟩

/-- After the bytes of a change have been counted, a checkpoint may follow. -/
theorem run_countBytes (bytes : Nat) :
    (countBytes bytes).run.run s =
      (.ok (),
        let counted :=
          { s with bytesSinceCheckpoint := s.bytesSinceCheckpoint + UInt64.ofNat bytes }
        if counted.settings.log.checkpointThreshold < counted.bytesSinceCheckpoint then
          (checkpoint.run.run counted).2
        else counted) := by
  rw [countBytes, run_bind_of_ok s _ (run_modify s _), run_bind_of_ok _ _ (run_get _)]
  split
  · next due =>
    rw [if_pos due, run_discard, run_attempt, Except.map]
  · next notDue => rw [if_neg notDue, run_pure]

/-- No checkpoint follows as long as not enough bytes have been logged. -/
theorem run_countBytes_of_few {bytes : Nat}
    (h : ¬ s.settings.log.checkpointThreshold < s.bytesSinceCheckpoint + UInt64.ofNat bytes) :
    (countBytes bytes).run.run s
      = (.ok (), { s with
          bytesSinceCheckpoint := s.bytesSinceCheckpoint + UInt64.ofNat bytes }) := by
  rw [run_countBytes]
  dsimp only
  rw [if_neg h]

/-- Counting the bytes of a change changes what a checkpoint changes. -/
theorem countBytes_frame (bytes : Nat) :
    ∃ (snapshotFile : Option String) (bytesSinceCheckpoint : UInt64) (log : LogWriter),
      ((countBytes bytes).run.run s).2 = { s with snapshotFile, bytesSinceCheckpoint, log }
        ∧ log.running = s.log.running ∧ log.settings = s.log.settings := by
  rw [run_countBytes]
  dsimp only
  split
  · exact checkpoint_frame _
  · exact ⟨_, _, _, rfl, rfl, rfl⟩

/-- What can become of taking a lock: the store is closed, the lock is held, or it is taken. -/
theorem run_lock_cases (xid : Xid) :
    s.closed = true ∧ (lock xid).run.run s = (.error (.internal .storeClosed), s)
      ∨ s.closed = false ∧ xid ∈ s.locks.held
        ∧ (lock xid).run.run s = (.error (.busy xid s.settings.lockWait), s)
      ∨ s.closed = false ∧ ∃ locks : LockTable,
        s.locks.acquire xid s.settings.lockWait = .ok locks
          ∧ (lock xid).run.run s = (.ok (), { s with locks }) := by
  by_cases closed : s.closed = true
  · have refused : requireOpen.run.run s = (.error (.internal .storeClosed), s) := by
      rw [requireOpen, run_bind_of_ok s _ (run_get s), if_pos closed, run_throw]
    exact .inl ⟨closed, by rw [lock, run_bind_of_error s _ refused]⟩
  have isOpen : s.closed = false := by simpa using closed
  have passed : requireOpen.run.run s = (.ok (), s) := by
    rw [requireOpen, run_bind_of_ok s _ (run_get s), if_neg closed, run_pure]
  -- An open store gives the lock exactly if nobody holds it.
  by_cases held : xid ∈ s.locks.held
  · have busy : s.locks.acquire xid s.settings.lockWait
        = .error (.busy xid s.settings.lockWait) := dif_pos held
    refine .inr (.inl ⟨isOpen, held, ?_⟩)
    rw [lock, run_bind_of_ok s _ passed, run_bind_of_ok s _ (run_get s), busy,
      run_bind_of_error s _ (run_answer s _)]
  · have free : s.locks.acquire xid s.settings.lockWait
        = .ok { held := xid :: s.locks.held, nodup := List.nodup_cons.2 ⟨held, s.locks.nodup⟩ } :=
      dif_neg held
    refine .inr (.inr ⟨isOpen, _, free, ?_⟩)
    rw [lock, run_bind_of_ok s _ passed, run_bind_of_ok s _ (run_get s), free,
      run_bind_of_ok s _ (run_answer s _), run_modify]

/-- Giving a lock back and passing an answer on. -/
theorem run_unlock_answer (xid : Xid) (result : Except Error α) :
    (do unlock xid; answer result : StoreM α).run.run s
      = (result, { s with locks := s.locks.release xid }) := by
  rw [unlock, run_bind_of_ok s _ (run_modify s _), run_answer]

/-- What can become of doing something under a lock: the store is closed, the lock is held, or it is
taken and given back afterwards. -/
theorem run_withLock_cases (act : StoreM α) (xid : Xid) :
    s.closed = true ∧ (withLock xid act).run.run s = (.error (.internal .storeClosed), s)
      ∨ s.closed = false ∧ xid ∈ s.locks.held
        ∧ (withLock xid act).run.run s = (.error (.busy xid s.settings.lockWait), s)
      ∨ s.closed = false ∧ ∃ locks : LockTable,
        (withLock xid act).run.run s = ((act.run.run { s with locks }).1,
          { (act.run.run { s with locks }).2 with
            locks := (act.run.run { s with locks }).2.locks.release xid }) := by
  unfold withLock
  rcases s.run_lock_cases xid with ⟨closed, run⟩ | ⟨isOpen, held, run⟩ | ⟨isOpen, locks, -, run⟩
  · exact .inl ⟨closed, run_bind_of_error s _ run⟩
  · exact .inr (.inl ⟨isOpen, held, run_bind_of_error s _ run⟩)
  · refine .inr (.inr ⟨isOpen, locks, ?_⟩)
    rw [run_bind_of_ok s _ run, run_bind_of_ok _ _ (run_attempt _ act), run_unlock_answer]

/-- What is done under a free lock of an open store. -/
theorem run_withLock_of_free (act : StoreM α) {xid : Xid} (isOpen : s.closed = false)
    (free : xid ∉ s.locks.held) :
    ∃ locks : LockTable, ∀ {result : Except Error α} {next : Store},
      act.run.run { s with locks } = (result, next) →
        (withLock xid act).run.run s = (result, { next with locks := next.locks.release xid }) := by
  rcases s.run_withLock_cases act xid with ⟨closed, -⟩ | ⟨-, held, -⟩ | ⟨-, locks, run⟩
  · simp [isOpen] at closed
  · exact absurd held free
  · exact ⟨locks, fun {result next} h => by rw [run, h]⟩

end Store

end SessionRegistry
