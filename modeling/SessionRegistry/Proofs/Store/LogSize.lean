import SessionRegistry.Proofs.Log.Cut
import SessionRegistry.Proofs.Store.Intact

/-!
# Checkpoints bound the log

A store counts the bytes that it logs, and makes a checkpoint as soon as they are more than its
threshold. The count is kept in memory, apart from the file: a store that is opened counts from zero
on whatever the log holds, and the marker that a checkpoint writes is not counted. The log is
nevertheless never longer than the threshold and one marker together. The count and the marker of the
last checkpoint account for all of it, and a longer log that a crash leaves behind holds a record that
is replayed, so that the store which is opened on it begins with a checkpoint.

Only for thresholds of `2 ^ 32` bytes and more, and only where the process may die, records are
assumed to have fewer than `2 ^ 32` bytes. That is the limit of the format of the log: a frame holds
the length of its record in four bytes, and a longer record is not replayed.

## Main definitions

* `Event.Configures`: a store that is opened works with a given threshold.
* `Store.LogLimits`: what the widths of the numbers in a store and in its log allow.
* `Store.Short`: what is counted and what is in the log.

## Main results

* `Short.checkpoint`, `Short.move`, `Short.of_open`: what keeps the log short.
* `Short.history`: the log stays short over every history.
* `length_log_le`: the log is at most as long as the threshold and one marker.
-/

namespace SessionRegistry

/-- A store that an event opens makes its checkpoints at the given threshold. -/
def Event.Configures (threshold : UInt64) : Event → Prop
  | reopen settings _ => settings.log.checkpointThreshold = threshold
  | crash settings _ => settings.log.checkpointThreshold = threshold
  | _ => True

namespace Store

variable {exposed : Prop} {threshold : UInt64} {s next start : Store} {past new : List Attempt}

/-- The number of bytes of the marker that a checkpoint leaves in the log. -/
def markerLength : Nat := 32

theorem length_ofRecord_marker (s : Store) : (Frame.ofRecord s.marker).length = markerLength := by
  rw [Frame.ofRecord, Frame.length_wrap]
  simp [marker, Codec.record, Codec.iso, Codec.pair, Codec.uint64, Codec.operation, markerLength]

/-- The bytes of the frames of all records that were handed to the log. -/
def loggedBytes (attempts : List Attempt) : Nat :=
  (attempts.flatMap fun attempt => Frame.ofRecord attempt.record).length

/-- What the widths of the numbers in a store and in its log allow. The count of bytes has 64 bits,
which are enough if all frames together are shorter than that, or each of them on top of the
threshold. A position has 64 bits, and the length in front of a record has 32. These two matter only
where the process may die, and the length of a record only if the threshold is higher: the other
records are followed by a checkpoint at once. -/
structure LogLimits (threshold : UInt64) (exposed : Prop) (attempts : List Attempt) : Prop where
  counted : loggedBytes attempts < UInt64.size ∨
    ∀ attempt ∈ attempts, threshold.toNat + (Frame.ofRecord attempt.record).length < UInt64.size
  room : exposed → attempts.length < UInt64.size
  fits : exposed → threshold.toNat < UInt32.size ∨
    ∀ attempt ∈ attempts, Frame.Fits attempt.record

theorem loggedBytes_append (past new : List Attempt) :
    loggedBytes (past ++ new) = loggedBytes past + loggedBytes new := by
  rw [loggedBytes, List.flatMap_append, List.length_append]
  rfl

theorem loggedBytes_singleton (attempt : Attempt) :
    loggedBytes [attempt] = (Frame.ofRecord attempt.record).length := by
  simp [loggedBytes]

theorem LogLimits.left (h : LogLimits threshold exposed (past ++ new)) :
    LogLimits threshold exposed past where
  counted := by
    refine h.counted.imp (fun few => ?_) fun each attempt hattempt =>
      each attempt (List.mem_append_left _ hattempt)
    rw [loggedBytes_append] at few
    exact Nat.lt_of_le_of_lt (Nat.le_add_right _ _) few
  room mayDie := by
    have room := h.room mayDie
    rw [List.length_append] at room
    exact Nat.lt_of_le_of_lt (Nat.le_add_right _ _) room
  fits mayDie := (h.fits mayDie).imp_right fun each attempt hattempt =>
    each attempt (List.mem_append_left _ hattempt)

/-- The count of bytes does not overflow when those of one more record are added. -/
theorem LogLimits.toNat_add {attempt : Attempt} {count : UInt64}
    (h : LogLimits threshold exposed (past ++ [attempt])) (counted : count ≤ threshold)
    (logged : count.toNat ≤ loggedBytes past) :
    (count + UInt64.ofNat (Frame.ofRecord attempt.record).length).toNat
      = count.toNat + (Frame.ofRecord attempt.record).length := by
  have below := UInt64.le_iff_toNat_le.1 counted
  apply toNat_add_ofNat
  rcases h.counted with few | each
  · rw [loggedBytes_append, loggedBytes_singleton] at few
    omega
  · have one := each attempt (List.mem_append_right _ (List.mem_singleton_self _))
    omega

/-! ## What is counted and what is in the log -/

/-- The files of a store are intact, and a log that holds more than a marker holds a record that is
replayed. -/
structure Replayable (s : Store) : Prop where
  intact : s.Intact
  replayed : markerLength < s.log.file.length →
    ∃ recovered, recover s.files = .ok recovered ∧ recovered.replayed ≠ 0

/-- The log of a store is short: the bytes counted since the last checkpoint and a marker account for
it, and they are no more than the threshold. A store that is closed has left a marker at most. Where
the process may die, a log that is longer than a marker is replayed, and each attempt has taken one
position. -/
structure Short (threshold : UInt64) (exposed : Prop) (past : List Attempt) (s : Store) : Prop where
  configured : s.settings.log.checkpointThreshold = threshold
  running : s.log.running = !s.closed
  counted : s.bytesSinceCheckpoint ≤ threshold
  logged : s.bytesSinceCheckpoint.toNat ≤ loggedBytes past
  length : s.log.file.length ≤ s.bytesSinceCheckpoint.toNat + markerLength
  ended : s.closed = true → s.log.file.length ≤ markerLength
  replayable : exposed → s.Replayable
  position : exposed → s.lsn.toNat = past.length

namespace Short

/-- A store that has counted nothing and holds at most a marker in its log. -/
theorem of_marker (configured : s.settings.log.checkpointThreshold = threshold)
    (running : s.log.running = !s.closed) (counted : s.bytesSinceCheckpoint = 0)
    (length : s.log.file.length ≤ markerLength) (intact : exposed → s.Intact)
    (position : exposed → s.lsn.toNat = past.length) : Short threshold exposed past s where
  configured := configured
  running := running
  counted := by
    rw [counted, UInt64.le_iff_toNat_le]
    exact Nat.zero_le _
  logged := by
    rw [counted]
    exact Nat.zero_le _
  length := Nat.le_trans length (Nat.le_add_left _ _)
  ended _ := length
  replayable mayDie := ⟨intact mayDie, fun longer => absurd length (Nat.not_le_of_lt longer)⟩
  position := position

/-- The log of a store that is short is no longer than the threshold and a marker. -/
theorem length_le (h : Short threshold exposed past s) :
    s.log.file.length ≤ threshold.toNat + (Frame.ofRecord s.marker).length := by
  rw [length_ofRecord_marker]
  exact Nat.le_trans h.length (Nat.add_le_add_right (UInt64.le_iff_toNat_le.1 h.counted) _)

/-- Only the counters and the files of a store matter. -/
theorem aside (h : Short threshold exposed past s) (locks : LockTable) (trail : List Notice)
    (nextId : UInt64) (clock : Millis) :
    Short threshold exposed past { s with locks, trail, nextId, clock } where
  configured := h.configured
  running := h.running
  counted := h.counted
  logged := h.logged
  length := h.length
  ended := h.ended
  replayable mayDie := ⟨(h.replayable mayDie).intact.congr rfl rfl rfl, (h.replayable mayDie).replayed⟩
  position := h.position

/-! ## Checkpoints -/

/-- A checkpoint of a store whose log is running leaves a marker in the log. -/
theorem checkpoint_of_running (configured : s.settings.log.checkpointThreshold = threshold)
    (running : s.log.running = true) (isOpen : s.closed = false)
    (position : exposed → s.lsn.toNat = past.length) :
    Short threshold exposed past (Store.checkpoint.run.run s).2 := by
  have intact := intact_checkpoint running
  obtain ⟨log, file, still, -, run⟩ := s.run_checkpoint_of_running running
  rw [run] at intact ⊢
  have length := (congrArg List.length file).trans (length_ofRecord_marker s)
  exact of_marker configured (still.trans (by rw [isOpen]; rfl)) rfl (Nat.le_of_eq length)
    (fun _ => intact) position

/-- A checkpoint keeps the log short. It fails only in a store that is closed, and writes nothing
there. -/
theorem checkpoint (h : Short threshold exposed past s) :
    Short threshold exposed past (Store.checkpoint.run.run s).2 := by
  cases closed : s.closed with
  | true =>
    have stopped : s.log.running = false := h.running.trans (congrArg not closed)
    rw [run_checkpoint_of_stopped s stopped]
    exact h
  | false =>
    have running : s.log.running = true := h.running.trans (congrArg not closed)
    exact checkpoint_of_running h.configured running closed h.position

/-- A shutdown leaves a marker at most, so that the next store may count from zero on. -/
theorem shutdown (h : Short threshold exposed past s) :
    Short threshold exposed past (Store.shutdown.run.run s).2
      ∧ (Store.shutdown.run.run s).2.log.file.length ≤ markerLength := by
  cases closed : s.closed with
  | true =>
    rw [run_shutdown_of_closed s closed]
    exact ⟨h, h.ended closed⟩
  | false =>
    have running : s.log.running = true := h.running.trans (congrArg not closed)
    -- The store counts as closed already while the checkpoint runs.
    have intact := intact_checkpoint (s := { s with closed := true }) running
    obtain ⟨log, file, -, -, run⟩ := run_checkpoint_of_running { s with closed := true } running
    rw [run] at intact
    rw [run_shutdown_of_open s closed, run]
    have length : log.shutdown.file.length = markerLength := by
      rw [LogWriter.file_shutdown, file, length_ofRecord_marker]
    refine ⟨of_marker h.configured log.running_shutdown rfl (Nat.le_of_eq length) (fun _ => ?_)
      h.position, Nat.le_of_eq length⟩
    refine intact.congr ?_ rfl rfl
    rw [files, LogWriter.file_shutdown]
    rfl

/-! ## Changes -/

/-- A change whose bytes are no reason for a checkpoint stays in the log, and is replayed from it. -/
theorem published {op : LogOperation} {log : LogWriter} {attempt : Attempt} {count : UInt64}
    (h : Short threshold exposed past s) (isOpen : s.closed = false) (hop : op.xid?.isSome)
    (record : attempt.record = s.nextRecord op)
    (file : log.file = s.log.file ++ Frame.ofRecord (s.nextRecord op)) (still : log.running = true)
    (total : count.toNat
      = s.bytesSinceCheckpoint.toNat + (Frame.ofRecord (s.nextRecord op)).length)
    (few : count ≤ threshold) (limits : LogLimits threshold exposed (past ++ [attempt]))
    (position : exposed → (s.lsn + 1).toNat = (past ++ [attempt]).length) :
    Short threshold exposed (past ++ [attempt])
      { s.published op log with bytesSinceCheckpoint := count } where
  configured := h.configured
  running := still.trans (by rw [Store.published, isOpen]; rfl)
  counted := few
  logged := by
    have logged := h.logged
    rw [loggedBytes_append, loggedBytes_singleton, record]
    show count.toNat ≤ _
    omega
  length := by
    have length := h.length
    show log.file.length ≤ count.toNat + markerLength
    rw [file, List.length_append]
    omega
  ended closed := by
    rw [Store.published, isOpen] at closed
    cases closed
  replayable mayDie := by
    have below := UInt64.le_iff_toNat_le.1 few
    have intact := (h.replayable mayDie).intact
    -- A record that is too long for its frame is longer than the threshold.
    have fits : Frame.Fits (s.nextRecord op) := by
      rcases limits.fits mayDie with low | each
      · rw [Frame.ofRecord, Frame.length_wrap] at total
        unfold Frame.Fits
        omega
      · exact record ▸ each attempt (List.mem_append_right _ (List.mem_singleton_self _))
    have room : s.lsn.toNat + 1 < UInt64.size := by
      have room := limits.room mayDie
      rw [List.length_append, List.length_singleton, ← h.position mayDie] at room
      exact room
    obtain ⟨recovered, found, -⟩ := intact.recovers
    refine ⟨(intact.published hop fits room file).congr rfl rfl rfl, fun _ => ?_⟩
    refine ⟨_, intact.recover_published found fits room file, ?_⟩
    rw [Recovered.replayed_replay]
    exact Nat.succ_ne_zero _
  position := position

/-- A move keeps the log short. -/
theorem move {op : Operation} (h : Short threshold exposed past s)
    (move : Move (fun s => Operation.MayLog s op) s new next) (made : AllMade new)
    (limits : LogLimits threshold exposed (past ++ new)) :
    Short threshold exposed (past ++ new) next := by
  cases move with
  | lock locks =>
    rw [List.append_nil]
    exact h.aside locks s.trail s.nextId s.clock
  | tell notice =>
    rw [List.append_nil]
    exact h.aside s.locks _ s.nextId s.clock
  | takeId =>
    rw [List.append_nil]
    exact h.aside s.locks s.trail _ s.clock
  | fail _ _ => cases made _ (List.mem_singleton_self _)
  | @change op bytes log allowed logged =>
    obtain ⟨running, accepts, file, still⟩ := handOver_ok logged
    obtain ⟨log', logged'⟩ := exists_handOver running accepts
    obtain ⟨size, -⟩ := Prod.mk.inj (logged'.symm.trans logged)
    obtain rfl := Except.ok.inj size
    have isOpen : s.closed = false := by
      have closed := h.running
      rw [running] at closed
      simpa using closed.symm
    have total := limits.toNat_add h.counted h.logged
    have position (mayDie : exposed) :
        (s.lsn + 1).toNat = (past ++ [Attempt.mk (s.nextRecord op) none]).length := by
      have room := limits.room mayDie
      rw [List.length_append, List.length_singleton, ← h.position mayDie] at room ⊢
      rw [UInt64.toNat_add, UInt64.toNat_one, Nat.mod_eq_of_lt room]
    rw [run_countBytes]
    dsimp only
    -- The log may be of any length until the checkpoint that follows is made.
    split
    · exact checkpoint_of_running h.configured still isOpen position
    · next few =>
      rw [UInt64.not_lt] at few
      exact h.published isOpen allowed.isSome_xid? rfl file still total (h.configured ▸ few) limits
        position

/-- Moves keep the log short. -/
theorem moves {op : Operation} (h : Short threshold exposed past s)
    (moves : Moves (fun s => Operation.MayLog s op) s new next) (made : AllMade new)
    (limits : LogLimits threshold exposed (past ++ new)) :
    Short threshold exposed (past ++ new) next := by
  induction moves generalizing past with
  | refl s =>
    rw [List.append_nil]
    exact h
  | cons move _ ih =>
    obtain ⟨first, more⟩ := allMade_append.1 made
    rw [← List.append_assoc] at limits ⊢
    exact ih (h.move move first limits.left) more limits

/-! ## Opening -/

/-- The log of a store that is opened is short if there was at most a marker in it, or if something in
it is replayed. -/
theorem of_open {files : Files} {settings : StoreSettings} {now : Millis}
    (configured : settings.log.checkpointThreshold = threshold)
    (opened : openFiles settings now files = .ok next)
    (short : files.log.length ≤ markerLength ∨
      ∃ recovered, recover files = .ok recovered ∧ recovered.replayed ≠ 0)
    (intact : exposed → next.Intact) (position : exposed → next.lsn.toNat = past.length) :
    Short threshold exposed past next := by
  obtain ⟨recovered, found, -, ⟨nothing, rfl⟩ | ⟨-, rfl⟩⟩ := of_openFiles_eq_ok opened
  · -- The log stays as it is, and the store counts from zero on.
    have length : files.log.length ≤ markerLength := by
      refine short.resolve_right ?_
      rintro ⟨recovered', found', something⟩
      cases found.symm.trans found'
      exact something nothing
    exact of_marker configured rfl rfl length intact position
  · obtain ⟨log, file, still, -, run⟩ :=
      run_checkpoint_of_running (resume settings now files recovered) rfl
    rw [run] at intact position ⊢
    refine of_marker configured still rfl ?_ intact position
    exact Nat.le_of_eq ((congrArg List.length file).trans (length_ofRecord_marker _))

/-- The log of a store that is opened in an empty directory is short. -/
theorem of_nothing {settings : StoreSettings} {now : Millis}
    (configured : settings.log.checkpointThreshold = threshold)
    (opened : openFiles settings now { snapshot := none, log := [] } = .ok start) :
    Short threshold exposed [] start := by
  obtain ⟨intact, lsn⟩ := intact_of_nothing opened
  refine of_open configured opened (.inl (Nat.zero_le _)) (fun _ => intact) fun _ => ?_
  rw [lsn]
  rfl

/-- The log of the store that is opened after a shutdown is short. -/
theorem reopen {settings : StoreSettings} {now : Millis} (h : Short threshold exposed past s)
    (configured : settings.log.checkpointThreshold = threshold)
    (opened : openFiles settings now s.filesAfterShutdown = .ok next) :
    Short threshold exposed past next := by
  obtain ⟨closed, length⟩ := h.shutdown
  refine of_open configured opened (.inl length)
    (fun mayDie => ((closed.replayable mayDie).intact.of_open opened).1) fun mayDie => ?_
  rw [((closed.replayable mayDie).intact.of_open opened).2]
  exact closed.position mayDie

/-- The log of the store that is opened after the process died is short. -/
theorem crash {settings : StoreSettings} {now : Millis} (h : Short threshold exposed past s)
    (mayDie : exposed) (configured : settings.log.checkpointThreshold = threshold)
    (opened : openFiles settings now s.files = .ok next) : Short threshold exposed past next := by
  have replayable := h.replayable mayDie
  obtain ⟨intact, lsn⟩ := replayable.intact.of_open opened
  refine of_open configured opened ?_ (fun _ => intact) fun _ => lsn.trans (h.position mayDie)
  exact (Nat.lt_or_ge _ _).symm.imp_right replayable.replayed

/-! ## Histories -/

/-- An event keeps the log short, if a store that it opens has the same threshold. -/
theorem event {event : Event} (h : Short threshold exposed past s) (happens : Next s event new next)
    (configures : event.Configures threshold)
    (dies : ∀ settings now, event = .crash settings now → exposed) (made : AllMade new)
    (limits : LogLimits threshold exposed (past ++ new)) :
    Short threshold exposed (past ++ new) next := by
  cases happens with
  | @perform op _ attempted =>
    cases attempted with
    | upkeep upkeep =>
      rw [List.append_nil]
      rcases op.runOn_of_isUpkeep upkeep s with same | same
      · exact same ▸ h.checkpoint
      · exact same ▸ h.shutdown.1
    | moves _ _ moves _ => exact h.moves moves made limits
  | hold locks =>
    rw [List.append_nil]
    exact h.aside locks s.trail s.nextId s.clock
  | tick now =>
    rw [List.append_nil]
    exact h.aside s.locks s.trail s.nextId now
  | reopen opened =>
    rw [List.append_nil]
    exact h.reopen configures opened
  | crash opened =>
    rw [List.append_nil]
    exact h.crash (dies _ _ rfl) configures opened

/-- The log stays short over every history whose changes are made, if every store that is opened in
it has the same threshold. -/
theorem history {events : List Event} {attempts : List Attempt}
    (h : Short threshold exposed [] start) (history : History start events attempts s)
    (configures : ∀ event ∈ events, event.Configures threshold)
    (dies : ∀ settings now, .crash settings now ∈ events → exposed) (made : AllMade attempts)
    (limits : LogLimits threshold exposed attempts) : Short threshold exposed attempts s := by
  induction history with
  | start => exact h
  | @step events event past new _ _ _ happens ih =>
    obtain ⟨first, last⟩ := allMade_append.1 made
    have before := ih (fun event hevent => configures event (List.mem_append_left _ hevent))
      (fun settings now hevent => dies settings now (List.mem_append_left _ hevent)) first
      limits.left
    have mem : event ∈ events ++ [event] := List.mem_append_right _ (List.mem_singleton_self _)
    exact before.event happens (configures event mem) (fun settings now same =>
      dies settings now (same ▸ mem)) last limits

end Short

/-- Checkpoints bound the log: over every history of a store that was opened in an empty directory,
in which every store is opened with the same threshold and the changes that are attempted are made,
the log is at most as long as the threshold and the marker of one checkpoint. The records may be of
any size if the threshold is below the longest record that a frame can hold. -/
theorem length_log_le {settings : StoreSettings} {now : Millis} {events : List Event}
    {attempts : List Attempt}
    (opened : openFiles settings now { snapshot := none, log := [] } = .ok start)
    (configured : settings.log.checkpointThreshold = threshold)
    (configures : ∀ event ∈ events, event.Configures threshold)
    (history : History start events attempts s) (made : AllMade attempts)
    (limits : LogLimits threshold (∃ settings now, .crash settings now ∈ events) attempts) :
    s.log.file.length ≤ threshold.toNat + (Frame.ofRecord s.marker).length := by
  have first : Short threshold (∃ settings now, .crash settings now ∈ events) [] start :=
    .of_nothing configured opened
  have last := first.history history configures (fun settings now dies => ⟨settings, now, dies⟩)
    made limits
  exact last.length_le

/-- Three sessions are put into a store with a threshold of 150 bytes, and its process dies: a history
whose second change is followed by a checkpoint and whose third one is replayed. -/
theorem length_log_le_of_puts_and_crash :
    ∃ (settings : StoreSettings) (start s : Store) (events : List Event) (attempts : List Attempt),
      openFiles settings 0 { snapshot := none, log := [] } = .ok start
        ∧ settings.log.checkpointThreshold = 150
        ∧ events = [.perform (.put (Session.start "A" 1 "app" "tx" 1000)),
          .perform (.put (Session.start "B" 1 "app" "tx" 1000)),
          .perform (.put (Session.start "C" 1 "app" "tx" 1000)), .crash settings 5]
        ∧ (∀ event ∈ events, event.Configures 150)
        ∧ History start events attempts s ∧ AllMade attempts
        ∧ LogLimits 150 (∃ settings now, .crash settings now ∈ events) attempts
        ∧ s.log.file.length ≤ UInt64.toNat 150 + (Frame.ofRecord s.marker).length := by
  let settings : StoreSettings := { log := { checkpointThreshold := 150 } }
  let start :=
    resume settings 0 { snapshot := none, log := [] } (Recovered.ofSnapshot Snapshot.empty)
  let image (xid : Xid) := Session.start xid 1 "app" "tx" 1000
  let one := ((Operation.put (image "A")).runOn start).2
  let two := ((Operation.put (image "B")).runOn one).2
  let three := ((Operation.put (image "C")).runOn two).2
  let attempt (s : Store) (xid : Xid) : Attempt := ⟨s.nextRecord (s.upsertOf (image xid)), none⟩
  have opened : openFiles settings 0 { snapshot := none, log := [] } = .ok start :=
    openFiles_nothing settings 0
  have valid : ∀ xid ∈ ["A", "B", "C"], checkImage (image xid).xid (image xid) = .ok () := by
    intro xid hxid
    exact checkImage_of_no_branches (by revert xid; decide) rfl
  have put1 : Next start (.perform (.put (image "A"))) [attempt start "A"] one :=
    next_put rfl (by decide +kernel) (valid "A" (by simp)) rfl (by decide +kernel)
  have put2 : Next one (.perform (.put (image "B"))) [attempt one "B"] two :=
    next_put (by decide +kernel) (by decide +kernel) (valid "B" (by simp)) (by decide +kernel)
      (by decide +kernel)
  have put3 : Next two (.perform (.put (image "C"))) [attempt two "C"] three :=
    next_put (by decide +kernel) (by decide +kernel) (valid "C" (by simp)) (by decide +kernel)
      (by decide +kernel)
  let attempts := [attempt start "A", attempt one "B", attempt two "C"]
  let events : List Event := [.perform (.put (image "A")), .perform (.put (image "B")),
    .perform (.put (image "C")), .crash settings 5]
  have history := ((History.start.step put1).step put2).step put3
  have made : AllMade attempts := by simp [AllMade, attempts, attempt]
  have length : ∀ attempt ∈ attempts, (Frame.ofRecord attempt.record).length = 107 := by
    decide +kernel
  have fits : ∀ attempt ∈ attempts, Frame.Fits attempt.record := by
    intro attempt hattempt
    have length := length attempt hattempt
    rw [Frame.ofRecord, Frame.length_wrap] at length
    rw [Frame.Fits, UInt32.size]
    omega
  have limits : LogLimits 150 (∃ settings now, .crash settings now ∈ events) attempts := by
    refine ⟨.inr fun attempt hattempt => ?_, fun _ => by decide, fun _ => .inl (by decide)⟩
    rw [length attempt hattempt]
    decide
  have configures : ∀ event ∈ events, event.Configures 150 := by
    simp [events, settings, Event.Configures]
  -- The process may die now, because the files are intact and no number beyond one is in use.
  obtain ⟨intact1, few1⟩ : one.Intact ∧ one.UpTo 1 :=
    (UpTo.of_nothing settings 0 1).put (intact_of_nothing opened).1 (by decide) rfl (by decide +kernel)
      (valid "A" (by simp)) rfl (by decide +kernel) (fits (attempt start "A") (by simp [attempts]))
      (by decide)
  obtain ⟨intact2, few2⟩ : two.Intact ∧ two.UpTo 1 :=
    few1.put intact1 (by decide) (by decide +kernel) (by decide +kernel) (valid "B" (by simp))
      (by decide +kernel) (by decide +kernel) (fits (attempt one "B") (by simp [attempts]))
      (by decide +kernel)
  obtain ⟨intact, few⟩ : three.Intact ∧ three.UpTo 1 :=
    few2.put intact2 (by decide) (by decide +kernel) (by decide +kernel) (valid "C" (by simp))
      (by decide +kernel) (by decide +kernel) (fits (attempt two "C") (by simp [attempts]))
      (by decide +kernel)
  obtain ⟨_, s, dies⟩ :=
    (intact.exists_next_iff (.crash settings 5)).2 (few.findsNumber (by decide) _)
  cases dies with
  | crash opens =>
    have history : History start events attempts s := history.step (.crash opens)
    exact ⟨settings, start, s, events, attempts, opened, rfl, rfl, configures, history, made, limits,
      length_log_le opened rfl configures history made limits⟩

end Store

end SessionRegistry
