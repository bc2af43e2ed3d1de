import SessionRegistry.Proofs.Store.Intact

/-!
# Properties of every session

A property of sessions that every logged image has is a property of every session that a store
shows, and of every session that is found again after a restart. A restart after a shutdown reads
what the last checkpoint wrote; a restart after a crash also reads the log, with the records of
changes that failed, so that these have to be readable.

## Main definitions

* `SessionTable.Every`, `Files.Every`, `Store.Every`: every session has a property.

## Main results

* `Store.Every.move`, `Store.Every.event`: what keeps a property of every session.
* `Store.Every.history`: a property that every logged image has is kept by every history.
-/

namespace SessionRegistry

variable {P : Session → Prop}

/-! ## Tables -/

/-- Every session of a table has a property. -/
def SessionTable.Every (P : Session → Prop) (table : SessionTable) : Prop :=
  ∀ xid session, table.get? xid = some session → P session

/-- A published change keeps a property of every session if a new image has it. -/
theorem SessionTable.Every.publish {table : SessionTable} (h : table.Every P) {op : LogOperation}
    (new : ∀ session, op = .upsert session → P session) : (Store.publish table op).Every P := by
  intro xid session found
  rcases SessionTable.get?_publish found with found | hop
  · exact h xid session found
  · exact new session hop

/-! ## Files -/

/-- Every session that files tell of has a property: the snapshot can be read and holds only such
sessions, every image in the log is one, and the log ends with a whole frame. -/
structure Files.Every (P : Session → Prop) (files : Files) : Prop where
  snapshot : ∃ image, Snapshot.read files.snapshot = .ok image
    ∧ (Recovered.ofSnapshot image).sessions.Every P
  log : ∀ record ∈ Frame.records files.log, ∀ session, record.op = .upsert session → P session
  whole : Frame.remainder files.log = []

namespace Files.Every

variable {files : Files}

/-- Recovery succeeds, and every session that it finds has the property. -/
theorem recover (h : files.Every P) :
    ∃ recovered, SessionRegistry.recover files = .ok recovered ∧ recovered.sessions.Every P := by
  obtain ⟨image, hread, sessions⟩ := h.snapshot
  refine ⟨_, recover_eq_ok_iff.2 ⟨image, hread, rfl⟩, fun xid session found => ?_⟩
  rcases Recovered.get?_ofParts found with found | ⟨record, hrecord, -, hop⟩
  · exact sessions xid session found
  · exact h.log record hrecord session hop

/-- A readable record may be appended if its image has the property. -/
theorem append (h : files.Every P) {record : LogRecord} (fits : Frame.Fits record)
    (new : ∀ session, record.op = .upsert session → P session) :
    Files.Every P { files with log := files.log ++ Frame.ofRecord record } where
  snapshot := h.snapshot
  log logged hlogged session hop := by
    rw [Frame.records_append_ofRecord h.whole fits] at hlogged
    rcases List.mem_append.1 hlogged with hlogged | hlogged
    · exact h.log logged hlogged session hop
    · rw [List.mem_singleton.1 hlogged] at hop
      exact new session hop
  whole := Frame.remainder_append_ofRecord h.whole fits

/-- An empty directory tells of no session. -/
theorem nothing : Files.Every P { snapshot := none, log := [] } where
  snapshot := ⟨Snapshot.empty, rfl, by simp [SessionTable.Every, Recovered.ofSnapshot,
    Snapshot.empty, SessionTable.ofList]⟩
  log := by simp
  whole := Frame.remainder_nil

end Files.Every

/-! ## Stores -/

namespace Store

variable {exposed : Prop} {s next : Store}

/-- Every session of a store has a property: those that it shows, and those that its files tell of
if a restart may read them, be it that the process may die or that the store has been closed. -/
structure Every (P : Session → Prop) (exposed : Prop) (s : Store) : Prop where
  shown : s.sessions.Every P
  running : s.log.running = !s.closed
  written : exposed ∨ s.closed = true → s.files.Every P

/-- After a checkpoint the files tell of the sessions that the store shows. -/
theorem files_checkpoint_every (shown : s.sessions.Every P) (running : s.log.running = true) :
    (checkpoint.run.run s).2.files.Every P := by
  obtain ⟨log, file, -, -, run⟩ := s.run_checkpoint_of_running running
  obtain ⟨records, whole⟩ := Frame.records_ofRecord s.fits_marker
  rw [run]
  constructor
  · refine ⟨s.image, Snapshot.read_write s.image, ?_⟩
    rw [Recovered.ofSnapshot, image, SessionTable.ofList_toList]
    exact shown
  · intro record hrecord session hop
    rw [files, file, records] at hrecord
    rw [List.mem_singleton.1 hrecord] at hop
    cases hop
  · rw [files, file, whole]

namespace Every

theorem checkpoint (h : s.Every P exposed) : (Store.checkpoint.run.run s).2.Every P exposed := by
  cases running : s.log.running with
  | false =>
    rw [run_checkpoint_of_stopped s running]
    exact h
  | true =>
    have written := files_checkpoint_every h.shown running
    obtain ⟨_, _, log, frame, still, -⟩ := s.checkpoint_frame
    rw [frame] at written ⊢
    exact ⟨h.shown, still.trans h.running, fun _ => written⟩

theorem countBytes (h : s.Every P exposed) (bytes : Nat) :
    ((Store.countBytes bytes).run.run s).2.Every P exposed := by
  rw [run_countBytes]
  dsimp only
  split
  · exact checkpoint ⟨h.shown, h.running, h.written⟩
  · exact ⟨h.shown, h.running, h.written⟩

/-- A shutdown leaves files that tell of the sessions that the store shows. -/
theorem shutdown (h : s.Every P exposed) :
    (Store.shutdown.run.run s).2.Every P exposed ∧ (Store.shutdown.run.run s).2.files.Every P := by
  cases closed : s.closed with
  | true =>
    rw [run_shutdown_of_closed s closed]
    exact ⟨h, h.written (.inr closed)⟩
  | false =>
    have running : s.log.running = true := by rw [h.running, closed]; rfl
    -- The last checkpoint rewrites the files from memory, whatever they told of before.
    have written := files_checkpoint_every (s := { s with closed := true }) h.shown running
    obtain ⟨snapshotFile, bytes, log, frame, -⟩ := checkpoint_frame { s with closed := true }
    have left : Files.Every P { snapshot := snapshotFile, log := log.shutdown.file } := by
      rw [frame] at written
      rw [LogWriter.file_shutdown]
      exact written
    rw [run_shutdown_of_open s closed, frame]
    exact ⟨⟨h.shown, log.running_shutdown, fun _ => left⟩, left⟩

/-- A store that is opened on files shows the sessions that they tell of. -/
theorem of_open {settings : StoreSettings} {now : Millis} {files : Files} (h : files.Every P)
    (opened : openFiles settings now files = .ok next) : next.Every P exposed := by
  obtain ⟨recovered, hrecover, shown⟩ := h.recover
  have resumed : (resume settings now files recovered).Every P exposed :=
    ⟨shown, rfl, fun _ => h⟩
  obtain ⟨_, found, -, same⟩ := of_openFiles_eq_ok opened
  cases hrecover.symm.trans found
  rcases same with ⟨-, rfl⟩ | ⟨-, rfl⟩
  · exact resumed
  · exact resumed.checkpoint

/-- What a move logs leaves a property of every session if a new image has it and the record can be
read back wherever the process may die. -/
theorem logged (h : s.Every P exposed) {op : LogOperation} {result : Except Error Nat}
    {log : LogWriter} (new : ∀ session, op = .upsert session → P session)
    (fits : exposed → Frame.Fits (s.nextRecord op))
    (run : s.handOver op = (result, log)) :
    Store.Every P exposed { s with lsn := s.lsn + 1, log } := by
  obtain ⟨still, -, file⟩ := handOver_frame run
  refine ⟨h.shown, still.trans h.running, fun read => ?_⟩
  -- The record may be in the file even if its change failed.
  rcases file with ⟨-, same⟩ | ⟨running, appended⟩
  · rw [files, same]
    exact h.written read
  · have isOpen : s.closed = false := by
      have closed := h.running
      rw [running] at closed
      simpa using closed.symm
    -- A closed store writes nothing, so the record is read only if the process may die.
    have mayDie : exposed := read.resolve_right (by simp [isOpen])
    rw [files, appended]
    exact (h.written (.inl mayDie)).append (fits mayDie) new

/-- A move keeps a property of every session if every image that it may log has it. -/
theorem move {may : Store → LogOperation → Prop} {new : List Attempt} (h : s.Every P exposed)
    (move : Move may s new next)
    (images : ∀ session, may s (.upsert session) → P session)
    (fits : exposed → ∀ attempt ∈ new, Frame.Fits attempt.record) : next.Every P exposed := by
  cases move with
  | lock locks => exact ⟨h.shown, h.running, h.written⟩
  | tell notice => exact ⟨h.shown, h.running, h.written⟩
  | takeId => exact ⟨h.shown, h.running, h.written⟩
  | @change op bytes log allowed run =>
    have image : ∀ session, op = .upsert session → P session := by
      rintro session rfl
      exact images session allowed
    have readable : exposed → Frame.Fits (s.nextRecord op) := fun mayDie =>
      fits mayDie ⟨s.nextRecord op, none⟩ (List.mem_singleton_self _)
    have logged := h.logged image readable run
    have published : (s.published op log).Every P exposed :=
      ⟨h.shown.publish image, logged.running, logged.written⟩
    exact published.countBytes bytes
  | @fail op e log allowed run =>
    have readable : exposed → Frame.Fits (s.nextRecord op) := fun mayDie =>
      fits mayDie ⟨s.nextRecord op, some e⟩ (List.mem_singleton_self _)
    refine h.logged ?_ readable run
    rintro session rfl
    exact images session allowed

/-- Moves keep a property of every session if every image that they may log has it, as long as the
sessions before have it. -/
theorem moves {may : Store → LogOperation → Prop} {attempts : List Attempt}
    (h : s.Every P exposed) (moves : Moves may s attempts next)
    (images : ∀ (s : Store) (session : Session), s.sessions.Every P →
      may s (.upsert session) → P session)
    (fits : exposed → ∀ attempt ∈ attempts, Frame.Fits attempt.record) : next.Every P exposed := by
  induction moves with
  | refl s => exact h
  | @cons s middle next first more move _ ih =>
    have kept := h.move move (fun session => images s session h.shown)
      fun mayDie attempt hattempt => fits mayDie attempt (List.mem_append_left more hattempt)
    exact ih kept fun mayDie attempt hattempt =>
      fits mayDie attempt (List.mem_append_right first hattempt)

/-- An event keeps a property of every session if every image that its operation may log has it. -/
theorem event {event : Event} {new : List Attempt} (h : s.Every P exposed)
    (happens : Next s event new next)
    (images : ∀ op, event = .perform op → ∀ (s : Store) (session : Session),
      s.sessions.Every P → op.MayLog s (.upsert session) → P session)
    (dies : ∀ settings now, event = .crash settings now → exposed)
    (fits : exposed → ∀ attempt ∈ new, Frame.Fits attempt.record) : next.Every P exposed := by
  cases happens with
  | @perform op attempts made =>
    cases made with
    | upkeep upkeep =>
      rcases op.runOn_of_isUpkeep upkeep s with same | same
      · exact same ▸ h.checkpoint
      · exact same ▸ h.shutdown.1
    | moves _ _ moves _ => exact h.moves moves (images op rfl) fits
  | hold locks => exact ⟨h.shown, h.running, h.written⟩
  | tick now => exact ⟨h.shown, h.running, h.written⟩
  | reopen opened => exact of_open h.shutdown.2 opened
  | @crash settings now _ opened => exact of_open (h.written (.inl (dies settings now rfl))) opened

/-- A property that every image has which an operation of a history may log is a property of every
session that the store shows. The records have to be readable if the process may die. -/
theorem history {start : Store} {events : List Event} {attempts : List Attempt}
    (h : start.Every P exposed) (history : History start events attempts s)
    (images : ∀ op, Event.perform op ∈ events → ∀ (s : Store) (session : Session),
      s.sessions.Every P → op.MayLog s (.upsert session) → P session)
    (dies : ∀ settings now, Event.crash settings now ∈ events → exposed)
    (fits : exposed → ∀ attempt ∈ attempts, Frame.Fits attempt.record) : s.Every P exposed := by
  induction history with
  | start => exact h
  | @step events event attempts new s next _ happens ih =>
    have last : event ∈ events ++ [event] := List.mem_append_right _ (List.mem_singleton_self _)
    have kept : s.Every P exposed := by
      refine ih (fun op hop => images op (List.mem_append_left _ hop))
        (fun settings now hcrash => dies settings now (List.mem_append_left _ hcrash)) ?_
      exact fun mayDie attempt hattempt =>
        fits mayDie attempt (List.mem_append_left new hattempt)
    refine kept.event happens ?_ ?_ ?_
    · rintro op rfl
      exact images op last
    · rintro settings now rfl
      exact dies settings now last
    · exact fun mayDie attempt hattempt =>
        fits mayDie attempt (List.mem_append_right attempts hattempt)

end Every

end Store

end SessionRegistry
