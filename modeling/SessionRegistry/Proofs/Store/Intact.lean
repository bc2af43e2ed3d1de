import SessionRegistry.Proofs.Log.Scan
import SessionRegistry.Proofs.Store.History
import SessionRegistry.Proofs.Store.Recovery
import SessionRegistry.Proofs.Store.Snapshot

/-!
# Stores whose files are intact

The files of a store are intact if recovery finds in them what the store holds in memory, and the
log ends with a whole frame, so that what is appended to it will be found as well. Changes that are
made keep the files intact as long as their records can be read back and there is a position for
each, and a checkpoint makes them intact whatever they were before.

## Main definitions

* `Recovers`: what recovery finds in the files of a store is what the store holds.
* `Intact`: the files of a store are intact.
* `FindsNumber`: a store that an event opens finds a number that it can hand out.
* `UpTo`: no number beyond a given one is in use.

## Main results

* `intact_checkpoint`: after a checkpoint the files are intact.
* `Intact.move`, `Intact.next`: what keeps the files intact.
* `Intact.history`: the files stay intact over every history without a failure of the log.
* `exists_openFiles_iff`: which files a store can be opened on.
* `Intact.exists_next_iff`: what can happen to a store whose files are intact.
-/

namespace SessionRegistry.Store

/-- Recovery finds in the files of a store what the store holds: its sessions, the position of its
latest change and the time of that change. -/
def Recovers (s : Store) : Prop :=
  ∃ recovered, recover s.files = .ok recovered ∧ recovered.sessions = s.sessions
    ∧ recovered.lastLsn = s.modification.lsn ∧ recovered.lastModified = s.modification.timestamp

/-- The files of a store are intact: recovery finds in them what the store holds, and the log ends
with a whole frame. -/
structure Intact (s : Store) : Prop where
  recovers : s.Recovers
  whole : Frame.remainder s.log.file = []

variable {s next : Store}

/-- Only the files, the sessions and the latest change matter. -/
theorem Intact.congr (h : s.Intact) (hfiles : next.files = s.files)
    (hsessions : next.sessions = s.sessions) (hmodification : next.modification = s.modification) :
    next.Intact := by
  have hlog : next.log.file = s.log.file := congrArg Files.log hfiles
  constructor
  · rw [Recovers, hfiles, hsessions, hmodification]
    exact h.recovers
  · rw [hlog]
    exact h.whole

/-! ## Checkpoints -/

/-- The marker of a checkpoint can be read back. -/
theorem fits_marker (s : Store) : Frame.Fits s.marker := by
  simp [Frame.Fits, UInt32.size, marker, Codec.record, Codec.iso, Codec.pair, Codec.uint64,
    Codec.operation]

/-- A snapshot and a log with the marker of its position: there is nothing to replay. -/
theorem recover_image {image : Snapshot} (hfile : s.snapshotFile = some image.write)
    (hlog : s.log.file = Frame.ofRecord s.marker) (hlsn : image.lsn = s.lsn) :
    recover s.files = .ok (Recovered.ofSnapshot image) := by
  have covered : ∀ record ∈ [s.marker], record.lsn ≤ image.lsn := by
    intro record hrecord
    rw [List.mem_singleton.1 hrecord, hlsn]
    exact UInt64.le_refl _
  rw [recover, files, hfile, hlog, Snapshot.read_write, (Frame.records_ofRecord s.fits_marker).1,
    Except.map, Recovered.ofParts_of_covered covered]

/-- A snapshot of a store and a log with its marker are intact files. -/
theorem intact_of_image {image : Snapshot} (hfile : s.snapshotFile = some image.write)
    (hlog : s.log.file = Frame.ofRecord s.marker) (hsessions : image.sessions = s.sessions.toList)
    (hlsn : image.lsn = s.lsn) (hmodified : image.lastModified = s.lastModified) : s.Intact := by
  constructor
  · refine ⟨Recovered.ofSnapshot image, recover_image hfile hlog hlsn, ?_, hlsn, hmodified⟩
    rw [Recovered.ofSnapshot, hsessions, SessionTable.ofList_toList]
  · rw [hlog]
    exact (Frame.records_ofRecord s.fits_marker).2

/-- After a checkpoint of a store whose log is running the files are intact. -/
theorem intact_checkpoint (h : s.log.running = true) : (checkpoint.run.run s).2.Intact := by
  obtain ⟨log, file, -, -, run⟩ := s.run_checkpoint_of_running h
  rw [run]
  exact intact_of_image rfl file rfl rfl rfl

/-- After a checkpoint recovery finds the image of the store. -/
theorem recover_checkpoint (h : s.log.running = true) :
    recover (checkpoint.run.run s).2.files = .ok (Recovered.ofSnapshot s.image) := by
  obtain ⟨log, file, -, -, run⟩ := s.run_checkpoint_of_running h
  rw [run]
  exact recover_image rfl file rfl

/-- A checkpoint keeps intact files intact. -/
theorem Intact.checkpoint (h : s.Intact) : (Store.checkpoint.run.run s).2.Intact := by
  cases running : s.log.running with
  | true => exact intact_checkpoint running
  | false =>
    rw [run_checkpoint_of_stopped s running]
    exact h

/-- A shutdown keeps intact files intact. -/
theorem Intact.shutdown (h : s.Intact) : (Store.shutdown.run.run s).2.Intact := by
  cases closed : s.closed with
  | true =>
    rw [run_shutdown_of_closed s closed]
    exact h
  | false =>
    have closing : { s with closed := true }.Intact := h.congr rfl rfl rfl
    rw [run_shutdown_of_open s closed]
    refine closing.checkpoint.congr ?_ rfl rfl
    rw [files, LogWriter.file_shutdown]
    rfl

/-- Counting the bytes of a change keeps intact files intact. -/
theorem Intact.countBytes (h : s.Intact) (bytes : Nat) :
    ((Store.countBytes bytes).run.run s).2.Intact := by
  rw [run_countBytes]
  dsimp only
  split
  · exact Intact.checkpoint (h.congr rfl rfl rfl)
  · exact h.congr rfl rfl rfl

/-! ## Changes -/

/-- After a change that was made, recovery replays its record as well, if the record can be read
back and there was a position for it. -/
theorem Intact.recover_published {op : LogOperation} {log : LogWriter} {recovered : Recovered}
    (h : s.Intact) (found : recover s.files = .ok recovered) (fits : Frame.Fits (s.nextRecord op))
    (room : s.lsn.toNat + 1 < UInt64.size)
    (hlog : log.file = s.log.file ++ Frame.ofRecord (s.nextRecord op)) :
    recover (s.published op log).files = .ok (recovered.replay (s.nextRecord op)) := by
  obtain ⟨_, found', -, lsn, -⟩ := h.recovers
  cases found.symm.trans found'
  -- Positions do not wrap around, so the record is not taken for one that the snapshot covers.
  have behind : recovered.lastLsn < (s.nextRecord op).lsn := by
    rw [lsn]
    exact lt_succ_iff.2 room
  rw [← recover_append found h.whole fits behind, files, files, Store.published, hlog]

/-- After a change that was made the files are intact, if its record can be read back and there was
a position for it. -/
theorem Intact.published {op : LogOperation} {log : LogWriter} (h : s.Intact)
    (hop : op.xid?.isSome) (fits : Frame.Fits (s.nextRecord op))
    (room : s.lsn.toNat + 1 < UInt64.size)
    (hlog : log.file = s.log.file ++ Frame.ofRecord (s.nextRecord op)) :
    (s.published op log).Intact := by
  obtain ⟨recovered, found, sessions, lsn, modified⟩ := h.recovers
  constructor
  · refine ⟨recovered.replay (s.nextRecord op), h.recover_published found fits room hlog, ?_, ?_,
      ?_⟩
    · rw [Recovered.sessions_replay, sessions]
      rfl
    · rw [Recovered.lastLsn_replay, lsn]
      exact if_pos (UInt64.le_of_lt (lt_succ_iff.2 room))
    · rw [Recovered.lastModified_replay _ hop, modified]
      rfl
  · exact hlog ▸ Frame.remainder_append_ofRecord h.whole fits

/-- The attempts of a history that keep files intact: all of them were made, their records can be
read back, and from the given position on there was a position for each. -/
structure Recoverable (lsn : Nat) (attempts : List Attempt) : Prop where
  made : AllMade attempts
  fits : ∀ attempt ∈ attempts, Frame.Fits attempt.record
  room : lsn + attempts.length < UInt64.size

theorem Recoverable.left {lsn : Nat} {past new : List Attempt}
    (h : Recoverable lsn (past ++ new)) : Recoverable lsn past where
  made := (allMade_append.1 h.made).1
  fits attempt hattempt := h.fits attempt (List.mem_append_left _ hattempt)
  room := by
    have room := h.room
    rw [List.length_append] at room
    omega

theorem Recoverable.right {lsn : Nat} {past new : List Attempt}
    (h : Recoverable lsn (past ++ new)) : Recoverable (lsn + past.length) new where
  made := (allMade_append.1 h.made).2
  fits attempt hattempt := h.fits attempt (List.mem_append_right _ hattempt)
  room := by
    have room := h.room
    rw [List.length_append] at room
    omega

/-- One move keeps intact files intact, and takes one position for each attempt. -/
theorem Intact.move {op : Operation} {new : List Attempt} (h : s.Intact)
    (move : Move (fun s => Operation.MayLog s op) s new next)
    (good : Recoverable s.lsn.toNat new) :
    next.Intact ∧ next.lsn.toNat = s.lsn.toNat + new.length := by
  cases move with
  | lock locks => exact ⟨h.congr rfl rfl rfl, rfl⟩
  | tell notice => exact ⟨h.congr rfl rfl rfl, rfl⟩
  | takeId => exact ⟨h.congr rfl rfl rfl, rfl⟩
  | @change op bytes log allowed logged =>
    have fits := good.fits _ (List.mem_singleton_self _)
    have room : s.lsn.toNat + 1 < UInt64.size := good.room
    obtain ⟨-, -, file, -⟩ := handOver_ok logged
    have published := h.published allowed.isSome_xid? fits room file
    refine ⟨published.countBytes bytes, ?_⟩
    -- A checkpoint that is due takes no position of its own.
    obtain ⟨_, _, _, frame, -⟩ := (s.published op log).countBytes_frame bytes
    rw [frame]
    show (s.lsn + 1).toNat = _
    rw [UInt64.toNat_add, UInt64.toNat_one, Nat.mod_eq_of_lt room]
    rfl
  | @fail op e log allowed logged => cases good.made _ (List.mem_singleton_self _)

/-- Moves keep intact files intact, and take one position for each attempt. -/
theorem Intact.moves {op : Operation} {attempts : List Attempt} (h : s.Intact)
    (moves : Moves (fun s => Operation.MayLog s op) s attempts next)
    (good : Recoverable s.lsn.toNat attempts) :
    next.Intact ∧ next.lsn.toNat = s.lsn.toNat + attempts.length := by
  induction moves with
  | refl s => exact ⟨h, rfl⟩
  | cons move _ ih =>
    obtain ⟨intact, lsn⟩ := h.move move good.left
    obtain ⟨intact', lsn'⟩ := ih intact (lsn ▸ good.right)
    refine ⟨intact', ?_⟩
    rw [lsn', lsn, List.length_append]
    omega

/-! ## Opening -/

/-- The files of a store that resumes with what was recovered from them are intact if the log ends
with a whole frame. -/
theorem intact_resume {files : Files} {recovered : Recovered} (settings : StoreSettings)
    (now : Millis) (h : recover files = .ok recovered) (whole : Frame.remainder files.log = []) :
    (resume settings now files recovered).Intact :=
  ⟨⟨recovered, h, rfl, rfl, rfl⟩, whole⟩

/-- A store that is opened resumes with what is recovered, behind whose highest number there is one
left. It makes a checkpoint of that if records were replayed. -/
theorem of_openFiles_eq_ok {settings : StoreSettings} {now : Millis} {files : Files}
    (opened : openFiles settings now files = .ok next) :
    ∃ recovered : Recovered, recover files = .ok recovered ∧ recovered.maxId + 1 ≠ 0
      ∧ (recovered.replayed = 0 ∧ next = resume settings now files recovered
        ∨ recovered.replayed ≠ 0
          ∧ next = (checkpoint.run.run (resume settings now files recovered)).2) := by
  unfold openFiles at opened
  split at opened
  · cases opened
  · next recovered found =>
    dsimp only at opened
    split at opened
    · cases opened
    · next left =>
      refine ⟨recovered, found, left, ?_⟩
      split at opened
      · next replayed =>
        cases opened
        exact .inl ⟨replayed, rfl⟩
      · next replayed =>
        split at opened
        · next run =>
          cases opened
          exact .inr ⟨replayed, (congrArg Prod.snd run).symm⟩
        · cases opened

/-- A store that is opened holds what was recovered, and its files are intact if a record was
replayed or the log ends with a whole frame. -/
theorem openFiles_of_recover {settings : StoreSettings} {now : Millis} {files : Files}
    {recovered : Recovered} (h : recover files = .ok recovered)
    (opened : openFiles settings now files = .ok next) :
    next.sessions = recovered.sessions ∧ next.lsn = recovered.lastLsn
      ∧ next.lastModified = recovered.lastModified ∧ next.log.running = true
      ∧ next.closed = false
      ∧ (recovered.replayed ≠ 0 ∨ Frame.remainder files.log = [] → next.Intact) := by
  obtain ⟨_, h', -, same⟩ := of_openFiles_eq_ok opened
  cases h.symm.trans h'
  rcases same with ⟨nothing, rfl⟩ | ⟨-, rfl⟩
  -- Without a checkpoint the log stays as it is, with whatever stands behind its last whole frame.
  · refine ⟨rfl, rfl, rfl, rfl, rfl, fun whole => ?_⟩
    exact intact_resume settings now h (whole.resolve_left (absurd nothing))
  · have running : (resume settings now files recovered).log.running = true := rfl
    have intact := intact_checkpoint running
    obtain ⟨log, file, still, -, run⟩ := run_checkpoint_of_running _ running
    rw [run] at intact ⊢
    exact ⟨rfl, rfl, rfl, still, rfl, fun _ => intact⟩

/-- A store can be opened on files that can be recovered exactly if there is a number behind the
highest one in them. Without one it is a counter that has come to its end. -/
theorem exists_openFiles_iff {files : Files} {recovered : Recovered} (settings : StoreSettings)
    (now : Millis) (h : recover files = .ok recovered) :
    ((∃ start, openFiles settings now files = .ok start) ↔ recovered.maxId + 1 ≠ 0)
      ∧ (recovered.maxId + 1 = 0 →
        openFiles settings now files = .error (.internal .overflow)) := by
  rw [openFiles, h]
  dsimp only
  by_cases full : recovered.maxId + 1 = 0
  · have none : (resume settings now files recovered).nextId = 0 := full
    rw [if_pos none]
    exact ⟨by simp [full], fun _ => rfl⟩
  · have left : (resume settings now files recovered).nextId ≠ 0 := full
    rw [if_neg left]
    refine ⟨⟨fun _ => full, fun _ => ?_⟩, fun full' => absurd full' full⟩
    by_cases nothing : recovered.replayed = 0
    · rw [if_pos nothing]
      exact ⟨_, rfl⟩
    · have running : (resume settings now files recovered).log.running = true := rfl
      obtain ⟨log, -, -, -, run⟩ := run_checkpoint_of_running _ running
      rw [if_neg nothing, run]
      exact ⟨_, rfl⟩

/-- A store that is opened where nothing is replayed makes no checkpoint. -/
theorem openFiles_of_replayed_eq_zero {files : Files} {recovered : Recovered}
    (settings : StoreSettings) (now : Millis) (h : recover files = .ok recovered)
    (nothing : recovered.replayed = 0) :
    openFiles settings now files
      = if recovered.maxId + 1 = 0 then .error (.internal .overflow)
        else .ok (resume settings now files recovered) := by
  rw [openFiles, h]
  dsimp only
  rw [if_pos nothing]
  rfl

/-- In an empty directory there is nothing to recover. -/
theorem recover_nothing :
    recover { snapshot := none, log := [] } = .ok (Recovered.ofSnapshot Snapshot.empty) := by
  rw [recover, Frame.records_nil, Snapshot.read, Except.map,
    Recovered.ofParts_of_covered (by simp)]

/-- In an empty directory a store is opened without sessions. -/
theorem openFiles_nothing (settings : StoreSettings) (now : Millis) :
    openFiles settings now { snapshot := none, log := [] } = .ok (resume settings now
      { snapshot := none, log := [] } (Recovered.ofSnapshot Snapshot.empty)) := by
  rw [openFiles, recover_nothing]
  rfl

/-- The files of a store that is opened in an empty directory are intact. -/
theorem intact_of_nothing {settings : StoreSettings} {now : Millis} {start : Store}
    (h : openFiles settings now { snapshot := none, log := [] } = .ok start) :
    start.Intact ∧ start.lsn = 0 := by
  obtain ⟨-, lsn, -, -, -, intact⟩ := openFiles_of_recover recover_nothing h
  exact ⟨intact (.inr Frame.remainder_nil), lsn⟩

/-! ## Histories -/

/-- The store that is opened on intact files has intact files and the same latest position. -/
theorem Intact.of_open {settings : StoreSettings} {now : Millis} (h : s.Intact)
    (opened : openFiles settings now s.files = .ok next) :
    next.Intact ∧ next.lsn.toNat = s.lsn.toNat := by
  obtain ⟨recovered, found, -, same, -⟩ := h.recovers
  obtain ⟨-, lsn, -, -, -, intact⟩ := openFiles_of_recover found opened
  refine ⟨intact (.inr h.whole), ?_⟩
  rw [lsn, same]
  rfl

/-- The store that is opened on intact files has the sessions of the store that left them. -/
theorem Intact.sessions_of_open {settings : StoreSettings} {now : Millis} (h : s.Intact)
    (opened : openFiles settings now s.files = .ok next) : next.sessions = s.sessions := by
  obtain ⟨recovered, found, same, -⟩ := h.recovers
  exact (openFiles_of_recover found opened).1.trans same

/-- The upkeep of a store keeps its files intact, and takes no position. -/
theorem Intact.upkeep {op : Operation} (h : s.Intact) (hop : op.isUpkeep = true) :
    (op.runOn s).2.Intact ∧ (op.runOn s).2.lsn = s.lsn := by
  rcases op.runOn_of_isUpkeep hop s with same | same
  · obtain ⟨_, _, _, frame, -⟩ := s.checkpoint_frame
    exact ⟨same ▸ h.checkpoint, by rw [same, frame]⟩
  · obtain ⟨_, _, _, frame, -⟩ := s.shutdown_frame
    exact ⟨same ▸ h.shutdown, by rw [same, frame]⟩

/-- An event keeps intact files intact, and takes one position for each attempt. -/
theorem Intact.event {event : Event} {new : List Attempt} (h : s.Intact)
    (happens : Next s event new next) (good : Recoverable s.lsn.toNat new) :
    next.Intact ∧ next.lsn.toNat = s.lsn.toNat + new.length := by
  cases happens with
  | @perform op attempts made =>
    cases made with
    | upkeep upkeep =>
      obtain ⟨intact, lsn⟩ := h.upkeep upkeep
      exact ⟨intact, by rw [lsn]; rfl⟩
    | moves _ _ moves _ => exact h.moves moves good
  | hold locks => exact ⟨h.congr rfl rfl rfl, rfl⟩
  | tick now => exact ⟨h.congr rfl rfl rfl, rfl⟩
  | reopen opened =>
    obtain ⟨_, _, _, frame, -⟩ := s.shutdown_frame
    obtain ⟨intact, lsn⟩ := h.shutdown.of_open opened
    exact ⟨intact, by rw [lsn, frame]; rfl⟩
  | crash opened => exact h.of_open opened

/-- The files stay intact over every history whose changes are made and can be read back, as long
as there are positions. -/
theorem Intact.history {start : Store} {events : List Event} {attempts : List Attempt}
    (h : start.Intact) (history : History start events attempts s)
    (good : Recoverable start.lsn.toNat attempts) :
    s.Intact ∧ s.lsn.toNat = start.lsn.toNat + attempts.length := by
  induction history with
  | start => exact ⟨h, rfl⟩
  | step _ happens ih =>
    obtain ⟨intact, lsn⟩ := ih good.left
    obtain ⟨intact', lsn'⟩ := intact.event happens (lsn ▸ good.right)
    refine ⟨intact', ?_⟩
    rw [lsn', lsn, List.length_append]
    omega

/-- Where an event opens a store, it finds a number behind the highest one in the files. -/
def FindsNumber (s : Store) (event : Event) : Prop :=
  ∀ files ∈ s.opened? event, ∀ found, recover files = .ok found → found.maxId + 1 ≠ 0

/-- An event can happen to a store whose files are intact exactly if a store that it opens finds a
number. -/
theorem Intact.exists_next_iff (h : s.Intact) (event : Event) :
    (∃ (new : List Attempt) (next : Store), Next s event new next) ↔ s.FindsNumber event := by
  constructor
  · rintro ⟨new, next, happens⟩ files opens found recovers
    cases happens with
    | perform _ => cases opens
    | hold _ => cases opens
    | tick _ => cases opens
    | reopen opened =>
      cases opens
      exact (exists_openFiles_iff _ _ recovers).1.1 ⟨next, opened⟩
    | crash opened =>
      cases opens
      exact (exists_openFiles_iff _ _ recovers).1.1 ⟨next, opened⟩
  · intro number
    cases event with
    | perform op =>
      obtain ⟨attempts, made⟩ := op.exists_attempts s
      exact ⟨attempts, _, .perform made⟩
    | hold locks => exact ⟨[], _, .hold locks⟩
    | tick now => exact ⟨[], _, .tick now⟩
    | reopen settings now =>
      obtain ⟨found, recovers, -⟩ := h.shutdown.recovers
      obtain ⟨start, opened⟩ :=
        (exists_openFiles_iff settings now recovers).1.2 (number _ rfl _ recovers)
      exact ⟨[], start, .reopen opened⟩
    | crash settings now =>
      obtain ⟨found, recovers, -⟩ := h.recovers
      obtain ⟨start, opened⟩ :=
        (exists_openFiles_iff settings now recovers).1.2 (number _ rfl _ recovers)
      exact ⟨[], start, .crash opened⟩

/-! ## Numbers that are left -/

/-- No number beyond a given one has been handed out, is in a session, or is found by recovery. -/
structure UpTo (top : UInt64) (s : Store) : Prop where
  image : (Recovered.ofSnapshot s.image).maxId ≤ top
  found : ∀ found, recover s.files = .ok found → found.maxId ≤ top

namespace UpTo

variable {top : UInt64} {session : Session}

/-- In an empty directory no number is found. -/
theorem of_nothing (settings : StoreSettings) (now : Millis) (top : UInt64) :
    UpTo top (resume settings now { snapshot := none, log := [] }
      (Recovered.ofSnapshot Snapshot.empty)) := by
  have least : (0 : UInt64) ≤ top := UInt64.le_iff_toNat_le.2 (by simp)
  refine ⟨?_, fun found recovers => ?_⟩
  · -- The first number is one, and the one before it has not been handed out.
    show (if (0 : UInt64) + 1 = 0 then 0 else 0 + 1 - 1) ≤ top
    exact least
  · cases recover_nothing.symm.trans recovers
    exact least

theorem checkpoint (h : UpTo top s) : UpTo top (Store.checkpoint.run.run s).2 := by
  cases running : s.log.running with
  | true =>
    obtain ⟨_, _, _, frame, -⟩ := s.checkpoint_frame
    refine ⟨?_, fun found recovers => ?_⟩
    · rw [frame]
      exact h.image
    · cases (recover_checkpoint running).symm.trans recovers
      exact h.image
  | false =>
    rw [run_checkpoint_of_stopped s running]
    exact h

theorem shutdown (h : UpTo top s) : UpTo top (Store.shutdown.run.run s).2 := by
  cases closed : s.closed with
  | true =>
    rw [run_shutdown_of_closed s closed]
    exact h
  | false =>
    have closing : UpTo top { s with closed := true } := ⟨h.image, h.found⟩
    rw [run_shutdown_of_open s closed]
    refine ⟨closing.checkpoint.image, fun found recovers => closing.checkpoint.found found ?_⟩
    rwa [files, LogWriter.file_shutdown] at recovers

theorem countBytes (h : UpTo top s) (bytes : Nat) :
    UpTo top ((Store.countBytes bytes).run.run s).2 := by
  have counted : UpTo top
      { s with bytesSinceCheckpoint := s.bytesSinceCheckpoint + UInt64.ofNat bytes } :=
    ⟨h.image, h.found⟩
  rw [run_countBytes]
  dsimp only
  split
  · exact counted.checkpoint
  · exact counted

/-- The change of a session adds the numbers of its image. -/
theorem published {log : LogWriter} (h : UpTo top s) (intact : s.Intact)
    (small : session.maxId ≤ top) (fits : Frame.Fits (s.nextRecord (s.upsertOf session)))
    (room : s.lsn.toNat + 1 < UInt64.size)
    (file : log.file = s.log.file ++ Frame.ofRecord (s.nextRecord (s.upsertOf session))) :
    UpTo top (s.published (s.upsertOf session) log) := by
  obtain ⟨found, recovers, -⟩ := intact.recovers
  obtain ⟨handed, stored⟩ := Recovered.maxId_ofSnapshot_le_iff.1 h.image
  refine ⟨Recovered.maxId_ofSnapshot_le_iff.2 ⟨handed, fun other isIn => ?_⟩,
    fun again recovers' => ?_⟩
  · -- A session in the table is the new one, or has been there before.
    have shown := (SessionTable.mem_toList_iff _ other).1 isIn
    rcases SessionTable.get?_publish shown with before | new
    · exact stored other ((s.sessions.mem_toList_iff other).2 before)
    · cases new
      exact small
  · cases (intact.recover_published recovers fits room file).symm.trans recovers'
    rw [Recovered.maxId_replay]
    exact max_le_iff.2 ⟨h.found found recovers, small⟩

/-- A session that is put adds its own numbers, and the files stay intact. -/
theorem put (h : UpTo top s) (intact : s.Intact) (small : session.maxId ≤ top)
    (isOpen : s.closed = false) (free : session.xid ∉ s.locks.held)
    (valid : checkImage session.xid session = .ok ()) (running : s.log.running = true)
    (accepts : s.Accepts (s.upsertOf session)) (fits : Frame.Fits (s.nextRecord (s.upsertOf session)))
    (room : s.lsn.toNat + 1 < UInt64.size) :
    ((Operation.put session).runOn s).2.Intact
      ∧ UpTo top ((Operation.put session).runOn s).2 := by
  have happens := next_put isOpen free valid running accepts
  refine ⟨(intact.event happens ⟨by simp [AllMade], by simpa using fits, room⟩).1, ?_⟩
  obtain ⟨log, logged⟩ := exists_handOver running accepts
  obtain ⟨-, -, file, -⟩ := handOver_ok logged
  obtain ⟨locks, _, last, ended, run, -⟩ := runOn_put isOpen free valid logged
  -- Which locks are held plays no part in what is stored and in what is written.
  have changed := h.published intact small fits room file
  have published : UpTo top ({ s with locks }.published (s.upsertOf session) log) :=
    ⟨changed.image, changed.found⟩
  have counted : UpTo top last := ended ▸ published.countBytes _
  rw [run]
  exact ⟨counted.image, counted.found⟩

/-- While there is a number left, every store that is opened finds one. -/
theorem findsNumber (h : UpTo top s) (left : top + 1 ≠ 0) (event : Event) :
    s.FindsNumber event := by
  have finds : ∀ {s : Store}, UpTo top s → ∀ found, recover s.files = .ok found →
      found.maxId + 1 ≠ 0 := by
    intro s h found recovers
    have most := UInt64.le_iff_toNat_le.1 (h.found found recovers)
    exact succ_ne_zero_iff.2 (Nat.lt_of_le_of_lt (Nat.succ_le_succ most) (succ_ne_zero_iff.1 left))
  intro files opens
  cases event with
  | reopen _ _ =>
    cases opens
    exact finds h.shutdown
  | crash _ _ =>
    cases opens
    exact finds h
  | perform _ => cases opens
  | hold _ => cases opens
  | tick _ => cases opens

end UpTo

end SessionRegistry.Store
