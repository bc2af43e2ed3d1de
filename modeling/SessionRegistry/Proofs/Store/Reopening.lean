import SessionRegistry.Proofs.Store.CheckpointCrash

/-!
# Reopening a store

The files that a store is opened on may be of any kind: the log may be torn, hold frames without a
record, records that the snapshot covers or several records of one position, and the snapshot may
name a session more than once. Whatever recovery makes of them, it makes the same of the files that
are left when the store is opened and stops again without a change, and then no record is left to be
replayed. So a store may be opened and stopped any number of times.

The highest number of the recovery must leave a next number: behind the last number of 64 bits the
store starts again with zero, and its checkpoints do not show the numbers that it has handed out.

## Main definitions

* `Recovered.settled`: what is recovered, once no record is left to be replayed.
* `Store.Resumes`: a store has resumed with what was recovered.
* `Visit`: a store is opened and stops again without a change.
* `Visit.leavesInRow`: the files that are left by several visits, one after the other.

## Main results

* `Store.Resumes.recover_checkpoint`: a checkpoint carries everything that was recovered.
* `Visit.recover_leaves`: one visit leaves what was recovered.
* `recover_of_cut_opening`: so does a process that dies while it opens the store.
* `recover_of_visits`: any number of visits leaves what was recovered.
-/

namespace SessionRegistry

variable {files left : Files} {found : Recovered} {s : Store}

namespace Recovered

/-- What is recovered, once no record is left to be replayed. -/
def settled (found : Recovered) : Recovered :=
  { found with replayed := 0 }

theorem settled_of_replayed_eq_zero (h : found.replayed = 0) : found.settled = found := by
  cases found
  cases h
  rfl

end Recovered

namespace Store

/-! ## What a store resumes with -/

/-- A store holds what was recovered, and takes changes. -/
structure Holds (found : Recovered) (s : Store) : Prop where
  sessions : s.sessions = found.sessions
  lsn : s.lsn = found.lastLsn
  lastModified : s.lastModified = found.lastModified
  nextId : s.nextId = found.maxId + 1
  running : s.log.running = true

/-- A store has resumed with what was recovered, and nothing has happened to it since. -/
structure Resumes (found : Recovered) (s : Store) : Prop extends Holds found s where
  locks : s.locks = .empty
  isOpen : s.closed = false

theorem resumes_resume (settings : StoreSettings) (now : Millis) (files : Files)
    (found : Recovered) : Resumes found (resume settings now files found) :=
  { sessions := rfl, lsn := rfl, lastModified := rfl, nextId := rfl, running := rfl, locks := rfl,
    isOpen := rfl }

/-- A checkpoint changes nothing of what a store has resumed with. -/
theorem Resumes.checkpoint (h : Resumes found s) : Resumes found (checkpoint.run.run s).2 := by
  obtain ⟨log, -, running, -, run⟩ := s.run_checkpoint_of_running h.running
  rw [run]
  exact { h with running }

/-- As long as there is a next number, the image of a store shows the highest number. -/
theorem Holds.maxId_image (h : Holds found s) (room : found.maxId.toNat < UInt64.size - 1) :
    s.image.maxId = found.maxId := by
  have next : s.nextId.toNat = found.maxId.toNat + 1 := by
    rw [h.nextId, UInt64.toNat_add, UInt64.toNat_one, Nat.mod_eq_of_lt (Nat.add_lt_of_lt_sub room)]
  have positive : s.nextId ≠ 0 := fun wrapped => by
    rw [wrapped, UInt64.toNat_zero] at next
    omega
  rw [image, if_neg positive, h.nextId, UInt64.add_sub_cancel]

/-- The image of a store gives the highest number that was recovered, although the sessions that had
it may be gone. -/
theorem Holds.maxId_ofSnapshot_image (h : Holds found s) (covers : found.Covers)
    (room : found.maxId.toNat < UInt64.size - 1) :
    (Recovered.ofSnapshot s.image).maxId = found.maxId := by
  apply UInt64.le_antisymm
  -- No stored session has a number beyond the recovered one, and the image itself shows that one.
  · refine Recovered.maxId_ofSnapshot_le_iff.2 ⟨?_, fun session stored => ?_⟩
    · rw [h.maxId_image room]
      exact UInt64.le_refl _
    · have stored := (s.sessions.mem_toList_iff session).1 stored
      rw [h.sessions] at stored
      exact covers session.xid session stored
  · rw [← h.maxId_image room]
    exact (Recovered.maxId_ofSnapshot_le_iff.1 (UInt64.le_refl _)).1

/-- The image of a store gives what was recovered. -/
theorem Holds.ofSnapshot_image (h : Holds found s) (covers : found.Covers)
    (room : found.maxId.toNat < UInt64.size - 1) :
    Recovered.ofSnapshot s.image = found.settled := by
  show Recovered.mk (SessionTable.ofList s.sessions.toList) s.lsn s.lastModified
    (Recovered.ofSnapshot s.image).maxId 0 = _
  rw [SessionTable.ofList_toList, h.maxId_ofSnapshot_image covers room, h.sessions, h.lsn,
    h.lastModified, Recovered.settled]

/-- After a checkpoint recovery finds what was recovered, and the marker is not replayed. -/
theorem Holds.recover_checkpoint (h : Holds found s) (covers : found.Covers)
    (room : found.maxId.toNat < UInt64.size - 1) :
    recover (checkpoint.run.run s).2.files = .ok found.settled := by
  rw [Store.recover_checkpoint h.running, h.ofSnapshot_image covers room]

/-- Wherever within a checkpoint the process dies, recovery finds in the files that are left what it
finds in the files before the checkpoint, or in those after it. -/
theorem Holds.recover_cut {before : Recovered} (h : Holds found s) (covers : found.Covers)
    (room : found.maxId.toNat < UInt64.size - 1) (same : recover s.files = .ok before)
    (lsn : before.lastLsn = found.lastLsn) (cut : s.CheckpointCut left) :
    recover left = .ok before ∨ recover left = .ok found.settled := by
  rcases cut.oldOrNew with rfl | ⟨snapshot, log⟩
  · exact .inl same
  · -- The old log may still be there. The new snapshot covers all of its records.
    have covered : ∀ record ∈ Frame.records left.log, record.lsn ≤ s.image.lsn := by
      intro record hrecord
      show record.lsn ≤ s.lsn
      rcases log with old | part
      · obtain ⟨_, -, rfl⟩ := recover_eq_ok_iff.1 same
        rw [old] at hrecord
        rw [h.lsn, ← lsn]
        exact Recovered.lsn_le_lastLsn hrecord
      · rw [eq_marker_of_mem_part part hrecord]
        exact UInt64.le_refl _
    refine .inr ?_
    rw [← h.ofSnapshot_image covers room, recover_eq_ok_iff]
    exact ⟨s.image, snapshot ▸ Snapshot.read_write s.image, Recovered.ofParts_of_covered covered⟩

end Store

open Store

/-! ## One visit -/

theorem covers_of_recover (h : recover files = .ok found) : found.Covers := by
  obtain ⟨snapshot, -, rfl⟩ := recover_eq_ok_iff.1 h
  exact Recovered.covers_ofParts _ _

/-- Files that can be recovered can be opened. The store resumes with what was recovered, and its
files give the same again, without a record to replay. -/
theorem exists_resumes_of_recover (settings : StoreSettings) (now : Millis)
    (h : recover files = .ok found) (room : found.maxId.toNat < UInt64.size - 1) :
    ∃ s : Store, openFiles settings now files = .ok s ∧ Resumes found s
      ∧ recover s.files = .ok found.settled := by
  have resumed := resumes_resume settings now files found
  have left : found.maxId + 1 ≠ 0 := succ_ne_zero_iff.2 (Nat.add_lt_of_lt_sub room)
  obtain ⟨s, opened⟩ := (exists_openFiles_iff settings now h).1.2 left
  refine ⟨s, opened, ?_⟩
  obtain ⟨_, h', -, same⟩ := of_openFiles_eq_ok opened
  cases h.symm.trans h'
  rcases same with ⟨nothing, rfl⟩ | ⟨-, rfl⟩
  -- The files stay as they are, with whatever stands behind the last whole frame of the log.
  · rw [Recovered.settled_of_replayed_eq_zero nothing]
    exact ⟨resumed, h⟩
  · exact ⟨resumed.checkpoint, resumed.recover_checkpoint (covers_of_recover h) room⟩

/-- A process that dies while a store is being opened leaves files that give what was recovered. -/
theorem recover_of_cut_opening {settings : StoreSettings} {now : Millis}
    (h : recover files = .ok found) (room : found.maxId.toNat < UInt64.size - 1)
    (cut : (resume settings now files found).CheckpointCut left) :
    recover left = .ok found ∨ recover left = .ok found.settled :=
  (resumes_resume settings now files found).recover_cut (covers_of_recover h) room h rfl cut

/-- How a store stops: it is shut down, or the process dies. -/
inductive Ending where
  | shutdown (now : Millis)
  | crash
  deriving DecidableEq, Repr

/-- The files that a store leaves when it stops. -/
def Ending.leaves : Ending → Store → Files
  | shutdown now, store => { store with clock := now }.filesAfterShutdown
  | crash, store => store.files

/-- Recovery finds in the files that a store leaves what it finds in its files while it runs, if it
has resumed and nothing has happened to it since. -/
theorem Ending.recover_leaves (ending : Ending) (h : Resumes found s) (covers : found.Covers)
    (room : found.maxId.toNat < UInt64.size - 1) (same : recover s.files = .ok found.settled) :
    recover (ending.leaves s) = .ok found.settled := by
  cases ending with
  | crash => exact same
  | shutdown now =>
    -- The store is closed before its last checkpoint is made.
    have closing : Holds found { s with clock := now, closed := true } := { h.toHolds with }
    rw [leaves, filesAfterShutdown, run_shutdown_of_open { s with clock := now } h.isOpen, files,
      LogWriter.file_shutdown]
    exact closing.recover_checkpoint covers room

/-- A store is opened and stops again without a change. -/
structure Visit where
  settings : StoreSettings
  opened : Millis
  ending : Ending
  deriving DecidableEq, Repr

namespace Visit

/-- The files that a visit leaves, if the store can be opened. -/
def leaves (visit : Visit) (files : Files) : Except Error Files :=
  (openFiles visit.settings visit.opened files).map visit.ending.leaves

/-- The files that are left by several visits, one after the other. -/
def leavesInRow (visits : List Visit) (files : Files) : Except Error Files :=
  visits.foldlM (fun files visit => visit.leaves files) files

/-- A visit leaves files that give what was recovered, without a record to replay. -/
theorem recover_leaves (visit : Visit) (h : recover files = .ok found)
    (room : found.maxId.toNat < UInt64.size - 1) :
    ∃ left, visit.leaves files = .ok left ∧ recover left = .ok found.settled := by
  obtain ⟨s, opened, resumed, same⟩ :=
    exists_resumes_of_recover visit.settings visit.opened h room
  refine ⟨visit.ending.leaves s, by rw [leaves, opened, Except.map], ?_⟩
  exact visit.ending.recover_leaves resumed (covers_of_recover h) room same

end Visit

/-! ## Visits in a row -/

/-- Any number of visits to files that can be recovered leaves files that give what was recovered:
the same sessions, the same position and time of the latest change, and the same highest number.
After the first visit there is no record to replay. Every store that is opened on the way resumes
with what was recovered at first. -/
theorem recover_of_visits (h : recover files = .ok found)
    (room : found.maxId.toNat < UInt64.size - 1) (visits : List Visit) :
    ∃ left, Visit.leavesInRow visits files = .ok left
      ∧ recover left
        = .ok { found with replayed := if visits.isEmpty then found.replayed else 0 }
      ∧ ∀ settings now, ∃ s, openFiles settings now left = .ok s ∧ Resumes found s := by
  induction visits generalizing files found with
  | nil =>
    refine ⟨files, rfl, h, fun settings now => ?_⟩
    obtain ⟨s, opened, resumed, -⟩ := exists_resumes_of_recover settings now h room
    exact ⟨s, opened, resumed⟩
  | cons visit rest ih =>
    obtain ⟨middle, leaves, settled⟩ := visit.recover_leaves h room
    obtain ⟨left, more, same, resumes⟩ := ih settled room
    refine ⟨left, ?_, ?_, fun settings now => ?_⟩
    · rw [Visit.leavesInRow, List.foldlM_cons, leaves]
      exact more
    · rw [same, Recovered.settled]
      cases rest <;> rfl
    · obtain ⟨s, opened, resumed⟩ := resumes settings now
      exact ⟨s, opened, { resumed with }⟩

/-- A snapshot that names a session twice, and a log with two records of one position, a frame that
holds no record and a torn frame: after a crash and a shutdown the same is recovered. -/
theorem recover_of_visits_to_torn_files :
    ∃ (files : Files) (found : Recovered) (left : Files), recover files = .ok found
      ∧ found.maxId.toNat < UInt64.size - 1 ∧ found.replayed = 2
      ∧ found.sessions.toList.map (fun session => (session.xid, session.transactionId))
        = [("A", 2), ("B", 4)]
      ∧ Frame.remainder files.log = [100]
      ∧ Visit.leavesInRow [⟨{}, 5, .crash⟩, ⟨{}, 6, .shutdown 7⟩] files = .ok left
      ∧ recover left = .ok { found with replayed := 0 } := by
  let image (xid : Xid) (number : UInt64) := Session.start xid number "app" "tx" 1000
  let snapshot : Snapshot :=
    { lsn := 1, timestamp := 1, lastModified := 1, maxId := 2,
      sessions := [image "A" 1, image "A" 2] }
  let first : LogRecord := { lsn := 2, op := .upsert (image "B" 3), timestamp := 2 }
  let second : LogRecord := { lsn := 2, op := .upsert (image "B" 4), timestamp := 2 }
  let whole := Frame.ofRecord first ++ Frame.ofRecord second
  let files : Files :=
    { snapshot := some snapshot.write, log := whole ++ (Frame.wrap [1] ++ [100]) }
  have fits : Frame.Fits first ∧ Frame.Fits second := by decide
  -- Behind the two records stand a whole frame that holds no record and one byte of another frame.
  have torn : Frame.next [100] = none := by decide
  have skipped : Frame.next (Frame.wrap [1] ++ [100]) = some ([1], [100]) :=
    Frame.next_wrap_append _ _ (by decide)
  have ends : Frame.remainder whole = [] :=
    Frame.remainder_append_ofRecord (Frame.records_ofRecord fits.1).2 fits.2
  have inside : Frame.records (Frame.wrap [1] ++ [100]) = [] := by
    rw [Frame.records, Frame.payloads_of_some skipped, Frame.payloads_of_none torn]
    decide
  have records : Frame.records files.log = [first] ++ [second] := by
    rw [Frame.records_append, ends, List.nil_append, inside, List.append_nil,
      Frame.records_append_ofRecord (Frame.records_ofRecord fits.1).2 fits.2,
      (Frame.records_ofRecord fits.1).1]
  let found := ((Recovered.ofSnapshot snapshot).replay first).replay second
  have recovered : recover files = .ok found := by
    refine recover_eq_ok_iff.2 ⟨snapshot, Snapshot.read_write snapshot, ?_⟩
    rw [records, Recovered.ofParts_concat (by decide) (by decide), ← List.nil_append [first],
      Recovered.ofParts_concat (by decide) (by decide), Recovered.ofParts_of_covered (by simp)]
  have room : found.maxId.toNat < UInt64.size - 1 := by decide
  obtain ⟨left, leaves, same, -⟩ :=
    recover_of_visits recovered room [⟨{}, 5, .crash⟩, ⟨{}, 6, .shutdown 7⟩]
  refine ⟨files, found, left, recovered, room, by decide, by decide, ?_, leaves, same⟩
  rw [Frame.remainder_append, ends, List.nil_append, Frame.remainder_of_some skipped,
    Frame.remainder_of_none torn]

end SessionRegistry
