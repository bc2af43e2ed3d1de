import Mathlib.Algebra.GroupWithZero.Nat
import Mathlib.Data.List.Induction
import SessionRegistry.Proofs.Log.Torn
import SessionRegistry.Proofs.Store.Step

/-!
# What the log's writer promises

The writer keeps three counts that are changed in different places: the highest position written,
the highest position known to be on the disk, and the number of bytes that have not been synced. The
calls come one after the other, and the end of a sync period may fall between two of them or into
the wait for a record. Each call does a few things to the file, one after the other, and what the
counts say about the file is kept by each of these.

The position zero stands for nothing: the writer calls it durable before anything has been written.
So the positions of the records begin with one. The length of a record stands in four bytes.

## Main definitions

* `FileAction`, `LogWriter.act`: what is done to the file, and what the writer notes of it.
* `LogCall`, `LogCall.perform`: the calls of a writer.
* `LogCall.actions`: what a call does to the file.
* `LogRun`: a writer of an empty file, and what has been done to the file.
* `Tracks`: the counts of a writer agree with what has been done to its file.
* `LogRun.Keeps`: what a writer promises after a call.

## Main results

* `LogCall.run_perform`: a call does to the writer what its actions do.
* `Tracks.write`, `Tracks.sync`, `Tracks.clear`: each action keeps the counts in agreement.
* `LogRun.keeps_of_ascending`: after each call of a sequence with ascending positions from one on,
  the promises are kept.
-/

namespace SessionRegistry

/-! ## Actions on the file -/

/-- What is done to the log file. -/
inductive FileAction where
  /-- The frame of a record is put at the end of the file. -/
  | write (record : LogRecord)
  /-- Everything in the file goes to the disk. -/
  | sync
  /-- The file is emptied. -/
  | clear
  deriving DecidableEq, Repr

namespace FileAction

/-- The record that is written. -/
def record? : FileAction → Option LogRecord
  | write record => some record
  | sync | clear => none

/-- The records in the file, where there were some before. -/
def holds (held : List LogRecord) : FileAction → List LogRecord
  | write record => held ++ [record]
  | sync => held
  | clear => []

end FileAction

/-- The records that have been written. -/
def recordsWritten (actions : List FileAction) : List LogRecord :=
  actions.filterMap FileAction.record?

/-- The records that have been written since the file was emptied. -/
def recordsHeld (actions : List FileAction) : List LogRecord :=
  actions.foldl FileAction.holds []

/-- A record has been written, and the file has been synced after that. -/
def SyncedAfter (actions : List FileAction) (record : LogRecord) : Prop :=
  ∃ before after, actions = before ++ .write record :: after ∧ .sync ∈ after

/-- The highest position of some records, or zero. -/
def highestLsn (records : List LogRecord) : Lsn :=
  records.foldl (fun top record => max top record.lsn) 0

theorem highestLsn_concat (records : List LogRecord) (record : LogRecord) :
    highestLsn (records ++ [record]) = max (highestLsn records) record.lsn := by
  rw [highestLsn, List.foldl_append]
  rfl

/-- A position is beyond the highest one if it is beyond zero and beyond all. -/
theorem highestLsn_lt {records : List LogRecord} {lsn : Lsn} (positive : 0 < lsn)
    (h : ∀ record ∈ records, record.lsn < lsn) : highestLsn records < lsn := by
  induction records using List.reverseRecOn with
  | nil => exact positive
  | append_singleton records record ih =>
    rw [highestLsn_concat, max_lt_iff]
    exact ⟨ih fun other member => h other (List.mem_append_left _ member),
      h record (List.mem_append_right _ (List.mem_singleton_self _))⟩

theorem SyncedAfter.append {actions : List FileAction} {record : LogRecord}
    (h : SyncedAfter actions record) (more : List FileAction) :
    SyncedAfter (actions ++ more) record := by
  obtain ⟨before, after, rfl, synced⟩ := h
  exact ⟨before, after ++ more, by simp, List.mem_append_left more synced⟩

/-- A sync comes after everything that has been written. -/
theorem syncedAfter_concat {actions : List FileAction} {record : LogRecord}
    (h : record ∈ recordsWritten actions) : SyncedAfter (actions ++ [.sync]) record := by
  obtain ⟨action, written, same⟩ := List.mem_filterMap.1 h
  obtain ⟨before, after, rfl⟩ := List.append_of_mem written
  cases action with
  | write other =>
    cases same
    exact ⟨before, after ++ [.sync], by simp, by simp⟩
  | sync => cases same
  | clear => cases same

namespace LogWriter

variable (writer : LogWriter) (record : LogRecord)

/-- The writer after an action on its file. -/
def act (writer : LogWriter) : FileAction → LogWriter
  | .write record => writer.entered record
  | .sync => writer.sync
  | .clear => { writer with file := [], unsynced := 0 }

/-- What follows a written record. -/
def follows : List FileAction :=
  if (writer.entered record).syncsAfterWrite then [.sync] else []

/-- What writing a record does to the file. -/
def writes : List FileAction :=
  .write record :: writer.follows record

/-- What syncing unsynced bytes does to the file. -/
def flushes : List FileAction :=
  if writer.unsynced = 0 then [] else [.sync]

/-- The end of a sync period: unsynced bytes are synced. Without periods there is no end. -/
def elapse : LogWriter :=
  if writer.settings.syncPeriod = 0 then writer else writer.flush

/-- What the end of a sync period does to the file. -/
def elapses : List FileAction :=
  if writer.settings.syncPeriod = 0 then [] else writer.flushes

/-- What the wait for a position does to the file. -/
def awaits (lsn : Lsn) : List FileAction :=
  if lsn ≤ writer.durableLsn then [] else if writer.syncsWithinWait then [.sync] else []

theorem foldl_act_writes : (writer.writes record).foldl act writer = writer.write record := by
  rw [write_eq, writes, follows]
  split <;> rfl

theorem foldl_act_flushes : writer.flushes.foldl act writer = writer.flush := by
  rw [flush, flushes]
  split <;> rfl

theorem foldl_act_elapses : writer.elapses.foldl act writer = writer.elapse := by
  rw [elapse, elapses]
  split
  · rfl
  · exact writer.foldl_act_flushes

theorem foldl_act_awaits (lsn : Lsn) :
    (writer.awaits lsn).foldl act writer = ((awaitDurable lsn).run.run writer).2 := by
  rw [run_awaitDurable, awaits]
  split
  · rfl
  · split
    · split <;> rfl
    · rfl

/-- All that is done is to sync the file. -/
def OnlySyncs (actions : List FileAction) : Prop :=
  ∀ action ∈ actions, action = .sync

theorem onlySyncs_follows : OnlySyncs (writer.follows record) := by
  unfold OnlySyncs follows
  split <;> simp

theorem onlySyncs_flushes : OnlySyncs writer.flushes := by
  unfold OnlySyncs flushes
  split <;> simp

theorem onlySyncs_elapses : OnlySyncs writer.elapses := by
  unfold elapses
  split
  · simp [OnlySyncs]
  · exact writer.onlySyncs_flushes

theorem onlySyncs_awaits (lsn : Lsn) : OnlySyncs (writer.awaits lsn) := by
  unfold OnlySyncs awaits
  split
  · simp
  · split <;> simp

theorem OnlySyncs.append {actions more : List FileAction} (h : OnlySyncs actions)
    (hmore : OnlySyncs more) : OnlySyncs (actions ++ more) :=
  fun action member => (List.mem_append.1 member).elim (h action) (hmore action)

theorem OnlySyncs.recordsWritten {actions : List FileAction} (h : OnlySyncs actions) :
    recordsWritten actions = [] := by
  refine List.filterMap_eq_nil_iff.2 fun action member => ?_
  rw [h action member]
  rfl

theorem OnlySyncs.foldl_holds {actions : List FileAction} (h : OnlySyncs actions)
    (held : List LogRecord) : actions.foldl FileAction.holds held = held := by
  induction actions with
  | nil => rfl
  | cons action rest ih =>
    obtain rfl := h action List.mem_cons_self
    exact ih fun action member => h action (List.mem_cons_of_mem _ member)

/-- An action never takes durability back. -/
theorem durableLsn_le_act (action : FileAction) :
    writer.durableLsn ≤ (writer.act action).durableLsn := by
  cases action with
  | write record => exact UInt64.le_refl _
  | sync => exact (max_le_iff.1 (UInt64.le_refl _)).1
  | clear => exact UInt64.le_refl _

theorem durableLsn_le_foldl_act (actions : List FileAction) :
    writer.durableLsn ≤ (actions.foldl act writer).durableLsn := by
  induction actions generalizing writer with
  | nil => exact UInt64.le_refl _
  | cons action rest ih => exact UInt64.le_trans (writer.durableLsn_le_act action) (ih _)

end LogWriter

/-! ## Calls -/

/-- A call of the log's writer, or the end of a sync period between two calls. -/
inductive LogCall where
  /-- A record is written. The caller does not wait until it is durable. -/
  | append (record : LogRecord)
  /-- A record is written, and the caller waits until it is durable. A sync period may be over when
  the wait begins. -/
  | appendDurable (record : LogRecord) (due : Bool)
  | forceSync
  | truncate
  | elapse
  deriving DecidableEq, Repr

/-- The answer to a call. -/
inductive LogAnswer where
  | bytes (count : Nat)
  | position (lsn : Lsn)
  | done
  deriving DecidableEq, Repr

/-- The writer when the wait for a record begins. A sync period may be over by then. -/
def LogWriter.waiting (writer : LogWriter) (record : LogRecord) (due : Bool) : LogWriter :=
  if due then (writer.write record).elapse else writer.write record

namespace LogCall

/-- Make a call. -/
def perform : LogCall → LogM LogAnswer
  | append record => .bytes <$> LogWriter.append record
  | appendDurable record false => .bytes <$> LogWriter.appendDurable record
  | appendDurable record true => do
    let count ← LogWriter.append record
    modify LogWriter.elapse
    LogWriter.awaitDurable record.lsn
    return .bytes count
  | forceSync => .position <$> LogWriter.forceSync
  | truncate => (fun _ => .done) <$> LogWriter.truncate
  | elapse => (fun _ => .done) <$> (modify LogWriter.elapse : LogM Unit)

/-- What a call does to the file. -/
def actions (writer : LogWriter) : LogCall → List FileAction
  | append record => writer.writes record
  | appendDurable record due =>
    writer.writes record ++ (if due then (writer.write record).elapses else [])
      ++ (writer.waiting record due).awaits record.lsn
  | forceSync => writer.flushes
  | truncate => writer.flushes ++ [.clear]
  | elapse => writer.elapses

/-- The record that is submitted. -/
def record? : LogCall → Option LogRecord
  | append record => some record
  | appendDurable record _ => some record
  | forceSync | truncate | elapse => none

/-- The records that were submitted since the file was emptied. -/
def holds (held : List LogRecord) : LogCall → List LogRecord
  | truncate => []
  | call => held ++ call.record?.toList

/-- How a call must end, where `top` is the highest position submitted before and `next` is the
writer after the call. A record that was waited for is durable, unless the wait was in vain. A
forced sync answers the highest position, which is durable then. -/
def Ends (top : Lsn) (next : LogWriter) : LogCall → Except Error LogAnswer → Prop
  | append record, result => result = .ok (.bytes (Frame.ofRecord record).length)
  | appendDurable record _, result =>
    result = .ok (.bytes (Frame.ofRecord record).length) ∧ record.lsn ≤ next.durableLsn
      ∨ result = .error (.internal (.notDurable record.lsn next.durableLsn))
        ∧ next.durableLsn < record.lsn
  | forceSync, result => result = .ok (.position top) ∧ next.durableLsn = top
  | truncate, result => result = .ok .done
  | elapse, result => result = .ok .done

variable {writer : LogWriter}

/-- A record is written, and the wait for it runs on what the write leaves. -/
theorem run_perform_appendDurable (record : LogRecord) (due : Bool)
    (running : writer.running = true) :
    (appendDurable record due).perform.run.run writer
      = (((LogWriter.awaitDurable record.lsn).run.run (writer.waiting record due)).1.map
          fun _ => .bytes (Frame.ofRecord record).length,
        ((LogWriter.awaitDurable record.lsn).run.run (writer.waiting record due)).2) := by
  have written := writer.run_append record running
  cases due with
  | false =>
    have waiting : writer.waiting record false = writer.write record := rfl
    rw [perform, run_map, LogWriter.appendDurable, run_bind_of_ok writer _ written, run_bind,
      waiting]
    obtain ⟨result, next⟩ := (LogWriter.awaitDurable record.lsn).run.run (writer.write record)
    cases result <;> rfl
  | true =>
    have waiting : writer.waiting record true = (writer.write record).elapse := rfl
    rw [perform, run_bind_of_ok writer _ written]
    refine (run_bind_of_ok _ _ (run_modify _ LogWriter.elapse)).trans ?_
    rw [run_bind, waiting]
    obtain ⟨result, next⟩ :=
      (LogWriter.awaitDurable record.lsn).run.run (writer.write record).elapse
    cases result <;> rfl

/-- A call does to the writer what its actions do. -/
theorem run_perform (call : LogCall) (running : writer.running = true) :
    (call.perform.run.run writer).2 = (call.actions writer).foldl LogWriter.act writer := by
  cases call with
  | append record =>
    rw [perform, run_map, writer.run_append record running]
    exact (writer.foldl_act_writes record).symm
  | appendDurable record due =>
    have entered :
        ((writer.writes record ++ if due then (writer.write record).elapses else []).foldl
          LogWriter.act writer) = writer.waiting record due := by
      rw [List.foldl_append, writer.foldl_act_writes]
      cases due with
      | false => rfl
      | true => exact (writer.write record).foldl_act_elapses
    rw [run_perform_appendDurable record due running, actions, List.foldl_append, entered,
      LogWriter.foldl_act_awaits]
  | forceSync =>
    rw [perform, run_map, LogWriter.forceSync, run_bind_of_ok writer _
      (writer.run_requireRunning running), run_bind_of_ok writer _ (run_get writer), actions,
      LogWriter.flushes]
    split <;> rfl
  | truncate =>
    rw [perform, run_map, LogWriter.truncate, run_bind_of_ok writer _
      (writer.run_requireRunning running), actions, List.foldl_append, writer.foldl_act_flushes]
    rfl
  | elapse => exact writer.foldl_act_elapses.symm

/-- What a call does to the file: a record is written and syncs may follow, or the file is emptied
after it has been synced, or there are syncs alone. -/
theorem actions_cases (call : LogCall) (writer : LogWriter) :
    (∃ record more, call.record? = some record ∧ LogWriter.OnlySyncs more
        ∧ call.actions writer = .write record :: more)
      ∨ call = .truncate
      ∨ call ≠ .truncate ∧ call.record? = none ∧ LogWriter.OnlySyncs (call.actions writer) := by
  cases call with
  | append record =>
    exact .inl ⟨record, _, rfl, writer.onlySyncs_follows record, rfl⟩
  | appendDurable record due =>
    have elapses : LogWriter.OnlySyncs (if due then (writer.write record).elapses else []) := by
      cases due with
      | false => exact fun _ none => absurd none List.not_mem_nil
      | true => exact (writer.write record).onlySyncs_elapses
    exact .inl ⟨record, _, rfl, ((writer.onlySyncs_follows record).append elapses).append
      ((writer.waiting record due).onlySyncs_awaits record.lsn), rfl⟩
  | forceSync => exact .inr (.inr ⟨by simp, rfl, writer.onlySyncs_flushes⟩)
  | truncate => exact .inr (.inl rfl)
  | elapse => exact .inr (.inr ⟨by simp, rfl, writer.onlySyncs_elapses⟩)

/-- A call writes the record that it submits. -/
theorem recordsWritten_actions (call : LogCall) (writer : LogWriter) :
    recordsWritten (call.actions writer) = call.record?.toList := by
  rcases call.actions_cases writer with ⟨record, more, submits, only, same⟩ | rfl | ⟨-, none, only⟩
  · rw [same, submits]
    exact congrArg (record :: ·) only.recordsWritten
  · rw [recordsWritten, actions, List.filterMap_append]
    exact congrArg (· ++ []) writer.onlySyncs_flushes.recordsWritten
  · rw [only.recordsWritten, none]
    rfl

/-- A call leaves the records in the file that are held after it. -/
theorem foldl_holds_actions (call : LogCall) (writer : LogWriter) (held : List LogRecord) :
    (call.actions writer).foldl FileAction.holds held = call.holds held := by
  rcases call.actions_cases writer with
    ⟨record, more, submits, only, same⟩ | rfl | ⟨other, none, only⟩
  · have holds : call.holds held = held ++ [record] := by
      cases call <;> simp_all [LogCall.holds, record?]
    rw [same, holds]
    exact only.foldl_holds (held ++ [record])
  · rw [actions, List.foldl_append]
    rfl
  · have holds : call.holds held = held := by
      cases call <;> simp_all [LogCall.holds, record?]
    rw [holds, only.foldl_holds]

end LogCall

/-! ## Agreement of the counts with the actions -/

/-- The counts of a running writer agree with what has been done to its file. -/
structure Tracks (actions : List FileAction) (writer : LogWriter) : Prop where
  running : writer.running = true
  written : writer.writtenLsn = highestLsn (recordsWritten actions)
  durable : writer.durableLsn ≤ writer.writtenLsn
  /-- Without unsynced bytes everything is durable. -/
  settled : writer.unsynced = 0 → writer.durableLsn = writer.writtenLsn
  whole : Frame.remainder writer.file = []
  records : Frame.records writer.file = recordsHeld actions
  synced : ∀ record ∈ recordsWritten actions, record.lsn ≤ writer.durableLsn →
    SyncedAfter actions record

namespace Tracks

variable {actions : List FileAction} {writer : LogWriter} {record : LogRecord}

/-- Nothing has been done to an empty file. -/
theorem start (settings : LogSettings) : Tracks [] (LogWriter.start settings []) where
  running := rfl
  written := rfl
  durable := UInt64.le_refl _
  settled _ := rfl
  whole := Frame.remainder_nil
  records := Frame.records_nil
  synced _ none := absurd none List.not_mem_nil

theorem recordsWritten_concat (actions : List FileAction) (action : FileAction) :
    recordsWritten (actions ++ [action]) = recordsWritten actions ++ action.record?.toList := by
  rw [recordsWritten, List.filterMap_append]
  cases action <;> rfl

theorem recordsHeld_concat (actions : List FileAction) (action : FileAction) :
    recordsHeld (actions ++ [action]) = action.holds (recordsHeld actions) := by
  rw [recordsHeld, List.foldl_append]
  rfl

/-- A record at a new position is written. It is not durable yet, so nothing is promised of it. -/
theorem write (h : Tracks actions writer) (fits : Frame.Fits record)
    (later : writer.writtenLsn < record.lsn) :
    Tracks (actions ++ [.write record]) (writer.act (.write record)) where
  running := h.running
  written := by
    rw [recordsWritten_concat]
    exact (congrArg (max · record.lsn) h.written).trans (highestLsn_concat _ _).symm
  durable := UInt64.le_trans h.durable (max_le_iff.1 (UInt64.le_refl _)).1
  settled none := by
    -- A frame has at least its header, so bytes are left to sync.
    have header : 4 ≤ (Frame.ofRecord record).length := by
      rw [Frame.ofRecord, Frame.wrap, List.length_append, length_littleEndian]
      exact Nat.le_add_right ..
    have none : writer.unsynced + (Frame.ofRecord record).length = 0 := none
    omega
  whole := Frame.remainder_append_ofRecord h.whole fits
  records := by
    rw [recordsHeld_concat, ← h.records, FileAction.holds]
    exact Frame.records_append_ofRecord h.whole fits
  synced other written durable := by
    rw [recordsWritten_concat] at written
    rcases List.mem_append.1 written with before | new
    · exact (h.synced other before durable).append _
    · obtain rfl : other = record := List.mem_singleton.1 new
      -- The new record lies above the durable position.
      have below := UInt64.lt_of_le_of_lt h.durable later
      exact absurd durable (UInt64.not_le.2 below)

/-- After a sync everything that has been written is durable. -/
theorem sync (h : Tracks actions writer) : Tracks (actions ++ [.sync]) (writer.act .sync) := by
  have all : (writer.act .sync).durableLsn = writer.writtenLsn := by
    refine UInt64.le_antisymm (max_le_iff.2 ⟨h.durable, UInt64.le_refl _⟩) ?_
    exact (max_le_iff.1 (UInt64.le_refl _)).2
  constructor
  · exact h.running
  · rw [recordsWritten_concat]
    exact h.written.trans (congrArg highestLsn (List.append_nil _).symm)
  · rw [all]
    exact UInt64.le_refl _
  · exact fun _ => all
  · exact h.whole
  · rw [recordsHeld_concat]
    exact h.records
  · intro record written _
    rw [recordsWritten_concat] at written
    exact syncedAfter_concat ((List.mem_append.1 written).resolve_right List.not_mem_nil)

/-- The file is emptied when all of it has been synced. -/
theorem clear (h : Tracks actions writer) (synced : writer.unsynced = 0) :
    Tracks (actions ++ [.clear]) (writer.act .clear) where
  running := h.running
  written := by
    rw [recordsWritten_concat]
    exact h.written.trans (congrArg highestLsn (List.append_nil _).symm)
  durable := h.durable
  settled _ := h.settled synced
  whole := Frame.remainder_nil
  records := by
    rw [recordsHeld_concat]
    exact Frame.records_nil
  synced record written durable := by
    rw [recordsWritten_concat] at written
    have before := (List.mem_append.1 written).resolve_right List.not_mem_nil
    exact (h.synced record before durable).append _

/-- Any number of syncs keeps the counts in agreement. -/
theorem syncs {more : List FileAction} (h : Tracks actions writer)
    (only : LogWriter.OnlySyncs more) :
    Tracks (actions ++ more) (more.foldl LogWriter.act writer) := by
  induction more generalizing actions writer with
  | nil => rwa [List.append_nil]
  | cons action rest ih =>
    obtain rfl := only action List.mem_cons_self
    rw [List.append_cons]
    exact ih h.sync fun action member => only action (List.mem_cons_of_mem _ member)

/-- A record at a new position is written, and syncs follow. -/
theorem write_syncs {more : List FileAction} (h : Tracks actions writer)
    (fits : Frame.Fits record) (later : writer.writtenLsn < record.lsn)
    (only : LogWriter.OnlySyncs more) :
    Tracks (actions ++ .write record :: more)
      ((.write record :: more).foldl LogWriter.act writer) := by
  rw [List.append_cons]
  exact (h.write fits later).syncs only

/-- A call keeps the counts in agreement, if it submits no record or one at a new position. -/
theorem call (h : Tracks actions writer) (call : LogCall)
    (new : ∀ record, call.record? = some record →
      Frame.Fits record ∧ writer.writtenLsn < record.lsn) :
    Tracks (actions ++ call.actions writer) (call.perform.run.run writer).2 := by
  rw [call.run_perform h.running]
  rcases call.actions_cases writer with ⟨record, more, submits, only, same⟩ | rfl | ⟨-, -, only⟩
  · obtain ⟨fits, later⟩ := new record submits
    rw [same]
    exact h.write_syncs fits later only
  -- The file is emptied only after all of it has been synced.
  · have flushed := h.syncs writer.onlySyncs_flushes
    rw [LogCall.actions, ← List.append_assoc, List.foldl_append]
    refine flushed.clear ?_
    rw [writer.foldl_act_flushes, LogWriter.flush]
    split
    · assumption
    · rfl
  · exact h.syncs only

/-- A call ends as it must. -/
theorem ends (h : Tracks actions writer) (call : LogCall) :
    call.Ends (highestLsn (recordsWritten actions)) (call.perform.run.run writer).2
      (call.perform.run.run writer).1 := by
  cases call with
  | append record =>
    rw [LogCall.perform, run_map, writer.run_append record h.running]
    rfl
  | appendDurable record due =>
    rw [LogCall.run_perform_appendDurable record due h.running, LogWriter.run_awaitDurable]
    -- The record is durable before the wait, or after a sync that falls into it, or not at all.
    split
    · next durable => exact .inl ⟨rfl, durable⟩
    · next missing =>
      split
      · split
        · next durable => exact .inl ⟨rfl, durable⟩
        · next missing => exact .inr ⟨rfl, UInt64.not_le.1 missing⟩
      · exact .inr ⟨rfl, UInt64.not_le.1 missing⟩
  | forceSync =>
    rw [← h.written, LogCall.perform, run_map, LogWriter.forceSync, run_bind_of_ok writer _
      (writer.run_requireRunning h.running), run_bind_of_ok writer _ (run_get writer)]
    by_cases nothing : writer.unsynced = 0
    -- The durable position is answered, and it is the highest one because nothing is left to sync.
    · rw [if_pos nothing]
      have settled := h.settled nothing
      exact ⟨congrArg (fun lsn => Except.ok (LogAnswer.position lsn)) settled, settled⟩
    · rw [if_neg nothing]
      refine ⟨rfl, UInt64.le_antisymm (max_le_iff.2 ⟨h.durable, UInt64.le_refl _⟩) ?_⟩
      exact (max_le_iff.1 (UInt64.le_refl _)).2
  | truncate =>
    rw [LogCall.perform, run_map, LogWriter.truncate, run_bind_of_ok writer _
      (writer.run_requireRunning h.running)]
    rfl
  | elapse => rfl

end Tracks

/-! ## Records that are too long -/

namespace Frame

theorem lt_of_readLittleEndian {width n : Nat} {bytes rest : Bytes}
    (h : readLittleEndian width bytes = some (n, rest)) : n < 256 ^ width := by
  induction width generalizing bytes rest n with
  | zero =>
    obtain ⟨rfl, -⟩ := Prod.mk.inj (Option.some.inj h)
    exact Nat.one_pos
  | succ width ih =>
    cases bytes with
    | nil => simp [readLittleEndian] at h
    | cons byte bytes =>
      obtain ⟨⟨m, r⟩, hr, he⟩ := Option.map_eq_some_iff.1 h
      obtain ⟨rfl, -⟩ := Prod.mk.inj he
      have low : byte.toNat < 256 := byte.toNat_lt
      have high := ih hr
      rw [Nat.pow_succ]
      omega

/-- The length of every frame that is read can be written in front of it. -/
theorem length_lt_of_mem_payloads {bytes payload : Bytes} (h : payload ∈ payloads bytes) :
    payload.length < UInt32.size := by
  fun_induction payloads bytes with
  | case1 bytes hnext => simp at h
  | case2 bytes first rest hnext ih =>
    rcases List.mem_cons.1 h with rfl | h
    · simp only [next, Option.bind_eq_bind, Option.bind_eq_some_iff] at hnext
      obtain ⟨⟨n, r⟩, hr, hnext⟩ := hnext
      split at hnext
      · next inside =>
        cases hnext
        -- The length has been read from four bytes.
        rw [List.length_take, Nat.min_eq_left inside]
        exact lt_of_readLittleEndian hr
      · simp at hnext
    · exact ih h

/-- No record is read back that writes a session with a name that takes up a frame of the greatest
length. -/
theorem not_mem_records_of_long {bytes : Bytes} {record : LogRecord} {session : Session}
    (hop : record.op = .upsert session) (long : UInt32.size ≤ (Utf8.encode session.xid).length) :
    record ∉ records bytes := by
  intro member
  obtain ⟨payload, inside, read⟩ := List.mem_filterMap.1 member
  obtain ⟨front, middle, back, -, whole, name⟩ := upsert_of_record? read hop
  obtain ⟨header, -, rest⟩ := append_of_readLittleEndian name
  -- The name alone would be longer than the payload in which it stands.
  have short := length_lt_of_mem_payloads inside
  rw [whole, rest] at short
  simp only [List.length_append] at short
  omega

end Frame

/-! ## Sequences of calls -/

namespace LogCall

/-- The records that some calls submit. -/
def submitted (calls : List LogCall) : List LogRecord :=
  calls.filterMap record?

theorem submitted_concat (calls : List LogCall) (call : LogCall) :
    submitted (calls ++ [call]) = submitted calls ++ call.record?.toList := by
  rw [submitted, List.filterMap_append, submitted]
  cases h : call.record? <;> simp [h]

/-- The records that some calls submit after the file has been emptied for the last time. -/
def heldRecords (calls : List LogCall) : List LogRecord :=
  calls.foldl holds []

end LogCall

/-- Records that a writer keeps in order: their positions ascend from one on, and the length of each
can be written. -/
structure Ordered (records : List LogRecord) : Prop where
  positive : ∀ record ∈ records, 0 < record.lsn
  ascending : records.Pairwise fun a b => a.lsn < b.lsn
  fits : ∀ record ∈ records, Frame.Fits record

theorem Ordered.left {records more : List LogRecord} (h : Ordered (records ++ more)) :
    Ordered records where
  positive record member := h.positive record (List.mem_append_left _ member)
  ascending := (List.pairwise_append.1 h.ascending).1
  fits record member := h.fits record (List.mem_append_left _ member)

/-- A writer of an empty file, and what has been done to the file. -/
structure LogRun where
  writer : LogWriter
  actions : List FileAction

namespace LogRun

variable {settings : LogSettings} {calls past rest : List LogCall} {call : LogCall}

/-- A writer that has been started on an empty file. -/
def start (settings : LogSettings) : LogRun where
  writer := LogWriter.start settings []
  actions := []

/-- The run with one more call. -/
def next (run : LogRun) (call : LogCall) : LogRun where
  writer := (call.perform.run.run run.writer).2
  actions := run.actions ++ call.actions run.writer

/-- The run of some calls, one after the other. -/
def ofCalls (settings : LogSettings) (calls : List LogCall) : LogRun :=
  calls.foldl next (start settings)

theorem ofCalls_concat (settings : LogSettings) (past : List LogCall) (call : LogCall) :
    ofCalls settings (past ++ [call]) = (ofCalls settings past).next call := by
  rw [ofCalls, List.foldl_append]
  rfl

/-- The records that have been written are those that were submitted. -/
theorem recordsWritten_ofCalls (settings : LogSettings) (calls : List LogCall) :
    recordsWritten (ofCalls settings calls).actions = LogCall.submitted calls := by
  induction calls using List.reverseRecOn with
  | nil => rfl
  | append_singleton past call ih =>
    rw [ofCalls_concat, next, recordsWritten, List.filterMap_append, LogCall.submitted_concat]
    exact congrArg₂ (· ++ ·) ih (call.recordsWritten_actions _)

/-- The records in the file are those that were submitted since it was emptied. -/
theorem recordsHeld_ofCalls (settings : LogSettings) (calls : List LogCall) :
    recordsHeld (ofCalls settings calls).actions = LogCall.heldRecords calls := by
  induction calls using List.reverseRecOn with
  | nil => rfl
  | append_singleton past call ih =>
    rw [ofCalls_concat, next, recordsHeld, List.foldl_append, call.foldl_holds_actions,
      LogCall.heldRecords, List.foldl_append]
    exact congrArg call.holds ih

/-- The counts agree with the actions over every run that keeps its records in order. -/
theorem tracks (ordered : Ordered (LogCall.submitted calls)) :
    Tracks (ofCalls settings calls).actions (ofCalls settings calls).writer := by
  induction calls using List.reverseRecOn with
  | nil => exact Tracks.start settings
  | append_singleton past call ih =>
    rw [LogCall.submitted_concat] at ordered
    have earlier := ih ordered.left
    rw [ofCalls_concat]
    refine earlier.call call fun record submits => ?_
    have last : record ∈ call.record?.toList := Option.mem_toList.2 submits
    have member := List.mem_append_right (LogCall.submitted past) last
    refine ⟨ordered.fits record member, ?_⟩
    -- What has been written are the records submitted before, and the new one lies above them.
    rw [earlier.written, recordsWritten_ofCalls]
    exact highestLsn_lt (ordered.positive record member) fun other before =>
      (List.pairwise_append.1 ordered.ascending).2.2 other before record last

/-- What a writer promises after a call: the file holds the records that were submitted since it was
emptied, in order; the durable position never goes back nor beyond the highest position; every
record at or below the durable position has been synced after it was written; and the call has ended
as it must. -/
structure Keeps (settings : LogSettings) (past : List LogCall) (call : LogCall) : Prop where
  records : Frame.records (ofCalls settings (past ++ [call])).writer.file
    = LogCall.heldRecords (past ++ [call])
  monotone : (ofCalls settings past).writer.durableLsn
    ≤ (ofCalls settings (past ++ [call])).writer.durableLsn
  bounded : (ofCalls settings (past ++ [call])).writer.durableLsn
    ≤ highestLsn (LogCall.submitted (past ++ [call]))
  synced : ∀ record ∈ LogCall.submitted (past ++ [call]),
    record.lsn ≤ (ofCalls settings (past ++ [call])).writer.durableLsn →
      SyncedAfter (ofCalls settings (past ++ [call])).actions record
  ends : call.Ends (highestLsn (LogCall.submitted past))
    (ofCalls settings (past ++ [call])).writer
    (call.perform.run.run (ofCalls settings past).writer).1

/-- A writer that is started on an empty file keeps its promises after each call, whatever its
settings are and whenever its sync periods are over, if the positions of the records ascend from one
on and the length of each record can be written. -/
theorem keeps_of_ascending
    (positive : ∀ record ∈ LogCall.submitted calls, 0 < record.lsn)
    (ascending : (LogCall.submitted calls).Pairwise fun a b => a.lsn < b.lsn)
    (fits : ∀ record ∈ LogCall.submitted calls,
      (Codec.record.encode record).length < UInt32.size)
    (parts : calls = past ++ call :: rest) : Keeps settings past call := by
  have ordered : Ordered (LogCall.submitted calls) := ⟨positive, ascending, fits⟩
  -- What is promised after a call depends on the calls up to it alone.
  have split : LogCall.submitted calls
      = LogCall.submitted (past ++ [call]) ++ LogCall.submitted rest := by
    rw [parts, List.append_cons, LogCall.submitted, List.filterMap_append]
    rfl
  rw [split] at ordered
  have after : Tracks (ofCalls settings (past ++ [call])).actions _ := tracks ordered.left
  have before : Tracks (ofCalls settings past).actions _ :=
    tracks (LogCall.submitted_concat past call ▸ ordered.left).left
  have written := recordsWritten_ofCalls settings (past ++ [call])
  constructor
  · rw [after.records, recordsHeld_ofCalls]
  · rw [ofCalls_concat, next, call.run_perform before.running]
    exact LogWriter.durableLsn_le_foldl_act _ _
  · rw [← written, ← after.written]
    exact after.durable
  · rw [← written]
    exact after.synced
  · rw [← recordsWritten_ofCalls settings past, ofCalls_concat]
    exact before.ends call

/-- Two records are waited for, a sync period is over, the file is synced and emptied, and a third
record is written: a sequence whose records are in order. -/
theorem keeps_of_three_records :
    ∃ (calls : List LogCall) (past : List LogCall) (call : LogCall),
      calls.length = 7 ∧ calls = past ++ call :: []
        ∧ (∀ record ∈ LogCall.submitted calls, 0 < record.lsn)
        ∧ ((LogCall.submitted calls).Pairwise fun a b => a.lsn < b.lsn)
        ∧ (∀ record ∈ LogCall.submitted calls,
          (Codec.record.encode record).length < UInt32.size)
        ∧ LogCall.submitted calls ≠ [] ∧ Keeps {} past call := by
  let record (lsn : Lsn) : LogRecord := { lsn, op := .remove "A", timestamp := 0 }
  let past : List LogCall := [.appendDurable (record 1) true, .appendDurable (record 3) false,
    .elapse, .forceSync, .truncate, .append (record 4)]
  have positive : ∀ record ∈ LogCall.submitted (past ++ [.forceSync]), 0 < record.lsn := by decide
  have ascending :
      (LogCall.submitted (past ++ [.forceSync])).Pairwise fun a b => a.lsn < b.lsn := by decide
  have fits : ∀ record ∈ LogCall.submitted (past ++ [.forceSync]),
      (Codec.record.encode record).length < UInt32.size := by
    decide
  exact ⟨_, past, .forceSync, rfl, rfl, positive, ascending, fits, by decide,
    keeps_of_ascending positive ascending fits rfl⟩

/-- The record that is not read back is not among those that the file should hold. -/
theorem not_keeps_of_long_name {record : LogRecord} {session : Session}
    (hop : record.op = .upsert session) (long : UInt32.size ≤ (Utf8.encode session.xid).length) :
    ¬ Keeps settings [] (.append record) := by
  intro keeps
  have held : record ∈ LogCall.heldRecords ([] ++ [.append record]) := List.mem_singleton_self _
  rw [← keeps.records] at held
  exact Frame.not_mem_records_of_long hop long held

/-- Settings with which nothing is synced before forty bytes have been written. -/
def syncingAtForty : LogSettings :=
  { syncPeriod := 1000000, durableWait := 50, maxUnsyncedBytes := 40 }

/-- The call that removes a session and waits until that is durable. -/
def removing (lsn : Lsn) (xid : Xid) : LogCall :=
  .appendDurable { lsn, op := .remove xid, timestamp := 0 } false

/-- The record that writes a session with a name of `2 ^ 32` bytes. -/
def longNamed : LogRecord where
  lsn := 1
  op := .upsert (Session.start (String.ofList (List.replicate (2 ^ 32) 'a')) 1 "app" "tx" 1)
  timestamp := 0

/-- A record at the position zero counts as durable although the file has not been synced, and the
next one is synced only because both together are enough bytes. A record with a name of `2 ^ 32`
bytes is not read back. -/
theorem not_keeps_of_lsn_zero_and_of_long_name :
    ((removing 0 "A").perform.run.run (start syncingAtForty).writer).1 = .ok (.bytes 33)
      ∧ (ofCalls syncingAtForty [removing 0 "A"]).actions
        = [.write { lsn := 0, op := .remove "A", timestamp := 0 }]
      ∧ ¬ Keeps syncingAtForty [] (removing 0 "A")
      ∧ ((removing 1 "B").perform.run.run (ofCalls syncingAtForty [removing 0 "A"]).writer).1
        = .ok (.bytes 33)
      ∧ 0 < longNamed.lsn ∧ ¬ Keeps {} [] (.append longNamed) := by
  have unsynced : (ofCalls syncingAtForty [removing 0 "A"]).actions
      = [.write { lsn := 0, op := .remove "A", timestamp := 0 }] := by
    decide
  refine ⟨by decide, unsynced, fun keeps => ?_, by decide, by decide, not_keeps_of_long_name rfl ?_⟩
  -- The record is said to be synced, but the only action was to write it.
  · obtain ⟨before, after, whole, member⟩ :=
      keeps.synced { lsn := 0, op := .remove "A", timestamp := 0 } (by decide) (by decide)
    have inside := List.mem_append_right before
      (List.mem_cons_of_mem (.write { lsn := 0, op := .remove "A", timestamp := 0 }) member)
    rw [← whole, List.nil_append, unsynced] at inside
    simp at inside
  · rw [Session.start, Utf8.encode_replicate, List.length_replicate]
    exact Nat.le_refl _

end LogRun

end SessionRegistry
