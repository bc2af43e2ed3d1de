import Mathlib.Data.List.Induction
import SessionRegistry.Proofs.Log.Cut
import SessionRegistry.Proofs.Store.Recovery
import SessionRegistry.Proofs.Store.Snapshot

/-!
# The last record about a session decides

Replaying goes through the records in the order of their positions, wherever they stand in the log.
So what is recovered depends only on which records the log holds, and whether a session is
recovered, and with which image, is decided by the highest record about it that the snapshot does
not cover. Only without such a record does the snapshot decide.

## Main definitions

* `Snapshot.image?`: the session that a snapshot has under an xid.
* `LogRecord.Latest`: the highest uncovered record about a session.

## Main results

* `SessionTable.get?_foldl_publish`: of several changes the last one about a session decides.
* `Recovered.uncovered_eq_of_perm`: records with distinct positions are replayed in one order only.
* `recover_of_perm`: the order of the records in the log plays no part, and the last one decides.
-/

namespace SessionRegistry

/-- The image that an operation leaves of the session it speaks about. -/
def LogOperation.image? : LogOperation → Option Session
  | upsert session => some session
  | remove _ => none
  | checkpoint _ => none

/-- An operation leaves an image exactly if it is the one that writes it. -/
theorem LogOperation.image?_eq_some_iff {op : LogOperation} {session : Session} :
    op.image? = some session ↔ op = .upsert session := by
  cases op <;> simp [image?]

/-- The session that a snapshot has under an xid. Of several with the same xid the last one
counts. -/
def Snapshot.image? (snapshot : Snapshot) (xid : Xid) : Option Session :=
  (snapshot.sessions.filter (·.xid == xid)).getLast?

/-- A record is the highest one about a session that a snapshot does not cover. -/
structure LogRecord.Latest (snapshot : Snapshot) (records : List LogRecord) (xid : Xid)
    (record : LogRecord) : Prop where
  mem : record ∈ records
  uncovered : snapshot.lsn < record.lsn
  about : record.op.xid? = some xid
  highest : ∀ other ∈ records, other.op.xid? = some xid → other.lsn ≤ record.lsn

/-! ## Changes of a table -/

namespace SessionTable

/-- A change decides what is found under the xid that it speaks about. -/
theorem get?_publish_of_xid? {table : SessionTable} {op : LogOperation} {xid : Xid}
    (h : op.xid? = some xid) : (Store.publish table op).get? xid = op.image? := by
  cases op with
  | upsert session =>
    obtain rfl : session.xid = xid := Option.some.inj h
    exact get?_insert_self table session
  | remove removed =>
    obtain rfl : removed = xid := Option.some.inj h
    exact get?_erase_self table removed
  | checkpoint lsn => cases h

/-- A change leaves what is found under every other xid. -/
theorem get?_publish_of_xid?_ne {table : SessionTable} {op : LogOperation} {xid : Xid}
    (h : op.xid? ≠ some xid) : (Store.publish table op).get? xid = table.get? xid := by
  cases op with
  | upsert session => exact get?_insert_of_ne table session fun same => h (congrArg some same)
  | remove removed => exact get?_erase_of_ne table fun same => h (congrArg some same)
  | checkpoint lsn => rfl

/-- Of several changes the last one about a session decides what is found of it, and without one
the session is what it was. -/
theorem get?_foldl_publish (ops : List LogOperation) (table : SessionTable) (xid : Xid) :
    (ops.foldl Store.publish table).get? xid =
      ((ops.filter (·.xid? == some xid)).getLast?.map LogOperation.image?).getD
        (table.get? xid) := by
  -- The change that decides comes last, so the list is built up from its front.
  induction ops using List.reverseRecOn with
  | nil => rfl
  | append_singleton earlier op ih =>
    rw [List.foldl_append, List.foldl_cons, List.foldl_nil, List.filter_append]
    by_cases about : op.xid? = some xid
    · rw [get?_publish_of_xid? about, List.filter_cons_of_pos (by simpa using about)]
      simp
    · rw [get?_publish_of_xid?_ne about, List.filter_cons_of_neg (by simpa using about), ih]
      simp

/-- The table of a list of sessions is made by writing them one after the other. -/
theorem ofList_eq_foldl_publish (sessions : List Session) :
    ofList sessions = (sessions.map LogOperation.upsert).foldl Store.publish empty := by
  rw [ofList, List.foldl_map]
  rfl

/-- Of several sessions with the same xid the last one is found. -/
theorem get?_ofList (sessions : List Session) (xid : Xid) :
    (ofList sessions).get? xid = (sessions.filter (·.xid == xid)).getLast? := by
  have about : ((sessions.map LogOperation.upsert).filter (·.xid? == some xid)) =
      (sessions.filter (·.xid == xid)).map LogOperation.upsert := by
    rw [List.filter_map]
    rfl
  rw [ofList_eq_foldl_publish, get?_foldl_publish, about, List.getLast?_map, get?_empty]
  cases (sessions.filter (·.xid == xid)).getLast? <;> rfl

end SessionTable

/-! ## The order of the records -/

namespace Recovered

variable {snapshot : Snapshot} {records others : List LogRecord}

/-- The records that are replayed are in ascending order, where no two share a position. -/
theorem pairwise_uncovered (snapshot : Snapshot) (distinct : (records.map LogRecord.lsn).Nodup) :
    (uncovered snapshot records).Pairwise fun a b => a.lsn < b.lsn := by
  have differ : (uncovered snapshot records).Pairwise fun a b => a.lsn ≠ b.lsn :=
    (List.pairwise_map.1 (((List.mergeSort_perm records _).map LogRecord.lsn).nodup_iff.2
      distinct)).filter _
  refine ((sorted_uncovered snapshot records).and differ).imp ?_
  intro a b ⟨inOrder, ne⟩
  exact UInt64.lt_of_le_of_ne inOrder ne

/-- Records with distinct positions are replayed in the same order wherever they stand in the
log. -/
theorem uncovered_eq_of_perm (distinct : (records.map LogRecord.lsn).Nodup)
    (same : others.Perm records) : uncovered snapshot others = uncovered snapshot records := by
  have replayed : (uncovered snapshot others).Perm (uncovered snapshot records) :=
    ((List.mergeSort_perm others _).trans (same.trans (List.mergeSort_perm records _).symm)).filter
      _
  have distinct' : (others.map LogRecord.lsn).Nodup := (same.map LogRecord.lsn).nodup_iff.2 distinct
  refine replayed.eq_of_pairwise ?_ (pairwise_uncovered snapshot distinct')
    (pairwise_uncovered snapshot distinct)
  intro a b _ _ first second
  exact absurd second (UInt64.lt_asymm first)

/-- What is recovered depends only on which records there are. -/
theorem ofParts_eq_of_perm (distinct : (records.map LogRecord.lsn).Nodup)
    (same : others.Perm records) : ofParts snapshot others = ofParts snapshot records := by
  rw [ofParts, uncovered_eq_of_perm distinct same, ofParts]

/-! ## The last record -/

/-- Replaying records publishes their operations one after the other. -/
theorem sessions_foldl_replay (replayed : List LogRecord) (state : Recovered) :
    (replayed.foldl replay state).sessions =
      (replayed.map LogRecord.op).foldl Store.publish state.sessions := by
  induction replayed generalizing state with
  | nil => rfl
  | cons record rest ih =>
    rw [List.foldl_cons, ih, sessions_replay]
    rfl

/-- In ascending order the last record about a session is the highest one about it. -/
theorem getLast?_eq_some_iff_latest (distinct : (records.map LogRecord.lsn).Nodup) {xid : Xid}
    {record : LogRecord} :
    ((uncovered snapshot records).filter (·.op.xid? == some xid)).getLast? = some record ↔
      record.Latest snapshot records xid := by
  have ascending := (pairwise_uncovered snapshot distinct).filter
    (·.op.xid? == some xid)
  have mem (a : LogRecord) : a ∈ (uncovered snapshot records).filter (·.op.xid? == some xid) ↔
      (a ∈ records ∧ snapshot.lsn < a.lsn) ∧ a.op.xid? = some xid := by
    rw [List.mem_filter, mem_uncovered, beq_iff_eq]
  constructor
  · intro last
    obtain ⟨earlier, split⟩ := List.getLast?_eq_some_iff.1 last
    rw [split] at ascending mem
    obtain ⟨⟨hrecord, huncovered⟩, about⟩ := (mem record).1 (by simp)
    refine ⟨hrecord, huncovered, about, fun other hother aboutOther => ?_⟩
    by_cases covered : snapshot.lsn < other.lsn
    · rcases List.mem_append.1 ((mem other).2 ⟨⟨hother, covered⟩, aboutOther⟩) with front | same
      · exact UInt64.le_of_lt ((List.pairwise_append.1 ascending).2.2 other front record (by simp))
      · rw [List.mem_singleton.1 same]
        exact UInt64.le_refl _
    · exact UInt64.le_trans (UInt64.not_lt.1 covered) (UInt64.le_of_lt huncovered)
  · intro latest
    have found := (mem record).2 ⟨⟨latest.mem, latest.uncovered⟩, latest.about⟩
    obtain ⟨earlier, rest, split⟩ := List.append_of_mem found
    cases rest with
    | nil => exact List.getLast?_eq_some_iff.2 ⟨earlier, split⟩
    | cons next rest =>
      -- A record behind it would be higher.
      rw [split] at ascending mem
      obtain ⟨⟨hnext, -⟩, aboutNext⟩ := (mem next).1 (by simp)
      have higher : record.lsn < next.lsn :=
        (List.pairwise_cons.1 (List.pairwise_append.1 ascending).2.1).1 next List.mem_cons_self
      exact absurd (latest.highest next hnext aboutNext) (UInt64.not_le.2 higher)

/-- No record about a session is replayed exactly if the snapshot covers all of them. -/
theorem getLast?_eq_none_iff_covered {xid : Xid} :
    ((uncovered snapshot records).filter (·.op.xid? == some xid)).getLast? = none ↔
      ∀ record ∈ records, record.op.xid? = some xid → record.lsn ≤ snapshot.lsn := by
  rw [List.getLast?_eq_none_iff, List.filter_eq_nil_iff]
  simp only [mem_uncovered, beq_iff_eq, ← UInt64.not_lt]
  exact ⟨fun h record mem about new => h record ⟨mem, new⟩ about,
    fun h record mem about => h record mem.1 about mem.2⟩

/-- A session is recovered with an image exactly if the highest uncovered record about it writes
that image, or the snapshot covers all records about it and has that image. -/
theorem get?_ofParts_eq_some_iff (distinct : (records.map LogRecord.lsn).Nodup) {xid : Xid}
    {session : Session} :
    (ofParts snapshot records).sessions.get? xid = some session ↔
      (∃ record : LogRecord, record.Latest snapshot records xid ∧ record.op = .upsert session) ∨
      (∀ record ∈ records, record.op.xid? = some xid → record.lsn ≤ snapshot.lsn) ∧
        snapshot.image? xid = some session := by
  have found : (ofParts snapshot records).sessions.get? xid =
      ((((uncovered snapshot records).filter (·.op.xid? == some xid)).getLast?.map fun record =>
        record.op.image?).getD (snapshot.image? xid)) := by
    rw [ofParts, sessions_foldl_replay, SessionTable.get?_foldl_publish, List.filter_map,
      List.getLast?_map, Option.map_map]
    show _ = Option.getD _ (List.getLast? _)
    rw [← SessionTable.get?_ofList]
    rfl
  rw [found]
  cases last : ((uncovered snapshot records).filter (·.op.xid? == some xid)).getLast? with
  | none =>
    have covered := getLast?_eq_none_iff_covered.1 last
    constructor
    · exact fun image => .inr ⟨covered, image⟩
    · rintro (⟨record, latest, -⟩ | ⟨-, image⟩)
      · rw [(getLast?_eq_some_iff_latest distinct).2 latest] at last
        cases last
      · exact image
  | some record =>
    have latest := (getLast?_eq_some_iff_latest distinct).1 last
    show record.op.image? = some session ↔ _
    rw [LogOperation.image?_eq_some_iff]
    constructor
    · exact fun writes => .inl ⟨record, latest, writes⟩
    · rintro (⟨other, latest', writes⟩ | ⟨covered, -⟩)
      · rw [(getLast?_eq_some_iff_latest distinct).2 latest'] at last
        exact Option.some.inj last ▸ writes
      · exact absurd (covered record latest.mem latest.about) (UInt64.not_le.2 latest.uncovered)

end Recovered

/-- The order of the records in the log plays no part, and the last record about a session decides:
two logs with the same records at distinct positions give the same recovery. A session is recovered
with an image exactly if the highest record about it that the snapshot does not cover writes that
image, or there is no such record and the snapshot has that image. -/
theorem recover_of_perm {file : Option String} {log other : Bytes}
    (distinct : ((Frame.records log).map LogRecord.lsn).Nodup)
    (same : (Frame.records other).Perm (Frame.records log)) :
    recover ⟨file, other⟩ = recover ⟨file, log⟩ ∧
      ∀ snapshot, Snapshot.read file = .ok snapshot → ∃ recovered,
        recover ⟨file, log⟩ = .ok recovered ∧
        ∀ xid session, recovered.sessions.get? xid = some session ↔
          (∃ record : LogRecord, record.Latest snapshot (Frame.records log) xid ∧
            record.op = .upsert session) ∨
          (¬ ∃ record ∈ Frame.records log, snapshot.lsn < record.lsn ∧
            record.op.xid? = some xid) ∧ snapshot.image? xid = some session := by
  constructor
  · unfold recover
    cases Snapshot.read file with
    | error e => rfl
    | ok snapshot => exact congrArg Except.ok (Recovered.ofParts_eq_of_perm distinct same)
  · intro snapshot hread
    refine ⟨_, recover_eq_ok_iff.2 ⟨snapshot, hread, rfl⟩, fun xid session => ?_⟩
    have none_above : (¬ ∃ record ∈ Frame.records log, snapshot.lsn < record.lsn ∧
        record.op.xid? = some xid) ↔
        ∀ record ∈ Frame.records log, record.op.xid? = some xid → record.lsn ≤ snapshot.lsn := by
      simp only [not_exists, not_and, ← UInt64.not_lt]
      exact ⟨fun h record mem about new => h record mem new about,
        fun h record mem new about => h record mem about new⟩
    rw [none_above]
    exact Recovered.get?_ofParts_eq_some_iff distinct

/-- A session that was removed and begun again is recovered as it was begun again, also from a log
in which its removal stands behind that record and a record that the snapshot covers comes last. A
session that no record is about is recovered as the snapshot has it. -/
theorem recover_of_perm_of_begun_again :
    let old := Session.start "a" 1 "" "" 5
    let other := Session.start "b" 2 "" "" 5
    let again := Session.start "a" 3 "" "" 7
    let file := some (Snapshot.write ⟨2, 5, 5, 2, [old, other]⟩)
    let covered := Frame.Content.entry ⟨1, .upsert old, 5⟩ (by decide +kernel)
    let removed := Frame.Content.entry ⟨3, .remove "a", 6⟩ (by decide +kernel)
    let begun := Frame.Content.entry ⟨4, .upsert again, 7⟩ (by decide +kernel)
    ∃ recovered, recover ⟨file, Frame.frames [begun, removed, covered]⟩ = .ok recovered ∧
      recover ⟨file, Frame.frames [covered, removed, begun]⟩ = .ok recovered ∧
      recovered.sessions.get? "a" = some again ∧ recovered.sessions.get? "b" = some other := by
  intro old other again file covered removed begun
  have inOrder : Frame.records (Frame.frames [covered, removed, begun]) =
      [⟨1, .upsert old, 5⟩, ⟨3, .remove "a", 6⟩, ⟨4, .upsert again, 7⟩] := Frame.records_frames _
  have reversed : Frame.records (Frame.frames [begun, removed, covered]) =
      [⟨4, .upsert again, 7⟩, ⟨3, .remove "a", 6⟩, ⟨1, .upsert old, 5⟩] := Frame.records_frames _
  obtain ⟨same, decided⟩ := @recover_of_perm file
    (Frame.frames [covered, removed, begun]) (Frame.frames [begun, removed, covered])
    (by rw [inOrder]; decide) (by rw [inOrder, reversed]; exact List.reverse_perm [_, _, _])
  obtain ⟨recovered, ok, found⟩ := decided _ (Snapshot.read_write _)
  rw [inOrder] at found
  refine ⟨recovered, same.trans ok, ok, (found ..).2 (.inl ?_), (found ..).2 (.inr ?_)⟩
  · exact ⟨⟨4, .upsert again, 7⟩, ⟨by simp, by decide, rfl, by decide⟩, rfl⟩
  · exact ⟨by decide, rfl⟩

end SessionRegistry
