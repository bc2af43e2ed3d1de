import SessionRegistry.Proofs.Log.Torn
import SessionRegistry.Proofs.Store.Intact

/-!
# Opening behind a torn log

A store that is opened on the files of a crash appends to the log as it is, unless a record had to
be replayed. If the log ends with a torn frame and nothing had to be replayed, a change that is made
and acknowledged next stands behind the torn frame, where recovery does not find it.

## Main results

* `recovers_iff_not_torn`: acknowledged changes are found again exactly if a record was replayed
  when the store was opened or the log ended with a whole frame.
* `put_lost_behind_stray_byte`: a store that is opened behind a single stray byte loses the session
  that is put next.
-/

namespace SessionRegistry

/-- The bytes of a number that fits into one byte less. -/
theorem littleEndian_succ {width n : Nat} (h : n < Nat.pow 256 width) :
    littleEndian (width + 1) n = littleEndian width n ++ [0] := by
  induction width generalizing n with
  | zero =>
    obtain rfl : n = 0 := by simpa using h
    rfl
  | succ width ih =>
    have high : n / 256 < Nat.pow 256 width := by
      rw [Nat.div_lt_iff_lt_mul (by decide)]
      exact h
    rw [littleEndian, ih high, littleEndian, List.cons_append]

namespace Store

/-- A session with a name that is a run of one letter. -/
def probe (m : Nat) (id : UInt64) (now : Millis) : Session :=
  { Session.start (String.ofList (List.replicate m 'a')) id "" "" 0 with modifiedTime := now }

/-- The frame of a probe: the run of its name stands between a zero byte and the first byte of its
number. -/
theorem ofRecord_probe {m : Nat} (id : UInt64) (now : Millis) (lsn : Lsn) (h : m < Nat.pow 256 7) :
    ∃ front back : Bytes,
      Frame.ofRecord { lsn, op := .upsert (probe m id now), timestamp := now }
          = front ++ 0 :: (List.replicate m 97 ++ UInt8.ofNat id.toNat :: back)
        ∧ front.length = 23 ∧ back.length = 76 := by
  have run : Utf8.encode (probe m id now).xid = List.replicate m 97 := Utf8.encode_replicate m
  obtain ⟨tail, hsession, htail⟩ : ∃ tail : Bytes,
      Codec.session.encode (probe m id now)
          = littleEndian 8 (Utf8.encode (probe m id now).xid).length
            ++ (Utf8.encode (probe m id now).xid ++ (littleEndian 8 id.toNat ++ tail))
        ∧ tail.length = 61 := by
    refine ⟨_, List.append_assoc _ _ _, ?_⟩
    have nothing : Utf8.encode "" = [] := rfl
    simp only [Codec.pair, Codec.text, Codec.uint64, probe, Session.start, nothing]
    simp [Codec.globalStatus, Codec.oneOf, Codec.option, Codec.list]
  rw [run, List.length_replicate, littleEndian_succ h] at hsession
  let record : LogRecord := { lsn, op := .upsert (probe m id now), timestamp := now }
  refine ⟨littleEndian 4 (Codec.record.encode record).length
      ++ (littleEndian 8 lsn.toNat ++ (littleEndian 4 0 ++ littleEndian 7 m)),
    littleEndian 7 (id.toNat / 256) ++ (tail ++ littleEndian 8 now.toNat), ?_, ?_, ?_⟩
  · have whole : Frame.ofRecord record = littleEndian 4 (Codec.record.encode record).length
        ++ (littleEndian 8 lsn.toNat ++ ((littleEndian 4 0 ++ Codec.session.encode (probe m id now))
          ++ littleEndian 8 now.toNat)) := rfl
    rw [whole, hsession]
    simp only [List.append_assoc, List.cons_append, List.nil_append]
    rfl
  · simp only [List.length_append, length_littleEndian]
  · simp only [List.length_append, length_littleEndian, htail]

/-- The frame of a probe is not read behind a torn frame, as long as the length of its name is not
the number in the place where the torn frame may have such a length. -/
theorem xid_ne_of_torn {torn : Bytes} {m : Nat} {id : UInt64} {now : Millis} {lsn : Lsn}
    {record : LogRecord} {session : Session} (htorn : Frame.next torn = none) (hne : torn ≠ [])
    (long : 200 ≤ m) (short : m < Nat.pow 256 7) (hid : UInt8.ofNat id.toNat ≠ 97)
    (hm : ∀ rest, readLittleEndian 8 (torn.drop 16) ≠ some (m, rest))
    (h : record ∈ Frame.records
      (torn ++ Frame.ofRecord { lsn, op := .upsert (probe m id now), timestamp := now }))
    (hop : record.op = .upsert session) : session.xid ≠ (probe m id now).xid := by
  intro same
  have run : Utf8.encode session.xid = List.replicate m 97 := by
    rw [same]
    exact Utf8.encode_replicate m
  obtain ⟨before, after, hframe, hbefore, hafter⟩ := ofRecord_probe id now lsn short
  obtain ⟨payload, hpayload, hrecord⟩ := List.mem_filterMap.1 h
  obtain ⟨front, header, back, split, hheader, place⟩ :=
    Frame.append_of_mem_payloads_torn htorn hpayload
  obtain ⟨fields, middle, rest, hfields, rfl, hname⟩ := Frame.upsert_of_record? hrecord hop
  rw [run, List.length_replicate] at hname
  obtain ⟨length, hlength, rfl⟩ := append_of_readLittleEndian hname
  by_cases covered : front = [] ∧ 24 ≤ torn.length
  · -- The length of the name would stand in the torn frame.
    obtain ⟨rfl, covered⟩ := covered
    have width : (header ++ fields).length = 16 := by
      rw [List.length_append, hheader, hfields]
    have dropped := congrArg (List.drop 16) split
    rw [List.drop_append_of_le_length (by omega), List.nil_append, List.append_assoc fields,
      ← List.append_assoc header, ← width, List.drop_left] at dropped
    have enough : 8 ≤ (torn.drop 16).length := by
      rw [List.length_drop]
      omega
    obtain ⟨n, others, hn⟩ := exists_readLittleEndian enough
    have left := Frame.readLittleEndian_append (Frame.ofRecord
      { lsn, op := .upsert (probe m id now), timestamp := now }) hn
    have right := Frame.readLittleEndian_append back hname
    rw [width] at dropped
    rw [dropped, right] at left
    obtain ⟨rfl, -⟩ := Prod.mk.inj (Option.some.inj left)
    exact hm _ hn
  · -- The run of the name would stand at another place than the run of the probe.
    have same : (torn ++ before) ++ 0 :: (List.replicate m 97 ++ UInt8.ofNat id.toNat :: after)
        = (front ++ (header ++ (fields ++ length))) ++ (List.replicate m 97 ++ (rest ++ back)) := by
      rw [hframe] at split
      simp only [List.append_assoc] at split ⊢
      exact split
    have place' := length_eq_of_run (by decide) hid ?_ ?_ same
    · simp only [List.length_append, hheader, hfields, hlength, hbefore] at place'
      have := List.length_pos_iff.2 hne
      rcases place with rfl | far
      · simp only [List.length_nil] at place'
        omega
      · omega
    · simp only [List.length_append, hheader, hfields, hlength, hbefore]
      rcases place with rfl | far
      · simp only [true_and] at covered
        omega
      · omega
    · omega

/-- A store that syncs every write and does not make checkpoints by itself. -/
def careful : StoreSettings :=
  { log := { syncPeriod := 0, checkpointThreshold := 0xFFFFFFFFFFFFFFFF } }

/-- A probe can be put into a store that was just opened with careful settings, if there is a position
left, and it is in the store and in the log then. -/
theorem exists_put_probe (files : Files) {recovered : Recovered} (m : Nat) (id : UInt64)
    (hm : m ≠ 0) (room : recovered.lastLsn + 1 ≠ 0) : ∃ s : Store,
      Next (resume careful 0 files recovered) (.perform (.put (probe m id 0)))
        [{ record := { lsn := recovered.lastLsn + 1, op := .upsert (probe m id 0), timestamp := 0 }
           failure := none }] s
      ∧ s.sessions = recovered.sessions.insert (probe m id 0) ∧ s.snapshotFile = files.snapshot
      ∧ s.log.file = files.log ++ Frame.ofRecord
        { lsn := recovered.lastLsn + 1, op := .upsert (probe m id 0), timestamp := 0 } := by
  have named : Text.isBlankText (probe m id 0).xid = false := by
    cases m with
    | zero => exact absurd rfl hm
    | succ m => simp [Text.isBlankText, probe, Session.start, List.replicate_succ, Text.isBlank]
  have valid : checkImage (probe m id 0).xid (probe m id 0) = .ok () :=
    checkImage_of_no_branches named rfl
  let start := resume careful 0 files recovered
  have intime : ¬ start.log.TimesOut (start.nextRecord (start.upsertOf (probe m id 0))) := by
    rw [LogWriter.timesOut_iff]
    exact fun out => absurd out.1 (by simp [LogWriter.syncsAfterWrite, LogWriter.entered, start,
      resume, LogWriter.start, careful])
  have few : ∀ bytes : UInt64, ¬ careful.log.checkpointThreshold < bytes := by
    intro bytes
    have most : careful.log.checkpointThreshold.toNat = UInt64.size - 1 := by decide
    rw [UInt64.not_lt, UInt64.le_iff_toNat_le, most]
    exact Nat.le_sub_one_of_lt bytes.toNat_lt
  exact exists_next_put rfl List.not_mem_nil valid rfl ⟨room, intime⟩ (few _)

/-- Behind a torn frame, with nothing to replay, a change can be made that recovery does not
find. -/
theorem exists_lost_of_torn {files : Files} {recovered : Recovered}
    (h : recover files = .ok recovered) (nothing : recovered.replayed = 0)
    (torn : Frame.remainder files.log ≠ []) (left : recovered.maxId + 1 ≠ 0)
    (room : recovered.lastLsn + 1 ≠ 0) :
    ∃ (start s : Store) (session : Session) (attempt : Attempt),
      openFiles careful 0 files = .ok start
        ∧ Next start (.perform (.put session)) [attempt] s ∧ attempt.failure = none
        ∧ Frame.Fits attempt.record
        ∧ ∀ found, recover s.files = .ok found → found.sessions ≠ s.sessions := by
  obtain ⟨snapshot, hread, rfl⟩ := recover_eq_ok_iff.1 h
  have covered := Recovered.replayed_ofParts_eq_zero_iff.1 nothing
  have base := Recovered.ofParts_of_covered covered
  let tail := Frame.remainder files.log
  -- A length of the name that the torn frame does not have in its place.
  obtain ⟨m, long, short, hm⟩ : ∃ m, 200 ≤ m ∧ m ≤ 201
      ∧ ∀ rest, readLittleEndian 8 (tail.drop 16) ≠ some (m, rest) := by
    by_cases taken : ∃ rest, readLittleEndian 8 (tail.drop 16) = some (200, rest)
    · obtain ⟨rest, hrest⟩ := taken
      exact ⟨201, by omega, by omega, by simp [hrest]⟩
    · exact ⟨200, by omega, by omega, fun rest hrest => taken ⟨rest, hrest⟩⟩
  have narrow : m < Nat.pow 256 7 := Nat.lt_of_le_of_lt short (by decide)
  -- A number that the session of that name does not have, if there is one.
  obtain ⟨id, hid, hother⟩ : ∃ id : UInt64, UInt8.ofNat id.toNat ≠ 97
      ∧ (Recovered.ofParts snapshot (Frame.records files.log)).sessions.get? (probe m id 0).xid
        ≠ some (probe m id 0) := by
    by_cases taken : (Recovered.ofParts snapshot (Frame.records files.log)).sessions.get?
        (probe m 0 0).xid = some (probe m 0 0)
    · refine ⟨1, by decide, fun taken' => ?_⟩
      have both : probe m 0 0 = probe m 1 0 := Option.some.inj (taken.symm.trans taken')
      exact absurd (congrArg Session.transactionId both) (by decide : (0 : UInt64) ≠ 1)
    · exact ⟨0, by decide, taken⟩
  obtain ⟨s, next, sessions, hsnapshot, hlog⟩ := exists_put_probe files m id (by omega) room
  refine ⟨_, s, probe m id 0, _, ?_, next, rfl, ?_, ?_⟩
  · rw [openFiles, h]
    exact (if_neg left).trans (if_pos nothing)
  · obtain ⟨front, back, hframe, hfront, hback⟩ :=
      ofRecord_probe id 0 ((Recovered.ofParts snapshot (Frame.records files.log)).lastLsn + 1)
        narrow
    have lengths := congrArg List.length hframe
    simp only [Frame.ofRecord, Frame.wrap, List.length_append, List.length_cons,
      List.length_replicate, length_littleEndian, hfront, hback] at lengths
    simp only [Frame.Fits, UInt32.size]
    omega
  · intro found hfound same
    -- The probe would be found in the snapshot, in a record that was covered already, or behind the
    -- torn frame.
    obtain ⟨snapshot', hread', rfl⟩ := recover_eq_ok_iff.1 hfound
    have hlive : s.sessions.get? (probe m id 0).xid = some (probe m id 0) := by
      rw [sessions, SessionTable.get?_insert_self]
    rw [Store.files, hsnapshot, hread] at hread'
    cases hread'
    rw [← same, Store.files, hlog] at hlive
    rcases Recovered.get?_ofParts hlive with hbase | ⟨record, hrecord, hnew, hop⟩
    · rw [← base] at hbase
      exact hother hbase
    · rw [Frame.records_append] at hrecord
      rcases List.mem_append.1 hrecord with hold | hbehind
      · exact UInt64.not_lt.2 (covered record hold) hnew
      · exact xid_ne_of_torn (Frame.next_remainder files.log) torn long narrow hid hm hbehind
          hop rfl

/-- Acknowledged changes are found again after every history of a store that is opened on given
files, on which a store can be opened, exactly if a log record was replayed when it was opened, or
the log ended with a whole frame. -/
theorem recovers_iff_not_torn {files : Files} {recovered : Recovered}
    (h : recover files = .ok recovered)
    (opens : ∃ settings now start, openFiles settings now files = .ok start)
    (room : recovered.lastLsn.toNat + 1 < UInt64.size) :
    (∀ (settings : StoreSettings) (now : Millis) (start s : Store) (events : List Event)
        (attempts : List Attempt), openFiles settings now files = .ok start →
      History start events attempts s → AllMade attempts →
      (∀ attempt ∈ attempts, (Codec.record.encode attempt.record).length < UInt32.size) →
      recovered.lastLsn.toNat + attempts.length < UInt64.size →
      ∃ found, recover s.files = .ok found ∧ found.sessions = s.sessions)
    ↔ recovered.replayed ≠ 0 ∨ Frame.remainder files.log = [] := by
  constructor
  · intro found
    by_cases torn : recovered.replayed = 0 ∧ Frame.remainder files.log ≠ []
    · obtain ⟨settings, now, opens⟩ := opens
      have left := (exists_openFiles_iff settings now h).1.1 opens
      have position : recovered.lastLsn + 1 ≠ 0 := succ_ne_zero_iff.2 room
      obtain ⟨start, s, session, attempt, opened, next, made, fits, lost⟩ :=
        exists_lost_of_torn h torn.1 torn.2 left position
      obtain ⟨r, hr, same⟩ := found careful 0 start s _ _ opened (.step .start next)
        (by simpa [AllMade] using made) (by simpa [Frame.Fits] using fits) (by simpa using room)
      exact absurd same (lost r hr)
    · by_cases replayed : recovered.replayed = 0
      · exact .inr (Decidable.not_not.1 fun rest => torn ⟨replayed, rest⟩)
      · exact .inl replayed
  · intro whole settings now start s events attempts opened history made fits room
    obtain ⟨-, lsn, -, -, -, intact⟩ := openFiles_of_recover h opened
    obtain ⟨⟨r, hr, same, -⟩, -⟩ :=
      ((intact whole).history history ⟨made, fits, by rw [lsn]; exact room⟩).1
    exact ⟨r, hr, same⟩

/-- Nothing is recovered from a log with a single stray byte. -/
theorem recover_stray_byte :
    recover { snapshot := none, log := [0x64] } = .ok (Recovered.ofSnapshot Snapshot.empty) := by
  have nothing : Frame.records [0x64] = [] := by
    rw [Frame.records, Frame.payloads_of_none rfl, List.filterMap_nil]
  rw [recover, nothing, Snapshot.read, Except.map, Recovered.ofParts_of_covered (by simp)]

/-- A store is opened behind a single stray byte without a checkpoint. -/
theorem openFiles_stray_byte :
    openFiles {} 0 { snapshot := none, log := [0x64] } = .ok (resume {} 0
      { snapshot := none, log := [0x64] } (Recovered.ofSnapshot Snapshot.empty)) := by
  rw [openFiles, recover_stray_byte]
  rfl

/-- Behind a single stray byte changes may be lost. -/
theorem not_recovers_of_stray_byte :
    recover { snapshot := none, log := [0x64] } = .ok (Recovered.ofSnapshot Snapshot.empty)
      ∧ (∃ settings now start,
        openFiles settings now { snapshot := none, log := [0x64] } = .ok start)
      ∧ (Recovered.ofSnapshot Snapshot.empty).lastLsn.toNat + 1 < UInt64.size
      ∧ ¬ ∀ (settings : StoreSettings) (now : Millis) (start s : Store) (events : List Event)
        (attempts : List Attempt),
        openFiles settings now { snapshot := none, log := [0x64] } = .ok start →
        History start events attempts s → AllMade attempts →
        (∀ attempt ∈ attempts, (Codec.record.encode attempt.record).length < UInt32.size) →
        (Recovered.ofSnapshot Snapshot.empty).lastLsn.toNat + attempts.length < UInt64.size →
        ∃ found, recover s.files = .ok found ∧ found.sessions = s.sessions := by
  have opens : ∃ settings now start,
      openFiles settings now { snapshot := none, log := [0x64] } = .ok start :=
    ⟨{}, 0, _, openFiles_stray_byte⟩
  refine ⟨recover_stray_byte, opens, by decide, fun all => ?_⟩
  rcases (recovers_iff_not_torn recover_stray_byte opens (by decide)).1 all with replayed | whole
  · exact replayed rfl
  · rw [Frame.remainder_of_none rfl] at whole
    cases whole

/-- A store is opened behind a single stray byte, and a session is put and acknowledged. Recovery
does not find it. -/
theorem put_lost_behind_stray_byte :
    ∃ (start s : Store) (attempt : Attempt) (found : Recovered),
      openFiles {} 0 { snapshot := none, log := [0x64] } = .ok start
        ∧ Next start (.perform (.put (Session.start "A" 1 "app" "tx" 1000))) [attempt] s
        ∧ attempt.failure = none ∧ (s.sessions.get? "A").isSome = true
        ∧ recover s.files = .ok found ∧ found.sessions.get? "A" = none := by
  let start := resume {} 0 { snapshot := none, log := [0x64] } (Recovered.ofSnapshot Snapshot.empty)
  let session := Session.start "A" 1 "app" "tx" 1000
  have opened : openFiles {} 0 { snapshot := none, log := [0x64] } = .ok start :=
    openFiles_stray_byte
  have valid : checkImage session.xid session = .ok () :=
    checkImage_of_no_branches (by decide) rfl
  have accepts : start.Accepts (start.upsertOf session) :=
    ⟨by decide, fun out => absurd out.2 (by decide)⟩
  have few : ¬ start.settings.log.checkpointThreshold < start.bytesSinceCheckpoint
      + UInt64.ofNat (Frame.ofRecord (start.nextRecord (start.upsertOf session))).length := by
    decide
  obtain ⟨s, next, sessions, snapshot, file⟩ :=
    exists_next_put rfl List.not_mem_nil valid rfl accepts few
  -- The stray byte makes the length in front of the record too large.
  have torn : Frame.next ([0x64] ++ Frame.ofRecord (start.nextRecord (start.upsertOf session)))
      = none := by decide
  have nothing : Frame.records s.log.file = [] := by
    rw [file]
    exact congrArg (List.filterMap Frame.record?) (Frame.payloads_of_none torn)
  refine ⟨start, s, _, Recovered.ofSnapshot Snapshot.empty, opened, next, rfl, ?_, ?_, rfl⟩
  · rw [sessions]
    exact congrArg Option.isSome (SessionTable.get?_insert_self _ _)
  · refine recover_eq_ok_iff.2 ⟨Snapshot.empty, ?_, ?_⟩
    · rw [Store.files, snapshot]
      rfl
    · rw [Store.files, nothing, Recovered.ofParts_of_covered (by simp)]

end Store

end SessionRegistry
