import SessionRegistry.Proofs.Store.Lasting
import SessionRegistry.Proofs.Store.Numbers
import SessionRegistry.Proofs.Store.Replay
import SessionRegistry.Proofs.Store.Timeout

/-!
# Counters that resume

A store that is opened resumes its two counters from its files, and counts on from there without a
check. Each counter is broken off where it comes to its end. No store is opened where there is no
number behind the highest one, be it that a session with that number was put and acknowledged. No
change is made for which there is no position, but the counter has wrapped around to zero by then. The
changes that follow take positions from the beginning again, and the snapshot passes for covering
them.

As long as the counters do not come to their ends, the first number that is handed out is above all
that were recovered, and so are the positions that changes take. So every change is found by every
later recovery.

## Main definitions

* `Recovered.NumbersBelow`: a number is above all that were recovered.
* `Moment.handedOut`: the number that a moment hands out.
* `Overflowed`: a change was broken off because there was no position for it.
* `Settled`: the latest attempt to change a session was not in vain.
* `PassesOver`: recovery takes a record for one that the snapshot covers.
* `CountsOn`: how the counters of a store that was opened go on.

## Main results

* `Counting.lasting`: the position of a store that stays open.
* `Retaining.lasting`: what recovery finds of a store that stays open.
* `countsOn_of_recover`: which files a store can be opened on, and how its counters go on.
* `not_opened_behind_last_number`: a session is put and acknowledged, and no store can be opened any
  more.
* `put_lost_behind_last_position`: a change behind the last position is acknowledged and lost.
-/

namespace SessionRegistry

/-! ## Numbers -/

/-- A number is above the highest one that was recovered, and above all numbers of the recovered
sessions and of their branches. -/
structure Recovered.NumbersBelow (recovered : Recovered) (id : UInt64) : Prop where
  handed : recovered.maxId < id
  stored : ∀ xid session, recovered.sessions.get? xid = some session →
    session.transactionId < id ∧ ∀ branch ∈ session.branches, branch.id < id

/-- The number behind the highest one is above all that were recovered, if there is one. -/
theorem numbersBelow_succ {files : Files} {recovered : Recovered}
    (h : recover files = .ok recovered) (left : recovered.maxId + 1 ≠ 0) :
    recovered.NumbersBelow (recovered.maxId + 1) := by
  have first : recovered.maxId < recovered.maxId + 1 := lt_succ_of_ne_zero left
  refine ⟨first, fun xid session found => ?_⟩
  obtain ⟨own, branches⟩ := Session.maxId_le_iff.1 (maxId_le_of_recover h found)
  exact ⟨UInt64.lt_of_le_of_lt own first,
    fun branch hbranch => UInt64.lt_of_le_of_lt (branches branch hbranch) first⟩

namespace Moment

variable {moment : Moment} {id : UInt64}

/-- The number that a moment hands out: on request, to a session that is begun, or to a branch that
is registered. -/
def handedOut (moment : Moment) : Option UInt64 :=
  match moment.event, moment.answer with
  | .perform .takeId, some (.id id) => some id
  | _, _ => moment.issued

/-- A number that is handed out is the next one. -/
theorem Happens.of_handedOut (h : moment.Happens) (hid : moment.handedOut = some id) :
    id = moment.store.nextId := by
  unfold handedOut at hid
  split at hid
  · next hop answered =>
    have run : Operation.runOn moment.store .takeId
        = (.ok (.id moment.store.nextId), { moment.store with nextId := moment.store.nextId + 1 }) :=
      rfl
    have same := run.symm.trans (h.of_answer hop answered)
    simp only [Prod.mk.injEq, Except.ok.injEq, Operation.Outcome.id.injEq] at same
    exact (Option.some.inj hid).symm.trans same.1.symm
  · exact (h.of_issued hid).1

/-- A moment that draws no number leaves the next one as it is, unless a store is opened again. -/
theorem Happens.nextId_eq (h : moment.Happens) (stays : ¬ moment.event.Reopens)
    (none : moment.drawn = 0) : moment.next.nextId = moment.store.nextId := by
  have leads := h.leads
  unfold drawn at none
  generalize moment.event = event at leads stays none
  generalize moment.attempts = attempts at leads
  generalize moment.next = next at leads none
  cases leads with
  | @perform op _ _ =>
    have zero := UInt64.toNat_inj.1 (none.trans UInt64.toNat_zero.symm)
    have back := UInt64.sub_add_cancel (op.runOn moment.store).2.nextId moment.store.nextId
    rw [zero, UInt64.zero_add] at back
    exact back.symm
  | hold locks => rfl
  | tick now => rfl
  | reopen _ => exact absurd trivial stays
  | crash _ => exact absurd trivial stays

end Moment

namespace Store

variable {may : Store → LogOperation → Prop} {s next start : Store} {past : List Attempt}
  {moments : List Moment} {moment : Moment} {first : Attempt} {more : List Attempt}
  {recovered : Recovered} {files : Files} {settings : StoreSettings} {now : Millis} {last : Nat}
  {xid : Xid}

/-- As long as no number is drawn the next one stays the same. -/
theorem Run.nextId_eq (run : Run start moments s)
    (idle : ∀ moment ∈ moments, ¬ moment.event.Reopens ∧ moment.drawn = 0) :
    s.nextId = start.nextId := by
  induction run with
  | start => rfl
  | @step past moment _ happens ih =>
    obtain ⟨stays, none⟩ := idle moment (by simp)
    rw [happens.nextId_eq stays none]
    exact ih fun m hm => idle m (List.mem_append_left _ hm)

/-! ## Positions -/

/-- The move that made the first attempt. -/
theorem Moves.exists_first (moves : Moves may s (first :: more) next) :
    ∃ before after : Store, Moves may s [] before ∧ Move may before [first] after
      ∧ Moves may after more next := by
  generalize h : first :: more = attempts at moves
  induction moves with
  | refl s => cases h
  | @cons s middle next one others move moves ih =>
    have few := move.length_le
    cases one with
    | nil =>
      -- The first move makes no attempt, so the first attempt is among the rest.
      obtain ⟨before, after, quiet, firstly, rest⟩ := ih h
      exact ⟨before, after, .cons move quiet, firstly, rest⟩
    | cons attempt behind =>
      obtain rfl : behind = [] := by simpa using few
      obtain ⟨rfl, rfl⟩ := List.cons.inj h
      exact ⟨s, middle, .refl s, move, moves⟩

/-- The first attempt takes the position behind that of the store, and is broken off exactly if there
is none. -/
theorem Moves.lsn_of_first (moves : Moves may s (first :: more) next) :
    first.record.lsn = s.lsn + 1
      ∧ (first.failure = some (.internal .overflow) ↔ s.lsn + 1 = 0) := by
  obtain ⟨before, after, quiet, firstly, -⟩ := moves.exists_first
  obtain ⟨locks, trail, nextId, rfl⟩ := quiet.eq_of_nil
  cases firstly with
  | change _ logged =>
    refine ⟨rfl, ?_⟩
    rw [← handOver_eq_overflow_iff logged]
    simp
  | fail _ logged =>
    refine ⟨rfl, ?_⟩
    rw [← handOver_eq_overflow_iff logged]
    simp

/-- Only an operation makes attempts. -/
theorem Next.exists_moves {event : Event} (happens : Next s event (first :: more) next) :
    ∃ op : Operation, Moves (fun s => Operation.MayLog s op) s (first :: more) next := by
  cases happens with
  | @perform op _ attempted =>
    cases attempted with
    | moves _ _ moves _ => exact ⟨op, moves⟩

/-- One of the attempts was broken off because there was no position for it. -/
def Overflowed (attempts : List Attempt) : Prop :=
  ∃ attempt ∈ attempts, attempt.failure = some (.internal .overflow)

/-- A store that was opened at a position has taken one for each attempt since, and has wrapped around
if one of them was broken off. Until then the snapshot does not reach beyond the latest position. -/
structure Counting (last : Lsn) (past : List Attempt) (s : Store) : Prop where
  position : s.lsn = last + UInt64.ofNat past.length
  counted : ¬ Overflowed past → last.toNat + past.length < UInt64.size
  snapshot : ∃ snapshot, Snapshot.read s.snapshotFile = .ok snapshot
    ∧ (last.toNat + past.length < UInt64.size → snapshot.lsn ≤ s.lsn)

namespace Counting

variable {last : Lsn}

/-- A checkpoint takes no position, and its snapshot reaches to the latest one. -/
theorem checkpoint (h : Counting last past s) (running : s.log.running = true) :
    Counting last past (Store.checkpoint.run.run s).2 := by
  obtain ⟨log, -, -, -, run⟩ := s.run_checkpoint_of_running running
  rw [run]
  exact ⟨h.position, h.counted, s.image, Snapshot.read_write _, fun _ => UInt64.le_refl _⟩

/-- An attempt takes one position, and is broken off if there is none. -/
theorem attempt {attempt : Attempt} (h : Counting last past s)
    (taken : attempt.failure ≠ some (.internal .overflow) → s.lsn + 1 ≠ 0)
    (lsn : next.lsn = s.lsn + 1) (same : next.snapshotFile = s.snapshotFile) :
    Counting last (past ++ [attempt]) next := by
  have length : (past ++ [attempt]).length = past.length + 1 := by simp
  have value (room : last.toNat + past.length < UInt64.size) :
      s.lsn.toNat = last.toNat + past.length := by
    rw [h.position, toNat_add_ofNat room]
  obtain ⟨snapshot, read, covers⟩ := h.snapshot
  refine ⟨?_, fun fine => ?_, snapshot, same ▸ read, fun room => ?_⟩
  · rw [lsn, h.position, length, UInt64.ofNat_add, UInt64.add_assoc]
    rfl
  · have before : ¬ Overflowed past := fun ⟨other, mem, full⟩ =>
      fine ⟨other, List.mem_append_left _ mem, full⟩
    have this : attempt.failure ≠ some (.internal .overflow) := fun full =>
      fine ⟨attempt, List.mem_append_right _ (List.mem_singleton_self _), full⟩
    have next := succ_ne_zero_iff.1 (taken this)
    rw [value (h.counted before)] at next
    rw [length]
    exact next
  · rw [length] at room
    have next : s.lsn.toNat + 1 < UInt64.size := by
      rw [value (by omega)]
      exact room
    rw [lsn]
    exact UInt64.le_trans (covers (by omega)) (UInt64.le_of_lt (lt_succ_iff.2 next))

/-- A store counts its positions as long as it stays open. -/
theorem lasting (last : Lsn) : Lasting (Counting last) where
  aside _ _ _ _ _ _ h := ⟨h.position, h.counted, h.snapshot⟩
  saves h running := h.checkpoint running
  stops h := ⟨h.position, h.counted, h.snapshot⟩
  changes h logged := h.attempt (fun _ => (handOver_ok logged).2.1.room) rfl rfl
  fails h logged := by
    refine h.attempt (fun other full => other ?_) rfl rfl
    exact congrArg some (Except.error.inj ((handOver_eq_overflow_iff logged).2 full))

/-- A store that is opened counts on from the recovered position. -/
theorem of_open (found : recover files = .ok recovered)
    (opened : openFiles settings now files = .ok start) :
    Counting recovered.lastLsn [] start := by
  have resumed : Counting recovered.lastLsn [] (resume settings now files recovered) := by
    obtain ⟨snapshot, read, rfl⟩ := recover_eq_ok_iff.1 found
    refine ⟨by simp [resume], fun _ => ?_, snapshot, read, fun _ => ?_⟩
    · exact UInt64.toNat_lt_size _
    · exact Recovered.snapshot_lsn_le_lastLsn ..
  obtain ⟨_, found', -, same⟩ := of_openFiles_eq_ok opened
  cases found.symm.trans found'
  rcases same with ⟨-, rfl⟩ | ⟨-, rfl⟩
  · exact resumed
  · exact resumed.checkpoint rfl

end Counting

/-! ## What is found again -/

/-- The latest attempt to change a session, if there is one, made its change. -/
def Settled (attempts : List Attempt) (xid : Xid) : Prop :=
  ∀ last, (attempts.filter (·.record.op.xid? == some xid)).getLast? = some last →
    last.failure = none

/-- One more attempt decides about its own session only. -/
theorem settled_concat {attempt : Attempt} :
    Settled (past ++ [attempt]) xid ↔
      if attempt.record.op.xid? = some xid then attempt.failure = none else Settled past xid := by
  unfold Settled
  rw [List.filter_append]
  by_cases about : attempt.record.op.xid? = some xid <;> simp [about]

/-- The records of some attempts can be read back, and behind a given position there is one for
each. -/
structure Readable (last : Nat) (attempts : List Attempt) : Prop where
  fits : ∀ attempt ∈ attempts, Frame.Fits attempt.record
  room : last + attempts.length < UInt64.size

theorem Readable.left (h : Readable last (past ++ more)) : Readable last past where
  fits attempt before := h.fits attempt (List.mem_append_left _ before)
  room := by
    have room := h.room
    rw [List.length_append] at room
    omega

/-- While the store stays open, recovery finds of every session what the store holds, unless the
latest attempt to change it was in vain. -/
structure Retaining (last : Nat) (past : List Attempt) (s : Store) : Prop where
  position : s.lsn.toNat = last + past.length
  whole : Frame.remainder s.log.file = []
  found : ∃ found, recover s.files = .ok found ∧ (s.log.running = true → found.lastLsn = s.lsn)
    ∧ ∀ xid, Settled past xid → found.sessions.get? xid = s.sessions.get? xid

namespace Retaining

/-- Intact files retain everything. -/
theorem of_intact (position : s.lsn.toNat = last + past.length) (intact : s.Intact) :
    Retaining last past s := by
  obtain ⟨found, recovered, sessions, lsn, -⟩ := intact.recovers
  exact ⟨position, intact.whole, found, recovered, fun _ => lsn, fun xid _ => by rw [sessions]⟩

/-- One more attempt takes one position. -/
theorem position_succ {attempt : Attempt} (h : Retaining last past s)
    (readable : Readable last (past ++ [attempt])) :
    s.lsn.toNat + 1 < UInt64.size ∧ (s.lsn + 1).toNat = last + (past ++ [attempt]).length := by
  have room := readable.room
  rw [List.length_append, List.length_singleton] at room ⊢
  have next : s.lsn.toNat + 1 < UInt64.size := by rw [h.position]; omega
  refine ⟨next, ?_⟩
  rw [UInt64.toNat_add, UInt64.toNat_one, Nat.mod_eq_of_lt next, h.position]
  omega

/-- A record behind the log is replayed, whether its change was made or not. -/
theorem recover_append {op : LogOperation} {failure : Option Error} {log : LogWriter}
    (h : Retaining last past s) (running : s.log.running = true)
    (readable : Readable last (past ++ [{ record := s.nextRecord op, failure }]))
    (file : log.file = s.log.file ++ Frame.ofRecord (s.nextRecord op)) :
    Frame.remainder log.file = [] ∧ ∃ found,
      recover { s.files with log := log.file } = .ok found ∧ found.lastLsn = s.lsn + 1
        ∧ ∀ xid, op.xid? = some xid ∧ found.sessions.get? xid = op.image?
          ∨ op.xid? ≠ some xid
            ∧ (Settled past xid → found.sessions.get? xid = s.sessions.get? xid) := by
  obtain ⟨found, recovered, lsn, sessions⟩ := h.found
  have fits : Frame.Fits (s.nextRecord op) :=
    readable.fits ⟨s.nextRecord op, failure⟩ (List.mem_append_right _ (List.mem_singleton_self _))
  have behind : found.lastLsn < (s.nextRecord op).lsn := by
    rw [lsn running]
    exact lt_succ_iff.2 (h.position_succ readable).1
  refine ⟨?_, found.replay (s.nextRecord op), ?_, ?_, fun xid => ?_⟩
  · rw [file]
    exact Frame.remainder_append_ofRecord h.whole fits
  · rw [file]
    exact SessionRegistry.recover_append recovered h.whole fits behind
  · rw [Recovered.lastLsn_replay]
    exact if_pos (UInt64.le_of_lt behind)
  · rw [Recovered.sessions_replay]
    by_cases about : op.xid? = some xid
    · exact .inl ⟨about, SessionTable.get?_publish_of_xid? about⟩
    · refine .inr ⟨about, fun settled => ?_⟩
      rw [← sessions xid settled]
      exact SessionTable.get?_publish_of_xid?_ne about

/-- A change that is made is found by recovery from then on. -/
theorem published {op : LogOperation} {bytes : Nat} {log : LogWriter} (h : Retaining last past s)
    (readable : Readable last (past ++ [{ record := s.nextRecord op, failure := none }]))
    (logged : s.handOver op = (.ok bytes, log)) :
    Retaining last (past ++ [{ record := s.nextRecord op, failure := none }])
      (s.published op log) := by
  obtain ⟨running, -, file, -⟩ := handOver_ok logged
  obtain ⟨whole, found, recovered, lsn, sessions⟩ := h.recover_append running readable file
  refine ⟨(h.position_succ readable).2, whole, found, recovered, fun _ => lsn, ?_⟩
  intro xid settled
  rcases sessions xid with ⟨about, image⟩ | ⟨other, same⟩
  · rw [image]
    exact (SessionTable.get?_publish_of_xid? about).symm
  · have before : Settled past xid := by simpa [settled_concat, nextRecord, other] using settled
    rw [same before]
    exact (SessionTable.get?_publish_of_xid?_ne other).symm

/-- A change in vain leaves what is found of all other sessions. -/
theorem fail {op : LogOperation} {e : Error} {log : LogWriter} (h : Retaining last past s)
    (readable : Readable last (past ++ [{ record := s.nextRecord op, failure := some e }]))
    (logged : s.handOver op = (.error e, log)) :
    Retaining last (past ++ [{ record := s.nextRecord op, failure := some e }])
      { s with lsn := s.lsn + 1, log } := by
  obtain ⟨room, position⟩ := h.position_succ readable
  have others : ∀ xid, Settled (past ++ [{ record := s.nextRecord op, failure := some e }]) xid →
      op.xid? ≠ some xid ∧ Settled past xid := by
    intro xid settled
    by_cases about : op.xid? = some xid
    · simp [settled_concat, nextRecord, about] at settled
    · exact ⟨about, by simpa [settled_concat, nextRecord, about] using settled⟩
  obtain ⟨still, -, ⟨untaken, file⟩ | ⟨running, file⟩⟩ := handOver_frame logged
  · -- A stopped log takes nothing, so that the files are the same.
    have stopped := untaken.resolve_right (succ_ne_zero_iff.2 room)
    obtain ⟨found, recovered, -, sessions⟩ := h.found
    refine ⟨position, file ▸ h.whole, found, ?_, fun running => ?_, fun xid settled => ?_⟩
    · rw [← recovered, files, files, file]
    · rw [still, stopped] at running
      cases running
    · exact sessions xid (others xid settled).2
  · obtain ⟨whole, found, recovered, lsn, sessions⟩ := h.recover_append running readable file
    refine ⟨position, whole, found, recovered, fun _ => lsn, fun xid settled => ?_⟩
    obtain ⟨other, before⟩ := others xid settled
    rcases sessions xid with ⟨about, -⟩ | ⟨-, same⟩
    · exact absurd about other
    · exact same before

/-- A store retains what it was told while it stays open, as long as there are positions. -/
theorem lasting (last : Nat) : Lasting fun past s => Readable last past → Retaining last past s where
  aside _ _ _ _ _ _ h readable :=
    ⟨(h readable).position, (h readable).whole, (h readable).found⟩
  saves := by
    intro past s h running readable
    obtain ⟨_, _, _, frame, -⟩ := s.checkpoint_frame
    exact .of_intact (by rw [frame]; exact (h readable).position) (intact_checkpoint running)
  stops := by
    intro past s h readable
    obtain ⟨found, recovered, -, sessions⟩ := (h readable).found
    refine ⟨(h readable).position, ?_, found, ?_, fun running => by simp at running, sessions⟩
    · rw [LogWriter.file_shutdown]
      exact (h readable).whole
    · rw [← recovered, files, files, LogWriter.file_shutdown]
  changes h logged readable := (h readable.left).published readable logged
  fails h logged readable := (h readable.left).fail readable logged

end Retaining

/-! ## Stores that are opened -/

/-- Recovery takes a record for one that the snapshot covers, and passes it over. -/
def PassesOver (files : Files) (record : LogRecord) : Prop :=
  ∃ snapshot, Snapshot.read files.snapshot = .ok snapshot ∧ record.lsn ≤ snapshot.lsn

/-- How an attempt to make a change is counted, before which others took positions since the store was
opened at a position. -/
structure Counts (last : Lsn) (earlier : List Attempt) (files : Files) (attempt : Attempt) :
    Prop where
  /-- Every attempt takes the position behind that of the one before it. -/
  position : attempt.record.lsn = last + UInt64.ofNat (earlier.length + 1)
  /-- The counter has not come to its end, unless one of the attempts was broken off. -/
  counted : ¬ Overflowed (earlier ++ [attempt]) →
    last.toNat + (earlier.length + 1) < UInt64.size
  /-- The attempt that comes to the end of the counter is broken off. -/
  ended : last.toNat + (earlier.length + 1) = UInt64.size →
    attempt.failure = some (.internal .overflow)
  /-- The position is above the one at the start exactly if the counter has not come to its end. -/
  above : earlier.length < UInt64.size →
    (last < attempt.record.lsn ↔ last.toNat + (earlier.length + 1) < UInt64.size)
  /-- Recovery does not pass over the record if the counter has not come to its end. -/
  found : last.toNat + (earlier.length + 1) < UInt64.size → ¬ PassesOver files attempt.record

/-- How a store that was opened on files counts on from what was recovered from them, until a store
is opened on its files again. -/
structure CountsOn (files : Files) (recovered : Recovered) (start : Store) : Prop where
  /-- Numbers go on behind the highest one that was recovered. -/
  request : (Operation.takeId.runOn start).1 = .ok (.id (recovered.maxId + 1))
  /-- The first number that is handed out is above all that were recovered. -/
  number : ∀ {moments : List Moment} {moment : Moment} {id : UInt64},
    Run start moments moment.store → moment.Happens →
    (∀ m ∈ moments, ¬ m.event.Reopens ∧ m.drawn = 0) → moment.handedOut = some id →
      recovered.NumbersBelow id
  /-- The first attempt of every moment is counted on from the recovered position. -/
  position : ∀ {moments : List Moment} {moment : Moment} {first : Attempt} {more : List Attempt},
    Run start moments moment.store → moment.Happens → (∀ m ∈ moments, ¬ m.event.Reopens) →
    moment.attempts = first :: more →
      Counts recovered.lastLsn (moments.flatMap Moment.attempts) moment.store.files first
  /-- As long as there are positions, recovery finds of every session what the store holds, unless
  the latest attempt to change it was in vain. -/
  retained : recovered.replayed ≠ 0 ∨ Frame.remainder files.log = [] →
    ∀ {moments : List Moment} {s : Store}, Run start moments s →
    (∀ m ∈ moments, ¬ m.event.Reopens) →
    Readable recovered.lastLsn.toNat (moments.flatMap Moment.attempts) →
      ∃ found, recover s.files = .ok found
        ∧ ∀ xid, Settled (moments.flatMap Moment.attempts) xid →
          found.sessions.get? xid = s.sessions.get? xid

/-- A store that is opened goes on behind the highest number that was recovered, and that number is
not the last one. -/
theorem nextId_of_open (found : recover files = .ok recovered)
    (opened : openFiles settings now files = .ok start) :
    start.nextId = recovered.maxId + 1 ∧ recovered.maxId + 1 ≠ 0 := by
  obtain ⟨_, found', left, same⟩ := of_openFiles_eq_ok opened
  cases found.symm.trans found'
  refine ⟨?_, left⟩
  rcases same with ⟨-, rfl⟩ | ⟨-, rfl⟩
  · rfl
  · obtain ⟨_, _, _, frame, -⟩ := (resume settings now files recovered).checkpoint_frame
    rw [frame]
    rfl

/-- The first attempt of a moment is counted on from where its store was opened. -/
theorem Counting.counts {last : Lsn} (h : Counting last past moment.store)
    (happens : moment.Happens) (hfirst : moment.attempts = first :: more) :
    Counts last past moment.store.files first := by
  obtain ⟨op, moves⟩ := (hfirst ▸ happens.leads).exists_moves
  obtain ⟨lsn, full⟩ := moves.lsn_of_first
  have value : first.record.lsn = last + UInt64.ofNat (past.length + 1) := by
    rw [lsn, h.position, UInt64.ofNat_add, UInt64.add_assoc]
    rfl
  have next : Counting last (past ++ [first]) { moment.store with lsn := moment.store.lsn + 1 } :=
    h.attempt (fun other zero => other (full.2 zero)) rfl rfl
  have length : (past ++ [first]).length = past.length + 1 := by simp
  refine ⟨value, fun fine => ?_, fun ended => ?_, fun few => ?_, fun room => ?_⟩
  · rw [← length]
    exact next.counted fine
  · -- The position behind the last one would be that of the wrapped counter.
    refine full.2 ?_
    have bound := last.toNat_lt_size
    rw [← lsn, value, ← UInt64.toNat_inj, UInt64.toNat_add, UInt64.toNat_ofNat', UInt64.toNat_zero]
    simp only [UInt64.size] at bound ended
    omega
  · rw [value]
    exact lt_add_ofNat_iff (Nat.succ_pos _) few
  · rintro ⟨snapshot, read, covered⟩
    obtain ⟨_, read', covers⟩ := h.snapshot
    cases read.symm.trans read'
    have before : last.toNat + past.length < UInt64.size := by omega
    have behind : moment.store.lsn < first.record.lsn := by
      rw [UInt64.lt_iff_toNat_lt, h.position, value, toNat_add_ofNat before, toNat_add_ofNat room]
      omega
    exact UInt64.not_lt.2 (UInt64.le_trans covered (covers before)) behind

/-- On files that can be recovered a store can be opened exactly if there is a number behind the
highest one in them, and otherwise it is found that the counter has come to its end. A store that is
opened counts on from what was recovered. The first number that it hands out is above all that were
recovered, and so is the position of a change, unless an attempt before it has come to the end of the
counter. As long as there are positions every change that is made is found by the next recovery. -/
theorem countsOn_of_recover (found : recover files = .ok recovered) (settings : StoreSettings)
    (now : Millis) :
    ((∃ start, openFiles settings now files = .ok start)
        ↔ recovered.maxId.toNat + 1 < UInt64.size)
      ∧ (¬ recovered.maxId.toNat + 1 < UInt64.size →
        openFiles settings now files = .error (.internal .overflow))
      ∧ ∀ start, openFiles settings now files = .ok start → CountsOn files recovered start := by
  obtain ⟨opens, fails⟩ := exists_openFiles_iff settings now found
  refine ⟨opens.trans succ_ne_zero_iff, fun full => fails ?_, fun start opened => ?_⟩
  · by_contra left
    exact full (succ_ne_zero_iff.1 left)
  obtain ⟨next, left⟩ := nextId_of_open found opened
  obtain ⟨-, lsn, -, -, -, intact⟩ := openFiles_of_recover found opened
  refine ⟨?_, ?_, ?_, ?_⟩
  · rw [← next]
    rfl
  · intro moments moment id run happens idle handed
    rw [happens.of_handedOut handed, run.nextId_eq idle, next]
    exact numbersBelow_succ found left
  · intro moments moment first more run happens stays hfirst
    have counting :=
      (Counting.lasting recovered.lastLsn).run (Counting.of_open found opened) run stays
    exact counting.counts happens hfirst
  · intro whole moments s run stays readable
    have retaining := (Retaining.lasting recovered.lastLsn.toNat).run
      (fun _ => .of_intact (by rw [lsn]; rfl) (intact whole)) run stays readable
    obtain ⟨again, recovers, -, sessions⟩ := retaining.found
    exact ⟨again, recovers, sessions⟩

/-- No store is opened on intact files that hold a session with the last number. -/
theorem Intact.openFiles_of_last_number {session : Session} (h : s.Intact)
    (stored : s.sessions.get? xid = some session) (last : session.maxId + 1 = 0)
    (settings : StoreSettings) (now : Millis) :
    openFiles settings now s.files = .error (.internal .overflow) := by
  obtain ⟨found, recovers, sessions, -⟩ := h.recovers
  refine (exists_openFiles_iff settings now recovers).2 ?_
  have covered := maxId_le_of_recover recovers (sessions ▸ stored)
  by_contra left
  -- The recovered number is at least that of the session.
  have room := Nat.lt_of_le_of_lt (Nat.succ_le_succ (UInt64.le_iff_toNat_le.1 covered))
    (succ_ne_zero_iff.1 left)
  exact succ_ne_zero_iff.2 room last

/-- A session with the last number is put and acknowledged, and recovery finds it. But no store can be
opened any more, neither after a crash nor after a shutdown. -/
theorem not_opened_behind_last_number :
    ∃ (start s : Store) (attempt : Attempt) (found : Recovered),
      openFiles {} 0 { snapshot := none, log := [] } = .ok start
        ∧ Next start (.perform (.put (Session.start "A" 0xffffffffffffffff "app" "tx" 1000)))
          [attempt] s
        ∧ attempt.failure = none
        ∧ recover s.files = .ok found ∧ (found.sessions.get? "A").isSome = true
        ∧ ∀ settings now, openFiles settings now s.files = .error (.internal .overflow)
          ∧ openFiles settings now s.filesAfterShutdown = .error (.internal .overflow) := by
  let start := resume {} 0 { snapshot := none, log := [] } (Recovered.ofSnapshot Snapshot.empty)
  let session := Session.start "A" 0xffffffffffffffff "app" "tx" 1000
  have opened : openFiles {} 0 { snapshot := none, log := [] } = .ok start :=
    openFiles_nothing {} 0
  have valid : checkImage session.xid session = .ok () :=
    checkImage_of_no_branches (by decide) rfl
  have accepts : start.Accepts (start.upsertOf session) := by decide
  have few : ¬ start.settings.log.checkpointThreshold < start.bytesSinceCheckpoint
      + UInt64.ofNat (Frame.ofRecord (start.nextRecord (start.upsertOf session))).length := by
    decide
  have fits : Frame.Fits (start.nextRecord (start.upsertOf session)) := by decide
  obtain ⟨s, next, sessions, -, -⟩ :=
    exists_next_put rfl List.not_mem_nil valid rfl accepts few
  obtain ⟨intact, -⟩ := (intact_of_nothing opened).1.event next
    ⟨by simp [AllMade], by simpa using fits, by decide⟩
  have stored : s.sessions.get? "A" = some { session with modifiedTime := start.clock } := by
    rw [sessions]
    exact SessionTable.get?_insert_self _ _
  have last : Session.maxId { session with modifiedTime := start.clock } + 1 = 0 := by decide
  obtain ⟨found, recovers, same, -⟩ := intact.recovers
  refine ⟨start, s, _, found, opened, next, rfl, recovers, ?_, fun settings now => ⟨?_, ?_⟩⟩
  · rw [same, stored]
    rfl
  · exact intact.openFiles_of_last_number stored last settings now
  · obtain ⟨_, _, _, frame, -⟩ := s.shutdown_frame
    have kept : (shutdown.run.run s).2.sessions = s.sessions := by rw [frame]
    exact intact.shutdown.openFiles_of_last_number (kept ▸ stored) last settings now

/-- A snapshot without a log is recovered as it is. -/
theorem recover_snapshot (image : Snapshot) :
    recover { snapshot := some image.write, log := [] } = .ok (Recovered.ofSnapshot image) := by
  refine recover_eq_ok_iff.2 ⟨image, Snapshot.read_write image, ?_⟩
  rw [Frame.records_nil, Recovered.ofParts_of_covered (by simp)]

/-- A store is opened on a snapshot alone without a checkpoint, if there is a number left. -/
theorem openFiles_snapshot {image : Snapshot}
    (left : (Recovered.ofSnapshot image).maxId + 1 ≠ 0) :
    openFiles {} 0 { snapshot := some image.write, log := [] } = .ok (resume {} 0
      { snapshot := some image.write, log := [] } (Recovered.ofSnapshot image)) := by
  rw [openFiles_of_replayed_eq_zero {} 0 (recover_snapshot image) rfl, if_neg left]

/-- The image of a store that has taken its last position. -/
def spent : Snapshot where
  lsn := 0xffffffffffffffff
  timestamp := 0
  lastModified := 0
  maxId := 0
  sessions := []

/-- A store that is opened at the last position. -/
def spentStart : Store :=
  resume {} 0 { snapshot := some spent.write, log := [] } (Recovered.ofSnapshot spent)

/-- The session that is put there. -/
def latecomer : Session :=
  Session.start "A" 1 "app" "tx" 1000

theorem checkImage_latecomer : checkImage latecomer.xid latecomer = .ok () :=
  checkImage_of_no_branches (by decide) rfl

/-- The first attempt to put a session at the last position is broken off. The files are as before,
and the counter has wrapped around. -/
theorem exists_put_to_spentStart :
    ∃ (next : Store) (attempt : Attempt),
      Next spentStart (.perform (.put latecomer)) [attempt] next
        ∧ attempt.failure = some (.internal .overflow) ∧ next.snapshotFile = some spent.write
        ∧ next.lsn = 0 ∧ next.closed = false ∧ next.log = spentStart.log
        ∧ latecomer.xid ∉ next.locks.held ∧ next.bytesSinceCheckpoint = 0
        ∧ next.settings = {} ∧ next.clock = 0 := by
  have wrapped : spentStart.lsn + 1 = 0 := by decide
  have full : spentStart.handOver (spentStart.upsertOf latecomer)
      = (.error (.internal .overflow), spentStart.log) := if_pos wrapped
  obtain ⟨locks, whenCommitted⟩ :=
    runOn_put_of_commit (s := spentStart) rfl List.not_mem_nil checkImage_latecomer
  have run := whenCommitted (run_commit_of_error (s := { spentStart with locks }) full)
  obtain ⟨attempts, attempted⟩ := (Operation.put latecomer).exists_attempts spentStart
  obtain ⟨few, -, settles⟩ := attempted.of_mutation rfl
  have free : latecomer.xid ∉ ((Operation.put latecomer).runOn spentStart).2.locks.held := by
    decide +kernel
  have happens := Next.perform attempted
  rw [run] at settles happens free
  cases settles with
  | made _ plain => cases plain_error.1 plain
  | @failed _ made last _ failure _ =>
    -- A put attempts one change at most.
    have none : made = [] := List.eq_nil_of_length_eq_zero (by
      simpa [Operation.mostChanges] using few)
    subst none
    exact ⟨_, last, happens, failure, rfl, wrapped, rfl, rfl, free, rfl, rfl, rfl⟩

/-- At the last position a put is broken off. The one that follows is acknowledged, but it takes a
position from the beginning again, and recovery does not find it. -/
theorem put_lost_behind_last_position :
    ∃ (files : Files) (recovered found : Recovered) (start next s : Store)
        (first second : Attempt),
      recover files = .ok recovered ∧ openFiles {} 0 files = .ok start
        ∧ Next start (.perform (.put latecomer)) [first] next
        ∧ first.failure = some (.internal .overflow)
        ∧ Next next (.perform (.put latecomer)) [second] s ∧ second.failure = none
        ∧ ¬ recovered.lastLsn < second.record.lsn
        ∧ (s.sessions.get? "A").isSome = true
        ∧ recover s.files = .ok found ∧ found.sessions.get? "A" = none := by
  obtain ⟨next, first, happens, full, same, lsn, isOpen, log, free, bytes, settings, clock⟩ :=
    exists_put_to_spentStart
  -- What is put now is the record of the first position.
  have record : next.nextRecord (next.upsertOf latecomer)
      = { lsn := 1, op := .upsert { latecomer with modifiedTime := 0 }, timestamp := 0 } := by
    rw [nextRecord, upsertOf, lsn, clock]
    rfl
  have accepts : next.Accepts (next.upsertOf latecomer) := by
    refine ⟨by rw [lsn]; decide, fun out => ?_⟩
    rw [log] at out
    exact absurd out.2 (by decide)
  obtain ⟨s, put, sessions, snapshot, file⟩ := exists_next_put isOpen free checkImage_latecomer
    (by rw [log]; rfl) accepts (by rw [settings, bytes, record]; decide)
  refine ⟨_, Recovered.ofSnapshot spent, Recovered.ofSnapshot spent, spentStart, next, s, first, _,
    recover_snapshot spent, openFiles_snapshot (by decide), happens, full, put, rfl, ?_, ?_, ?_, rfl⟩
  · rw [record]
    decide
  · rw [sessions]
    exact congrArg Option.isSome (SessionTable.get?_insert_self _ _)
  · have records : Frame.records s.log.file
        = [{ lsn := 1, op := .upsert { latecomer with modifiedTime := 0 }, timestamp := 0 }] := by
      rw [file, log, record]
      exact (Frame.records_ofRecord (by decide)).1
    refine recover_eq_ok_iff.2 ⟨spent, ?_, ?_⟩
    · rw [Store.files, snapshot, same]
      exact Snapshot.read_write spent
    · -- The snapshot passes for covering the only record.
      rw [Store.files, records, Recovered.ofParts_of_covered]
      intro written isIn
      rw [List.mem_singleton.1 isIn]
      decide

/-- The image of a store with one session, whose counters have one number and one position left. -/
def nearlySpent : Snapshot where
  lsn := 0xfffffffffffffffe
  timestamp := 0
  lastModified := 0
  maxId := 0
  sessions := [Session.start "B" 0xfffffffffffffffe "app" "tx" 1000]

/-- The store that is opened on this image. -/
def nearlySpentStart : Store :=
  resume {} 0 { snapshot := some nearlySpent.write, log := [] } (Recovered.ofSnapshot nearlySpent)

/-- The number that is requested there is the last one, and nothing is attempted. -/
theorem takeId_from_nearlySpentStart :
    Operation.takeId.runOn nearlySpentStart
        = (.ok (.id 0xffffffffffffffff), { nearlySpentStart with nextId := 0 })
      ∧ (Moment.mk nearlySpentStart (.perform .takeId) []
        { nearlySpentStart with nextId := 0 }).Happens := by
  have number : nearlySpentStart.nextId = 0xffffffffffffffff := by decide
  have wrapped : nearlySpentStart.nextId + 1 = 0 := by decide
  have effects : Operation.takeId.Effects nearlySpentStart [] :=
    .moves rfl (Nat.zero_le _) (Nat.le_refl 1) (.draw (.refl _)) (.made allMade_nil (plain_ok _))
  rw [← number, ← wrapped]
  refine ⟨rfl, .perform effects.attempts, fun op same => ?_⟩
  cases same
  exact effects

/-- The session that is stored there can be removed, in one change. -/
theorem exists_delete_from_nearlySpentStart :
    ∃ (s : Store) (attempt : Attempt),
      (Moment.mk { nearlySpentStart with nextId := 0 } (.perform (.delete "B")) [attempt] s).Happens
      ∧ attempt.failure = none ∧ Frame.Fits attempt.record ∧ s.sessions.get? "B" = none := by
  have gone : ((Operation.delete "B").runOn
      { nearlySpentStart with nextId := 0 }).2.sessions.get? "B" = none := by decide +kernel
  have run : (Operation.delete "B").runOn { nearlySpentStart with nextId := 0 }
      = (.ok (.session (Session.start "B" 0xfffffffffffffffe "app" "tx" 1000)),
        ((Operation.delete "B").runOn { nearlySpentStart with nextId := 0 }).2) :=
    runOn_of_toOption (by decide +kernel)
  obtain ⟨attempts, happens, made, few, logged⟩ := Moment.exists_happens_of_ok rfl run
  cases attempts with
  | nil =>
    -- Without an attempt the session would still be there.
    have stored : (nearlySpentStart.sessions.get? "B").isSome = true := by decide
    obtain ⟨locks, trail, nextId, same⟩ :=
      ((happens.effects _ rfl).attempts.of_mutation rfl).2.1.eq_of_nil
    rw [same] at gone
    simp [gone] at stored
  | cons attempt others =>
    obtain rfl : others = [] := by simpa [Operation.mostChanges] using few
    refine ⟨_, attempt, happens, made attempt (by simp), ?_, gone⟩
    obtain ⟨m, op, ⟨may, -⟩, same⟩ := logged attempt (by simp)
    rw [same]
    cases may with
    | delete _ =>
      have name : (Utf8.encode "B").length = 1 := by decide
      simp [Frame.Fits, nextRecord, Codec.record, Codec.iso, Codec.pair, Codec.uint64,
        Codec.operation, Codec.text, length_littleEndian, name, UInt32.size]
    | revise revises _ _ _ => cases revises

/-- With the last number and the last position a number is handed out that is above all others, and
a session is removed that is not found again. -/
theorem countsOn_to_last_position :
    ∃ (files : Files) (recovered found : Recovered) (start numbered s : Store) (attempt : Attempt),
      recover files = .ok recovered ∧ recovered.replayed = 0 ∧ Frame.remainder files.log = []
        ∧ (recovered.sessions.get? "B").isSome = true
        ∧ openFiles {} 0 files = .ok start
        ∧ Operation.takeId.runOn start = (.ok (.id 0xffffffffffffffff), numbered)
        ∧ recovered.NumbersBelow 0xffffffffffffffff
        ∧ Next numbered (.perform (.delete "B")) [attempt] s ∧ attempt.failure = none
        ∧ recovered.lastLsn < attempt.record.lsn
        ∧ ¬ PassesOver numbered.files attempt.record
        ∧ recover s.files = .ok found ∧ found.sessions.get? "B" = none := by
  obtain ⟨-, -, countsOn⟩ := countsOn_of_recover (recover_snapshot nearlySpent) {} 0
  have opened : openFiles {} 0 { snapshot := some nearlySpent.write, log := [] }
      = .ok nearlySpentStart := openFiles_snapshot (by decide)
  have counts := countsOn nearlySpentStart opened
  obtain ⟨draws, happens⟩ := takeId_from_nearlySpentStart
  obtain ⟨s, attempt, removes, made, fits, gone⟩ := exists_delete_from_nearlySpentStart
  have handed : (Moment.mk nearlySpentStart (.perform .takeId) []
      { nearlySpentStart with nextId := 0 }).handedOut = some 0xffffffffffffffff := by
    have answered := congrArg (fun result => result.1.toOption) draws
    simp only [Moment.handedOut, Moment.answer, answered]
    rfl
  have numbers := counts.number .start happens (by simp) handed
  have drawn := Run.start.step happens
  have counted := counts.position drawn removes (by simp [Event.Reopens]) rfl
  have readable : Readable (Recovered.ofSnapshot nearlySpent).lastLsn.toNat [attempt] :=
    ⟨by simpa using fits, by rw [List.length_singleton]; decide⟩
  have removed := drawn.step removes
  obtain ⟨found, recovered, same⟩ :=
    counts.retained (.inr Frame.remainder_nil) removed (by simp [Event.Reopens]) readable
  refine ⟨_, _, found, nearlySpentStart, _, s, attempt, recover_snapshot nearlySpent, rfl,
    Frame.remainder_nil, by decide, opened, draws, numbers, removes.leads, made,
    (counted.above (by decide)).2 (by decide), counted.found (by decide), recovered, ?_⟩
  rw [same "B" (by simp [Settled, made]), gone]

end Store

end SessionRegistry
