import SessionRegistry.Proofs.Operation.Traced

/-!
# Histories of a store

What happens to a store: operations are performed on it, locks are taken and given back meanwhile,
its clock shows another time, and its process ends and a store is opened on its files again. A
process ends with a shutdown, or it dies between two operations and leaves the files as they are.

## Main definitions

* `Event`, `Next`: what can happen to a store, and what that makes of it.
* `History`: a store after any number of events, with the changes that were attempted.

## Main results

* `exists_attempts`: every operation attempts some changes, and leaves what its moves leave.
* `exists_next_of_ok`: an operation that succeeds has made the changes that it attempted.
* `runOn_put`: what a put of a valid image does that is logged durably.
* `next_put`: such a put attempts one change.
-/

namespace SessionRegistry

/-- The changes that an operation attempts on a store. Its answer tells what became of them. -/
inductive Operation.Attempts (op : Operation) (s : Store) : List Attempt → Prop where
  | upkeep (h : op.isUpkeep = true) : op.Attempts s []
  | moves {attempts : List Attempt} (h : op.isUpkeep = false)
    (few : attempts.length ≤ op.mostChanges s)
    (moves : Store.Moves (fun s => Operation.MayLog s op) s attempts (op.runOn s).2)
    (settles : Settles (op.runOn s).1 attempts) : op.Attempts s attempts

/-- Every operation but the upkeep of a store leaves what its moves leave. -/
theorem Operation.Attempts.of_mutation {op : Operation} {s : Store} {attempts : List Attempt}
    (h : op.Attempts s attempts) (mutation : op.isUpkeep = false) :
    attempts.length ≤ op.mostChanges s
      ∧ Store.Moves (fun s => Operation.MayLog s op) s attempts (op.runOn s).2
      ∧ Settles (op.runOn s).1 attempts := by
  cases h with
  | upkeep upkeep => cases mutation.symm.trans upkeep
  | moves _ few moves settles => exact ⟨few, moves, settles⟩

/-- An operation for the upkeep of a store leaves what a checkpoint or a shutdown leaves. -/
theorem Operation.runOn_of_isUpkeep {op : Operation} (h : op.isUpkeep = true) (s : Store) :
    (op.runOn s).2 = (Store.checkpoint.run.run s).2
      ∨ (op.runOn s).2 = (Store.shutdown.run.run s).2 := by
  have same : ∀ act : StoreM Unit,
      ((do act; return .done : StoreM Outcome).run.run s).2 = (act.run.run s).2 := by
    intro act
    rw [run_bind]
    rcases act.run.run s with ⟨result, next⟩
    cases result <;> rfl
  cases op with
  | checkpoint => exact .inl (same _)
  | shutdown => exact .inr (same _)
  | _ => cases h

/-- What an operation does to a store: the changes that it attempts, and how many numbers it hands
out. It attempts nothing before it has handed out its numbers. -/
inductive Operation.Effects (op : Operation) (s : Store) : List Attempt → Prop where
  | upkeep (h : op.isUpkeep = true) : op.Effects s []
  | moves {attempts : List Attempt} {drawn : Nat} (h : op.isUpkeep = false)
    (few : attempts.length ≤ op.mostChanges s) (fewer : drawn ≤ op.draws)
    (moves : Store.Draws (op.Allows s) drawn s attempts (op.runOn s).2)
    (settles : Settles (op.runOn s).1 attempts) : op.Effects s attempts

/-- Every operation has some effects. -/
theorem Operation.exists_effects (op : Operation) (s : Store) :
    ∃ attempts, op.Effects s attempts := by
  cases h : op.isUpkeep with
  | true => exact ⟨[], .upkeep h⟩
  | false =>
    obtain ⟨attempts, _, few, fewer, moves, settles⟩ := op.traced h s
    exact ⟨attempts, .moves h few fewer moves settles⟩

theorem Operation.Effects.attempts {op : Operation} {s : Store} {attempts : List Attempt}
    (h : op.Effects s attempts) : op.Attempts s attempts := by
  cases h with
  | upkeep upkeep => exact .upkeep upkeep
  | moves mutation few _ moves settles =>
    exact .moves mutation few (moves.moves.mono fun _ _ allowed => allowed.1) settles

/-- Every operation attempts some changes. -/
theorem Operation.exists_attempts (op : Operation) (s : Store) :
    ∃ attempts, op.Attempts s attempts := by
  obtain ⟨attempts, effects⟩ := op.exists_effects s
  exact ⟨attempts, effects.attempts⟩

/-- What happens to a store. -/
inductive Event where
  | perform (op : Operation)
  /-- Others hold other locks than before. -/
  | hold (locks : LockTable)
  /-- The clock shows another time. -/
  | tick (now : Millis)
  /-- The store is shut down, and a store is opened on its files. -/
  | reopen (settings : StoreSettings) (now : Millis)
  /-- The process dies, and a store is opened on the files as they are. -/
  | crash (settings : StoreSettings) (now : Millis)

namespace Store

/-- What an event makes of a store, and the changes that it attempts. -/
inductive Next (s : Store) : Event → List Attempt → Store → Prop where
  | perform {op : Operation} {attempts : List Attempt} (h : op.Attempts s attempts) :
    Next s (.perform op) attempts (op.runOn s).2
  | hold (locks : LockTable) : Next s (.hold locks) [] { s with locks }
  | tick (now : Millis) : Next s (.tick now) [] { s with clock := now }
  | reopen {settings : StoreSettings} {now : Millis} {next : Store}
    (h : openFiles settings now s.filesAfterShutdown = .ok next) :
    Next s (.reopen settings now) [] next
  | crash {settings : StoreSettings} {now : Millis} {next : Store}
    (h : openFiles settings now s.files = .ok next) : Next s (.crash settings now) [] next

/-- The files that an event opens a store on. -/
def opened? (s : Store) : Event → Option Files
  | .reopen _ _ => some s.filesAfterShutdown
  | .crash _ _ => some s.files
  | _ => none

/-- What any number of events, in order, make of a store, and the changes that they attempt. -/
inductive History (start : Store) : List Event → List Attempt → Store → Prop where
  | start : History start [] [] start
  | step {events : List Event} {event : Event} {attempts new : List Attempt} {s next : Store}
    (before : History start events attempts s) (h : Next s event new next) :
    History start (events ++ [event]) (attempts ++ new) next

/-! ## Operations that succeed -/

/-- The value of an answer tells the answer. -/
theorem runOn_of_toOption {s : Store} {op : Operation} {outcome : Operation.Outcome}
    (h : (op.runOn s).1.toOption = some outcome) : op.runOn s = (.ok outcome, (op.runOn s).2) := by
  rcases hrun : op.runOn s with ⟨_ | answer, next⟩
  · rw [hrun] at h
    cases h
  · rw [hrun] at h
    cases h
    rfl

/-- An operation that succeeds has made all the changes that it attempted. -/
theorem exists_next_of_ok {s next : Store} {op : Operation} {outcome : Operation.Outcome}
    (h : op.runOn s = (.ok outcome, next)) :
    ∃ new, Next s (.perform op) new next ∧ AllMade new := by
  obtain ⟨attempts, attempted⟩ := op.exists_attempts s
  have happens := Next.perform attempted
  rw [h] at happens
  refine ⟨attempts, happens, ?_⟩
  cases attempted with
  | upkeep _ => exact allMade_nil
  | moves _ _ _ settles =>
    rw [h] at settles
    cases settles with
    | made made _ => exact made

/-! ## Putting an image -/

/-- An image without branches is valid if it has a name. -/
theorem checkImage_of_no_branches {session : Session}
    (named : Text.isBlankText session.xid = false) (h : session.branches = []) :
    checkImage session.xid session = .ok () := by
  have same : ¬ session.xid ≠ session.xid := fun no => no rfl
  have notBlank : ¬ Text.isBlankText session.xid = true := by simp [named]
  rw [checkImage, if_neg same, if_neg notBlank, h]
  rfl

/-- A valid image that is put under a free lock of an open store is committed. -/
theorem runOn_put_of_commit {s : Store} {session : Session} (isOpen : s.closed = false)
    (free : session.xid ∉ s.locks.held) (valid : checkImage session.xid session = .ok ()) :
    ∃ locks : LockTable, ∀ {result : Except Error Modification} {last : Store},
      (commit (s.upsertOf session)).run.run { s with locks } = (result, last) →
        (Operation.put session).runOn s
          = (result.map .changed, { last with locks := last.locks.release session.xid }) := by
  obtain ⟨locks, under⟩ := s.run_withLock_of_free (putLocked session.xid session) isOpen free
  refine ⟨locks, fun {result last} committed => ?_⟩
  have locked : (putLocked session.xid session).run.run { s with locks } = (result, last) := by
    rw [putLocked, valid, run_bind_of_ok _ _ (run_answer _ _), run_bind_of_ok _ _ (run_get _)]
    exact committed
  cases result with
  | ok modification =>
    rw [Operation.runOn, Operation.perform, put, run_bind_of_ok _ _ (under locked), run_pure]
    rfl
  | error e =>
    rw [Operation.runOn, Operation.perform, put, run_bind_of_error _ _ (under locked)]
    rfl

/-- A valid image that is put under a free lock of an open store, and that is logged durably, is
published. -/
theorem runOn_put {s : Store} {session : Session} {bytes : Nat} {log : LogWriter}
    (isOpen : s.closed = false) (free : session.xid ∉ s.locks.held)
    (valid : checkImage session.xid session = .ok ())
    (logged : s.handOver (s.upsertOf session)
      = (.ok bytes, log)) :
    ∃ (locks locks' : LockTable) (last : Store),
      ((countBytes bytes).run.run ({ s with locks }.published (s.upsertOf session) log)).2 = last
      ∧ (Operation.put session).runOn s
        = (.ok (.changed last.modification), { last with locks := locks' })
      ∧ (Operation.put session).Attempts s
        [{ record := s.nextRecord (s.upsertOf session), failure := none }] := by
  obtain ⟨locks, whenCommitted⟩ := runOn_put_of_commit isOpen free valid
  have committed := run_commit_of_ok (s := { s with locks }) logged
  generalize hlast :
    ((countBytes bytes).run.run ({ s with locks }.published (s.upsertOf session) log)).2 = last
    at committed
  have run := whenCommitted committed
  refine ⟨locks, _, last, hlast, run, .moves rfl (Nat.le_refl 1) ?_ ?_⟩
  · rw [run]
    have change : Move (fun s => Operation.MayLog s (.put session)) { s with locks }
        [{ record := s.nextRecord (s.upsertOf session), failure := none }] last :=
      hlast ▸ .change (.put valid) logged
    exact .cons (.lock locks) (.cons change (.single (.lock _)))
  · rw [run]
    exact .made (by simp [AllMade]) (plain_ok _)

/-- A valid image that is put under a free lock of an open store attempts one change, and makes it if
it can be logged. -/
theorem next_put {s : Store} {session : Session} (isOpen : s.closed = false)
    (free : session.xid ∉ s.locks.held) (valid : checkImage session.xid session = .ok ())
    (running : s.log.running = true)
    (accepts : s.Accepts (s.upsertOf session)) :
    Next s (.perform (.put session))
      [{ record := s.nextRecord (s.upsertOf session), failure := none }]
      ((Operation.put session).runOn s).2 := by
  obtain ⟨_, logged⟩ := exists_handOver running accepts
  obtain ⟨_, _, _, -, -, attempted⟩ := runOn_put isOpen free valid logged
  exact .perform attempted

/-- A valid image that is put under a free lock of an open store, without a checkpoint: it is in the
store, and its record is behind the log. -/
theorem exists_next_put {s : Store} {session : Session} (isOpen : s.closed = false)
    (free : session.xid ∉ s.locks.held) (valid : checkImage session.xid session = .ok ())
    (running : s.log.running = true)
    (accepts : s.Accepts (s.upsertOf session))
    (few : ¬ s.settings.log.checkpointThreshold < s.bytesSinceCheckpoint
      + UInt64.ofNat (Frame.ofRecord (s.nextRecord (s.upsertOf session))).length) :
    ∃ next : Store, Next s (.perform (.put session))
        [{ record := s.nextRecord (s.upsertOf session), failure := none }] next
      ∧ next.sessions = s.sessions.insert { session with modifiedTime := s.clock }
      ∧ next.snapshotFile = s.snapshotFile
      ∧ next.log.file = s.log.file ++ Frame.ofRecord (s.nextRecord (s.upsertOf session)) := by
  obtain ⟨log, logged⟩ := exists_handOver running accepts
  obtain ⟨_, -, file, -⟩ := handOver_ok logged
  obtain ⟨locks, locks', last, hlast, run, attempted⟩ := runOn_put isOpen free valid logged
  have counted := run_countBytes_of_few ({ s with locks }.published (s.upsertOf session) log) few
  refine ⟨_, .perform attempted, ?_⟩
  rw [run, ← hlast, counted]
  exact ⟨rfl, rfl, file⟩

end Store

end SessionRegistry
