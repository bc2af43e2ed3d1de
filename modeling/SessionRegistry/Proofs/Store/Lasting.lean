import SessionRegistry.Proofs.Store.Run

/-!
# What lasts while a store stays open

Until its process ends, a store does only four things to its files, its sessions and its position:
it makes a checkpoint, it stops its log, it makes a change, and it hands a change to the log in
vain. What these four keep is kept by every operation, by every event, and by every run that does
not open a store again.

## Main definitions

* `Event.Reopens`: the process ends, and a store is opened on the files.
* `Lasting`: the four steps keep what is said of a store and of the attempts so far.

## Main results

* `Lasting.moves`, `Lasting.event`: what lasts is kept by an operation and by an event.
* `Lasting.run`: what lasts is kept by a run that does not open a store again.
-/

namespace SessionRegistry

/-- The process ends, and a store is opened on its files again. -/
def Event.Reopens : Event → Prop
  | .reopen _ _ | .crash _ _ => True
  | _ => False

namespace Store

variable {I : List Attempt → Store → Prop} {may : Store → LogOperation → Prop}
  {s next start : Store} {past new : List Attempt} {e : Event} {moments : List Moment}

/-- What is said of the attempts so far and of the store lasts while the store stays open: a
checkpoint keeps it, so does stopping the log, a change and a failed one keep it with one more
attempt, and nothing but the settings, the files, the sessions and the position matter to it. -/
structure Lasting (I : List Attempt → Store → Prop) : Prop where
  aside : ∀ {past s} (clock : Millis) (locks : LockTable) (nextId bytesSinceCheckpoint : UInt64)
    (closed : Bool) (trail : List Notice), I past s →
      I past { s with clock, locks, nextId, bytesSinceCheckpoint, closed, trail }
  saves : ∀ {past s}, I past s → s.log.running = true → I past (checkpoint.run.run s).2
  stops : ∀ {past s}, I past s → I past { s with log := s.log.shutdown }
  changes : ∀ {past s op bytes log}, I past s →
    s.handOver op = (.ok bytes, log) →
      I (past ++ [{ record := s.nextRecord op, failure := none }]) (s.published op log)
  fails : ∀ {past s op failure log}, I past s →
    s.handOver op = (.error failure, log) →
      I (past ++ [{ record := s.nextRecord op, failure := some failure }])
        { s with lsn := s.lsn + 1, log }

namespace Lasting

/-- A checkpoint of a store whose log has stopped does nothing. -/
theorem checkpoint (lasts : Lasting I) (h : I past s) :
    I past (Store.checkpoint.run.run s).2 := by
  cases running : s.log.running with
  | true => exact lasts.saves h running
  | false =>
    rw [run_checkpoint_of_stopped s running]
    exact h

/-- Counting the bytes of a change keeps what a checkpoint keeps. -/
theorem countBytes (lasts : Lasting I) (h : I past s) (bytes : Nat) :
    I past ((Store.countBytes bytes).run.run s).2 := by
  have counted := lasts.aside s.clock s.locks s.nextId
    (s.bytesSinceCheckpoint + UInt64.ofNat bytes) s.closed s.trail h
  rw [run_countBytes]
  dsimp only
  split
  · exact lasts.checkpoint counted
  · exact counted

/-- A shutdown closes the store, makes a checkpoint and stops the log. -/
theorem shutdown (lasts : Lasting I) (h : I past s) : I past (Store.shutdown.run.run s).2 := by
  cases closed : s.closed with
  | true =>
    rw [run_shutdown_of_closed s closed]
    exact h
  | false =>
    have closing := lasts.aside s.clock s.locks s.nextId s.bytesSinceCheckpoint true s.trail h
    rw [run_shutdown_of_open s closed]
    exact lasts.stops (lasts.checkpoint closing)

theorem move (lasts : Lasting I) (h : I past s) (move : Move may s new next) :
    I (past ++ new) next := by
  cases move with
  | lock locks =>
    rw [List.append_nil]
    exact lasts.aside s.clock locks s.nextId s.bytesSinceCheckpoint s.closed s.trail h
  | tell notice =>
    rw [List.append_nil]
    exact lasts.aside s.clock s.locks s.nextId s.bytesSinceCheckpoint s.closed _ h
  | takeId =>
    rw [List.append_nil]
    exact lasts.aside s.clock s.locks (s.nextId + 1) s.bytesSinceCheckpoint s.closed s.trail h
  | change _ logged => exact lasts.countBytes (lasts.changes h logged) _
  | fail _ logged => exact lasts.fails h logged

/-- What lasts is kept by all moves of an operation. -/
theorem moves (lasts : Lasting I) (h : I past s) (moves : Moves may s new next) :
    I (past ++ new) next := by
  induction moves generalizing past with
  | refl s =>
    rw [List.append_nil]
    exact h
  | cons move _ ih =>
    rw [← List.append_assoc]
    exact ih (lasts.move h move)

/-- What lasts is kept by every event that does not open a store again. -/
theorem event (lasts : Lasting I) (h : I past s) (happens : Next s e new next)
    (stays : ¬ e.Reopens) : I (past ++ new) next := by
  cases happens with
  | @perform op attempts attempted =>
    cases attempted with
    | upkeep upkeep =>
      rw [List.append_nil]
      rcases op.runOn_of_isUpkeep upkeep s with same | same
      · exact same ▸ lasts.checkpoint h
      · exact same ▸ lasts.shutdown h
    | moves _ _ moves _ => exact lasts.moves h moves
  | hold locks =>
    rw [List.append_nil]
    exact lasts.aside s.clock locks s.nextId s.bytesSinceCheckpoint s.closed s.trail h
  | tick now =>
    rw [List.append_nil]
    exact lasts.aside now s.locks s.nextId s.bytesSinceCheckpoint s.closed s.trail h
  | reopen _ => exact absurd trivial stays
  | crash _ => exact absurd trivial stays

/-- What lasts is kept by a run in which no store is opened again. -/
theorem run (lasts : Lasting I) (first : I [] start) (run : Run start moments s)
    (stays : ∀ moment ∈ moments, ¬ moment.event.Reopens) :
    I (moments.flatMap Moment.attempts) s := by
  induction run with
  | start => exact first
  | @step past moment _ happens ih =>
    -- The attempts of the last moment come behind those of the moments before it.
    have before := ih fun m hm => stays m (List.mem_append_left _ hm)
    rw [List.flatMap_append, List.flatMap_singleton]
    exact lasts.event before happens.leads (stays moment (by simp))

end Lasting

end Store

end SessionRegistry
