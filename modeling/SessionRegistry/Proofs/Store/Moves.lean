import SessionRegistry.Proofs.Store.Step

/-!
# The moves of a store

Whatever an operation does to a store, it does it in moves of five kinds: it changes the locks,
tells something, hands out a number, makes a change that is logged, or hands a change to the log in
vain.
A computation is traced once as a list of moves, and what each move keeps is kept by all of it.

The changes that a computation may log are a parameter `may`, a property of the store at the time
and of the logged operation.

## Main definitions

* `Attempt`: a record that was handed to the log, and what came of it.
* `Move`, `Moves`: one move, and any number of them, with the attempts that they made.
* `Draws`: moves of which a given number hand out a number.
* `Traced`: what a computation does is a list of moves, and its answer tells of a failed attempt.

## Main results

* `Traced.bind`, `Traced.withLock`, `Traced.commit`: how computations are traced.
-/

namespace SessionRegistry

/-- Failures of logging: the log has stopped, the wait for durability was in vain, or there is no
position left. -/
def Error.isLogFailure : Error → Bool
  | .internal .logStopped | .internal (.notDurable ..) | .internal .overflow => true
  | _ => false

theorem Error.eq_internal_of_isLogFailure {e : Error} (h : e.isLogFailure = true) :
    ∃ outage, e = .internal outage := by
  cases e with
  | internal outage => exact ⟨outage, rfl⟩
  | _ => cases h

/-- A result that is no failure of the log. -/
def Plain {α : Type} (result : Except Error α) : Prop :=
  ∀ e, result = .error e → e.isLogFailure = false

section Plain

variable {α β : Type}

@[simp]
theorem plain_ok (a : α) : Plain (.ok a : Except Error α) := by
  simp [Plain]

@[simp]
theorem plain_error {e : Error} : Plain (.error e : Except Error α) ↔ e.isLogFailure = false := by
  simp [Plain]

protected theorem Plain.pure (a : α) : Plain (pure a : Except Error α) :=
  plain_ok a

protected theorem Plain.throw {e : Error} (h : e.isLogFailure = false) :
    Plain (throw e : Except Error α) :=
  plain_error.2 h

/-- A computation is no failure of the log if none of its steps is. -/
protected theorem Plain.bind {result : Except Error α} {f : α → Except Error β} (h : Plain result)
    (hf : ∀ a, Plain (f a)) : Plain (result >>= f) := by
  cases result with
  | ok a => exact hf a
  | error e => exact plain_error.2 (plain_error.1 h)

/-- A function of a result is no failure of the log if the result is none. -/
theorem Plain.map {result : Except Error α} (h : Plain result) (f : α → β) :
    Plain (result.map f) := by
  cases result with
  | ok a => exact plain_ok _
  | error e => exact plain_error.2 (plain_error.1 h)

/-- A result is no failure of the log if a function of it is none. -/
theorem Plain.of_map {result : Except Error α} {f : α → β} (h : Plain (result.map f)) :
    Plain result := by
  cases result with
  | ok a => exact plain_ok a
  | error e => exact plain_error.2 (plain_error.1 h)

protected theorem Plain.discard {result : Except Error α} (h : Plain result) :
    Plain (discard result) :=
  h.bind fun _ => .pure ()

protected theorem Plain.throw_bind {e : Error} {f : α → Except Error β}
    (h : e.isLogFailure = false) : Plain (throw e >>= f) :=
  plain_error.2 h

protected theorem Plain.ite {p : Prop} [Decidable p] {first second : Except Error α}
    (h1 : Plain first) (h2 : Plain second) : Plain (if p then first else second) := by
  split
  · exact h1
  · exact h2

end Plain

/-- A record that was handed to the log. -/
structure Attempt where
  record : LogRecord
  /-- Why the change was not made, if it was not. -/
  failure : Option Error

/-- All changes that were attempted were made. -/
def AllMade (attempts : List Attempt) : Prop :=
  ∀ attempt ∈ attempts, attempt.failure = none

theorem allMade_nil : AllMade [] := by
  simp [AllMade]

theorem allMade_append {first second : List Attempt} :
    AllMade (first ++ second) ↔ AllMade first ∧ AllMade second := by
  simp [AllMade, or_imp, forall_and]

/-- An answer tells what became of the attempts: all of them succeeded and nothing else failed in
the log, or the last one failed and its failure is the answer. -/
inductive Settles {α : Type} : Except Error α → List Attempt → Prop where
  | made {answer : Except Error α} {attempts : List Attempt} (made : AllMade attempts)
      (plain : Plain answer) : Settles answer attempts
  | failed {e : Error} {attempts : List Attempt} {last : Attempt} (made : AllMade attempts)
      (failure : last.failure = some e) (log : e.isLogFailure = true) :
      Settles (.error e) (attempts ++ [last])

/-- Attempts that were made before do not change what the answer tells. -/
theorem Settles.append {α : Type} {answer : Except Error α} {first more : List Attempt}
    (h : Settles answer more) (hfirst : AllMade first) : Settles answer (first ++ more) := by
  cases h with
  | made made plain => exact .made (allMade_append.2 ⟨hfirst, made⟩) plain
  | failed made failure log =>
    rw [← List.append_assoc]
    exact .failed (allMade_append.2 ⟨hfirst, made⟩) failure log

namespace Store

/-- The record under which a store logs an operation. -/
def nextRecord (s : Store) (op : LogOperation) : LogRecord where
  lsn := s.lsn + 1
  op
  timestamp := s.clock

/-- What becomes of an operation that is to be made durable at the next position, and the log's writer
afterwards. Behind the last position nothing is handed to the writer. -/
def handOver (s : Store) (op : LogOperation) : Except Error Nat × LogWriter :=
  if s.lsn + 1 = 0 then (.error (.internal .overflow), s.log)
  else (LogWriter.appendDurable (s.nextRecord op)).run.run s.log

/-- An operation can be logged: there is a position for it, and the wait for it is not in vain. -/
structure Accepts (s : Store) (op : LogOperation) : Prop where
  room : s.lsn + 1 ≠ 0
  intime : ¬ s.log.TimesOut (s.nextRecord op)

instance (s : Store) (op : LogOperation) : Decidable (s.Accepts op) :=
  decidable_of_iff (s.lsn + 1 ≠ 0 ∧ ¬ s.log.TimesOut (s.nextRecord op))
    ⟨fun h => ⟨h.1, h.2⟩, fun h => ⟨h.room, h.intime⟩⟩

section HandOver

variable {s : Store} {op : LogOperation} {log : LogWriter}

/-- What can become of an operation: there is no position, the writer has stopped, the record is
durable behind the file, or it is behind the file and the wait for it passed in vain. -/
theorem handOver_cases (s : Store) (op : LogOperation) :
    s.lsn + 1 = 0 ∧ s.handOver op = (.error (.internal .overflow), s.log)
      ∨ s.log.running = false ∧ s.handOver op = (.error (.internal .logStopped), s.log)
      ∨ s.log.running = true ∧ s.Accepts op
        ∧ (∃ log : LogWriter,
          s.handOver op = (.ok (Frame.ofRecord (s.nextRecord op)).length, log)
            ∧ log.file = s.log.file ++ Frame.ofRecord (s.nextRecord op) ∧ log.running = true
            ∧ log.settings = s.log.settings)
      ∨ s.log.running = true ∧ s.lsn + 1 ≠ 0 ∧ s.log.TimesOut (s.nextRecord op)
        ∧ s.handOver op
          = (.error (.internal (.notDurable (s.lsn + 1)
              (s.log.write (s.nextRecord op)).durableLsn)),
            s.log.write (s.nextRecord op)) := by
  by_cases full : s.lsn + 1 = 0
  · exact .inl ⟨full, if_pos full⟩
  · refine .inr ?_
    rw [show s.handOver op = (LogWriter.appendDurable (s.nextRecord op)).run.run s.log
      from if_neg full]
    rcases s.log.appendDurable_cases (s.nextRecord op) with
      stopped | ⟨running, intime, done⟩ | ⟨running, out, waited⟩
    · exact .inl stopped
    · exact .inr (.inl ⟨running, ⟨full, intime⟩, done⟩)
    · exact .inr (.inr ⟨running, full, out, waited⟩)

/-- An operation that was made durable has a position, and its record is behind the file of a writer
that runs. -/
theorem handOver_ok {bytes : Nat} (h : s.handOver op = (.ok bytes, log)) :
    s.log.running = true ∧ s.Accepts op
      ∧ log.file = s.log.file ++ Frame.ofRecord (s.nextRecord op) ∧ log.running = true := by
  rcases s.handOver_cases op with
    ⟨-, run⟩ | ⟨-, run⟩ | ⟨running, accepts, _, run, file, still, -⟩ | ⟨-, -, -, run⟩
  · cases run.symm.trans h
  · cases run.symm.trans h
  · cases run.symm.trans h
    exact ⟨running, accepts, file, still⟩
  · cases run.symm.trans h

/-- The attempt to log an operation stops no writer and changes no setting. The record is behind the
file afterwards, unless the writer had stopped or there was no position. -/
theorem handOver_frame {result : Except Error Nat} (h : s.handOver op = (result, log)) :
    log.running = s.log.running ∧ log.settings = s.log.settings
      ∧ ((s.log.running = false ∨ s.lsn + 1 = 0) ∧ log.file = s.log.file
        ∨ s.log.running = true
          ∧ log.file = s.log.file ++ Frame.ofRecord (s.nextRecord op)) := by
  rcases s.handOver_cases op with
    ⟨full, run⟩ | ⟨stopped, run⟩ | ⟨running, -, _, run, file, still, settings⟩
      | ⟨running, -, -, run⟩
  · cases run.symm.trans h
    exact ⟨rfl, rfl, .inl ⟨.inr full, rfl⟩⟩
  · cases run.symm.trans h
    exact ⟨rfl, rfl, .inl ⟨.inl stopped, rfl⟩⟩
  · cases run.symm.trans h
    exact ⟨still.trans running.symm, settings, .inr ⟨running, file⟩⟩
  · cases run.symm.trans h
    exact ⟨s.log.running_write _, s.log.settings_write _, .inr ⟨running, s.log.file_write _⟩⟩

/-- An operation that can be logged is made durable by a writer that runs. -/
theorem exists_handOver (running : s.log.running = true) (accepts : s.Accepts op) :
    ∃ log : LogWriter, s.handOver op = (.ok (Frame.ofRecord (s.nextRecord op)).length, log) := by
  rcases s.handOver_cases op with
    ⟨full, -⟩ | ⟨stopped, -⟩ | ⟨-, -, log, run, -⟩ | ⟨-, -, out, -⟩
  · exact absurd full accepts.room
  · simp [running] at stopped
  · exact ⟨log, run⟩
  · exact absurd out accepts.intime

/-- A counter is found to have come to its end exactly where there is no position. -/
theorem handOver_eq_overflow_iff {result : Except Error Nat} (h : s.handOver op = (result, log)) :
    result = .error (.internal .overflow) ↔ s.lsn + 1 = 0 := by
  unfold handOver at h
  by_cases full : s.lsn + 1 = 0
  · rw [if_pos full] at h
    cases h
    simp [full]
  · -- The log's writer fails in other ways only.
    rw [if_neg full] at h
    rcases s.log.appendDurable_cases (s.nextRecord op) with
      ⟨-, run⟩ | ⟨-, -, _, run, -⟩ | ⟨-, -, run⟩
    · cases run.symm.trans h
      simp [full]
    · cases run.symm.trans h
      simp [full]
    · cases run.symm.trans h
      simp [full]

/-- A failure to make an operation durable is a failure of logging. -/
theorem isLogFailure_of_handOver {e : Error} (h : s.handOver op = (.error e, log)) :
    e.isLogFailure = true := by
  rcases s.handOver_cases op with
    ⟨-, run⟩ | ⟨-, run⟩ | ⟨-, -, _, run, -⟩ | ⟨-, -, -, run⟩
  · cases run.symm.trans h
    rfl
  · cases run.symm.trans h
    rfl
  · cases run.symm.trans h
  · cases run.symm.trans h
    rfl

end HandOver

/-- The store after an operation was logged and published. -/
def published (s : Store) (op : LogOperation) (log : LogWriter) : Store :=
  { s with
    lsn := s.lsn + 1
    log
    sessions := publish s.sessions op
    lastModified := max s.lastModified s.clock }

/-- One move of a store. -/
inductive Move (may : Store → LogOperation → Prop) (s : Store) : List Attempt → Store → Prop where
  | lock (locks : LockTable) : Move may s [] { s with locks }
  | tell (notice : Notice) : Move may s [] { s with trail := s.trail ++ [notice] }
  | takeId : Move may s [] { s with nextId := s.nextId + 1 }
  | change {op : LogOperation} {bytes : Nat} {log : LogWriter} (allowed : may s op)
      (logged : s.handOver op = (.ok bytes, log)) :
      Move may s [{ record := s.nextRecord op, failure := none }]
        ((countBytes bytes).run.run (s.published op log)).2
  | fail {op : LogOperation} {e : Error} {log : LogWriter} (allowed : may s op)
      (logged : s.handOver op = (.error e, log)) :
      Move may s [{ record := s.nextRecord op, failure := some e }]
        { s with lsn := s.lsn + 1, log }

/-- Any number of moves, with the attempts that they made, in order. -/
inductive Moves (may : Store → LogOperation → Prop) : Store → List Attempt → Store → Prop where
  | refl (s : Store) : Moves may s [] s
  | cons {s middle last : Store} {first more : List Attempt} (move : Move may s first middle)
      (moves : Moves may middle more last) : Moves may s (first ++ more) last

variable {may may' : Store → LogOperation → Prop} {s middle last : Store}
  {first more attempts : List Attempt}

/-- A move is one also where more changes are allowed. -/
theorem Move.mono (move : Move may s attempts last) (h : ∀ op, may s op → may' s op) :
    Move may' s attempts last := by
  cases move with
  | lock locks => exact .lock locks
  | tell notice => exact .tell notice
  | takeId => exact .takeId
  | change allowed logged => exact .change (h _ allowed) logged
  | fail allowed logged => exact .fail (h _ allowed) logged

theorem Moves.mono (moves : Moves may s attempts last) (h : ∀ s op, may s op → may' s op) :
    Moves may' s attempts last := by
  induction moves with
  | refl s => exact .refl s
  | cons move _ ih => exact .cons (move.mono (h _)) ih

/-- One move is a list of moves. -/
theorem Moves.single (move : Move may s attempts last) : Moves may s attempts last := by
  have once := Moves.cons move (.refl last)
  rwa [List.append_nil] at once

/-- What is handed to the log is the record of an allowed change. -/
theorem Moves.exists_of_mem (moves : Moves may s attempts last) :
    ∀ attempt ∈ attempts, ∃ m op, may m op ∧ attempt.record = m.nextRecord op := by
  induction moves with
  | refl s => simp
  | @cons s middle last first more move _ ih =>
    intro attempt hattempt
    rcases List.mem_append.1 hattempt with hattempt | hattempt
    · cases move with
      | change allowed _ =>
        rw [List.mem_singleton.1 hattempt]
        exact ⟨_, _, allowed, rfl⟩
      | fail allowed _ =>
        rw [List.mem_singleton.1 hattempt]
        exact ⟨_, _, allowed, rfl⟩
      | _ => cases hattempt
    · exact ih attempt hattempt

/-! ## Counting the numbers -/

/-- Moves of which a given number hand out a number. The others leave the next number as it is. -/
inductive Draws (may : Store → LogOperation → Prop) :
    Nat → Store → List Attempt → Store → Prop where
  | refl (s : Store) : Draws may 0 s [] s
  | keep {n : Nat} {s middle last : Store} {first more : List Attempt}
    (move : Move may s first middle) (same : middle.nextId = s.nextId)
    (rest : Draws may n middle more last) : Draws may n s (first ++ more) last
  | draw {n : Nat} {s last : Store} {attempts : List Attempt}
    (rest : Draws may n { s with nextId := s.nextId + 1 } attempts last) :
    Draws may (n + 1) s attempts last

namespace Draws

variable {n m : Nat}

/-- One move that hands out no number. -/
theorem single (move : Move may s attempts last) (same : last.nextId = s.nextId := by rfl) :
    Draws may 0 s attempts last := by
  have once := keep move same (.refl last)
  rwa [List.append_nil] at once

theorem trans (before : Draws may n s first middle) (after : Draws may m middle more last) :
    Draws may (n + m) s (first ++ more) last := by
  induction before with
  | refl s =>
    rw [Nat.zero_add]
    exact after
  | keep move same _ ih =>
    rw [List.append_assoc]
    exact .keep move same (ih after)
  | draw _ ih =>
    rw [Nat.succ_add]
    exact .draw (ih after)

/-- Counted moves are moves. -/
theorem moves (h : Draws may n s attempts last) : Moves may s attempts last := by
  induction h with
  | refl s => exact .refl s
  | keep move _ _ ih => exact .cons move ih
  | draw _ ih => exact .cons .takeId ih

/-- The next number tells how many numbers were handed out. -/
theorem nextId (h : Draws may n s attempts last) : last.nextId = s.nextId + UInt64.ofNat n := by
  induction h with
  | refl s => simp
  | keep _ same _ ih => rw [ih, same]
  | @draw n s last attempts _ ih =>
    rw [ih, UInt64.ofNat_add, UInt64.add_comm (UInt64.ofNat n), ← UInt64.add_assoc]
    rfl

/-- Without numbers handed out, all changes are made at the same next number. -/
theorem still (h : Draws may 0 s attempts last) :
    Draws (fun m op => may m op ∧ m.nextId = s.nextId) 0 s attempts last := by
  generalize hn : 0 = n at h
  induction h with
  | refl s => exact .refl s
  | @keep n s middle last first more move same rest ih =>
    have later := ih hn
    rw [same] at later
    exact .keep (move.mono fun _ allowed => ⟨allowed, rfl⟩) same later
  | draw _ _ => cases hn

end Draws

/-! ## Tracing computations -/

/-- What a computation does is a list of moves with at most a given number of attempts, of which at
most a given number hand out a number, and its answer tells what became of the attempts. -/
def Traced {α : Type} (may : Store → LogOperation → Prop) (most draws : Nat) (act : StoreM α)
    (s : Store) : Prop :=
  ∃ (attempts : List Attempt) (drawn : Nat), attempts.length ≤ most ∧ drawn ≤ draws
    ∧ Draws may drawn s attempts (act.run.run s).2 ∧ Settles (act.run.run s).1 attempts

namespace Traced

variable {α β : Type} {k m n d : Nat}

/-- A computation that changes nothing and does not fail because of the log. -/
theorem of_run_eq {act : StoreM α} {answer : Except Error α} (h : act.run.run s = (answer, s))
    (plain : Plain answer) : Traced may k n act s := by
  refine ⟨[], 0, Nat.zero_le k, Nat.zero_le n, ?_, ?_⟩
  · rw [h]
    exact .refl s
  · rw [h]
    exact .made allMade_nil plain

theorem pure (a : α) : Traced may k n (pure a) s :=
  of_run_eq (run_pure s a) (plain_ok a)

theorem throw {e : Error} (h : e.isLogFailure = false) : Traced may k n (throw e : StoreM α) s :=
  of_run_eq (run_throw s e) (plain_error.2 h)

theorem answer {result : Except Error α} (h : Plain result) :
    Traced may k n (Store.answer result) s :=
  of_run_eq (run_answer s result) h

/-- A computation that makes one move, without an attempt and a number, and succeeds. -/
theorem of_move {act : StoreM α} {a : α} {next : Store} (h : act.run.run s = (.ok a, next))
    (move : Move may s [] next) (same : next.nextId = s.nextId := by rfl) :
    Traced may k n act s := by
  refine ⟨[], 0, Nat.zero_le k, Nat.zero_le n, ?_, ?_⟩
  · rw [h]
    exact .single move same
  · rw [h]
    exact .made allMade_nil (plain_ok a)

/-- A sequence is traced if its first computation is, and the second one wherever the first one
succeeds. -/
theorem bind_add {act : StoreM α} {f : α → StoreM β} (h : Traced may k n act s)
    (hf : ∀ a next, act.run.run s = (.ok a, next) → Traced may m d (f a) next) :
    Traced may (k + m) (n + d) (act >>= f) s := by
  obtain ⟨attempts, drawn, few, fewer, moves, settles⟩ := h
  rcases hrun : act.run.run s with ⟨result, next⟩
  rw [hrun] at moves settles
  cases result with
  | error e =>
    -- The second computation does not run, so the attempts and the answer are those of the first.
    refine ⟨attempts, drawn, Nat.le_add_right_of_le few, Nat.le_add_right_of_le fewer, ?_, ?_⟩
    · rw [run_bind_of_error s f hrun]
      exact moves
    · rw [run_bind_of_error s f hrun]
      cases settles with
      | made made plain => exact .made made (plain_error.2 (plain_error.1 plain))
      | failed made failure log => exact .failed made failure log
  | ok a =>
    obtain ⟨more, drawn', few', fewer', moves', settles'⟩ := hf a next hrun
    -- A computation that succeeds has made all its attempts, so the second one settles them all.
    have first : AllMade attempts := by
      cases settles with
      | made made _ => exact made
    refine ⟨attempts ++ more, drawn + drawn', ?_, Nat.add_le_add fewer fewer', ?_, ?_⟩
    · rw [List.length_append]
      exact Nat.add_le_add few few'
    · rw [run_bind_of_ok s f hrun]
      exact moves.trans moves'
    · rw [run_bind_of_ok s f hrun]
      exact settles'.append first

/-- What follows a computation may attempt nothing. -/
theorem bind {act : StoreM α} {f : α → StoreM β} (h : Traced may k n act s)
    (hf : ∀ a next, act.run.run s = (.ok a, next) → Traced may 0 0 (f a) next) :
    Traced may k n (act >>= f) s :=
  bind_add h hf

/-- A function of an answer is traced like the answer. -/
theorem map (f : α → β) {act : StoreM α} (h : Traced may k n act s) :
    Traced may k n (f <$> act) s :=
  bind h fun a next _ => pure (s := next) (f a)

theorem discard {act : StoreM α} (h : Traced may k n act s) : Traced may k n (discard act) s :=
  map (fun _ => ()) h

/-- A computation may attempt nothing before another one. -/
theorem quiet_bind {act : StoreM α} {f : α → StoreM β} (h : Traced may 0 0 act s)
    (hf : ∀ a next, act.run.run s = (.ok a, next) → Traced may k n (f a) next) :
    Traced may k n (act >>= f) s := by
  have both := bind_add h hf
  rwa [Nat.zero_add, Nat.zero_add] at both

/-- A sequence is traced if its first computation makes one move without an attempt, and the
second one is traced from there. -/
theorem bind_of_move {act : StoreM α} {f : α → StoreM β} {a : α} {next : Store}
    (h : act.run.run s = (.ok a, next)) (move : Move may s [] next)
    (hf : Traced may k n (f a) next) (same : next.nextId = s.nextId := by rfl) :
    Traced may k n (act >>= f) s := by
  refine quiet_bind (of_move h move same) fun a' next' h' => ?_
  cases h.symm.trans h'
  exact hf

/-- What follows a computation that changes nothing and succeeds. -/
theorem bind_of_run_eq {act : StoreM α} {f : α → StoreM β} {a : α}
    (h : act.run.run s = (.ok a, s)) (hf : Traced may k n (f a) s) :
    Traced may k n (act >>= f) s := by
  refine quiet_bind (of_run_eq h (plain_ok a)) fun a' next h' => ?_
  cases h.symm.trans h'
  exact hf

/-- What follows an answer that does not touch the store. -/
theorem answer_bind {result : Except Error α} {f : α → StoreM β} (plain : Plain result)
    (hf : ∀ a, result = .ok a → Traced may k n (f a) s) :
    Traced may k n (Store.answer result >>= f) s := by
  refine quiet_bind (answer plain) fun a next h => ?_
  cases (run_answer s result).symm.trans h
  exact hf a rfl

/-- A computation may read the store. -/
theorem get_bind {f : Store → StoreM β} (h : Traced may k n (f s) s) :
    Traced may k n (get >>= f) s :=
  bind_of_run_eq (run_get s) h

/-- What follows a computation that reports how it ended. A failure of the log must be passed on,
possibly after some moves without an attempt. -/
theorem attempt_bind {act : StoreM α} {f : Except Error α → StoreM β} (h : Traced may k n act s)
    (hf : ∀ result next, act.run.run s = (result, next) →
      Plain result → Traced may m 0 (f result) next)
    (hfail : ∀ e next, e.isLogFailure = true →
      ((f (.error e)).run.run next).1 = .error e
        ∧ Draws may 0 next [] ((f (.error e)).run.run next).2) :
    Traced may (k + m) n (attempt act >>= f) s := by
  obtain ⟨attempts, drawn, few, fewer, moves, settles⟩ := h
  rcases hrun : act.run.run s with ⟨result, next⟩
  rw [hrun] at moves settles
  have run : (attempt act >>= f).run.run s = (f result).run.run next := by
    rw [run_bind_of_ok s f (run_attempt s act), hrun]
  unfold Traced
  rw [run]
  cases settles with
  | made made plain =>
    -- `f` goes on, be it after a success or after a failure that is none of the log.
    obtain ⟨more, drawn', few', none, moves', settles'⟩ := hf result next hrun plain
    obtain rfl := Nat.le_zero.1 none
    refine ⟨attempts ++ more, drawn, ?_, fewer, moves.trans moves', settles'.append made⟩
    rw [List.length_append]
    exact Nat.add_le_add few few'
  | @failed e pre last made failure log =>
    -- `f` passes the failure on, so the last attempt is still the failed one.
    obtain ⟨same, quiet⟩ := hfail e next log
    refine ⟨pre ++ [last], drawn, Nat.le_add_right_of_le few, fewer, ?_, ?_⟩
    · have both := moves.trans quiet
      rwa [List.append_nil] at both
    · rw [same]
      exact .failed made failure log

/-- Where no number is handed out, all changes are made at the same next number. -/
theorem still {act : StoreM α} (h : Traced may k 0 act s) :
    Traced (fun m op => may m op ∧ m.nextId = s.nextId) k 0 act s := by
  obtain ⟨attempts, drawn, few, none, moves, settles⟩ := h
  obtain rfl := Nat.le_zero.1 none
  exact ⟨attempts, 0, few, Nat.le_refl 0, moves.still, settles⟩

end Traced

/-- Logging an operation takes the next position, and leaves the log as handing over the operation
does. -/
theorem run_logDurably {op : LogOperation} {result : Except Error Nat} {log : LogWriter}
    (h : s.handOver op = (result, log)) :
    (logDurably op).run.run s = (result, { s with lsn := s.lsn + 1, log }) := by
  rw [logDurably, run_bind_of_ok s _ (run_modify s _), run_bind_of_ok _ _ (run_get _)]
  dsimp only
  unfold handOver at h
  by_cases full : s.lsn + 1 = 0
  · -- The counter has wrapped around, and the log is as it was.
    rw [if_pos full] at h ⊢
    cases h
    rfl
  · rw [if_neg full] at h ⊢
    exact run_onLog { s with lsn := s.lsn + 1 } h

/-- A commit whose record is durable is published, and its bytes are counted. -/
theorem run_commit_of_ok {op : LogOperation} {bytes : Nat} {log : LogWriter}
    (h : s.handOver op = (.ok bytes, log)) :
    (commit op).run.run s
      = (.ok ((countBytes bytes).run.run (s.published op log)).2.modification,
        ((countBytes bytes).run.run (s.published op log)).2) := by
  have shown : (publishOperation op).run.run { s with lsn := s.lsn + 1, log }
      = (.ok (), s.published op log) := rfl
  have counted : (countBytes bytes).run.run (s.published op log)
      = (.ok (), ((countBytes bytes).run.run (s.published op log)).2) := by
    rw [run_countBytes]
  rw [commit, run_bind_of_ok s _ (run_logDurably h), run_bind_of_ok _ _ shown,
    run_bind_of_ok _ _ counted, run_bind_of_ok _ _ (run_get _), run_pure]

/-- A commit whose record is not durable uses up a position and leaves what is in the log. -/
theorem run_commit_of_error {op : LogOperation} {e : Error} {log : LogWriter}
    (h : s.handOver op = (.error e, log)) :
    (commit op).run.run s = (.error e, { s with lsn := s.lsn + 1, log }) := by
  rw [commit, run_bind_of_error s _ (run_logDurably h)]

namespace Traced

variable {α : Type} {k n : Nat} {xid : Xid}

/-- A commit of an allowed operation is one move. -/
theorem commit {op : LogOperation} (allowed : may s op) :
    Traced may 1 n (Store.commit op) s := by
  rcases logged : s.handOver op with ⟨result, log⟩
  cases result with
  | ok bytes =>
    refine ⟨[{ record := s.nextRecord op, failure := none }], 0, Nat.le_refl 1, Nat.zero_le n, ?_,
      ?_⟩
    · rw [run_commit_of_ok logged]
      obtain ⟨_, _, _, frame, -⟩ := (s.published op log).countBytes_frame bytes
      exact .single (.change allowed logged) (by rw [frame]; rfl)
    · rw [run_commit_of_ok logged]
      exact .made (by simp [AllMade]) (by simp)
  | error e =>
    -- The only attempt is the failed one, with nothing before it.
    refine ⟨[{ record := s.nextRecord op, failure := some e }], 0, Nat.le_refl 1, Nat.zero_le n, ?_,
      ?_⟩
    · rw [run_commit_of_error logged]
      exact .single (.fail allowed logged)
    · rw [run_commit_of_error logged]
      exact Settles.append (.failed allMade_nil rfl (isLogFailure_of_handOver logged))
        allMade_nil

/-- Taking a lock is one move, and its failures are none of the log. -/
theorem lock (xid : Xid) : Traced may k n (Store.lock xid) s := by
  rcases s.run_lock_cases xid with ⟨-, run⟩ | ⟨-, -, run⟩ | ⟨-, locks, -, run⟩
  · exact of_run_eq run (plain_error.2 rfl)
  · exact of_run_eq run (plain_error.2 rfl)
  · exact of_move run (.lock locks)

/-- What is done under a lock is traced like what is done without. -/
theorem withLock {act : StoreM α}
    (h : ∀ locks : LockTable, Traced may k n act { s with locks }) :
    Traced may k n (Store.withLock xid act) s := by
  refine quiet_bind (lock xid) fun _ next hlock => ?_
  rcases s.run_lock_cases xid with ⟨-, run⟩ | ⟨-, -, run⟩ | ⟨-, locks, -, run⟩
  · cases run.symm.trans hlock
  · cases run.symm.trans hlock
  · cases run.symm.trans hlock
    -- The lock is released however `act` ends, and its answer is passed on.
    refine attempt_bind (m := 0) (h locks) (fun result next _ plain => ?_) fun e next _ => ?_
    · exact bind_of_move (run_modify next _) (.lock _) (answer plain)
    · rw [run_unlock_answer]
      exact ⟨rfl, .single (.lock _)⟩

end Traced

end Store

end SessionRegistry
