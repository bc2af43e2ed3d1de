import SessionRegistry.Proofs.Store.Intact

/-!
# Runs of a store

A run is a history that is told moment by moment: what the store was, what happened to it, and what
was left. What is said about two points of a history, or about everything that it answered, is said
about its moments.

The files of a store only matter where a restart reads them. A restart after a shutdown reads what
the last checkpoint wrote, so that the records of a run have to be readable only if the process may
die.

## Main definitions

* `Moment`, `Run`: one event with the stores before and after it, and any number of them in order.
* `Regular`: a run without a given image and without a failure of the log.
* `Durable`: the files of a store are intact wherever a restart may read them.

## Main results

* `Durable.event`: what keeps a store durable.
* `Durable.sessions_eq`: only an operation changes the sessions, also over a restart.
* `Run.induct`: what every moment of a regular run keeps is kept by the run.
-/

namespace SessionRegistry

/-- One event, with the store to which it happens, the changes that it attempts, and the store that
it leaves. -/
structure Moment where
  store : Store
  event : Event
  attempts : List Attempt
  next : Store

namespace Moment

/-- The event leads from the one store to the other, and an operation has its effects. -/
structure Happens (moment : Moment) : Prop where
  leads : Store.Next moment.store moment.event moment.attempts moment.next
  effects : ∀ op, moment.event = .perform op → op.Effects moment.store moment.attempts

/-- An operation that succeeds makes a moment in which all changes are made. -/
theorem exists_happens_of_ok {s next : Store} {op : Operation} {outcome : Operation.Outcome}
    (mutation : op.isUpkeep = false) (h : op.runOn s = (.ok outcome, next)) :
    ∃ attempts, (Moment.mk s (.perform op) attempts next).Happens ∧ AllMade attempts
      ∧ attempts.length ≤ op.mostChanges s
      ∧ ∀ attempt ∈ attempts, ∃ m logged, op.Allows s m logged
        ∧ attempt.record = m.nextRecord logged := by
  obtain ⟨attempts, effects⟩ := op.exists_effects s
  have leads := Store.Next.perform effects.attempts
  rw [h] at leads
  refine ⟨attempts, ⟨leads, fun op' same => ?_⟩, ?_⟩
  · cases same
    exact effects
  · cases effects with
    | upkeep upkeep => cases mutation.symm.trans upkeep
    | moves _ few _ moves settles =>
      rw [h] at settles
      cases settles with
      | made made _ => exact ⟨made, few, moves.moves.exists_of_mem⟩

/-- The process dies. -/
def Crashes (moment : Moment) : Prop :=
  ∃ settings now, moment.event = .crash settings now

end Moment

namespace Store

variable {exposed : Prop} {s next start : Store} {e : Event} {new : List Attempt}
  {past moments : List Moment}

/-- The moments, in order, that lead from one store to another. -/
inductive Run (start : Store) : List Moment → Store → Prop where
  | start : Run start [] start
  | step {past : List Moment} {moment : Moment} (before : Run start past moment.store)
    (happens : moment.Happens) : Run start (past ++ [moment]) moment.next

/-- A run is a history. -/
theorem Run.history (h : Run start moments s) :
    History start (moments.map Moment.event) (moments.flatMap Moment.attempts) s := by
  induction h with
  | start => exact .start
  | step _ happens ih =>
    simp only [List.map_append, List.flatMap_append, List.map_singleton, List.flatMap_singleton]
    exact ih.step happens.leads

/-- One run after another. -/
theorem Run.trans {more : List Moment} (before : Run start past s) (after : Run s more next) :
    Run start (past ++ more) next := by
  induction after with
  | start =>
    rw [List.append_nil]
    exact before
  | step _ happens ih =>
    rw [← List.append_assoc]
    exact ih.step happens

/-! ## Stores that a restart finds as they were -/

/-- The files of a store are intact wherever a restart may read them as they are, be it that the
process may die or that the store has been closed. The log runs as long as the store is open. -/
structure Durable (exposed : Prop) (s : Store) : Prop where
  running : s.log.running = !s.closed
  intact : exposed ∨ s.closed = true → s.Intact

namespace Durable

/-- A store whose log is running is open. -/
theorem isOpen (h : Durable exposed s) (running : s.log.running = true) : s.closed = false := by
  have closed := h.running
  rw [running] at closed
  simpa using closed.symm

/-- The log of a store that is open is running. -/
theorem running_of_isOpen (h : Durable exposed s) (isOpen : s.closed = false) :
    s.log.running = true := by
  rw [h.running, isOpen]
  rfl

/-- A store that is opened in an empty directory is durable. -/
theorem of_nothing {settings : StoreSettings} {now : Millis}
    (opened : openFiles settings now { snapshot := none, log := [] } = .ok start) :
    Durable exposed start := by
  have intact := (intact_of_nothing opened).1
  cases (openFiles_nothing settings now).symm.trans opened
  exact ⟨rfl, fun _ => intact⟩

theorem checkpoint (h : Durable exposed s) : Durable exposed (Store.checkpoint.run.run s).2 := by
  obtain ⟨_, _, _, frame, still, -⟩ := s.checkpoint_frame
  constructor
  · rw [frame]
    exact still.trans h.running
  · intro read
    rw [frame] at read
    exact (h.intact read).checkpoint

/-- Counting the bytes of a change keeps a store durable. -/
theorem countBytes (h : Durable exposed s) (bytes : Nat) :
    Durable exposed ((Store.countBytes bytes).run.run s).2 := by
  obtain ⟨_, _, _, frame, still, -⟩ := s.countBytes_frame bytes
  constructor
  · rw [frame]
    exact still.trans h.running
  · intro read
    rw [frame] at read
    exact (h.intact read).countBytes bytes

/-- A shutdown leaves intact files, whatever they were before. -/
theorem shutdown (h : Durable exposed s) : (Store.shutdown.run.run s).2.Intact := by
  cases closed : s.closed with
  | true =>
    rw [run_shutdown_of_closed s closed]
    exact h.intact (.inr closed)
  | false =>
    have running := h.running_of_isOpen closed
    have intact := intact_checkpoint (s := { s with closed := true }) running
    rw [run_shutdown_of_open s closed]
    refine intact.congr ?_ rfl rfl
    rw [files, LogWriter.file_shutdown]
    rfl

/-- The upkeep of a store keeps it durable. -/
theorem upkeep {op : Operation} (h : Durable exposed s) (hop : op.isUpkeep = true) :
    Durable exposed (op.runOn s).2 := by
  rcases op.runOn_of_isUpkeep hop s with same | same
  · exact same ▸ h.checkpoint
  · rw [same]
    refine ⟨?_, fun _ => h.shutdown⟩
    obtain ⟨_, _, log, frame, stopped⟩ := s.shutdown_frame
    rw [frame]
    refine stopped ?_
    cases closed : s.closed with
    | true => exact .inr (by rw [h.running, closed]; rfl)
    | false => exact .inl rfl

/-- A move keeps a store durable. Where the process may die, its records have to be readable. -/
theorem move {op : Operation} (h : Durable exposed s)
    (move : Move (fun s => Operation.MayLog s op) s new next) (made : AllMade new)
    (good : exposed → Recoverable s.lsn.toNat new) : Durable exposed next := by
  cases move with
  | lock locks => exact ⟨h.running, fun read => (h.intact read).congr rfl rfl rfl⟩
  | tell notice => exact ⟨h.running, fun read => (h.intact read).congr rfl rfl rfl⟩
  | takeId => exact ⟨h.running, fun read => (h.intact read).congr rfl rfl rfl⟩
  | @change logged bytes log allowed run =>
    obtain ⟨running, -, file, still⟩ := handOver_ok run
    have isOpen := h.isOpen running
    have published : Durable exposed (s.published logged log) := by
      refine ⟨still.trans (by rw [published, isOpen]; rfl), fun read => ?_⟩
      -- A store that takes changes is open, so its files are read only if the process may die.
      have mayDie : exposed := read.resolve_right (by simp [published, isOpen])
      have readable := good mayDie
      exact (h.intact (.inl mayDie)).published allowed.isSome_xid?
        (readable.fits ⟨s.nextRecord logged, none⟩ (List.mem_singleton_self _)) readable.room file
    exact published.countBytes bytes
  | fail _ _ => cases made _ (List.mem_singleton_self _)

/-- Moves keep a store durable. -/
theorem moves {op : Operation} (h : Durable exposed s)
    (moves : Moves (fun s => Operation.MayLog s op) s new next) (made : AllMade new)
    (good : exposed → Recoverable s.lsn.toNat new) : Durable exposed next := by
  induction moves with
  | refl s => exact h
  | cons move _ ih =>
    obtain ⟨first, more⟩ := allMade_append.1 made
    refine ih (h.move move first fun mayDie => (good mayDie).left) more fun mayDie => ?_
    have lsn := ((h.intact (.inl mayDie)).move move (good mayDie).left).2
    rw [lsn]
    exact (good mayDie).right

/-- A store that is opened on intact files is durable. -/
theorem of_open {settings : StoreSettings} {now : Millis} (intact : s.Intact)
    (opened : openFiles settings now s.files = .ok next) : Durable exposed next := by
  obtain ⟨recovered, found, -⟩ := intact.recovers
  obtain ⟨-, -, -, running, isOpen, whole⟩ := openFiles_of_recover found opened
  refine ⟨?_, fun _ => whole (.inr intact.whole)⟩
  rw [running, isOpen]
  rfl

/-- An event keeps a store durable. -/
theorem event (h : Durable exposed s) (happens : Next s e new next)
    (dies : ∀ settings now, e = .crash settings now → exposed) (made : AllMade new)
    (good : exposed → Recoverable s.lsn.toNat new) : Durable exposed next := by
  cases happens with
  | @perform op attempts attempted =>
    cases attempted with
    | upkeep upkeep => exact h.upkeep upkeep
    | moves _ _ moves _ => exact h.moves moves made good
  | hold locks => exact ⟨h.running, fun read => (h.intact read).congr rfl rfl rfl⟩
  | tick now => exact ⟨h.running, fun read => (h.intact read).congr rfl rfl rfl⟩
  | reopen opened => exact of_open h.shutdown opened
  | @crash settings now _ opened =>
    exact of_open (h.intact (.inl (dies settings now rfl))) opened

/-- Events other than operations leave the sessions as they are, and so does the upkeep of the
store. -/
theorem sessions_eq (h : Durable exposed s) (happens : Next s e new next)
    (dies : ∀ settings now, e = .crash settings now → exposed)
    (quiet : ∀ op, e = .perform op → op.isUpkeep = true) : next.sessions = s.sessions := by
  cases happens with
  | @perform op attempts attempted =>
    rcases op.runOn_of_isUpkeep (quiet op rfl) s with same | same
    · obtain ⟨_, _, _, frame, -⟩ := s.checkpoint_frame
      rw [same, frame]
    · obtain ⟨_, _, _, frame, -⟩ := s.shutdown_frame
      rw [same, frame]
  | hold locks => rfl
  | tick now => rfl
  | reopen opened =>
    obtain ⟨_, _, _, frame, -⟩ := s.shutdown_frame
    rw [h.shutdown.sessions_of_open opened, frame]
  | @crash settings now _ opened =>
    exact (h.intact (.inl (dies settings now rfl))).sessions_of_open opened

end Durable

end Store

/-! ## Regular runs -/

/-- A moment is regular: what `Regular` says of a run, where the run reaches the moment. -/
structure Moment.Regular (exposed : Prop) (moment : Moment) : Prop where
  happens : moment.Happens
  durable : Store.Durable exposed moment.store
  given : ∀ session, moment.event ≠ .perform (.put session)
  made : AllMade moment.attempts
  dies : ∀ settings now, moment.event = .crash settings now → exposed
  recoverable : exposed → Store.Recoverable moment.store.lsn.toNat moment.attempts

/-- A regular moment leaves a durable store. -/
theorem Moment.Regular.durable_next {exposed : Prop} {moment : Moment}
    (h : moment.Regular exposed) : Store.Durable exposed moment.next :=
  h.durable.event h.happens.leads h.dies h.made h.recoverable

namespace Store

variable {exposed : Prop} {s start : Store} {past moments : List Moment}

/-- No moment puts an image as it is given, and every change that is attempted is made. If the
process may die, every record can be read back, and there is a position for each. -/
structure Regular (exposed : Prop) (moments : List Moment) : Prop where
  given : ∀ moment ∈ moments, ∀ session, moment.event ≠ .perform (.put session)
  made : ∀ moment ∈ moments, AllMade moment.attempts
  dies : ∀ moment ∈ moments, moment.Crashes → exposed
  fits : exposed → ∀ moment ∈ moments, ∀ attempt ∈ moment.attempts,
    (Codec.record.encode attempt.record).length < UInt32.size
  room : exposed → (moments.flatMap Moment.attempts).length < UInt64.size - 1

namespace Regular

/-- The earlier moments of a regular run are regular. -/
theorem left {more : List Moment} (h : Regular exposed (past ++ more)) : Regular exposed past where
  given moment hmoment := h.given moment (List.mem_append_left _ hmoment)
  made moment hmoment := h.made moment (List.mem_append_left _ hmoment)
  dies moment hmoment := h.dies moment (List.mem_append_left _ hmoment)
  fits mayDie moment hmoment := h.fits mayDie moment (List.mem_append_left _ hmoment)
  room mayDie := by
    have room := h.room mayDie
    rw [List.flatMap_append, List.length_append] at room
    omega

theorem nil : Regular exposed [] := by
  have none : 0 < UInt64.size - 1 := by decide
  exact ⟨by simp, by simp, by simp, by simp, fun _ => none⟩

/-- A regular run may go on with another regular moment. -/
theorem step {moment : Moment} (h : Regular exposed past)
    (given : ∀ session, moment.event ≠ .perform (.put session)) (made : AllMade moment.attempts)
    (dies : moment.Crashes → exposed)
    (fits : exposed → ∀ attempt ∈ moment.attempts,
      (Codec.record.encode attempt.record).length < UInt32.size)
    (room : exposed → (past.flatMap Moment.attempts).length + moment.attempts.length
      < UInt64.size - 1) : Regular exposed (past ++ [moment]) where
  given := List.forall_mem_append.2 ⟨h.given, by simpa using given⟩
  made := List.forall_mem_append.2 ⟨h.made, by simpa using made⟩
  dies := List.forall_mem_append.2 ⟨h.dies, by simpa using dies⟩
  fits mayDie := List.forall_mem_append.2 ⟨h.fits mayDie, by simpa using fits mayDie⟩
  room mayDie := by
    rw [List.flatMap_append, List.length_append, List.flatMap_singleton]
    exact room mayDie

/-- The attempts of a regular run keep files intact. -/
theorem recoverable (h : Regular exposed moments) (mayDie : exposed) :
    Recoverable 0 (moments.flatMap Moment.attempts) where
  made attempt hattempt := by
    obtain ⟨moment, hmoment, hattempt⟩ := List.mem_flatMap.1 hattempt
    exact h.made moment hmoment attempt hattempt
  fits attempt hattempt := by
    obtain ⟨moment, hmoment, hattempt⟩ := List.mem_flatMap.1 hattempt
    exact h.fits mayDie moment hmoment attempt hattempt
  room := by
    have room := h.room mayDie
    omega

end Regular

/-- A regular run may go on with an operation that succeeds and makes one change. -/
theorem Run.exists_performed {next : Store} {op : Operation} {outcome : Operation.Outcome}
    (before : Run start past s) (regular : Regular exposed past)
    (run : op.runOn s = (.ok outcome, next)) (mutation : op.isUpkeep = false)
    (once : op.mostChanges s = 1) (given : ∀ session, op ≠ .put session)
    (fits : exposed → ∀ m logged, op.Allows s m logged →
      (Codec.record.encode (m.nextRecord logged)).length < UInt32.size)
    (room : exposed → (past.flatMap Moment.attempts).length + 1 < UInt64.size - 1) :
    ∃ attempts, (Moment.mk s (.perform op) attempts next).Happens ∧ attempts.length ≤ 1
      ∧ Run start (past ++ [⟨s, .perform op, attempts, next⟩]) next
      ∧ Regular exposed (past ++ [⟨s, .perform op, attempts, next⟩]) := by
  obtain ⟨attempts, happens, made, few, logged⟩ := Moment.exists_happens_of_ok mutation run
  rw [once] at few
  refine ⟨attempts, happens, few, before.step happens, regular.step ?_ made ?_ ?_ ?_⟩
  · intro session same
    exact given session (Event.perform.inj same)
  · rintro ⟨_, _, dies⟩
    cases dies
  · intro mayDie attempt hattempt
    obtain ⟨m, change, allowed, same⟩ := logged attempt hattempt
    rw [same]
    exact fits mayDie m change allowed
  · intro mayDie
    have room := room mayDie
    dsimp only
    omega

/-- A regular run takes one position for each attempt. -/
theorem Run.lsn_eq {settings : StoreSettings} {now : Millis}
    (opened : openFiles settings now { snapshot := none, log := [] } = .ok start)
    (run : Run start moments s) (regular : Regular exposed moments) (mayDie : exposed) :
    s.lsn.toNat = (moments.flatMap Moment.attempts).length := by
  obtain ⟨intact, lsn⟩ := intact_of_nothing opened
  rw [(intact.history run.history (lsn ▸ regular.recoverable mayDie)).2, lsn, UInt64.toNat_zero,
    Nat.zero_add]

/-- What every moment of a regular run keeps is kept by the whole run. -/
theorem Run.induct {settings : StoreSettings} {now : Millis} {I : List Moment → Store → Prop}
    (opened : openFiles settings now { snapshot := none, log := [] } = .ok start)
    (run : Run start moments s) (regular : Regular exposed moments) (first : I [] start)
    (step : ∀ past moment, moment.Regular exposed → I past moment.store →
      I (past ++ [moment]) moment.next) : I moments s ∧ Durable exposed s := by
  induction run with
  | start => exact ⟨first, .of_nothing opened⟩
  | @step past moment before happens ih =>
    obtain ⟨kept, durable⟩ := ih regular.left
    have last : moment ∈ past ++ [moment] := List.mem_append_right _ (List.mem_singleton_self _)
    have recoverable : exposed → Recoverable moment.store.lsn.toNat moment.attempts := by
      intro mayDie
      -- The records of this moment follow those of the moments before it.
      have all := regular.recoverable mayDie
      rw [List.flatMap_append, List.flatMap_singleton] at all
      rw [before.lsn_eq opened regular.left mayDie,
        ← Nat.zero_add (past.flatMap Moment.attempts).length]
      exact all.right
    have dies : ∀ settings now, moment.event = .crash settings now → exposed :=
      fun settings now h => regular.dies moment last ⟨settings, now, h⟩
    have made := regular.made moment last
    have here : moment.Regular exposed :=
      ⟨happens, durable, regular.given moment last, made, dies, recoverable⟩
    exact ⟨step past moment here kept, here.durable_next⟩

/-- A regular run leaves a durable store. -/
theorem Run.durable {settings : StoreSettings} {now : Millis}
    (opened : openFiles settings now { snapshot := none, log := [] } = .ok start)
    (run : Run start moments s) (regular : Regular exposed moments) : Durable exposed s :=
  (run.induct (I := fun _ _ => True) opened regular trivial fun _ _ _ _ => trivial).2

end Store

end SessionRegistry
