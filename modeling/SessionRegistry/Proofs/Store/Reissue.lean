import SessionRegistry.Proofs.Session.Again
import SessionRegistry.Proofs.Store.Isolation
import SessionRegistry.Proofs.Store.Release
import SessionRegistry.Proofs.Store.Replay
import SessionRegistry.Proofs.Store.Soundness

/-!
# Commands that are given again

An operator who does not know whether a command has been carried out may give it again. What asks
for a state of the session is granted again with the same answer. What removes something does not
find it any more, and what takes a session or a branch out of a state is refused. Either way nothing
is left of the second command but its announcement.

The verdict on the second command follows from the verdict on the first one: it is made on the image
that the first one has left.

## Main definitions

* `Command.Again`: what a command is answered when it is given again.
* `Decision.leaves`: the image that a decision leaves.

## Main results

* `Command.verdict_again`: the verdict on a command that is given again.
* `Store.runOn_again`, `Store.runOn_deleteLock_again`: what it does to a store at rest.
* `Store.isOpen_of_runOn_command`: a closed store carries out no command.
* `Store.command_again_of_history`: commands may be given again.
-/

namespace SessionRegistry

open Operation (Outcome)

/-- What a command is answered when it is given again after it has succeeded with an outcome: the
same, or that there is nothing of that kind any more, or that it does not fit the status that it has
led to. -/
def Command.Again (c : Command) (outcome : Outcome) (answer : Except Error Outcome) : Prop :=
  match c with
  | stopSession _ | stopBranch .. | sendOutcome .. | changeStatus _ (some _) => answer = .ok outcome
  | deleteSession _ | forceDeleteSession _ | deleteBranch .. | forceDeleteBranch ..
  | deleteLock _ => ∃ what, answer = .error (.notFound what)
  | startSession _ | startBranch .. | changeStatus _ none =>
    ∃ conflict, answer = .error (.invalidState conflict)

/-! ## Verdicts -/

namespace Decision

variable {α : Type} {now : Millis} {xid : Xid} {image : Option Session}
  {revision : Session → Revision} {decision : Decision α} {f : Session × Session → α}

/-- The image of a session that a decision leaves. -/
def leaves (decision : Decision α) (image : Option Session) : Option Session :=
  decision.logged.elim image LogOperation.image?

/-- A revision that leaves nothing to change is granted again with the same answer, and without a
change. -/
theorem revise_again_of_settled
    (granted : (revise now xid revision image).map (map f) = .ok decision)
    (settled : ∀ before after, revision before = .ok (some after) →
      revision { after with modifiedTime := now } = .ok none)
    (same : ∀ before after : Session,
      f ({ after with modifiedTime := now }, { after with modifiedTime := now })
        = f (before, after)) (later : Millis) :
    (revise later xid revision (decision.leaves image)).map (map f)
      = .ok { answer := decision.answer } := by
  obtain ⟨_, revised, rfl⟩ := exists_of_map_eq_ok granted
  obtain ⟨before, rfl, ⟨nothing, rfl⟩ | ⟨after, made, rfl⟩⟩ := of_revise_eq_ok revised
  · show (revise later xid revision (some before)).map _ = _
    rw [revise_of_nothing nothing]
    rfl
  · show (revise later xid revision (some { after with modifiedTime := now })).map _ = _
    rw [revise_of_nothing (settled before after made), map, ← same before after]
    rfl

/-- A revision that refuses the image that it has given is refused. -/
theorem revise_again_of_refused {γ : Type} (fail : γ → Error)
    (granted : (revise now xid revision image).map (map f) = .ok decision)
    (busy : decision.logged ≠ none)
    (refused : ∀ before after, image = some before → revision before = .ok (some after) →
      ∃ why, revision { after with modifiedTime := now } = .error (fail why)) (later : Millis) :
    ∃ why, (revise later xid revision (decision.leaves image)).map (map f)
      = .error (fail why) := by
  obtain ⟨_, revised, rfl⟩ := exists_of_map_eq_ok granted
  obtain ⟨before, rfl, ⟨-, rfl⟩ | ⟨after, made, rfl⟩⟩ := of_revise_eq_ok revised
  · exact absurd rfl busy
  · obtain ⟨why, failed⟩ := refused before after rfl made
    refine ⟨why, ?_⟩
    show (revise later xid revision (some { after with modifiedTime := now })).map _ = _
    rw [revise_of_error failed]
    rfl

/-- A session that was removed is not found. -/
theorem remove_again {check : Session → Except Error Unit} {g : Session → α}
    (granted : (remove xid check image).map (map g) = .ok decision) :
    (remove xid check (decision.leaves image)).map (map g)
      = .error (.notFound (.session xid)) := by
  obtain ⟨found, removed, rfl⟩ := exists_of_map_eq_ok granted
  have gone : (map g found).leaves image = none := by
    rw [leaves, map, of_remove_eq_ok removed]
    rfl
  rw [gone]
  rfl

end Decision

namespace Command

variable {c : Command} {request : ChangeRequest} {now : Millis} {number : UInt64}
  {image : Option Session} {decision : Decision Outcome}

/-- A command that is addressed to one session is answered as it should be when it is given again
for the image that it has left, and nothing is to be written. -/
theorem verdict_again (h : c.request? = some request) (single : ∀ target, c ≠ .deleteLock target)
    (proper : ∀ session, image = some session → session.Proper)
    (granted : request.verdict now number image = .ok decision) (later : Millis)
    (number' : UInt64) :
    ∃ v, request.verdict later number' (decision.leaves image) = v ∧ Decision.Unwritten v
      ∧ c.Again decision.answer (v.map Decision.answer) := by
  -- A command that is refused the second time has changed something the first time.
  have busy (never : ∀ session, ¬ Operation.Idle session (.command c)) :
      decision.logged ≠ none := by
    intro nothing
    obtain ⟨session, -, idle⟩ :=
      (Operation.logged_eq_none_iff_idle_of_command h granted).1 nothing
    exact never session idle
  cases c with
  | deleteSession xid =>
    cases h
    exact ⟨_, Decision.remove_again granted, Decision.unwritten_error _, _, rfl⟩
  | forceDeleteSession xid =>
    cases h
    exact ⟨_, Decision.remove_again granted, Decision.unwritten_error _, _, rfl⟩
  | stopSession xid =>
    cases h
    have settled := Decision.revise_again_of_settled granted
      (fun _ _ made => Session.stop_again made now) (fun _ _ => rfl) later
    exact ⟨_, settled, Decision.unwritten_ok _, rfl⟩
  | startSession xid =>
    cases h
    obtain ⟨conflict, refused⟩ := Decision.revise_again_of_refused .invalidState granted
      (busy fun _ idle => by cases idle)
      (fun _ _ stored made => Session.restart_again (proper _ stored).sound made now) later
    exact ⟨_, refused, Decision.unwritten_error _, conflict, rfl⟩
  | sendOutcome xid direction =>
    cases h
    have settled := Decision.revise_again_of_settled granted
      (fun _ _ made => Session.sendOutcome_again made now) (fun _ _ => rfl) later
    exact ⟨_, settled, Decision.unwritten_ok _, rfl⟩
  | changeStatus xid status =>
    cases h
    dsimp only at granted ⊢
    by_cases active : status = some .suspended
    · rw [if_pos active] at granted
      cases granted
    · rw [if_neg active] at granted ⊢
      cases status with
      | some target =>
        have settled := Decision.revise_again_of_settled granted
          (fun _ _ made => Session.changeStatus_again (fun same => active (congrArg some same))
            made now) (fun _ _ => rfl) later
        exact ⟨_, settled, Decision.unwritten_ok _, rfl⟩
      | none =>
        obtain ⟨conflict, refused⟩ := Decision.revise_again_of_refused .invalidState granted
          (busy fun _ idle => by cases idle)
          (fun _ _ _ made => Session.changeStatus_none_again made now) later
        exact ⟨_, refused, Decision.unwritten_error _, conflict, rfl⟩
  | deleteBranch xid id =>
    cases h
    obtain ⟨what, missing⟩ := Decision.revise_again_of_refused .notFound granted
      (busy fun _ idle => by cases idle)
      (fun _ _ stored made => ⟨_, Session.dropBranch_again (proper _ stored).distinct made now⟩)
      later
    exact ⟨_, missing, Decision.unwritten_error _, what, rfl⟩
  | forceDeleteBranch xid id =>
    cases h
    obtain ⟨what, missing⟩ := Decision.revise_again_of_refused .notFound granted
      (busy fun _ idle => by cases idle)
      (fun _ _ stored made =>
        ⟨_, Session.forceDropBranch_again (proper _ stored).distinct made now⟩) later
    exact ⟨_, missing, Decision.unwritten_error _, what, rfl⟩
  | stopBranch xid id =>
    cases h
    have settled := Decision.revise_again_of_settled granted
      (fun _ _ made => Session.stopBranch_again made now) (fun _ _ => rfl) later
    exact ⟨_, settled, Decision.unwritten_ok _, rfl⟩
  | startBranch xid id =>
    cases h
    obtain ⟨conflict, refused⟩ := Decision.revise_again_of_refused .invalidState granted
      (busy fun _ idle => by cases idle)
      (fun _ _ stored made => Session.restartBranch_again (proper _ stored).sound made now) later
    exact ⟨_, refused, Decision.unwritten_error _, conflict, rfl⟩
  | deleteLock target => exact absurd rfl (single target)

end Command

/-! ## Stores -/

namespace Store

variable {s next : Store} {c : Command} {request : ChangeRequest} {outcome : Outcome}
  {target : LockTarget}

/-- A command leaves a store at rest. -/
theorem AtRest.runOn_command (rest : s.AtRest) (c : Command) :
    ((Operation.command c).runOn s).2.AtRest := by
  obtain ⟨attempts, attempted⟩ := (Operation.command c).exists_attempts s
  obtain ⟨-, moves, -⟩ := attempted.of_mutation rfl
  exact ⟨moves.frame.2.trans rest.isOpen, ((Operation.command c).keepsLocks s).trans rest.free⟩

/-- A command that succeeds was granted, and leaves the image that its verdict says. -/
theorem exists_granted_of_runOn (requested : c.request? = some request) (rest : s.AtRest)
    (run : (Operation.command c).runOn s = (.ok outcome, next)) :
    ∃ decision, request.verdict s.clock s.nextId (s.sessions.get? request.xid) = .ok decision
      ∧ decision.answer = outcome
      ∧ next.sessions.get? request.xid = decision.leaves (s.sessions.get? request.xid) := by
  have ended : Meets request.xid s (Operation.command c).perform _ :=
    c.meets_of_request requested rest.isOpen (rest.not_mem_held request.xid)
  unfold Meets at ended
  rw [Operation.runOn] at run
  rw [run] at ended
  generalize request.verdict s.clock s.nextId (s.sessions.get? request.xid) = v at ended ⊢
  -- A success has either changed nothing or logged once. The other ends are failures.
  cases ended with
  | kept same => exact ⟨_, rfl, rfl, by rw [same.sessions]; rfl⟩
  | logged own once =>
    refine ⟨_, rfl, rfl, ?_⟩
    rw [once.sessions, SessionTable.get?_publish_of_xid? own]
    rfl

/-- A command that is addressed to one session and has succeeded is announced when it is given
again, and that is all. -/
theorem runOn_again (requested : c.request? = some request)
    (single : ∀ target, c ≠ .deleteLock target) (rest : s.AtRest)
    (proper : s.sessions.Every Session.Proper)
    (run : (Operation.command c).runOn s = (.ok outcome, next)) (later : Millis) :
    ∃ answer, (Operation.command c).runOn { next with clock := later }
        = (answer, ({ next with clock := later } : Store).told c) ∧ c.Again outcome answer := by
  obtain ⟨decision, granted, rfl, image⟩ := exists_granted_of_runOn requested rest run
  obtain ⟨v, verdict, unwritten, again⟩ := Command.verdict_again requested single
    (fun session => proper _ session) granted later next.nextId
  have still := rest.runOn_command c
  rw [run] at still
  refine ⟨_, ?_, again⟩
  rw [← verdict, ← image] at unwritten ⊢
  exact Command.announces_of_request (s := { next with clock := later }) requested single
    still.isOpen (still.not_mem_held request.xid) unwritten

/-- A target that does not name a row in full is refused. -/
theorem valid_of_runOn_deleteLock
    (run : (Operation.command (.deleteLock target)).runOn s = (.ok outcome, next)) :
    target.validate = .ok () := by
  cases valid : target.validate with
  | ok _ => rfl
  | error e =>
    have refused : (deleteLock target).run.run s = (.error e, s.told (.deleteLock target)) := by
      rw [deleteLock, announce, tell, run_bind_of_ok s _ (run_modify s _), valid,
        run_bind_of_error _ _ (run_answer _ _)]
      rfl
    cases (runOn_deleteLock refused).symm.trans run

/-- A row that was released is held by nobody. -/
theorem runOn_deleteLock_again (rest : s.AtRest) (apart : Session.Apart s.sessions.toList)
    (checked : s.sessions.Every fun session => checkImage session.xid session = .ok ())
    (run : (Operation.command (.deleteLock target)).runOn s = (.ok outcome, next))
    (later : Millis) :
    ∃ what, (Operation.command (.deleteLock target)).runOn { next with clock := later }
      = (.error (.notFound what),
        ({ next with clock := later } : Store).told (.deleteLock target)) := by
  have valid := valid_of_runOn_deleteLock run
  have agrees := releaseAgrees rest apart checked valid run (plain_ok _)
  -- A release that finds no row fails, so at least one has been released, and none is left.
  have counted : ¬ s.CountsLocks target.filter 0 := fun none => by
    obtain ⟨what, failed⟩ := agrees.missing.2 none
    cases failed
  have none : next.sessions.toList.filter target.holdsIn = [] :=
    LockTarget.matchingLocks_filter_eq_nil_iff.1 (countsLocks_zero_iff.1 (agrees.gone counted))
  have still := rest.runOn_command (.deleteLock target)
  rw [run] at still
  obtain ⟨what, run', -⟩ := run_deleteLock_of_none (s := { next with clock := later })
    ⟨still.isOpen, still.free⟩ valid none
  exact ⟨what, runOn_deleteLock run'⟩

/-! ## Closed stores -/

/-- A closed store gives out no lock. -/
theorem run_withLock_of_closed {α : Type} {xid : Xid} (closed : s.closed = true)
    (act : StoreM α) :
    (withLock xid act).run.run s = (.error (.internal .storeClosed), s) := by
  rcases s.run_withLock_cases act xid with ⟨-, run⟩ | ⟨isOpen, -⟩ | ⟨isOpen, -⟩
  · exact run
  · cases closed.symm.trans isOpen
  · cases closed.symm.trans isOpen

/-- A computation needs an open store: it fails in a closed one. -/
def NeedsOpen {α : Type} (act : StoreM α) : Prop :=
  ∀ s : Store, s.closed = true → ∃ e next, act.run.run s = (.error e, next)

namespace NeedsOpen

variable {α β : Type} {xid : Xid}

theorem bind {act : StoreM α} (h : NeedsOpen act) (f : α → StoreM β) :
    NeedsOpen (act >>= f) := by
  intro s closed
  obtain ⟨e, next, run⟩ := h s closed
  exact ⟨e, next, run_bind_of_error s f run⟩

theorem announced {rest : StoreM α} (c : Command) (h : NeedsOpen rest) :
    NeedsOpen (do announce c; rest) := by
  intro s closed
  obtain ⟨e, next, run⟩ := h (s.told c) closed
  exact ⟨e, next, (run_bind_of_ok s _ (run_modify s _)).trans run⟩

theorem withLock (act : StoreM α) : NeedsOpen (withLock xid act) :=
  fun s closed => ⟨_, s, run_withLock_of_closed closed act⟩

theorem revise (revision : Session → Revision) : NeedsOpen (revise xid revision) :=
  withLock _

/-- Neither is a row released, nor is it found that there is nothing to release. -/
theorem deleteLock (target : LockTarget) : NeedsOpen (deleteLock target) := by
  refine announced _ fun s closed => ?_
  rcases valid : target.validate with e | _
  · exact ⟨e, s, run_bind_of_error s _ (run_answer s _)⟩
  rw [run_bind_of_ok s _ (run_answer s _), run_bind_of_ok s _ (run_get s)]
  cases targets target s with
  | nil => exact ⟨_, s, run_bind_of_ok s _ (run_pure s 0)⟩
  -- Already the first session that may hold the row cannot be locked.
  | cons xid rest =>
    have failed : (releaseIn target xid).run.run s = (.error (.internal .storeClosed), s) :=
      run_bind_of_error s _ (run_withLock_of_closed closed _)
    have ended : (releaseInAll target (xid :: rest)).run.run s
        = (.error (.internal .storeClosed), s) := by
      rw [releaseInAll, run_bind_of_ok s _ (run_attempt s _), failed]
      cases target.xid <;> rfl
    exact ⟨_, s, run_bind_of_error s _ ended⟩

theorem execute (c : Command) : NeedsOpen c.execute := by
  cases c with
  | deleteSession xid => exact bind (announced _ (withLock _)) _
  | forceDeleteSession xid => exact bind (announced _ (bind (withLock _) _)) _
  | stopSession xid => exact bind (announced _ (bind (revise _) _)) _
  | startSession xid => exact bind (announced _ (bind (revise _) _)) _
  | sendOutcome xid direction => exact bind (announced _ (bind (revise _) _)) _
  | changeStatus xid status =>
    refine bind (announced _ ?_) _
    split
    · exact fun s _ => ⟨_, s, rfl⟩
    · exact bind (revise _) _
  | deleteBranch xid id => exact bind (announced _ (bind (revise _) _)) _
  | forceDeleteBranch xid id => exact bind (announced _ (bind (revise _) _)) _
  | stopBranch xid id => exact bind (announced _ (bind (revise _) _)) _
  | startBranch xid id => exact bind (announced _ (bind (revise _) _)) _
  | deleteLock target => exact bind (deleteLock target) _

/-- A closed store carries out no command. -/
theorem command (c : Command) : NeedsOpen (Operation.command c).perform :=
  bind (execute c) _

end NeedsOpen

/-- A command that succeeds was given to an open store. -/
theorem isOpen_of_runOn_command (run : (Operation.command c).runOn s = (.ok outcome, next)) :
    s.closed = false := by
  refine Bool.eq_false_iff.2 fun closed => ?_
  obtain ⟨e, _, failed⟩ := NeedsOpen.command c s closed
  cases failed.symm.trans run

/-! ## Histories -/

section Histories

variable {settings : StoreSettings} {now : Millis} {start : Store} {events : List Event}
  {attempts : List Attempt}

/-- Whatever happened to a store that was opened in an empty directory, every session of it is
proper, as long as no image was put as it was given. -/
theorem proper_of_history
    (opened : openFiles settings now { snapshot := none, log := [] } = .ok start)
    (history : History start events attempts s)
    (given : ∀ session, Event.perform (.put session) ∉ events)
    (fits : (∃ settings now, Event.crash settings now ∈ events) →
      ∀ attempt ∈ attempts, (Codec.record.encode attempt.record).length < UInt32.size) :
    s.sessions.Every Session.Proper := by
  have first : start.Every Session.Sound (∃ settings now, Event.crash settings now ∈ events) :=
    .of_open .nothing opened
  have sound : s.sessions.Every Session.Sound := by
    refine (first.history history ?_ (fun settings now dies => ⟨settings, now, dies⟩) fits).shown
    intro op performed m image stored logged
    -- All images but those that were put as they were given are made from sound ones.
    refine logged.sound ?_ stored
    rintro session rfl
    exact given session performed
  intro xid session stored
  have checked := checked_of_history opened history fits xid session stored
  exact ⟨sound xid session stored, (checkImage_eq_ok_iff.1 checked).distinct⟩

/-- Whatever happened to a store that was opened in an empty directory, as long as no image was put
as it was given: a command that succeeds, with no lock held by others, may be given again. To stop
what is stopped, to send a session where it goes and to set the status that it has succeeds with the
same answer. What was removed is not found, and what goes on again is refused. In each case nothing
is left of the second command but its announcement, whatever the clock shows by then. If the process
may have died, the records of all changes that were attempted have to be readable. -/
theorem command_again_of_history
    (opened : openFiles settings now { snapshot := none, log := [] } = .ok start)
    (history : History start events attempts s)
    (given : ∀ session, Event.perform (.put session) ∉ events)
    (fits : (∃ settings now, Event.crash settings now ∈ events) →
      ∀ attempt ∈ attempts, (Codec.record.encode attempt.record).length < UInt32.size)
    (free : s.locks.held = [])
    (run : (Operation.command c).runOn s = (.ok outcome, next)) (later : Millis) :
    ∃ answer, (Operation.command c).runOn { next with clock := later }
        = (answer, { next with clock := later, trail := next.trail ++ [.command c] })
      ∧ c.Again outcome answer := by
  have rest : s.AtRest := ⟨isOpen_of_runOn_command run, LockTable.ext free⟩
  by_cases single : ∃ target, c = .deleteLock target
  · obtain ⟨target, rfl⟩ := single
    obtain ⟨what, missing⟩ := runOn_deleteLock_again rest (apart_of_history opened history fits)
      (checked_of_history opened history fits) run later
    exact ⟨_, missing, what, rfl⟩
  -- Every other command is addressed to one session.
  · have single : ∀ target, c ≠ .deleteLock target := fun target same => single ⟨target, same⟩
    obtain ⟨request, requested⟩ : ∃ request, c.request? = some request := by
      cases c with
      | deleteLock target => exact absurd rfl (single target)
      | _ => exact ⟨_, rfl⟩
    exact runOn_again requested single rest (proper_of_history opened history given fits) run later

/-- A session is begun, stopped and started. A second stop, when the clock shows another time, has
the answer of the first one, and a second start is refused. -/
theorem command_again_of_stop_and_start :
    ∃ (start begun stopped started : Store) (conflict : Conflict),
      openFiles {} 0 { snapshot := none, log := [] } = .ok start
        ∧ (Operation.begin "h" "app" "" "tx" 1).runOn start = (.ok (.begun "h:1"), begun)
        ∧ (Operation.command (.stopSession "h:1")).runOn begun = (.ok (.reply .done), stopped)
        ∧ (Operation.command (.stopSession "h:1")).runOn { stopped with clock := 9 }
          = (.ok (.reply .done), { stopped with
            clock := 9, trail := stopped.trail ++ [.command (.stopSession "h:1")] })
        ∧ (Operation.command (.startSession "h:1")).runOn stopped = (.ok (.reply .done), started)
        ∧ (Operation.command (.startSession "h:1")).runOn started
          = (.error (.invalidState conflict), { started with
            trail := started.trail ++ [.command (.startSession "h:1")] }) := by
  let start := resume {} 0 { snapshot := none, log := [] } (Recovered.ofSnapshot Snapshot.empty)
  let begins := Operation.begin "h" "app" "" "tx" 1
  let stops := Operation.command (.stopSession "h:1")
  let starts := Operation.command (.startSession "h:1")
  obtain ⟨begun, stopped, started, began, stop, restart, free, free'⟩ :
      ∃ begun stopped started : Store, begins.runOn start = (.ok (.begun "h:1"), begun)
        ∧ stops.runOn begun = (.ok (.reply .done), stopped)
        ∧ starts.runOn stopped = (.ok (.reply .done), started)
        ∧ begun.locks.held = [] ∧ stopped.locks.held = [] :=
    ⟨_, _, _, runOn_of_toOption (by decide +kernel), runOn_of_toOption (by decide +kernel),
      runOn_of_toOption (by decide +kernel), by decide +kernel, by decide +kernel⟩
  obtain ⟨_, next1, -⟩ := exists_next_of_ok began
  obtain ⟨_, next2, -⟩ := exists_next_of_ok stop
  have history := History.start.step next1
  obtain ⟨_, stop', rfl⟩ := command_again_of_history (openFiles_nothing {} 0) history
    (by simp [begins]) (by simp) free stop 9
  obtain ⟨_, restart', conflict, rfl⟩ := command_again_of_history (openFiles_nothing {} 0)
    (history.step next2) (by simp [begins, stops]) (by simp) free' restart started.clock
  exact ⟨start, begun, stopped, started, conflict, openFiles_nothing {} 0, began, stop, stop',
    restart, restart'⟩

end Histories

end Store

end SessionRegistry
