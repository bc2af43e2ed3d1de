import SessionRegistry.Proofs.Operation.Request
import SessionRegistry.Proofs.Store.Locks

/-!
# Requests that write nothing

A request that is refused, or for which nothing has to change, leaves the store exactly as it is:
the lock of the session is given back, and neither a record is written nor a number handed out. Of a
command there is left that it was announced. It leaves no entry in the audit trail.

## Main definitions

* `Decision.Unwritten`: by a verdict nothing is to be written.
* `Store.Spares`: a computation that has nothing to write leaves the store as it is.

## Main results

* `Store.Spares.revise`: the revision of a session does.
* `Command.announces_of_request`: a command that has nothing to write is announced, and that is all.
-/

namespace SessionRegistry

open Operation (Outcome)

namespace Decision

/-- By a verdict nothing is to be written: the request is refused, or nothing has to change. -/
def Unwritten {α : Type} (v : Except Error (Decision α)) : Prop :=
  ∀ decision, v = .ok decision → decision.logged = none

theorem unwritten_error {α : Type} (e : Error) :
    Unwritten (.error e : Except Error (Decision α)) :=
  fun _ granted => by cases granted

theorem unwritten_ok {α : Type} (answer : α) : Unwritten (.ok { answer }) :=
  fun _ granted => by cases granted; rfl

variable {now : Millis} {xid : Xid} {revision : Session → Revision} {session : Session}

/-- A revision that refuses the image is refused. -/
theorem revise_of_error {e : Error} (h : revision session = .error e) :
    revise now xid revision (some session) = .error e := by
  show revision session >>= _ = _
  rw [h]
  rfl

/-- A revision for which nothing has to change is granted with the image as it is. -/
theorem revise_of_nothing (h : revision session = .ok none) :
    revise now xid revision (some session) = .ok { answer := (session, session) } := by
  show revision session >>= _ = _
  rw [h]
  rfl

end Decision

namespace Store

variable {α β : Type} {s : Store} {xid : Xid}

/-- The store after a command has been announced. -/
def told (s : Store) (command : Command) : Store :=
  { s with trail := s.trail ++ [.command command] }

/-- A computation answers as a verdict says and leaves the store exactly as it is, if by the verdict
nothing is to be written. -/
def Spares (s : Store) (act : StoreM α) (v : Except Error (Decision α)) : Prop :=
  Decision.Unwritten v → act.run.run s = (v.map Decision.answer, s)

namespace Spares

variable {act : StoreM α} {f : α → StoreM β} {v w : Except Error (Decision α)}

theorem pure (answer : α) : Spares s (Pure.pure answer) (.ok { answer }) :=
  fun _ => rfl

/-- What is to be written is not spoken about. -/
theorem of_logged {decision : Decision α} {op : LogOperation} (h : decision.logged = some op) :
    Spares s act (.ok decision) := by
  intro unwritten
  cases (unwritten decision rfl).symm.trans h

theorem throw_bind {f : α → StoreM β} (e : Error) :
    Spares s (MonadExcept.throw e >>= f) (.error e) :=
  fun _ => run_bind_of_error s f (run_throw s e)

/-- What follows an answer that may be an error. -/
theorem answer_bind {result : Except Error α} {w : α → Except Error (Decision β)}
    (h : ∀ a, result = .ok a → Spares s (f a) (w a)) :
    Spares s (Store.answer result >>= f) (result >>= w) := by
  intro unwritten
  cases result with
  | ok a =>
    rw [run_bind_of_ok s f (run_answer s _)]
    exact h a rfl unwritten
  | error e => exact run_bind_of_error s f (run_answer s _)

/-- What follows the reading of the session. -/
theorem load_bind {f : Session → StoreM α} {w : Session → Except Error (Decision α)}
    (h : ∀ session, s.sessions.get? xid = some session → Spares s (f session) (w session)) :
    Spares s (load xid >>= f) (Decision.require xid (s.sessions.get? xid) >>= w) := by
  intro unwritten
  have loaded := run_load s xid
  rw [Store.session] at loaded
  cases stored : s.sessions.get? xid with
  | none =>
    rw [stored] at loaded
    exact run_bind_of_error s f loaded
  | some session =>
    rw [stored] at loaded unwritten
    rw [run_bind_of_ok s f loaded]
    exact h session stored unwritten

/-- What is done under a free lock of an open store. The lock is given back. -/
theorem withLock (isOpen : s.closed = false) (free : xid ∉ s.locks.held)
    (h : ∀ locks : LockTable, Spares { s with locks } act v) :
    Spares s (Store.withLock xid act) v := by
  intro unwritten
  unfold Store.withLock
  rcases s.run_lock_cases xid with ⟨closed, -⟩ | ⟨-, held, -⟩ | ⟨-, locks, given, run⟩
  · cases closed.symm.trans isOpen
  · exact absurd held free
  · rw [run_bind_of_ok s _ run, run_bind_of_ok _ _ (run_attempt _ act), run_unlock_answer,
      h locks unwritten]
    -- Released after it was acquired, the lock leaves the locks as they were.
    dsimp only
    rw [LockTable.release_of_acquire given]

/-- A function of the answer, if nothing is told that was not told before. -/
theorem map_of_run {g : α → β} (h : Spares s act v)
    (run : ∀ a, v = .ok { answer := a } → (f a).run.run s = (.ok (g a), s)) :
    Spares s (act >>= f) (v.map (Decision.map g)) := by
  intro unwritten
  cases v with
  | error e => exact run_bind_of_error s f (h (Decision.unwritten_error e))
  | ok decision =>
    obtain ⟨answer, logged⟩ := decision
    obtain rfl : logged = none := unwritten _ rfl
    rw [run_bind_of_ok s f (h (Decision.unwritten_ok answer))]
    exact run answer rfl

theorem discard (h : Spares s act v) :
    Spares s (discard act) (v.map (Decision.map fun _ => ())) :=
  h.map_of_run fun _ _ => rfl

/-- A new image that is refused is not written. -/
theorem putLocked_bind {f : Unit → StoreM α} (session : Session) (a : α) :
    Spares s (Functor.discard (Store.putLocked xid session) >>= f)
      (Decision.write s.clock xid session a) := by
  intro unwritten
  rw [Decision.write] at unwritten ⊢
  cases valid : checkImage xid session with
  | error e => exact run_discard_bind_of_error f (run_putLocked_of_invalid valid)
  | ok _ =>
    rw [valid] at unwritten
    cases unwritten _ rfl

/-- The revision of a session. -/
theorem revise (revision : Session → Revision) (isOpen : s.closed = false)
    (free : xid ∉ s.locks.held) :
    Spares s (Store.revise xid revision)
      (Decision.revise s.clock xid revision (s.sessions.get? xid)) := by
  refine withLock isOpen free fun locks => load_bind fun before _ => answer_bind fun result _ => ?_
  cases result with
  | none => exact pure _
  | some after => exact putLocked_bind after _

end Spares

/-! ## Commands -/

/-- A command answers as a verdict says, and nothing is left of it but its announcement, if by the
verdict nothing is to be written. -/
def Announces (s : Store) (c : Command) (act : StoreM α) (v : Except Error (Decision α)) : Prop :=
  Decision.Unwritten v → act.run.run s = (v.map Decision.answer, s.told c)

/-- What follows the announcement leaves the store as it is. -/
theorem Announces.of_spares {c : Command} {rest : Unit → StoreM α}
    {v : Except Error (Decision α)} (h : Spares (s.told c) (rest ()) v) :
    Announces s c (announce c >>= rest) v := by
  intro unwritten
  rw [announce, tell, run_bind_of_ok s _ (run_modify s _)]
  exact h unwritten

/-- The answer of a command is made from that of its computation. -/
theorem Announces.reply {c : Command} {act : StoreM β} {v : Except Error (Decision α)} {f : α → β}
    (reply : β → Command.Reply) (h : Announces s c act (v.map (Decision.map f))) :
    Announces s c (do
        let answer ← (do let b ← act; return reply b)
        return Outcome.reply answer)
      (v.map (Decision.map fun a => Outcome.reply (reply (f a)))) := by
  intro unwritten
  have nothing : Decision.Unwritten (v.map (Decision.map f)) := by
    intro decision granted
    obtain ⟨granted, rfl, rfl⟩ := Decision.exists_of_map_eq_ok granted
    exact unwritten _ rfl
  have replied : (reply <$> act).run.run s
      = (((v.map (Decision.map f)).map Decision.answer).map reply, s.told c) := by
    rw [run_map, h nothing]
  refine (run_map s Outcome.reply (reply <$> act)).trans ?_
  rw [replied]
  cases v <;> rfl

/-- A command that announces itself and revises a session. -/
theorem announces_revise (c : Command) (revision : Session → Revision) (isOpen : s.closed = false)
    (free : xid ∉ s.locks.held) :
    Announces s c (do announce c; discard <| revise xid revision)
      ((Decision.revise s.clock xid revision (s.sessions.get? xid)).map
        (Decision.map fun _ => ())) :=
  .of_spares (.discard (.revise (s := s.told c) revision isOpen free))

theorem announces_deleteSession (isOpen : s.closed = false) (free : xid ∉ s.locks.held) :
    Announces s (.deleteSession xid) (deleteSession xid)
      ((Decision.remove xid (fun session => if session.status.isTerminal then .ok ()
        else .error (.stillActive (.session xid session.status))) (s.sessions.get? xid)).map
          (Decision.map fun _ => ())) := by
  rw [Decision.map_remove]
  refine .of_spares (.withLock (s := s.told _) isOpen free fun locks =>
    .load_bind fun session _ => ?_)
  dsimp only
  split
  · exact .of_logged rfl
  · exact .throw_bind _

theorem announces_forceDeleteSession (isOpen : s.closed = false) (free : xid ∉ s.locks.held) :
    Announces s (.forceDeleteSession xid) (forceDeleteSession xid)
      ((Decision.remove xid (fun _ => .ok ()) (s.sessions.get? xid)).map
        (Decision.map fun _ => ())) := by
  refine .of_spares (.map_of_run (.withLock (s := s.told _) isOpen free fun locks =>
    .load_bind fun _ _ => .of_logged rfl) fun _ removed => ?_)
  -- What is removed is always written.
  cases Decision.of_remove_eq_ok removed

theorem announces_sendOutcome (direction : Option Direction) (isOpen : s.closed = false)
    (free : xid ∉ s.locks.held) :
    Announces s (.sendOutcome xid direction) (sendOutcome xid direction)
      ((Decision.revise s.clock xid (Session.sendOutcome direction) (s.sessions.get? xid)).map
        (Decision.map fun images => images.2.status)) :=
  .of_spares (.map_of_run (.revise (s := s.told _) _ isOpen free) fun _ _ => rfl)

theorem announces_changeStatus (status : Option GlobalStatus) (isOpen : s.closed = false)
    (free : xid ∉ s.locks.held) :
    Announces s (.changeStatus xid status) (changeStatus xid status)
      (if status = some .suspended then .error (.invalidArgument .suspensionRequested)
      else (Decision.revise s.clock xid (Session.changeStatus status) (s.sessions.get? xid)).map
        (Decision.map fun images => images.2.status)) := by
  refine .of_spares ?_
  dsimp only
  split
  · exact .throw_bind _
  refine .map_of_run (.revise (s := s.told _) _ isOpen free) fun images kept => ?_
  obtain ⟨before, -, ⟨-, same⟩ | ⟨_, -, written⟩⟩ := Decision.of_revise_eq_ok kept
  · -- The audit trail tells of no status that has stayed the same.
    cases same
    dsimp only
    rw [if_pos rfl]
    rfl
  · cases written

theorem announces_forceDeleteBranch (id : BranchId) (isOpen : s.closed = false)
    (free : xid ∉ s.locks.held) :
    Announces s (.forceDeleteBranch xid id) (forceDeleteBranch xid id)
      ((Decision.revise s.clock xid (Session.forceDropBranch id) (s.sessions.get? xid)).map
        (Decision.map fun _ => ())) := by
  refine .of_spares (.map_of_run (.revise (s := s.told _) _ isOpen free) fun images kept => ?_)
  obtain ⟨before, -, ⟨nothing, -⟩ | ⟨_, -, written⟩⟩ := Decision.of_revise_eq_ok kept
  · -- A branch that is found is always dropped.
    obtain ⟨_, -, made⟩ := exists_of_bind_eq_ok nothing
    cases made
  · cases written

end Store

namespace Command

open Store

variable {s : Store} {request : ChangeRequest}

/-- A command that is addressed to one session, and by whose request nothing is to be written, is
announced, and that is all. -/
theorem announces_of_request {c : Command} (h : c.request? = some request)
    (single : ∀ target, c ≠ .deleteLock target) (isOpen : s.closed = false)
    (free : request.xid ∉ s.locks.held) :
    Announces s c (Operation.command c).perform
      (request.verdict s.clock s.nextId (s.sessions.get? request.xid)) := by
  cases c with
  | deleteSession xid =>
    cases h
    exact .reply (fun _ => .done) (announces_deleteSession isOpen free)
  | forceDeleteSession xid =>
    cases h
    exact .reply (fun _ => .done) (announces_forceDeleteSession isOpen free)
  | stopSession xid =>
    cases h
    exact .reply (fun _ => .done) (announces_revise _ _ isOpen free)
  | startSession xid =>
    cases h
    exact .reply (fun _ => .done) (announces_revise _ _ isOpen free)
  | sendOutcome xid direction =>
    cases h
    exact .reply .status (announces_sendOutcome direction isOpen free)
  | changeStatus xid status =>
    cases h
    have changed : Announces s (.changeStatus xid status) _ _ :=
      announces_changeStatus status isOpen free
    dsimp only
    by_cases active : status = some .suspended
    · rw [if_pos active] at changed ⊢
      exact .reply (v := .error _) (f := @id GlobalStatus) .status changed
    · rw [if_neg active] at changed ⊢
      exact .reply .status changed
  | deleteBranch xid id =>
    cases h
    exact .reply (fun _ => .done) (announces_revise _ _ isOpen free)
  | forceDeleteBranch xid id =>
    cases h
    exact .reply (fun _ => .done) (announces_forceDeleteBranch id isOpen free)
  | stopBranch xid id =>
    cases h
    exact .reply (fun _ => .done) (announces_revise _ _ isOpen free)
  | startBranch xid id =>
    cases h
    exact .reply (fun _ => .done) (announces_revise _ _ isOpen free)
  | deleteLock target => exact absurd rfl (single target)

end Command

end SessionRegistry
