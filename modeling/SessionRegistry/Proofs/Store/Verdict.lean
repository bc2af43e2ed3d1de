import SessionRegistry.Proofs.Operation.Revised

/-!
# Verdicts on changes

A request for a change of one session is decided by the image of that session alone: it is refused,
it is answered without a change, or it is answered and one change is logged. A computation meets
such a verdict if it answers as the verdict says and makes exactly the change that the verdict
names. The verdict on a sequence of computations is the sequence of their verdicts.

## Main definitions

* `Decision`: how a request is granted. The verdict on a request is a decision or an error.
* `Store.Untouched`: nothing has changed but the locks, the trail and the next number.
* `Store.LogsOnce`: one change has been made, and this is what it left in the files.
* `Store.Ends`, `Store.Meets`: a computation ends as a verdict says.

## Main results

* `Meets.withLock`, `Meets.load_bind`, `Meets.bind`: verdicts on computations that are put together.
* `Meets.commit`: a change is logged once, whether or not a checkpoint follows.
* `Meets.revise`: the verdict on the revision of a session.
-/

namespace SessionRegistry

/-- A request that is granted: its answer, and the change that is to be logged, if anything has to
change. -/
structure Decision (α : Type) where
  answer : α
  logged : Option LogOperation := none

/-- The decision with a function of its answer. -/
def Decision.map {α β : Type} (f : α → β) (decision : Decision α) : Decision β :=
  { decision with answer := f decision.answer }

namespace Decision

/-- Functions of an answer one after the other. -/
theorem map_map {α β γ : Type} (v : Except Error (Decision α)) (f : α → β) (g : β → γ) :
    (v.map (map f)).map (map g) = v.map (map fun a => g (f a)) := by
  cases v <;> rfl

/-- The image that a change needs, or the error that there is none. -/
def require (xid : Xid) : Option Session → Except Error Session
  | some session => .ok session
  | none => .error (.notFound (.session xid))

/-- A new image is to be logged, with the time of the change, unless it is not valid. -/
def write {α : Type} (now : Millis) (xid : Xid) (session : Session) (answer : α) :
    Except Error (Decision α) := do
  Store.checkImage xid session
  return { answer, logged := some (.upsert { session with modifiedTime := now }) }

/-- The verdict on the removal of a session, if it may be removed. The answer is its image. -/
def remove (xid : Xid) (check : Session → Except Error Unit) (image : Option Session) :
    Except Error (Decision Session) := do
  let session ← require xid image
  check session
  return { answer := session, logged := some (.remove xid) }

/-- The verdict on the revision of a session. The answer is its image before and after. -/
def revise (now : Millis) (xid : Xid) (revision : Session → Revision) (image : Option Session) :
    Except Error (Decision (Session × Session)) := do
  let before ← require xid image
  match ← revision before with
  | none => return { answer := (before, before) }
  | some after => write now xid after (before, after)

theorem map_remove {α : Type} (xid : Xid) (check : Session → Except Error Unit)
    (image : Option Session) (answer : Session → α) :
    (remove xid check image).map (map answer) = do
      let session ← require xid image
      check session
      return { answer := answer session, logged := some (.remove xid) } := by
  unfold remove
  cases require xid image with
  | error e => rfl
  | ok session =>
    show (check session >>= _).map _ = check session >>= _
    cases check session <;> rfl

theorem map_write {α β : Type} (now : Millis) (xid : Xid) (session : Session) (answer : α)
    (f : α → β) :
    (write now xid session answer).map (map f) = write now xid session (f answer) := by
  unfold write
  cases Store.checkImage xid session <;> rfl

/-- A function of a verdict is granted where the verdict is. -/
theorem exists_of_map_eq_ok {α β : Type} {v : Except Error (Decision α)} {f : α → β}
    {decision : Decision β} (h : v.map (map f) = .ok decision) :
    ∃ granted, v = .ok granted ∧ granted.map f = decision := by
  cases v with
  | error e => cases h
  | ok granted => exact ⟨granted, rfl, Except.ok.inj h⟩

theorem of_require_eq_ok {xid : Xid} {image : Option Session} {session : Session}
    (h : require xid image = .ok session) : image = some session := by
  cases image with
  | none => cases h
  | some stored => exact congrArg some (Except.ok.inj h)

theorem of_write_eq_ok {α : Type} {now : Millis} {xid : Xid} {session : Session} {answer : α}
    {decision : Decision α} (h : write now xid session answer = .ok decision) :
    Store.checkImage xid session = .ok ()
      ∧ decision = { answer, logged := some (.upsert { session with modifiedTime := now }) } := by
  obtain ⟨_, valid, granted⟩ := exists_of_bind_eq_ok h
  exact ⟨valid, (Except.ok.inj granted).symm⟩

theorem of_remove_eq_ok {xid : Xid} {check : Session → Except Error Unit} {image : Option Session}
    {decision : Decision Session} (h : remove xid check image = .ok decision) :
    decision.logged = some (.remove xid) := by
  obtain ⟨session, -, h⟩ := exists_of_bind_eq_ok h
  obtain ⟨_, -, h⟩ := exists_of_bind_eq_ok h
  cases h
  rfl

/-- A revision is granted without a change if nothing has to change, and otherwise with the change
to the new image. -/
theorem of_revise_eq_ok {now : Millis} {xid : Xid} {revision : Session → Revision}
    {image : Option Session} {decision : Decision (Session × Session)}
    (h : revise now xid revision image = .ok decision) :
    ∃ before, image = some before
      ∧ (revision before = .ok none ∧ decision = { answer := (before, before) }
        ∨ ∃ after, revision before = .ok (some after) ∧ decision =
          { answer := (before, after)
            logged := some (.upsert { after with modifiedTime := now }) }) := by
  obtain ⟨before, stored, h⟩ := exists_of_bind_eq_ok h
  obtain ⟨result, revised, h⟩ := exists_of_bind_eq_ok h
  refine ⟨before, of_require_eq_ok stored, ?_⟩
  cases result with
  | none => exact .inl ⟨revised, (Except.ok.inj h).symm⟩
  | some after => exact .inr ⟨after, revised, (of_write_eq_ok h).2⟩

end Decision

namespace Store

variable {α β : Type} {xid : Xid} {s next last : Store} {op : LogOperation}

/-! ## What a computation leaves -/

/-- Nothing has changed but the locks and the trail. -/
def Aside (s next : Store) : Prop :=
  ∃ locks trail, next = { s with locks, trail }

/-- Nothing has changed but the locks, the trail and the next number. -/
def Untouched (s next : Store) : Prop :=
  ∃ locks trail nextId, next = { s with locks, trail, nextId }

theorem Aside.refl (s : Store) : s.Aside s :=
  ⟨_, _, rfl⟩

theorem Aside.untouched (h : s.Aside next) : s.Untouched next := by
  obtain ⟨_, _, rfl⟩ := h
  exact ⟨_, _, _, rfl⟩

theorem Untouched.refl (s : Store) : s.Untouched s :=
  (Aside.refl s).untouched

theorem Untouched.trans (first : s.Untouched next) (second : next.Untouched last) :
    s.Untouched last := by
  obtain ⟨_, _, _, rfl⟩ := first
  obtain ⟨_, _, _, rfl⟩ := second
  exact ⟨_, _, _, rfl⟩

theorem Untouched.sessions (h : s.Untouched next) : next.sessions = s.sessions := by
  obtain ⟨_, _, _, rfl⟩ := h
  rfl

/-- The files after bytes were logged, given those in front of a checkpoint: if enough bytes have
been logged, those that a checkpoint writes. -/
def filesAfter (s : Store) (bytes : Nat) (files : Files) (next : Store) : Files :=
  if s.settings.log.checkpointThreshold < s.bytesSinceCheckpoint + UInt64.ofNat bytes then
    { snapshot := some next.image.write, log := Frame.ofRecord next.marker }
  else files

/-- One change has been made: its record was made durable behind the log, it took one position, it
was published, and after it there was a checkpoint if one was due. -/
structure LogsOnce (s : Store) (op : LogOperation) (next : Store) : Prop where
  written : ∃ log : LogWriter,
    s.handOver op
        = (.ok (Frame.ofRecord (s.nextRecord op)).length, log)
      ∧ log.file = s.log.file ++ Frame.ofRecord (s.nextRecord op)
  lsn : next.lsn = s.lsn + 1
  sessions : next.sessions = publish s.sessions op
  lastModified : next.lastModified = max s.lastModified s.clock
  files : next.files = s.filesAfter (Frame.ofRecord (s.nextRecord op)).length
    { snapshot := s.snapshotFile, log := s.log.file ++ Frame.ofRecord (s.nextRecord op) } next

/-- How a computation ends: as a verdict says, or with a failure of the log. -/
inductive Ends (xid : Xid) (s : Store) :
    Except Error (Decision α) → Except Error α → Store → Prop where
  | refused {e : Error} {next : Store} (same : s.Untouched next) :
    Ends xid s (.error e) (.error e) next
  | kept {answer : α} {next : Store} (same : s.Untouched next) :
    Ends xid s (.ok { answer }) (.ok answer) next
  | logged {answer : α} {op : LogOperation} {next : Store} (own : op.xid? = some xid)
    (once : s.LogsOnce op next) : Ends xid s (.ok { answer, logged := some op }) (.ok answer) next
  | failed {v : Except Error (Decision α)} {e : Error} {next : Store}
    (failure : e.isLogFailure = true) : Ends xid s v (.error e) next

/-- A computation ends as a verdict on a session says. -/
def Meets (xid : Xid) (s : Store) (act : StoreM α) (v : Except Error (Decision α)) : Prop :=
  Ends xid s v (act.run.run s).1 (act.run.run s).2

/-- Locks, notices and numbers before and after a change play no part in it. -/
theorem LogsOnce.lift {first : Store} (before : s.Untouched first) (h : first.LogsOnce op next)
    (after : next.Aside last) : s.LogsOnce op last := by
  obtain ⟨_, _, _, rfl⟩ := before
  obtain ⟨_, _, rfl⟩ := after
  exact ⟨h.written, h.lsn, h.sessions, h.lastModified, h.files⟩

theorem Ends.lift {first : Store} {v : Except Error (Decision α)} {answer : Except Error α}
    (before : s.Untouched first) (h : Ends xid first v answer next) (after : next.Aside last) :
    Ends xid s v answer last := by
  cases h with
  | refused same => exact .refused ((before.trans same).trans after.untouched)
  | kept same => exact .kept ((before.trans same).trans after.untouched)
  | logged own once => exact .logged own (once.lift before after)
  | failed failure => exact .failed failure

/-- A function of the answer is decided by the function of the decision. -/
theorem Ends.map {v : Except Error (Decision α)} {answer : Except Error α}
    (h : Ends xid s v answer next) (f : α → β) :
    Ends xid s (v.map (Decision.map f)) (answer.map f) next := by
  cases h with
  | refused same => exact .refused same
  | kept same => exact .kept same
  | logged own once => exact .logged own once
  | failed failure => exact .failed failure

namespace Meets

variable {act : StoreM α} {f : α → StoreM β} {v : Except Error (Decision α)}

/-! ## Computations that are put together -/

theorem congr {w : Except Error (Decision α)} (h : Meets xid s act v) (same : v = w) :
    Meets xid s act w :=
  same ▸ h

theorem pure (answer : α) : Meets xid s (Pure.pure answer) (.ok { answer }) :=
  .kept (.refl s)

theorem throw (e : Error) : Meets xid s (MonadExcept.throw e : StoreM α) (.error e) :=
  .refused (.refl s)

/-- A computation that fails and leaves the sessions alone, whatever would follow. -/
theorem throw_bind (e : Error) : Meets xid s (MonadExcept.throw e >>= f) (.error e) := by
  unfold Meets
  rw [run_bind_of_error s f (run_throw s e)]
  exact .refused (.refl s)

protected theorem discard (h : Meets xid s act v) :
    Meets xid s (discard act) (v.map (Decision.map fun _ => ())) := by
  unfold Meets
  rw [run_discard]
  exact h.map _

/-- What follows a computation that succeeds and leaves the sessions alone. -/
theorem bind_of_untouched {first : Store} {a : α} {v : Except Error (Decision β)}
    (run : act.run.run s = (.ok a, first)) (before : s.Untouched first)
    (h : Meets xid first (f a) v) : Meets xid s (act >>= f) v := by
  unfold Meets
  rw [run_bind_of_ok s f run]
  exact Ends.lift before h (.refl _)

theorem get_bind {f : Store → StoreM β} {v : Except Error (Decision β)} (h : Meets xid s (f s) v) :
    Meets xid s (get >>= f) v :=
  bind_of_untouched (run_get s) (.refl s) h

theorem tell_bind {notice : Notice} {f : Unit → StoreM β} {v : Except Error (Decision β)}
    (h : Meets xid { s with trail := s.trail ++ [notice] } (f ()) v) :
    Meets xid s (Store.tell notice >>= f) v :=
  bind_of_untouched (run_modify s _) ⟨_, _, _, rfl⟩ h

theorem takeId_bind {f : UInt64 → StoreM β} {v : Except Error (Decision β)}
    (h : Meets xid { s with nextId := s.nextId + 1 } (f s.nextId) v) :
    Meets xid s (Store.takeId >>= f) v :=
  bind_of_untouched (run_takeId s) ⟨_, _, _, rfl⟩ h

/-- What follows an answer that may be an error. -/
theorem answer_bind {result : Except Error α} {w : α → Except Error (Decision β)}
    (h : ∀ a, result = .ok a → Meets xid s (f a) (w a)) :
    Meets xid s (Store.answer result >>= f) (result >>= w) := by
  cases result with
  | ok a => exact bind_of_untouched (run_answer s _) (.refl s) (h a rfl)
  | error e =>
    unfold Meets
    rw [run_bind_of_error s f (run_answer s _)]
    exact .refused (.refl s)

/-- What follows the reading of the session. -/
theorem load_bind {f : Session → StoreM β} {w : Session → Except Error (Decision β)}
    (h : ∀ session, s.sessions.get? xid = some session → Meets xid s (f session) (w session)) :
    Meets xid s (load xid >>= f) (Decision.require xid (s.sessions.get? xid) >>= w) := by
  unfold Meets
  rw [run_bind, run_load, Store.session]
  cases stored : s.sessions.get? xid with
  | none => exact .refused (.refl s)
  | some session => exact h session stored

/-- What is done under a free lock of an open store. -/
theorem withLock (isOpen : s.closed = false) (free : xid ∉ s.locks.held)
    (h : ∀ locks : LockTable, Meets xid { s with locks } act v) :
    Meets xid s (Store.withLock xid act) v := by
  obtain ⟨locks, under⟩ := s.run_withLock_of_free act isOpen free
  unfold Meets
  rw [under rfl]
  exact Ends.lift ⟨_, _, _, rfl⟩ (h locks) ⟨_, _, rfl⟩

/-- A sequence meets the sequence of the verdicts, if nothing but notices follows a change. -/
theorem bind {w : Decision α → Except Error (Decision β)} (h : Meets xid s act v)
    (kept : ∀ a next, v = .ok { answer := a } → s.Untouched next →
      Meets xid next (f a) (w { answer := a }))
    (logged : ∀ a op next, v = .ok { answer := a, logged := some op } → ∃ b last,
      (f a).run.run next = (.ok b, last) ∧ next.Aside last
        ∧ w { answer := a, logged := some op } = .ok { answer := b, logged := some op }) :
    Meets xid s (act >>= f) (v >>= w) := by
  unfold Meets at *
  rcases run : act.run.run s with ⟨answer, next⟩
  rw [run] at h
  cases h with
  | refused same =>
    rw [run_bind_of_error s f run]
    exact .refused same
  | @kept a _ same =>
    rw [run_bind_of_ok s f run]
    exact Ends.lift same (kept a next rfl same) (.refl _)
  | @logged a op _ own once =>
    obtain ⟨b, last, run', after, verdict⟩ := logged a op next rfl
    rw [run_bind_of_ok s f run, run']
    show Ends xid s (w { answer := a, logged := some op }) (.ok b) last
    rw [verdict]
    exact .logged own (once.lift (.refl s) after)
  | failed failure =>
    rw [run_bind_of_error s f run]
    exact .failed failure

/-- A function of the answer, with notices, changes nothing else. -/
theorem map_of_run {g : α → β} (h : Meets xid s act v)
    (run : ∀ a next, ∃ last, (f a).run.run next = (.ok (g a), last) ∧ next.Aside last) :
    Meets xid s (act >>= f) (v.map (Decision.map g)) := by
  have same : v.map (Decision.map g) = v >>= fun decision => .ok (decision.map g) := by
    cases v <;> rfl
  rw [same]
  refine h.bind (fun a next _ _ => ?_) fun a op next _ => ?_
  · obtain ⟨last, run, after⟩ := run a next
    unfold Meets
    rw [run]
    exact .kept after.untouched
  · obtain ⟨last, run, after⟩ := run a next
    exact ⟨g a, last, run, after, rfl⟩

theorem map (h : Meets xid s act v) (g : α → β) :
    Meets xid s (act >>= fun a => Pure.pure (g a)) (v.map (Decision.map g)) :=
  h.map_of_run fun _ next => ⟨next, rfl, .refl next⟩

end Meets

/-! ## Changes -/

/-- What is in the files after bytes have been counted. -/
theorem files_countBytes (running : s.log.running = true) (bytes : Nat) :
    ((countBytes bytes).run.run s).2.files =
      s.filesAfter bytes s.files ((countBytes bytes).run.run s).2 := by
  rw [run_countBytes, filesAfter]
  dsimp only
  split
  · -- The marker and the image of the store are the same before and after the checkpoint.
    obtain ⟨_, marked, -, -, run⟩ := run_checkpoint_of_running
      { s with bytesSinceCheckpoint := s.bytesSinceCheckpoint + UInt64.ofNat bytes } running
    rw [run]
    exact congrArg (Files.mk _) marked
  · rfl

/-- What is left of a change whose record was made durable. -/
theorem logsOnce_of_handOver {bytes : Nat} {log : LogWriter}
    (logged : s.handOver op = (.ok bytes, log)) :
    s.LogsOnce op ((countBytes bytes).run.run (s.published op log)).2 := by
  obtain ⟨running, accepts, file, still⟩ := handOver_ok logged
  obtain ⟨log', logged'⟩ := exists_handOver running accepts
  obtain ⟨size, rfl⟩ := Prod.mk.inj (logged'.symm.trans logged)
  obtain rfl := Except.ok.inj size
  have files := files_countBytes (s := s.published op log') still
    (Frame.ofRecord (s.nextRecord op)).length
  obtain ⟨_, _, _, frame, -⟩ :=
    (s.published op log').countBytes_frame (Frame.ofRecord (s.nextRecord op)).length
  refine ⟨⟨_, logged, file⟩, by rw [frame]; rfl, by rw [frame]; rfl, by rw [frame]; rfl, ?_⟩
  rw [files, ← file]
  rfl

namespace Meets

/-- A change is logged once, unless the log fails. -/
theorem commit (own : op.xid? = some xid) :
    Meets xid s (discard (Store.commit op)) (.ok { answer := (), logged := some op }) := by
  unfold Meets
  rw [run_discard]
  rcases logged : s.handOver op with ⟨result, log⟩
  cases result with
  | ok bytes =>
    rw [run_commit_of_ok logged]
    exact .logged own (logsOnce_of_handOver logged)
  | error e =>
    rw [run_commit_of_error logged]
    exact .failed (isLogFailure_of_handOver logged)

/-- A new image is written as it should be. -/
theorem putLocked (session : Session) :
    Meets xid s (discard (Store.putLocked xid session))
      (Decision.write s.clock xid session ()) := by
  rw [Decision.write]
  unfold Meets
  cases valid : checkImage xid session with
  | error e =>
    rw [run_discard, run_putLocked_of_invalid valid]
    exact .refused (.refl s)
  | ok _ =>
    rw [run_discard, run_putLocked_of_valid valid, ← run_discard]
    exact commit (congrArg some (of_checkImage_eq_ok valid).1)

/-- A new image is written before something is answered. -/
theorem putLocked_bind {f : Unit → StoreM α} {a : α} (session : Session)
    (run : ∀ next, ∃ last, (f ()).run.run next = (.ok a, last) ∧ next.Aside last) :
    Meets xid s (discard (Store.putLocked xid session) >>= f)
      (Decision.write s.clock xid session a) := by
  have written : Meets xid s (discard (Store.putLocked xid session))
      (Decision.write s.clock xid session ()) := putLocked session
  have answered := written.map_of_run (g := fun _ => a) fun _ => run
  rwa [Decision.map_write] at answered

/-- A session is removed as it should be. -/
theorem removeLocked : Meets xid s (Store.removeLocked xid)
    (Decision.remove xid (fun _ => .ok ()) (s.sessions.get? xid)) :=
  load_bind fun session _ =>
    have removed : Meets xid s (discard (Store.commit (.remove xid))) _ := commit rfl
    removed.map fun _ => session

/-- A session is revised as it should be. -/
theorem revise (revision : Session → Revision) (isOpen : s.closed = false)
    (free : xid ∉ s.locks.held) :
    Meets xid s (Store.revise xid revision)
      (Decision.revise s.clock xid revision (s.sessions.get? xid)) := by
  refine withLock isOpen free fun locks => load_bind fun before _ => answer_bind fun result _ => ?_
  cases result with
  | none => exact pure _
  | some after => exact putLocked_bind after fun next => ⟨next, rfl, .refl next⟩

end Meets

end Store

end SessionRegistry
