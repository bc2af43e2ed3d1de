import SessionRegistry.Proofs.Operation.Request
import SessionRegistry.Proofs.Store.Intact

/-!
# Isolation between sessions

An operation that is addressed to one session neither reads nor changes another one. Where nothing
stands in its way it makes one change or none: what it answers, and which change it makes, is
decided by the image of its session, its arguments, the time and, for a registration, the next
number.

## Main definitions

* `Operation.addressee?`: the session that an operation is addressed to.
* `Operation.Idle`: a command asks for what is the case already.
* `Operation.Performed`: an operation is performed, and nothing stands in its way.

## Main results

* `logged_eq_none_iff_idle`: an operation that succeeds logs nothing exactly if it is idle.
* `isolated`: what an operation does to its session, to the others and to the log.
-/

namespace SessionRegistry

/-- The session that a command is addressed to. -/
def Command.addressee? : Command → Option Xid
  | deleteSession xid | forceDeleteSession xid | stopSession xid | startSession xid
  | sendOutcome xid _ | changeStatus xid _ | deleteBranch xid _ | forceDeleteBranch xid _
  | stopBranch xid _ | startBranch xid _ => some xid
  | deleteLock target => target.xid

namespace Operation

/-- The session that an operation is addressed to. -/
def addressee? : Operation → Option Xid
  | put session => some session.xid
  | delete xid | deleteBranch xid _ | register xid _ | reportBranch xid _ _
  | reportSession xid _ => some xid
  | command c => c.addressee?
  | begin .. | sweep .. | takeId | checkpoint | shutdown => none

/-- A command asks for what is the case already: to stop what is stopped, or for the status that the
session has. -/
inductive Idle (image : Session) : Operation → Prop where
  | stopSession (xid : Xid) (stopped : image.status = .suspended) :
    Idle image (.command (.stopSession xid))
  | stopBranch (xid : Xid) {id : BranchId} {branch : Branch}
    (found : image.branch? id = some branch) (stopped : branch.status = .suspended) :
    Idle image (.command (.stopBranch xid id))
  | sendOutcome (xid : Xid) {direction : Option Direction}
    (same : (direction.getD image.status.leaning).target = image.status) :
    Idle image (.command (.sendOutcome xid direction))
  | changeStatus (xid : Xid) : Idle image (.command (.changeStatus xid (some image.status)))

/-- An operation that is addressed to one session makes a request of that session. -/
theorem exists_request {op : Operation} {xid : Xid} (h : op.addressee? = some xid) :
    ∃ request, op.request? = some request ∧ request.xid = xid := by
  cases op with
  | put session => exact ⟨_, rfl, Option.some.inj h⟩
  | command c =>
    cases c with
    | deleteLock target => exact ⟨_, Option.map_eq_some_iff.2 ⟨xid, h, rfl⟩, rfl⟩
    | _ => exact ⟨_, rfl, Option.some.inj h⟩
  | begin => cases h
  | sweep => cases h
  | takeId => cases h
  | checkpoint => cases h
  | shutdown => cases h
  | _ => exact ⟨_, rfl, Option.some.inj h⟩

/-- Only a registration asks for the next number. -/
theorem verdict_eq_of_number {op : Operation} {request : ChangeRequest}
    (h : op.request? = some request) {now : Millis} {image : Option Session}
    {number number' : UInt64}
    (same : (∃ xid registration, op = .register xid registration) → number' = number) :
    request.verdict now number' image = request.verdict now number image := by
  cases op with
  | register xid registration => rw [same ⟨xid, registration, rfl⟩]
  | command c =>
    cases c with
    | deleteLock target =>
      obtain ⟨xid, -, rfl⟩ := Option.map_eq_some_iff.1 h
      rfl
    | _ => cases h; rfl
  | _ => cases h <;> rfl

/-! ## Operations that change nothing -/

/-- A revision finds that nothing has to change only where the command is idle. -/
theorem Revises.idle {now : Millis} {op : Operation} {xid : Xid} {revision : Session → Revision}
    {image : Session} (h : op.Revises now xid revision)
    (single : ∀ target, op ≠ .command (.deleteLock target)) (nothing : revision image = .ok none) :
    op.Idle image := by
  cases h with
  | reportBranch _ id status =>
    obtain ⟨-, nothing⟩ := of_guard_eq_ok nothing
    obtain ⟨branch, -, nothing⟩ := exists_of_bind_eq_ok nothing
    obtain ⟨-, nothing⟩ := of_guard_eq_ok nothing
    split at nothing <;> cases nothing
  | reportSession _ status =>
    obtain ⟨-, nothing⟩ := of_guard_eq_ok nothing
    obtain ⟨-, nothing⟩ := of_guard_eq_ok nothing
    obtain ⟨-, nothing⟩ := of_guard_eq_ok nothing
    cases nothing
  | stop _ =>
    unfold Session.stop at nothing
    split at nothing
    · next stopped => exact .stopSession _ stopped
    · split at nothing <;> cases nothing
  | restart _ =>
    unfold Session.restart at nothing
    split at nothing <;> cases nothing
  | sendOutcome _ direction =>
    unfold Session.sendOutcome at nothing
    split at nothing
    · cases nothing
    · exact .sendOutcome _ (Session.moveTo_eq_none_iff.1 (Except.ok.inj nothing)).symm
  | @changeStatus _ status active =>
    unfold Session.changeStatus at nothing
    split at nothing
    · cases nothing
    · split at nothing
      · next target =>
        split at nothing
        · have same := Session.moveTo_eq_none_iff.1 (Except.ok.inj nothing)
          exact same ▸ .changeStatus _
        · cases nothing
      · split at nothing
        · next target remedy =>
          -- The remedy for a failed session is another status.
          have same := Session.moveTo_eq_none_iff.1 (Except.ok.inj nothing)
          rw [← same] at remedy
          exact absurd remedy (GlobalStatus.remedy?_ne _)
        · cases nothing
  | dropBranch _ id =>
    obtain ⟨branch, -, nothing⟩ := exists_of_bind_eq_ok nothing
    split at nothing <;> cases nothing
  | forceDropBranch _ id =>
    obtain ⟨branch, -, nothing⟩ := exists_of_bind_eq_ok nothing
    cases nothing
  | stopBranch _ id =>
    obtain ⟨branch, found, nothing⟩ := exists_of_bind_eq_ok nothing
    split at nothing
    · next stopped => exact .stopBranch _ (Session.branch?_of_steerableBranch found) stopped
    · split at nothing <;> cases nothing
  | restartBranch _ id =>
    obtain ⟨branch, -, nothing⟩ := exists_of_bind_eq_ok nothing
    split at nothing <;> cases nothing
  | releaseRow _ => exact absurd rfl (single _)

/-- A revision makes no new image where the command is idle. -/
theorem Idle.revision_ne {now : Millis} {op : Operation} {xid : Xid}
    {revision : Session → Revision} {image after : Session} (idle : op.Idle image)
    (h : op.Revises now xid revision) : revision image ≠ .ok (some after) := by
  intro revised
  cases idle with
  | stopSession _ stopped =>
    cases h
    exact (Session.of_stop_eq_ok revised).1 stopped
  | stopBranch _ found stopped =>
    cases h
    obtain ⟨branch, found', stoppable, -⟩ := Session.of_stopBranch_eq_ok revised
    cases found.symm.trans found'
    rw [stopped] at stoppable
    cases stoppable
  | sendOutcome _ same =>
    cases h
    unfold Session.sendOutcome at revised
    split at revised
    · cases revised
    · rw [Session.moveTo_eq_none_iff.2 same.symm] at revised
      cases revised
  | changeStatus _ =>
    cases h
    unfold Session.changeStatus at revised
    split at revised
    · cases revised
    · dsimp only at revised
      split at revised
      · rw [Session.moveTo_eq_none_iff.2 rfl] at revised
        cases revised
      · cases revised

/-- A granted revision logs nothing exactly if the command is idle. -/
theorem Revises.logged_eq_none_iff {now : Millis} {op : Operation} {xid : Xid}
    {revision : Session → Revision} {image : Option Session} {answer : Session × Session → Outcome}
    {decision : Decision Outcome} (h : op.Revises now xid revision)
    (single : ∀ target, op ≠ .command (.deleteLock target))
    (granted : (Decision.revise now xid revision image).map (Decision.map answer) = .ok decision) :
    decision.logged = none ↔ ∃ session, image = some session ∧ op.Idle session := by
  obtain ⟨_, revised, rfl⟩ := Decision.exists_of_map_eq_ok granted
  obtain ⟨before, rfl, ⟨nothing, rfl⟩ | ⟨after, made, rfl⟩⟩ := Decision.of_revise_eq_ok revised
  · exact iff_of_true rfl ⟨before, rfl, h.idle single nothing⟩
  · refine iff_of_false (fun same => by cases same) ?_
    rintro ⟨_, same, idle⟩
    cases same
    exact idle.revision_ne h made

/-- An operation that always has something to log is never idle. -/
theorem logged_eq_none_iff_of_some {op : Operation} {image : Option Session}
    {decision : Decision Outcome} {logged : LogOperation} (h : decision.logged = some logged)
    (never : ∀ session, ¬ op.Idle session) :
    decision.logged = none ↔ ∃ session, image = some session ∧ op.Idle session := by
  rw [h]
  exact iff_of_false (fun same => by cases same) fun ⟨session, _, idle⟩ => never session idle

/-- A command that is granted logs nothing exactly if it is idle. -/
theorem logged_eq_none_iff_idle_of_command {c : Command} {request : ChangeRequest}
    (h : c.request? = some request) {now : Millis} {number : UInt64} {image : Option Session}
    {decision : Decision Outcome} (granted : request.verdict now number image = .ok decision) :
    decision.logged = none ↔ ∃ session, image = some session ∧ Idle session (.command c) := by
  cases c with
  | deleteSession xid =>
    cases h
    obtain ⟨_, removed, rfl⟩ := Decision.exists_of_map_eq_ok granted
    exact logged_eq_none_iff_of_some (Decision.of_remove_eq_ok removed) fun _ idle => by cases idle
  | forceDeleteSession xid =>
    cases h
    obtain ⟨_, removed, rfl⟩ := Decision.exists_of_map_eq_ok granted
    exact logged_eq_none_iff_of_some (Decision.of_remove_eq_ok removed) fun _ idle => by cases idle
  | stopSession xid =>
    cases h
    exact (Revises.stop xid).logged_eq_none_iff (by simp) granted
  | startSession xid =>
    cases h
    exact (Revises.restart xid).logged_eq_none_iff (by simp) granted
  | sendOutcome xid direction =>
    cases h
    exact (Revises.sendOutcome xid direction).logged_eq_none_iff (by simp) granted
  | changeStatus xid status =>
    cases h
    dsimp only at granted
    split at granted
    · cases granted
    · next active => exact (Revises.changeStatus xid active).logged_eq_none_iff (by simp) granted
  | deleteBranch xid id =>
    cases h
    exact (Revises.dropBranch xid id).logged_eq_none_iff (by simp) granted
  | forceDeleteBranch xid id =>
    cases h
    exact (Revises.forceDropBranch xid id).logged_eq_none_iff (by simp) granted
  | stopBranch xid id =>
    cases h
    exact (Revises.stopBranch xid id).logged_eq_none_iff (by simp) granted
  | startBranch xid id =>
    cases h
    exact (Revises.restartBranch xid id).logged_eq_none_iff (by simp) granted
  | deleteLock target =>
    obtain ⟨xid, -, rfl⟩ := Option.map_eq_some_iff.1 h
    obtain ⟨_, released, rfl⟩ := Decision.exists_of_map_eq_ok granted
    obtain ⟨_, -, released⟩ := exists_of_bind_eq_ok released
    obtain ⟨revised, revision, released⟩ := exists_of_bind_eq_ok released
    obtain ⟨held, released⟩ := of_guard_eq_ok released
    cases released
    obtain ⟨before, -, ⟨nothing, rfl⟩ | ⟨after, -, rfl⟩⟩ := Decision.of_revise_eq_ok revision
    · exact absurd (Store.holders_eq_zero nothing) held
    · exact logged_eq_none_iff_of_some rfl fun _ idle => by cases idle

/-- An operation that is granted logs nothing exactly if it is idle. -/
theorem logged_eq_none_iff_idle {op : Operation} {request : ChangeRequest}
    (h : op.request? = some request) {now : Millis} {number : UInt64} {image : Option Session}
    {decision : Decision Outcome} (granted : request.verdict now number image = .ok decision) :
    decision.logged = none ↔ ∃ session, image = some session ∧ op.Idle session := by
  cases op with
  | put session =>
    cases h
    obtain ⟨-, rfl⟩ := Decision.of_write_eq_ok granted
    exact logged_eq_none_iff_of_some rfl fun _ idle => by cases idle
  | delete xid =>
    cases h
    obtain ⟨_, removed, rfl⟩ := Decision.exists_of_map_eq_ok granted
    exact logged_eq_none_iff_of_some (Decision.of_remove_eq_ok removed) fun _ idle => by cases idle
  | deleteBranch xid id =>
    cases h
    obtain ⟨_, removed, rfl⟩ := Decision.exists_of_map_eq_ok granted
    obtain ⟨session, -, removed⟩ := exists_of_bind_eq_ok removed
    split at removed
    · cases removed
    · obtain ⟨-, rfl⟩ := Decision.of_write_eq_ok removed
      exact logged_eq_none_iff_of_some rfl fun _ idle => by cases idle
  | register xid registration =>
    cases h
    obtain ⟨_, registered, rfl⟩ := Decision.exists_of_map_eq_ok granted
    obtain ⟨session, -, registered⟩ := exists_of_bind_eq_ok registered
    obtain ⟨-, registered⟩ := of_guard_eq_ok registered
    obtain ⟨-, rfl⟩ := Decision.of_write_eq_ok registered
    exact logged_eq_none_iff_of_some rfl fun _ idle => by cases idle
  | reportBranch xid id status =>
    cases h
    exact (Revises.reportBranch xid id status).logged_eq_none_iff (by simp) granted
  | reportSession xid status =>
    cases h
    exact (Revises.reportSession xid status).logged_eq_none_iff (by simp) granted
  | command c => exact logged_eq_none_iff_idle_of_command h granted
  | _ => cases h

end Operation

/-! ## What an ending leaves -/

/-- The change to a new image of a session, or its removal where there is no new image. -/
def LogOperation.replacing (xid : Xid) : Option Session → LogOperation
  | some image => .upsert image
  | none => .remove xid

/-- Different images are logged as different changes. -/
theorem LogOperation.eq_of_replacing_eq {xid : Xid} {image image' : Option Session}
    (h : replacing xid image = replacing xid image') : image = image' := by
  cases image with
  | none =>
    cases image' with
    | none => rfl
    | some session => cases h
  | some session =>
    cases image' with
    | none => cases h
    | some session' => exact congrArg some (LogOperation.upsert.inj h)

namespace Store

variable {α : Type} {xid other : Xid} {s s' next next' : Store} {op : LogOperation}
  {v : Except Error (Decision α)} {answer answer' : Except Error α}

/-- After a change of one session, its image is what the change says. -/
theorem get?_publish_own (table : SessionTable) (own : op.xid? = some xid) :
    op = .replacing xid ((publish table op).get? xid) := by
  cases op with
  | upsert image =>
    obtain rfl := Option.some.inj own
    rw [publish, SessionTable.get?_insert_self]
    rfl
  | remove removed =>
    obtain rfl := Option.some.inj own
    rw [publish, SessionTable.get?_erase_self]
    rfl
  | checkpoint lsn => cases own

/-- A change of one session leaves the others as they are. -/
theorem get?_publish_of_ne (table : SessionTable) (own : op.xid? = some xid) (ne : other ≠ xid) :
    (publish table op).get? other = table.get? other := by
  cases op with
  | upsert image =>
    obtain rfl := Option.some.inj own
    exact SessionTable.get?_insert_of_ne _ _ ne.symm
  | remove removed =>
    obtain rfl := Option.some.inj own
    exact SessionTable.get?_erase_of_ne _ ne.symm
  | checkpoint lsn => cases own

/-- Whatever the verdict, the other sessions stay as they are. -/
theorem Ends.get?_of_ne (h : Ends xid s v answer next) (written : Plain answer) (ne : other ≠ xid) :
    next.sessions.get? other = s.sessions.get? other := by
  cases h with
  | refused same => rw [same.sessions]
  | kept same => rw [same.sessions]
  | logged own once => rw [once.sessions, get?_publish_of_ne _ own ne]
  | failed failure => cases failure.symm.trans (written _ rfl)

/-- One verdict on one image leads to one answer and one new image. -/
theorem Ends.agree (h : Ends xid s v answer next) (h' : Ends xid s' v answer' next')
    (written : Plain answer) (written' : Plain answer')
    (same : s'.sessions.get? xid = s.sessions.get? xid) :
    answer' = answer ∧ next'.sessions.get? xid = next.sessions.get? xid := by
  cases h with
  | refused still =>
    cases h' with
    | refused still' => exact ⟨rfl, by rw [still.sessions, still'.sessions, same]⟩
    | failed failure => cases failure.symm.trans (written' _ rfl)
  | kept still =>
    cases h' with
    | kept still' => exact ⟨rfl, by rw [still.sessions, still'.sessions, same]⟩
    | failed failure => cases failure.symm.trans (written' _ rfl)
  | logged own once =>
    cases h' with
    | logged _ once' =>
      -- The change itself tells what is stored afterwards.
      have replaced := get?_publish_own s.sessions own
      have replaced' := get?_publish_own s'.sessions own
      rw [← once.sessions] at replaced
      rw [← once'.sessions] at replaced'
      exact ⟨rfl, LogOperation.eq_of_replacing_eq (replaced'.symm.trans replaced)⟩
    | failed failure => cases failure.symm.trans (written' _ rfl)
  | failed failure => cases failure.symm.trans (written _ rfl)

/-- Without a failure of the log nothing is touched, by an error or because there is nothing to log,
or the change is made that the verdict names. -/
theorem Ends.cases_of_plain (h : Ends xid s v answer next) (written : Plain answer) :
    s.Untouched next
        ∧ ((∃ e, answer = .error e) ∨ ∃ decision, v = .ok decision ∧ decision.logged = none)
      ∨ ∃ decision op, v = .ok decision ∧ decision.logged = some op
        ∧ answer = .ok decision.answer ∧ op.xid? = some xid ∧ s.LogsOnce op next := by
  cases h with
  | refused same => exact .inl ⟨same, .inl ⟨_, rfl⟩⟩
  | kept same => exact .inl ⟨same, .inr ⟨_, rfl, rfl⟩⟩
  | logged own once => exact .inr ⟨_, _, rfl, rfl, rfl, own, once⟩
  | failed failure => cases failure.symm.trans (written _ rfl)

end Store

namespace Operation

open Store

/-- An operation that is addressed to one session is performed, and nothing stands in its way: the
store is open, nobody holds the lock of the session, and no write fails. -/
structure Performed (op : Operation) (xid : Xid) (s : Store) (answer : Except Error Outcome)
    (next : Store) : Prop where
  addressed : op.addressee? = some xid
  isOpen : s.closed = false
  free : xid ∉ s.locks.held
  run : op.runOn s = (answer, next)
  written : Plain answer

variable {op : Operation} {xid : Xid} {s next : Store} {answer : Except Error Outcome}

/-- What is performed ends as the verdict on the request says. -/
theorem Performed.exists_ends (h : op.Performed xid s answer next) :
    ∃ request, op.request? = some request ∧
      Ends xid s ((request.verdict s.clock s.nextId (s.sessions.get? xid)).map
        (Decision.map Outcome.blind)) (answer.map Outcome.blind) next := by
  obtain ⟨request, requested, rfl⟩ := exists_request h.addressed
  have ended := ends_of_request requested h.isOpen h.free
  rw [h.run] at ended
  exact ⟨request, requested, ended⟩

end Operation

namespace Store

open Operation (Outcome)

/-- An operation that is addressed to one session is isolated from the others. It leaves them as
they are. Its answer, but for the position and the time that a put tells, and the new image of its
session are the same in every store that has the same image of it, the same time and, for a
registration, the same next number. If it is refused or idle, then the sessions, the latest change
and the files are what they were. Otherwise it has taken one position and logged one record, which
holds the new image or the removal. -/
theorem isolated {op : Operation} {xid : Xid} {s next : Store} {answer : Except Error Outcome}
    (performed : op.Performed xid s answer next) (room : s.lsn.toNat < UInt64.size - 1) :
    (∀ other, other ≠ xid → next.sessions.get? other = s.sessions.get? other)
      ∧ (∀ s' next' answer', op.Performed xid s' answer' next' →
        s'.sessions.get? xid = s.sessions.get? xid → s'.clock = s.clock →
        ((∃ xid registration, op = .register xid registration) → s'.nextId = s.nextId) →
          answer'.map Outcome.blind = answer.map Outcome.blind
            ∧ next'.sessions.get? xid = next.sessions.get? xid)
      ∧ (((∃ e, answer = .error e) ∨ ∃ image, s.sessions.get? xid = some image ∧ op.Idle image) →
        next.sessions = s.sessions ∧ next.modification = s.modification ∧ next.files = s.files)
      ∧ ((∃ outcome, answer = .ok outcome) →
        (¬ ∃ image, s.sessions.get? xid = some image ∧ op.Idle image) →
          next.lsn.toNat = s.lsn.toNat + 1
            ∧ s.LogsOnce (.replacing xid (next.sessions.get? xid)) next) := by
  obtain ⟨request, requested, ended⟩ := performed.exists_ends
  have written := performed.written.map Outcome.blind
  refine ⟨fun other ne => ended.get?_of_ne written ne, ?agree, ?still, ?once⟩
  case agree =>
    intro s' next' answer' performed' image clock number
    obtain ⟨request', requested', ended'⟩ := performed'.exists_ends
    obtain rfl := Option.some.inj (requested.symm.trans requested')
    rw [image, clock, Operation.verdict_eq_of_number requested number] at ended'
    exact ended.agree ended' written (performed'.written.map _) image
  case still =>
    intro unchanged
    suffices untouched : s.Untouched next by
      obtain ⟨_, _, _, rfl⟩ := untouched
      exact ⟨rfl, rfl, rfl⟩
    rcases ended.cases_of_plain written with ⟨untouched, -⟩ | ⟨_, op', granted, logged, ok, -⟩
    · exact untouched
    · -- What logs something has succeeded and is not idle.
      rcases unchanged with ⟨e, rfl⟩ | idle
      · cases ok
      · obtain ⟨decision, decided, rfl⟩ := Decision.exists_of_map_eq_ok granted
        have nothing := (Operation.logged_eq_none_iff_idle requested decided).2 idle
        cases logged.symm.trans nothing
  case once =>
    rintro ⟨outcome, rfl⟩ busy
    rcases ended.cases_of_plain written with
      ⟨-, ⟨e, failed⟩ | ⟨_, granted, nothing⟩⟩ | ⟨_, logged, -, -, -, own, once⟩
    · cases failed
    · obtain ⟨decision, decided, rfl⟩ := Decision.exists_of_map_eq_ok granted
      exact absurd ((Operation.logged_eq_none_iff_idle requested decided).1 nothing) busy
    · have replaced := get?_publish_own s.sessions own
      rw [← once.sessions] at replaced
      refine ⟨?_, replaced ▸ once⟩
      rw [once.lsn, UInt64.toNat_add, UInt64.toNat_one]
      have : UInt64.size = 2 ^ 64 := rfl
      omega

/-- A session is stopped twice: the first stop takes one position, and the second one leaves the
files as they are. -/
theorem isolated_of_stop_twice :
    ∃ (begun stopped again : Store) (first second : Except Error Outcome),
      (Operation.command (.stopSession "h:1")).Performed "h:1" begun first stopped
        ∧ begun.lsn.toNat < UInt64.size - 1
        ∧ (Operation.command (.stopSession "h:1")).Performed "h:1" stopped second again
        ∧ stopped.lsn.toNat < UInt64.size - 1
        ∧ stopped.lsn.toNat = begun.lsn.toNat + 1
        ∧ (∃ image, stopped.sessions.get? "h:1" = some image ∧ image.status = .suspended
          ∧ begun.LogsOnce (.upsert image) stopped)
        ∧ again.files = stopped.files := by
  let start := resume {} 0 { snapshot := none, log := [] } (Recovered.ofSnapshot Snapshot.empty)
  let stop := Operation.command (.stopSession "h:1")
  let begun := ((Operation.begin "h" "app" "" "tx" 1).runOn start).2
  let stopped := (stop.runOn begun).2
  have first : stop.runOn begun = (.ok (.reply .done), stopped) :=
    runOn_of_toOption (by decide +kernel)
  have second : stop.runOn stopped = (.ok (.reply .done), (stop.runOn stopped).2) :=
    runOn_of_toOption (by decide +kernel)
  have performed : stop.Performed "h:1" begun (.ok (.reply .done)) stopped :=
    ⟨rfl, by decide +kernel, by decide +kernel, first, plain_ok _⟩
  have performed' : stop.Performed "h:1" stopped (.ok (.reply .done)) (stop.runOn stopped).2 :=
    ⟨rfl, by decide +kernel, by decide +kernel, second, plain_ok _⟩
  have room : begun.lsn.toNat < UInt64.size - 1 := by decide +kernel
  have room' : stopped.lsn.toNat < UInt64.size - 1 := by decide +kernel
  have before : (begun.sessions.get? "h:1").map Session.status = some .begin := by decide +kernel
  have after : (stopped.sessions.get? "h:1").map Session.status = some .suspended := by
    decide +kernel
  obtain ⟨image, found, status⟩ := Option.map_eq_some_iff.1 after
  have busy : ¬ ∃ image, begun.sessions.get? "h:1" = some image
      ∧ Operation.Idle image (.command (.stopSession "h:1")) := by
    rintro ⟨image, found, idle⟩
    rw [found] at before
    cases idle with
    | stopSession _ status => cases status.symm.trans (Option.some.inj before)
  obtain ⟨-, -, -, changed⟩ := isolated performed room
  obtain ⟨lsn, once⟩ := changed ⟨_, rfl⟩ busy
  rw [found] at once
  obtain ⟨-, -, still, -⟩ := isolated performed' room'
  obtain ⟨-, -, files⟩ := still (.inr ⟨image, found, .stopSession "h:1" status⟩)
  exact ⟨begun, stopped, _, _, _, performed, room, performed', room', lsn,
    ⟨image, found, status, once⟩, files⟩

end Store

end SessionRegistry
