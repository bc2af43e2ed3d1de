import SessionRegistry.Proofs.RowLock.Rewriting
import SessionRegistry.Proofs.Store.Verdict

/-!
# Requests for a change of one session

Most operations are addressed to one session: its image decides on them, together with their
arguments, the time and, for a registration, the next number. What such an operation does to a store
is its verdict, carried out.

## Main definitions

* `ChangeRequest`: the session that an operation is addressed to, and the verdict on it.
* `Operation.request?`: the request that an operation makes, if it is addressed to one session.

## Main results

* `Operation.ends_of_request`: an operation ends as the verdict on its request says.
-/

namespace SessionRegistry

open Operation (Outcome)

namespace Decision

/-- The verdict on the removal of a branch. The answer is the branch. -/
def removeBranch (now : Millis) (xid : Xid) (id : BranchId) (image : Option Session) :
    Except Error (Decision Branch) := do
  let session ← require xid image
  match session.branch? id with
  | none => throw (.notFound (.branch xid id))
  | some branch => write now xid (session.removeBranch id) branch

/-- The verdict on the registration of a branch under the next number. The answer is the number. -/
def register (now : Millis) (number : UInt64) (xid : Xid) (registration : Registration)
    (image : Option Session) : Except Error (Decision BranchId) := do
  let session ← require xid image
  if session.status ≠ .begin then
    throw (.invalidState (.registrationClosed xid session.status))
  write now xid (session.addBranch (session.registeredBranch registration number now)) number

/-- The verdict on the release of a row in one session. The answer is the number of branches that
held the row, and there must be one. -/
def releaseRow (now : Millis) (xid : Xid) (target : LockTarget) (image : Option Session) :
    Except Error (Decision Nat) := do
  target.validate
  let decision ← revise now xid (Session.releaseRow target) image
  let count := target.holders decision.answer.1
  if count = 0 then
    throw (.notFound (.rowLock target.resourceId target.row.table target.row.key))
  return decision.map fun _ => count

end Decision

/-- A request for a change of one session. -/
structure ChangeRequest where
  /-- The session that it is addressed to. -/
  xid : Xid
  /-- The verdict on it, given the time, the next number and the image of the session. -/
  verdict (now : Millis) (number : UInt64) (image : Option Session) :
    Except Error (Decision Outcome)

namespace ChangeRequest

/-- The request for the revision of a session. Its answer tells of the images before and after. -/
def ofRevision (xid : Xid) (revision : Millis → Session → Revision)
    (answer : Session × Session → Outcome) : ChangeRequest where
  xid
  verdict now _ image :=
    (Decision.revise now xid (revision now) image).map (Decision.map answer)

/-- The request for the removal of a session, if it may be removed. -/
def ofRemoval (xid : Xid) (check : Session → Except Error Unit) (answer : Session → Outcome) :
    ChangeRequest where
  xid
  verdict _ _ image := (Decision.remove xid check image).map (Decision.map answer)

end ChangeRequest

/-- The request that a command makes, if it is addressed to one session. -/
def Command.request? : Command → Option ChangeRequest
  | deleteSession xid => some <| .ofRemoval xid
      (fun session => if session.status.isTerminal then .ok ()
        else .error (.stillActive (.session xid session.status)))
      fun _ => .reply .done
  | forceDeleteSession xid => some <| .ofRemoval xid (fun _ => .ok ()) fun _ => .reply .done
  | stopSession xid => some <| .ofRevision xid (fun _ => Session.stop) fun _ => .reply .done
  | startSession xid => some <| .ofRevision xid (fun _ => Session.restart) fun _ => .reply .done
  | sendOutcome xid direction => some <|
    .ofRevision xid (fun _ => Session.sendOutcome direction) fun images =>
      .reply (.status images.2.status)
  | changeStatus xid status => some <|
    let request := ChangeRequest.ofRevision xid (fun _ => Session.changeStatus status) fun images =>
      .reply (.status images.2.status)
    { request with
      verdict := fun now number image =>
        if status = some .suspended then .error (.invalidArgument .suspensionRequested)
        else request.verdict now number image }
  | deleteBranch xid id => some <|
    .ofRevision xid (fun _ => Session.dropBranch id) fun _ => .reply .done
  | forceDeleteBranch xid id => some <|
    .ofRevision xid (fun _ => Session.forceDropBranch id) fun _ => .reply .done
  | stopBranch xid id => some <|
    .ofRevision xid (fun _ => Session.stopBranch id) fun _ => .reply .done
  | startBranch xid id => some <|
    .ofRevision xid (fun _ => Session.restartBranch id) fun _ => .reply .done
  | deleteLock target => target.xid.map fun xid =>
    { xid
      verdict := fun now _ image =>
        (Decision.releaseRow now xid target image).map (Decision.map fun count =>
          .reply (.released count)) }

namespace Operation

/-- The request that an operation makes, if it is addressed to one session. The answer to a put
leaves out the position and the time of the change. -/
def request? : Operation → Option ChangeRequest
  | put session => some
      { xid := session.xid
        verdict := fun now _ _ => Decision.write now session.xid session .done }
  | delete xid => some <| .ofRemoval xid (fun _ => .ok ()) .session
  | deleteBranch xid id => some
      { xid
        verdict := fun now _ image =>
          (Decision.removeBranch now xid id image).map (Decision.map .branch) }
  | register xid registration => some
      { xid
        verdict := fun now number image =>
          (Decision.register now number xid registration image).map (Decision.map .id) }
  | reportBranch xid id status => some <|
    .ofRevision xid (fun now => Session.reportBranch id status now) fun _ => .done
  | reportSession xid status => some <|
    .ofRevision xid (fun _ => Session.report status) fun _ => .done
  | command c => c.request?
  | begin .. | sweep .. | takeId | checkpoint | shutdown => none

/-- The answer without the position and the time of a change. -/
def Outcome.blind : Outcome → Outcome
  | changed _ => done
  | outcome => outcome

end Operation

namespace Store

variable {s : Store} {xid : Xid}

/-! ## Verdicts on operations -/

/-- A command that announces itself and revises a session. -/
theorem meets_announced (c : Command) (revision : Session → Revision) (isOpen : s.closed = false)
    (free : xid ∉ s.locks.held) :
    Meets xid s (do announce c; discard <| revise xid revision)
      ((Decision.revise s.clock xid revision (s.sessions.get? xid)).map
        (Decision.map fun _ => ())) := by
  exact .tell_bind (.discard (.revise revision isOpen free))

theorem meets_deleteSession (isOpen : s.closed = false) (free : xid ∉ s.locks.held) :
    Meets xid s (deleteSession xid)
      ((Decision.remove xid
        (fun session => if session.status.isTerminal then .ok ()
          else .error (.stillActive (.session xid session.status)))
        (s.sessions.get? xid)).map (Decision.map fun _ => ())) := by
  rw [Decision.map_remove]
  refine .tell_bind (.withLock isOpen free fun locks => .load_bind fun session stored => ?_)
  dsimp only
  split
  · -- The session is read once more before it is removed.
    refine .congr (.discard .removeLocked) ?_
    rw [stored]
    rfl
  · exact .throw_bind _

theorem meets_forceDeleteSession (isOpen : s.closed = false) (free : xid ∉ s.locks.held) :
    Meets xid s (forceDeleteSession xid)
      ((Decision.remove xid (fun _ => .ok ()) (s.sessions.get? xid)).map
        (Decision.map fun _ => ())) :=
  .tell_bind (.map_of_run (.withLock isOpen free fun _ => .removeLocked) fun _ _ =>
    ⟨_, rfl, _, _, rfl⟩)

theorem meets_removeBranchLocked (id : BranchId) :
    Meets xid s (removeBranchLocked xid id)
      (Decision.removeBranch s.clock xid id (s.sessions.get? xid)) := by
  refine .load_bind fun session _ => ?_
  cases session.branch? id with
  | none => exact .throw _
  | some branch => exact .putLocked_bind _ fun next => ⟨next, rfl, .refl next⟩

/-- A put ends as it should, whatever position and time it answers. -/
theorem ends_put (session : Session) (isOpen : s.closed = false)
    (free : session.xid ∉ s.locks.held) :
    Ends session.xid s (Decision.write s.clock session.xid session ())
      (((put session).run.run s).1.map fun _ => ()) ((put session).run.run s).2 := by
  obtain ⟨locks, under⟩ := s.run_withLock_of_free (putLocked session.xid session) isOpen free
  have written : Meets session.xid { s with locks } (discard (putLocked session.xid session)) _ :=
    .putLocked session
  unfold Meets at written
  rw [run_discard] at written
  rw [put, under rfl]
  exact Ends.lift ⟨_, _, _, rfl⟩ written ⟨_, _, rfl⟩

theorem meets_register (registration : Registration) (isOpen : s.closed = false)
    (free : xid ∉ s.locks.held) :
    Meets xid s (register xid registration)
      (Decision.register s.clock s.nextId xid registration (s.sessions.get? xid)) := by
  refine .withLock isOpen free fun locks => .load_bind fun session _ => ?_
  dsimp only
  split
  · exact .throw_bind _
  · exact .takeId_bind (.get_bind (.putLocked_bind _ fun next => ⟨next, rfl, .refl next⟩))

theorem meets_sendOutcome (direction : Option Direction) (isOpen : s.closed = false)
    (free : xid ∉ s.locks.held) :
    Meets xid s (sendOutcome xid direction)
      ((Decision.revise s.clock xid (Session.sendOutcome direction) (s.sessions.get? xid)).map
        (Decision.map fun images => images.2.status)) :=
  .tell_bind (.map_of_run (.revise _ isOpen free) fun _ next => ⟨next, rfl, .refl next⟩)

theorem meets_changeStatus (status : Option GlobalStatus) (isOpen : s.closed = false)
    (free : xid ∉ s.locks.held) :
    Meets xid s (changeStatus xid status)
      (if status = some .suspended then .error (.invalidArgument .suspensionRequested)
      else (Decision.revise s.clock xid (Session.changeStatus status) (s.sessions.get? xid)).map
        (Decision.map fun images => images.2.status)) := by
  refine .tell_bind ?_
  dsimp only
  split
  · exact .throw_bind _
  · refine .map_of_run (.revise _ isOpen free) fun images next => ?_
    obtain ⟨before, after⟩ := images
    dsimp only
    split
    · exact ⟨next, rfl, .refl next⟩
    · exact ⟨_, rfl, _, _, rfl⟩

theorem meets_forceDeleteBranch (id : BranchId) (isOpen : s.closed = false)
    (free : xid ∉ s.locks.held) :
    Meets xid s (forceDeleteBranch xid id)
      ((Decision.revise s.clock xid (Session.forceDropBranch id) (s.sessions.get? xid)).map
        (Decision.map fun _ => ())) := by
  refine .tell_bind (.map_of_run (.revise _ isOpen free) fun images next => ?_)
  obtain ⟨before, after⟩ := images
  dsimp only
  cases before.branch? id with
  | none => exact ⟨next, rfl, .refl next⟩
  | some branch => exact ⟨_, rfl, _, _, rfl⟩

theorem meets_releaseIn (target : LockTarget) (isOpen : s.closed = false)
    (free : xid ∉ s.locks.held) :
    Meets xid s (releaseIn target xid)
      ((Decision.revise s.clock xid (Session.releaseRow target) (s.sessions.get? xid)).map
        (Decision.map fun images => target.holders images.1)) := by
  refine (Meets.revise _ isOpen free).map_of_run fun images next => ?_
  obtain ⟨before, after⟩ := images
  dsimp only
  rw [target.release_eq]
  dsimp only
  split
  · exact ⟨_, rfl, _, _, rfl⟩
  · exact ⟨next, rfl, .refl next⟩

/-- A row is released in the session that the target names, and in no other one. -/
theorem run_releaseInAll_of_named {target : LockTarget} (named : target.xid = some xid) :
    (releaseInAll target [xid]).run.run s = (releaseIn target xid).run.run s := by
  rw [releaseInAll, run_bind_of_ok s _ (run_attempt s _), named]
  rcases (releaseIn target xid).run.run s with ⟨e | count, next⟩
  · -- No failure is passed over, not even that of a session that is gone.
    cases e <;> rfl
  · rfl

/-- A row is only taken out of a session in which a branch holds it. -/
theorem holders_ne_zero {target : LockTarget} {before after : Session}
    (h : before.releaseRow target = .ok (some after)) : target.holders before ≠ 0 := by
  rw [Session.releaseRow_eq] at h
  split at h
  · next held => exact Nat.ne_of_gt ((target.heldBy_iff_holders_pos before).1 held)
  · cases h

/-- Nothing is taken out of a session in which no branch holds the row. -/
theorem holders_eq_zero {target : LockTarget} {session : Session}
    (h : session.releaseRow target = .ok none) : target.holders session = 0 := by
  rw [Session.releaseRow_eq] at h
  split at h
  · cases h
  · next free =>
    apply Nat.eq_zero_of_not_pos
    rwa [← target.heldBy_iff_holders_pos]

theorem meets_deleteLock {target : LockTarget} (named : target.xid = some xid)
    (isOpen : s.closed = false) (free : xid ∉ s.locks.held) :
    Meets xid s (deleteLock target)
      (Decision.releaseRow s.clock xid target (s.sessions.get? xid)) := by
  have released (locked : Store) (h : locked.closed = false) (free : xid ∉ locked.locks.held) :
      Meets xid locked (releaseInAll target [xid]) ((Decision.revise locked.clock xid
        (Session.releaseRow target) (locked.sessions.get? xid)).map
          (Decision.map fun images => target.holders images.1)) := by
    unfold Meets
    rw [run_releaseInAll_of_named named]
    exact meets_releaseIn target h free
  refine .tell_bind (.answer_bind fun _ _ => .get_bind ?_)
  rw [targets, named]
  refine .congr (.bind (w := fun decision => if decision.answer = 0 then
    throw (.notFound (.rowLock target.resourceId target.row.table target.row.key))
      else .ok decision) (released _ isOpen free) ?kept ?logged) ?verdict
  case kept =>
    intro count next _ _
    dsimp only
    split
    · exact .throw_bind _
    · exact .pure _
  case logged =>
    intro count op next granted
    have held : count ≠ 0 := by
      obtain ⟨decision, revised, same⟩ := Decision.exists_of_map_eq_ok granted
      obtain ⟨before, -, ⟨-, rfl⟩ | ⟨after, released, rfl⟩⟩ := Decision.of_revise_eq_ok revised
      · cases same
      · cases same
        exact holders_ne_zero released
    dsimp only
    rw [if_neg held, if_neg held]
    exact ⟨count, next, rfl, .refl next, rfl⟩
  case verdict =>
    cases Decision.revise s.clock xid (Session.releaseRow target) (s.sessions.get? xid) with
    | error e => rfl
    | ok decision =>
      dsimp only [Except.map, Decision.map, bind, Except.bind]
      split
      · rfl
      · rfl

end Store

namespace Command

open Store

variable {s : Store} {request : ChangeRequest}

/-- A command that is addressed to one session meets the verdict on its request. -/
theorem meets_of_request {c : Command} (h : c.request? = some request) (isOpen : s.closed = false)
    (free : request.xid ∉ s.locks.held) :
    Meets request.xid s (do return Outcome.reply (← c.execute))
      (request.verdict s.clock s.nextId (s.sessions.get? request.xid)) := by
  have replies {α β : Type} {xid : Xid} {act : StoreM β} {v : Except Error (Decision α)}
      {f : α → β} (reply : β → Reply) (meets : Meets xid s act (v.map (Decision.map f))) :
      Meets xid s (do
          let answer ← (do let b ← act; return reply b)
          return Outcome.reply answer)
        (v.map (Decision.map fun a => Outcome.reply (reply (f a)))) := by
    refine .congr ((meets.map reply).map Outcome.reply) ?_
    rw [Decision.map_map, Decision.map_map]
  cases c with
  | deleteSession xid =>
    cases h
    exact replies (fun _ => .done) (meets_deleteSession isOpen free)
  | forceDeleteSession xid =>
    cases h
    exact replies (fun _ => .done) (meets_forceDeleteSession isOpen free)
  | stopSession xid =>
    cases h
    exact replies (fun _ => .done) (meets_announced _ _ isOpen free)
  | startSession xid =>
    cases h
    exact replies (fun _ => .done) (meets_announced _ _ isOpen free)
  | sendOutcome xid direction =>
    cases h
    exact replies .status (meets_sendOutcome direction isOpen free)
  | changeStatus xid status =>
    cases h
    have changed := (meets_changeStatus status isOpen free).map Reply.status
    refine .congr (changed.map Outcome.reply) ?_
    dsimp only
    split
    · rfl
    · rw [Decision.map_map, Decision.map_map]
      rfl
  | deleteBranch xid id =>
    cases h
    exact replies (fun _ => .done) (meets_announced _ _ isOpen free)
  | forceDeleteBranch xid id =>
    cases h
    exact replies (fun _ => .done) (meets_forceDeleteBranch id isOpen free)
  | stopBranch xid id =>
    cases h
    exact replies (fun _ => .done) (meets_announced _ _ isOpen free)
  | startBranch xid id =>
    cases h
    exact replies (fun _ => .done) (meets_announced _ _ isOpen free)
  | deleteLock target =>
    obtain ⟨xid, named, rfl⟩ := Option.map_eq_some_iff.1 h
    refine .congr (((meets_deleteLock named isOpen free).map Reply.released).map Outcome.reply) ?_
    rw [Decision.map_map]

end Command

namespace Operation

open Store

variable {s : Store} {op : Operation} {request : ChangeRequest}

/-- An operation that is addressed to one session, and puts no image, meets the verdict on its
request. -/
theorem meets_of_request (h : op.request? = some request) (given : ∀ session, op ≠ .put session)
    (isOpen : s.closed = false) (free : request.xid ∉ s.locks.held) :
    Meets request.xid s op.perform
      (request.verdict s.clock s.nextId (s.sessions.get? request.xid)) := by
  cases op with
  | put session => exact absurd rfl (given session)
  | delete xid =>
    cases h
    exact (Meets.withLock isOpen free fun _ => .removeLocked).map Outcome.session
  | deleteBranch xid id =>
    cases h
    exact (Meets.withLock isOpen free fun locks =>
      meets_removeBranchLocked (s := { s with locks }) id).map Outcome.branch
  | register xid registration =>
    cases h
    exact (meets_register registration isOpen free).map Outcome.id
  | reportBranch xid id status =>
    cases h
    refine .congr
      ((Meets.get_bind (Meets.revise _ isOpen free).discard).map fun _ => Outcome.done) ?_
    exact Decision.map_map ..
  | reportSession xid status =>
    cases h
    refine .congr ((Meets.revise _ isOpen free).discard.map fun _ => Outcome.done) ?_
    exact Decision.map_map ..
  | command c => exact c.meets_of_request h isOpen free
  | _ => cases h

/-- An operation that is addressed to one session ends as the verdict on its request says. -/
theorem ends_of_request (h : op.request? = some request) (isOpen : s.closed = false)
    (free : request.xid ∉ s.locks.held) :
    Ends request.xid s
      ((request.verdict s.clock s.nextId (s.sessions.get? request.xid)).map
        (Decision.map Outcome.blind))
      ((op.runOn s).1.map Outcome.blind) (op.runOn s).2 := by
  by_cases given : ∃ session, op = .put session
  · obtain ⟨session, rfl⟩ := given
    cases h
    have ended := (ends_put session isOpen free).map fun _ => Outcome.done
    rw [Decision.map_write] at ended
    show Ends session.xid s ((Decision.write s.clock session.xid session Outcome.done).map
      (Decision.map Outcome.blind)) _ _
    rw [Decision.map_write, runOn, perform, run_bind]
    rcases run : (Store.put session).run.run s with ⟨e | modification, next⟩
    · rw [run] at ended
      exact ended
    · rw [run] at ended
      exact ended
  · have meets := meets_of_request h (fun session same => given ⟨session, same⟩) isOpen free
    exact Ends.map meets Outcome.blind

end Operation

end SessionRegistry
