import SessionRegistry.Proofs.Session.Outcome
import SessionRegistry.Proofs.Store.Numbers

/-!
# What moments do to the sessions

A moment of a regular run leaves the sessions as they are, or stores a session that it begins, or
does what the moves of an operation do. What every change that the operation may log keeps of the
sessions is kept by its moves, and what every moment keeps of a session or of a branch is kept by
the run.

## Main definitions

* `Moment.Shows`: what a moment makes of the sessions.

## Main results

* `Store.Moves.keeps`, `Store.Moves.related`: what moves keep of the sessions.
* `Store.Run.related`, `Store.Run.related_branch`: what a run keeps of a session and of a branch.
* `Moment.Regular.shows`: what a moment of a regular run makes of the sessions.
-/

namespace SessionRegistry

namespace Store

variable {may : Store → LogOperation → Prop} {s next last start : Store} {attempts : List Attempt}
  {xid : Xid} {after : Session} {past : List Moment}

/-- What every allowed change keeps of the sessions is kept by a move. -/
theorem Move.keeps {P : SessionTable → Prop} (move : Move may s attempts last) (h : P s.sessions)
    (step : ∀ op, may s op → P (publish s.sessions op)) : P last.sessions := by
  cases move with
  | @change op bytes log allowed _ =>
    obtain ⟨_, _, _, frame, -⟩ := (s.published op log).countBytes_frame bytes
    rw [frame]
    exact step op allowed
  | _ => exact h

theorem Moves.keeps {P : SessionTable → Prop} (moves : Moves may s attempts last)
    (h : P s.sessions)
    (step : ∀ m op, may m op → P m.sessions → P (publish m.sessions op)) : P last.sessions := by
  induction moves with
  | refl s => exact h
  | cons move _ ih => exact ih (move.keeps h fun op allowed => step _ op allowed h)

/-- A relation that every new image has to the stored one is one between the sessions before and
after any moves. -/
theorem Moves.related {R : Session → Session → Prop} (moves : Moves may s attempts last)
    (refl : ∀ session, R session session)
    (trans : ∀ {first second third}, R first second → R second third → R first third)
    (step : ∀ m image, may m (.upsert image) →
      ∃ before, m.sessions.get? image.xid = some before ∧ R before image)
    (found : last.sessions.get? xid = some after) :
    ∃ before, s.sessions.get? xid = some before ∧ R before after := by
  have kept := moves.keeps (P := fun table => ∀ session, table.get? xid = some session →
    ∃ before, s.sessions.get? xid = some before ∧ R before session)
    (fun session stored => ⟨session, stored, refl session⟩) ?_
  · exact kept after found
  · intro m op allowed earlier session stored
    rcases SessionTable.get?_publish stored with stored | rfl
    · exact earlier session stored
    · obtain ⟨middle, stored', related⟩ := step m session allowed
      rw [SessionTable.xid_of_get? stored] at stored'
      obtain ⟨before, stored'', related'⟩ := earlier middle stored'
      exact ⟨before, stored'', trans related' related⟩

/-- A published image is found under its xid, and everything else as before. -/
theorem get?_publish_upsert (table : SessionTable) (image : Session) (xid : Xid) :
    (publish table (.upsert image)).get? xid
      = if image.xid = xid then some image else table.get? xid := by
  split
  · next same =>
    subst same
    exact SessionTable.get?_insert_self table image
  · next other => exact SessionTable.get?_insert_of_ne table image other

/-! ## Runs -/

variable {moments : List Moment}

/-- A relation that the image of a session has to the one before, at every moment of a run, is one
between the images before and after the run. -/
theorem Run.related {R : Session → Session → Prop} (run : Run s moments last)
    (refl : ∀ session, R session session)
    (trans : ∀ {first second third}, R first second → R second third → R first third)
    (step : ∀ moment ∈ moments, ∀ after, moment.next.sessions.get? xid = some after →
      ∃ before, moment.store.sessions.get? xid = some before ∧ R before after)
    (found : last.sessions.get? xid = some after) :
    ∃ before, s.sessions.get? xid = some before ∧ R before after := by
  induction run generalizing after with
  | start => exact ⟨after, found, refl after⟩
  | @step past moment _ _ ih =>
    have final : moment ∈ past ++ [moment] := List.mem_append_right _ (List.mem_singleton_self _)
    obtain ⟨middle, found, related⟩ := step moment final after found
    obtain ⟨before, stored, related'⟩ :=
      ih (fun moment hmoment => step moment (List.mem_append_left _ hmoment)) found
    exact ⟨before, stored, trans related' related⟩

/-- A relation that a branch has to the one of its number before, at every moment of a run, is one
to the branch before the run, for as long as there is a branch of the number. -/
theorem Run.related_branch {R : Branch → Branch → Prop} {before : Session} {earlier : Branch}
    (run : Run s moments last) (refl : ∀ branch, R branch branch)
    (trans : ∀ {first second third}, R first second → R second third → R first third)
    (step : ∀ moment ∈ moments, ∀ before after, moment.store.sessions.get? xid = some before →
      moment.next.sessions.get? xid = some after → ∀ earlier ∈ before.branches,
      ∀ branch ∈ after.branches, branch.id = earlier.id → R earlier branch)
    (stored : s.sessions.get? xid = some before) (distinct : (before.branches.map Branch.id).Nodup)
    (hearlier : earlier ∈ before.branches)
    (stays : ∀ moment ∈ moments, ∃ session, moment.next.sessions.get? xid = some session
      ∧ session.hasBranch earlier.id = true) :
    ∃ after, last.sessions.get? xid = some after ∧ after.hasBranch earlier.id = true
      ∧ ∀ branch ∈ after.branches, branch.id = earlier.id → R earlier branch := by
  induction run with
  | start =>
    have has : before.hasBranch earlier.id = true :=
      List.any_eq_true.2 ⟨earlier, hearlier, beq_self_eq_true _⟩
    refine ⟨before, stored, has, fun branch hbranch same => ?_⟩
    rw [Session.eq_of_id_eq distinct hbranch hearlier same]
    exact refl earlier
  | @step past moment _ _ ih =>
    have final : moment ∈ past ++ [moment] := List.mem_append_right _ (List.mem_singleton_self _)
    obtain ⟨middle, found, has, related⟩ :=
      ih (fun moment hmoment => step moment (List.mem_append_left _ hmoment))
        (fun moment hmoment => stays moment (List.mem_append_left _ hmoment))
    obtain ⟨after, found', has'⟩ := stays moment final
    refine ⟨after, found', has', fun branch hbranch same => ?_⟩
    -- The branch of this number in the middle passes on what it has to the earlier one.
    obtain ⟨between, hbetween, hid⟩ := List.any_eq_true.1 has
    have id' := beq_iff_eq.1 hid
    exact trans (related between hbetween id')
      (step moment final middle after found found' between hbetween branch hbranch
        (same.trans id'.symm))

/-- Where the process does not die, a regular run may go on with an operation that succeeds and
makes one change. -/
theorem Run.exists_step {next : Store} {op : Operation} {outcome : Operation.Outcome}
    (run : Run start past s) (regular : Regular False past)
    (performed : op.runOn s = (.ok outcome, next)) (mutation : op.isUpkeep = false)
    (once : op.mostChanges s = 1) (given : ∀ session, op ≠ .put session) :
    ∃ attempts, (Moment.mk s (.perform op) attempts next).Happens
      ∧ Run start (past ++ [⟨s, .perform op, attempts, next⟩]) next
      ∧ Regular False (past ++ [⟨s, .perform op, attempts, next⟩]) := by
  obtain ⟨attempts, happens, -, run, regular⟩ := run.exists_performed regular performed mutation
    once given (fun no => no.elim) (fun no => no.elim)
  exact ⟨attempts, happens, run, regular⟩

end Store

namespace Moment

variable {exposed : Prop} {moment : Moment}

/-- An operation that answers has succeeded. -/
theorem exists_runOn_of_answer {op : Operation} (happens : moment.Happens)
    (hop : moment.event = .perform op) (answered : moment.answer.isSome = true) :
    ∃ outcome, op.runOn moment.store = (.ok outcome, moment.next) := by
  obtain ⟨outcome, answered⟩ := Option.isSome_iff_exists.1 answered
  rw [answer, hop] at answered
  have run := Store.runOn_of_toOption answered
  rw [happens.runOn hop] at run
  exact ⟨outcome, run⟩

/-- What a moment of a regular run makes of the sessions: nothing, a session that has just begun, or
what the moves of its operation make of them. -/
inductive Shows (moment : Moment) : Prop where
  | still (same : moment.next.sessions = moment.store.sessions)
  | begins (fresh : Session) (begun : moment.begun = some fresh.xid)
    (status : fresh.status = .begin) (branches : fresh.branches = [])
    (sessions : moment.next.sessions = moment.store.sessions.insert fresh)
  | moves (op : Operation) (hop : moment.event = .perform op) (given : ∀ image, op ≠ .put image)
    (others : ∀ address applicationId serviceGroup name timeout,
      op ≠ .begin address applicationId serviceGroup name timeout)
    (moves : Store.Moves (fun s => op.MayLog s) moment.store moment.attempts moment.next)

theorem Regular.shows (h : moment.Regular exposed) : moment.Shows := by
  by_cases quiet : ∀ op, moment.event = .perform op → op.isUpkeep = true
  · exact .still (h.durable.sessions_eq h.happens.leads h.dies quiet)
  obtain ⟨op, hop, mutation⟩ : ∃ op, moment.event = .perform op ∧ op.isUpkeep = false := by
    simpa using quiet
  have leaves := h.happens.runOn hop
  by_cases begins : ∃ address applicationId serviceGroup name timeout,
      op = .begin address applicationId serviceGroup name timeout
  · obtain ⟨address, applicationId, serviceGroup, name, timeout, rfl⟩ := begins
    rcases run : (Operation.begin address applicationId serviceGroup name timeout).runOn
      moment.store with ⟨e | outcome, next⟩
    · obtain rfl : next = moment.next := by rw [← leaves, run]
      exact .still (Store.sessions_of_begin_eq_error run)
    · obtain rfl : next = moment.next := by rw [← leaves, run]
      obtain ⟨rfl, sessions, -⟩ := Store.sessions_of_begin run
      exact .begins _ (begun_of_ok hop run) rfl rfl sessions
  · obtain ⟨-, moves, -⟩ := (h.happens.effects op hop).attempts.of_mutation mutation
    rw [leaves] at moves
    exact .moves op hop (fun image put => h.given image (put ▸ hop))
      (fun _ _ _ _ _ begin => begins ⟨_, _, _, _, _, begin⟩) moves

end Moment

end SessionRegistry
