import SessionRegistry.Proofs.Session.Sound
import SessionRegistry.Proofs.Store.Every

/-!
# Soundness of all sessions

Every session of a store that began in an empty directory is sound, whatever the coordinator, the
operators and the sweeps have done to it and however often the store has been opened again.

## Main results

* `Operation.MayLog.sound`: every image that an operation logs is sound if the stored ones are.
* `Store.sound_of_history`: every session of a store is sound.
-/

namespace SessionRegistry

/-- A revision of a sound session gives a sound session. -/
theorem Operation.Revises.sound {now : Millis} {op : Operation} {xid : Xid}
    {revision : Session → Revision} {before after : Session} (h : op.Revises now xid revision)
    (sound : before.Sound) (revised : revision before = .ok (some after)) : after.Sound := by
  cases h with
  | reportBranch _ id status => exact sound.reportBranch revised
  | reportSession _ status => exact sound.report revised
  | stop _ => exact sound.stop revised
  | restart _ => exact sound.restart revised
  | sendOutcome _ direction => exact sound.sendOutcome revised
  | changeStatus _ active => exact sound.changeStatus active revised
  | dropBranch _ id => exact sound.dropBranch revised
  | forceDropBranch _ id => exact sound.forceDropBranch revised
  | stopBranch _ id => exact sound.stopBranch revised
  | restartBranch _ id => exact sound.restartBranch revised
  | releaseRow named => exact sound.releaseRow revised

/-- The time of its latest change does not matter to whether a session is sound. -/
theorem Session.Sound.modifiedAt {session : Session} (h : session.Sound) (now : Millis) :
    Sound { session with modifiedTime := now } :=
  ⟨h.consistent, h.suspended, h.earlier, h.branches⟩

/-- Every image that an operation logs is sound if the stored sessions are, unless the operation
puts an image as it is given. -/
theorem Operation.MayLog.sound {s : Store} {op : Operation} {image : Session}
    (h : op.MayLog s (.upsert image)) (given : ∀ session, op ≠ .put session)
    (stored : s.sessions.Every Session.Sound) : image.Sound := by
  generalize hlogged : LogOperation.upsert image = logged at h
  cases h with
  | put valid => exact absurd rfl (given _)
  | @deleteBranch xid id session branch found _ _ =>
    cases hlogged
    exact ((stored xid session found).removeBranch id).modifiedAt s.clock
  | @begin address applicationId serviceGroup name timeout id session _ begun _ =>
    cases hlogged
    have fresh := Session.sound_start s!"{address}:{id}" id applicationId name s.clock
    rw [begun]
    exact ⟨fresh.consistent, fresh.suspended, fresh.earlier, fresh.branches⟩
  | @register xid registration session id found status _ _ =>
    cases hlogged
    exact ((stored xid session found).addRegistered status registration id s.clock).modifiedAt
      s.clock
  | @revise _ xid revision before after revises found revised _ =>
    cases hlogged
    exact (revises.sound (stored xid before found) revised).modifiedAt s.clock
  | delete _ => cases hlogged
  | deleteEnded _ _ => cases hlogged
  | forceDelete _ => cases hlogged
  | sweep _ _ => cases hlogged

namespace Store

/-- Whatever happened to a store that was opened in an empty directory, every session of it is
sound, as long as no image was put as it was given. If the process may have died, the records of
all changes that were attempted have to be readable. -/
theorem sound_of_history {settings : StoreSettings} {now : Millis} {start s : Store}
    {events : List Event} {attempts : List Attempt}
    (opened : openFiles settings now { snapshot := none, log := [] } = .ok start)
    (history : History start events attempts s)
    (given : ∀ session, Event.perform (.put session) ∉ events)
    (fits : (∃ settings now, Event.crash settings now ∈ events) →
      ∀ attempt ∈ attempts, (Codec.record.encode attempt.record).length < UInt32.size) :
    ∀ xid session, s.sessions.get? xid = some session → session.Sound := by
  have first : start.Every Session.Sound (∃ settings now, Event.crash settings now ∈ events) :=
    .of_open .nothing opened
  refine (first.history history ?_ (fun settings now h => ⟨settings, now, h⟩) fits).shown
  intro op hop s image stored logged
  refine logged.sound ?_ stored
  rintro session rfl
  exact given session hop

/-- A session is begun, a branch of it is registered, and an operator stops both: a history without
a given image, after which the session is stored and sound. -/
theorem sound_of_begin_and_stop :
    ∃ (start s : Store) (attempts : List Attempt) (session : Session),
      openFiles {} 0 { snapshot := none, log := [] } = .ok start
        ∧ History start [.perform (.begin "h" "app" "" "tx" 1),
          .perform (.register "h:1" { type := .tcc, resourceId := "db" }),
          .perform (.command (.stopBranch "h:1" 2)), .perform (.command (.stopSession "h:1"))]
          attempts s
        ∧ s.sessions.get? "h:1" = some session ∧ session.status = .suspended
        ∧ session.branchStatuses = [.suspended] ∧ session.Sound := by
  let start := resume {} 0 { snapshot := none, log := [] } (Recovered.ofSnapshot Snapshot.empty)
  have opened : openFiles {} 0 { snapshot := none, log := [] } = .ok start :=
    openFiles_nothing {} 0
  let begun := ((Operation.begin "h" "app" "" "tx" 1).runOn start).2
  let registered :=
    ((Operation.register "h:1" { type := .tcc, resourceId := "db" }).runOn begun).2
  let halted := ((Operation.command (.stopBranch "h:1" 2)).runOn registered).2
  let stopped := ((Operation.command (.stopSession "h:1")).runOn halted).2
  obtain ⟨_, h1⟩ := (Operation.begin "h" "app" "" "tx" 1).exists_attempts start
  obtain ⟨_, h2⟩ :=
    (Operation.register "h:1" { type := .tcc, resourceId := "db" }).exists_attempts begun
  obtain ⟨_, h3⟩ := (Operation.command (.stopBranch "h:1" 2)).exists_attempts registered
  obtain ⟨_, h4⟩ := (Operation.command (.stopSession "h:1")).exists_attempts halted
  have history := (((History.start.step (.perform h1)).step (.perform h2)).step
    (.perform h3)).step (.perform h4)
  have shown : (stopped.sessions.get? "h:1").map
      (fun session => (session.status, session.branchStatuses))
      = some (.suspended, [.suspended]) := by decide +kernel
  obtain ⟨session, found, statuses⟩ := Option.map_eq_some_iff.1 shown
  obtain ⟨status, branches⟩ := Prod.mk.inj statuses
  refine ⟨start, stopped, _, session, opened, history, found, status, branches, ?_⟩
  exact sound_of_history opened history (by simp) (by simp) "h:1" session found

end Store

end SessionRegistry
