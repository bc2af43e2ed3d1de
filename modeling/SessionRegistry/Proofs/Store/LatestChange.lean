import SessionRegistry.Proofs.Store.Replay
import SessionRegistry.Proofs.Store.Run

/-!
# The latest change of a session

The sessions of a store are what the changes of its history make up, one after the other, as long as
every change that is attempted is made. So the latest change of a session decides whether the
session is stored and with which image. A new image bears the time of its change.

## Main definitions

* `latestChange`: the latest of the changes of a session.

## Main results

* `Store.History.sessions_eq`: the sessions of a store are what the changes of its history make up.
* `Store.History.latestChange_of_stored`: a stored session is the image of its latest change, and
  bears its time.
-/

namespace SessionRegistry

/-- The latest of the attempted changes of a session. -/
def latestChange (attempts : List Attempt) (xid : Xid) : Option LogRecord :=
  ((attempts.map Attempt.record).filter (·.op.xid? == some xid)).getLast?

/-- A new image bears the time of the change. -/
theorem Operation.MayLog.modifiedTime_eq {s : Store} {op : Operation} {image : Session}
    (h : op.MayLog s (.upsert image)) : image.modifiedTime = s.clock := by
  generalize hlogged : LogOperation.upsert image = logged at h
  cases h <;> cases hlogged <;> rfl

namespace Store

variable {exposed : Prop} {settings : StoreSettings} {now : Millis} {start s next : Store}
  {events : List Event} {event : Event} {attempts new : List Attempt}
  {may : Store → LogOperation → Prop} {xid : Xid} {session : Session}

/-! ## Sessions as the sum of changes -/

/-- Sessions after some changes, one after the other. -/
def publishAll (table : SessionTable) (attempts : List Attempt) : SessionTable :=
  ((attempts.map Attempt.record).map LogRecord.op).foldl publish table

theorem publishAll_append (table : SessionTable) (attempts new : List Attempt) :
    publishAll table (attempts ++ new) = publishAll (publishAll table attempts) new := by
  rw [publishAll, List.map_append, List.map_append, List.foldl_append]
  rfl

/-- Moves whose changes are made leave the sessions that the changes make up. -/
theorem Moves.sessions_eq (moves : Moves may s attempts next) (made : AllMade attempts) :
    next.sessions = publishAll s.sessions attempts := by
  induction moves with
  | refl s => rfl
  | @cons s middle last first more move _ ih =>
    obtain ⟨one, others⟩ := allMade_append.1 made
    rw [publishAll_append, ih others]
    cases move with
    | change allowed logged =>
      obtain ⟨_, _, _, frame, -⟩ := countBytes_frame (s.published _ _) _
      rw [frame]
      rfl
    -- A change that failed was not made.
    | fail allowed logged => cases one _ (List.mem_singleton_self _)
    | _ => rfl

/-- An event leaves the sessions that its changes make up. -/
theorem Durable.sessions_next (h : Durable exposed s) (happens : Next s event new next)
    (made : AllMade new) (dies : ∀ settings now, event = .crash settings now → exposed) :
    next.sessions = publishAll s.sessions new := by
  -- Upkeep and the events outside of the store leave the sessions as they are.
  by_cases quiet : ∀ op, event = .perform op → op.isUpkeep = true
  · rw [h.sessions_eq happens dies quiet]
    cases happens with
    | @perform op attempts attempted =>
      cases attempted with
      | upkeep _ => rfl
      | moves mutation _ _ _ => cases mutation.symm.trans (quiet op rfl)
    | _ => rfl
  · obtain ⟨op, rfl, mutation⟩ : ∃ op, event = .perform op ∧ ¬ op.isUpkeep = true := by
      simpa using quiet
    cases happens with
    | perform attempted =>
      exact (attempted.of_mutation (by simpa using mutation)).2.1.sessions_eq made

/-- The sessions of a store that was opened in an empty directory are what its changes make up, as
long as all of them are made. If the process may have died, their records have to be readable, and
there has to be a position for each. -/
theorem History.sessions_eq
    (opened : openFiles settings now { snapshot := none, log := [] } = .ok start)
    (history : History start events attempts s) (made : AllMade attempts)
    (dies : ∀ settings now, Event.crash settings now ∈ events → exposed)
    (good : exposed → Recoverable 0 attempts) :
    s.sessions = publishAll .empty attempts ∧ Durable exposed s := by
  induction history with
  | start =>
    cases (openFiles_nothing settings now).symm.trans opened
    exact ⟨rfl, .of_nothing opened⟩
  | @step events event attempts new s next before happens ih =>
    obtain ⟨earlier, latest⟩ := allMade_append.1 made
    obtain ⟨sessions, durable⟩ := ih earlier
      (fun settings now member => dies settings now (List.mem_append_left _ member))
      fun mayDie => (good mayDie).left
    have dies' : ∀ settings now, event = .crash settings now → exposed := by
      rintro settings now rfl
      exact dies settings now (List.mem_append_right _ (List.mem_singleton_self _))
    refine ⟨?_, durable.event happens dies' latest fun mayDie => ?_⟩
    · rw [durable.sessions_next happens latest dies', sessions, publishAll_append]
    · -- The records of this event follow those of the events before it.
      obtain ⟨intact, lsn⟩ := intact_of_nothing opened
      have position := (intact.history before (lsn ▸ (good mayDie).left)).2
      rw [position, lsn]
      exact (good mayDie).right

/-! ## The time of a change -/

/-- Every new image that a history logs bears the time of its record. -/
theorem History.modifiedTime_eq (history : History start events attempts s) :
    ∀ attempt ∈ attempts, ∀ image, attempt.record.op = .upsert image →
      image.modifiedTime = attempt.record.timestamp := by
  induction history with
  | start => simp
  | @step events event attempts new s next _ happens ih =>
    intro attempt member image hop
    rcases List.mem_append.1 member with member | member
    · exact ih attempt member image hop
    cases happens with
    | perform attempted =>
      cases attempted with
      | upkeep _ => cases member
      | moves _ _ moves _ =>
        obtain ⟨m, logged, allowed, same⟩ := moves.exists_of_mem attempt member
        rw [same] at hop ⊢
        obtain rfl : logged = .upsert image := hop
        exact allowed.modifiedTime_eq
    | _ => cases member

/-- A stored session is the image of its latest change, and bears the time of that change. -/
theorem History.latestChange_of_stored
    (opened : openFiles settings now { snapshot := none, log := [] } = .ok start)
    (history : History start events attempts s) (made : AllMade attempts)
    (dies : ∀ settings now, Event.crash settings now ∈ events → exposed)
    (good : exposed → Recoverable 0 attempts) (stored : s.sessions.get? xid = some session) :
    ∃ record, latestChange attempts xid = some record ∧ record.op = .upsert session
      ∧ record.timestamp = session.modifiedTime := by
  have latest : (((attempts.map Attempt.record).map LogRecord.op).filter
      (·.xid? == some xid)).getLast? = (latestChange attempts xid).map LogRecord.op := by
    rw [latestChange, ← List.getLast?_map, List.filter_map]
    rfl
  -- What is stored under an xid is the image that the last of its changes has left.
  rw [(history.sessions_eq opened made dies good).1, publishAll, SessionTable.get?_foldl_publish,
    latest] at stored
  cases found : latestChange attempts xid with
  | none =>
    rw [found] at stored
    cases stored
  | some record =>
    rw [found] at stored
    have hop := LogOperation.image?_eq_some_iff.1 stored
    have member : record ∈ attempts.map Attempt.record :=
      (List.mem_filter.1 (List.mem_of_getLast? found)).1
    obtain ⟨attempt, attempted, rfl⟩ := List.mem_map.1 member
    exact ⟨_, rfl, hop, (history.modifiedTime_eq attempt attempted session hop).symm⟩

end Store

end SessionRegistry
