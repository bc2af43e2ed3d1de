import SessionRegistry.Proofs.Session.Sound
import SessionRegistry.Proofs.Store.Intact

/-!
# Beginning a session and registering a branch

What the two operations that draw a number do to the sessions of a store. The number is the next one
of the store's counter, and nothing checks that no image with that number has been put: a branch
whose number is taken is not added although its registration succeeds, and a session whose xid is
taken replaces the one that had it.

## Main definitions

* `Registered`, `Begun`: what a registration and a begin are meant to do.

## Main results

* `sessions_of_begin`, `sessions_of_register`: the sessions after a begin and a registration.
* `keeps_data_iff_number_free`: both do what they are meant to do exactly if the number is free.
-/

namespace SessionRegistry

/-! ## Computations that succeed or fail -/

/-- A sequence that succeeds has a first computation that succeeds. -/
theorem exists_of_run_bind_eq_ok {σ α β : Type} {s last : σ} {act : ExceptT Error (StateM σ) α}
    {f : α → ExceptT Error (StateM σ) β} {b : β} (h : (act >>= f).run.run s = (.ok b, last)) :
    ∃ a next, act.run.run s = (.ok a, next) ∧ (f a).run.run next = (.ok b, last) := by
  rcases run : act.run.run s with ⟨result, next⟩
  cases result with
  | error e =>
    rw [run_bind_of_error s f run] at h
    cases h
  | ok a => exact ⟨a, next, rfl, (run_bind_of_ok s f run).symm.trans h⟩

/-- A computation whose answer is dropped succeeds if it succeeds itself. -/
theorem exists_of_run_discard_eq_ok {σ α : Type} {s last : σ} {act : ExceptT Error (StateM σ) α}
    {u : Unit} (h : (discard act).run.run s = (.ok u, last)) :
    ∃ a, act.run.run s = (.ok a, last) := by
  rcases run : act.run.run s with ⟨result, next⟩
  rw [run_discard, run] at h
  cases result with
  | error e => cases h
  | ok a => exact ⟨a, congrArg (Prod.mk _) (Prod.mk.inj h).2⟩

/-- A sequence that fails does so in its first computation or after it. -/
theorem cases_of_run_bind_eq_error {σ α β : Type} {s last : σ} {act : ExceptT Error (StateM σ) α}
    {f : α → ExceptT Error (StateM σ) β} {e : Error} (h : (act >>= f).run.run s = (.error e, last)) :
    act.run.run s = (.error e, last)
      ∨ ∃ a next, act.run.run s = (.ok a, next) ∧ (f a).run.run next = (.error e, last) := by
  rcases run : act.run.run s with ⟨result, next⟩
  cases result with
  | error e' =>
    rw [run_bind_of_error s f run] at h
    cases h
    exact .inl rfl
  | ok a => exact .inr ⟨a, next, rfl, (run_bind_of_ok s f run).symm.trans h⟩

/-- A computation whose answer is dropped fails if it fails itself. -/
theorem run_of_run_discard_eq_error {σ α : Type} {s last : σ} {act : ExceptT Error (StateM σ) α}
    {e : Error} (h : (discard act).run.run s = (.error e, last)) :
    act.run.run s = (.error e, last) := by
  rcases run : act.run.run s with ⟨result, next⟩
  rw [run_discard, run] at h
  cases result with
  | error e' =>
    cases h
    rfl
  | ok a => cases h

namespace Store

variable {α : Type} {s next : Store} {xid : Xid}

/-- Branches that pass the check name their session and have different numbers, none of which
occurred before. -/
theorem of_checkBranches_eq_ok {owner : Xid} {seen : List BranchId} {branches : List Branch}
    (h : checkBranches owner seen branches = .ok ()) :
    (∀ branch ∈ branches, branch.xid = owner ∧ branch.id ∉ seen)
      ∧ (branches.map Branch.id).Nodup := by
  induction branches generalizing seen with
  | nil => simp
  | cons first rest ih =>
    unfold checkBranches at h
    split at h
    · cases h
    · next own =>
      split at h
      · cases h
      · next fresh =>
        obtain ⟨others, distinct⟩ := ih h
        constructor
        · intro branch hbranch
          rcases List.mem_cons.1 hbranch with rfl | hbranch
          · exact ⟨Decidable.not_not.1 own, fresh⟩
          · exact ⟨(others branch hbranch).1, List.not_mem_of_not_mem_cons (others branch hbranch).2⟩
        · -- The number of the first branch counts as seen for the others.
          refine List.nodup_cons.2 ⟨fun same => ?_, distinct⟩
          obtain ⟨branch, hbranch, hid⟩ := List.mem_map.1 same
          exact (others branch hbranch).2 (hid ▸ List.mem_cons_self)

/-- A valid image has the xid under which it is to be stored, and its branches have different
numbers. -/
theorem of_checkImage_eq_ok {session : Session} (h : checkImage xid session = .ok ()) :
    session.xid = xid ∧ (session.branches.map Branch.id).Nodup := by
  obtain ⟨same, h⟩ := of_guard_eq_ok h
  obtain ⟨-, h⟩ := of_guard_eq_ok h
  exact ⟨Decidable.not_not.1 same, (of_checkBranches_eq_ok h).2⟩

/-- What succeeds under a lock succeeds in a store that differs in the locks alone. -/
theorem exists_of_run_withLock_eq_ok {act : StoreM α} {a : α}
    (h : (withLock xid act).run.run s = (.ok a, next)) :
    ∃ (locks locks' : LockTable) (last : Store),
      act.run.run { s with locks } = (.ok a, last) ∧ next = { last with locks := locks' } := by
  rcases s.run_withLock_cases act xid with ⟨-, run⟩ | ⟨-, -, run⟩ | ⟨-, locks, run⟩
  · cases run.symm.trans h
  · cases run.symm.trans h
  · obtain ⟨result, rfl⟩ := Prod.mk.inj (run.symm.trans h)
    exact ⟨locks, _, _, Prod.ext result rfl, rfl⟩

/-- What fails under a lock has changed nothing if it changes nothing without the lock. -/
theorem sessions_of_run_withLock_eq_error {act : StoreM α} {e : Error}
    (h : (withLock xid act).run.run s = (.error e, next))
    (atomic : ∀ (locks : LockTable) (e : Error) (last : Store),
      act.run.run { s with locks } = (.error e, last) → last.sessions = s.sessions) :
    next.sessions = s.sessions := by
  rcases s.run_withLock_cases act xid with ⟨-, run⟩ | ⟨-, -, run⟩ | ⟨-, locks, run⟩
  · rw [← (Prod.mk.inj (run.symm.trans h)).2]
  · rw [← (Prod.mk.inj (run.symm.trans h)).2]
  · obtain ⟨result, rfl⟩ := Prod.mk.inj (run.symm.trans h)
    have same := atomic locks e _ (Prod.ext result rfl)
    exact same

/-- A commit is published unless it cannot be logged, and draws no number. -/
theorem cases_of_run_commit (s : Store) (op : LogOperation) :
    (∃ e log next, s.handOver op = (.error e, log)
          ∧ (commit op).run.run s = (.error e, next) ∧ next.sessions = s.sessions)
      ∨ ∃ modification next, (commit op).run.run s = (.ok modification, next)
        ∧ next.sessions = publish s.sessions op ∧ next.nextId = s.nextId := by
  rcases logged : s.handOver op with ⟨_ | bytes, log⟩
  · exact .inl ⟨_, log, _, rfl, run_commit_of_error logged, rfl⟩
  · obtain ⟨_, _, _, frame, -⟩ := (s.published op log).countBytes_frame bytes
    exact .inr ⟨_, _, run_commit_of_ok logged, by rw [frame]; exact ⟨rfl, rfl⟩⟩

/-- A commit that succeeds publishes its operation and draws no number. -/
theorem of_run_commit_eq_ok {op : LogOperation} {modification : Modification}
    (h : (commit op).run.run s = (.ok modification, next)) :
    next.sessions = publish s.sessions op ∧ next.nextId = s.nextId := by
  rcases cases_of_run_commit s op with ⟨_, _, _, -, run, -⟩ | ⟨_, _, run, published⟩
  · cases run.symm.trans h
  · obtain ⟨-, rfl⟩ := Prod.mk.inj (run.symm.trans h)
    exact published

/-- An image that is written under its lock is stored with the time of the change. -/
theorem of_run_putLocked_eq_ok {session : Session} {modification : Modification}
    (h : (putLocked xid session).run.run s = (.ok modification, next)) :
    session.xid = xid ∧ next.sessions = s.sessions.insert { session with modifiedTime := s.clock }
      ∧ next.nextId = s.nextId := by
  obtain ⟨_, _, checked, h⟩ := exists_of_run_bind_eq_ok h
  rw [run_answer] at checked
  obtain ⟨valid, rfl⟩ := Prod.mk.inj checked
  rw [run_bind_of_ok _ _ (run_get _)] at h
  exact ⟨(of_checkImage_eq_ok valid).1, of_run_commit_eq_ok h⟩

/-- A session that is put is stored under its xid with the time of the change. -/
theorem of_run_put_eq_ok {session : Session} {modification : Modification}
    (h : (put session).run.run s = (.ok modification, next)) :
    next.sessions = s.sessions.insert { session with modifiedTime := s.clock }
      ∧ next.nextId = s.nextId := by
  obtain ⟨locks, locks', last, run, rfl⟩ := exists_of_run_withLock_eq_ok h
  exact (of_run_putLocked_eq_ok run).2

/-- An image that cannot be written under its lock leaves the sessions as they are. -/
theorem sessions_of_run_putLocked_eq_error {session : Session} {e : Error}
    (h : (putLocked xid session).run.run s = (.error e, next)) : next.sessions = s.sessions := by
  rcases cases_of_run_bind_eq_error h with refused | ⟨_, last, checked, h⟩
  · rw [run_answer] at refused
    rw [(Prod.mk.inj refused).2]
  · rw [run_answer] at checked
    obtain ⟨-, rfl⟩ := Prod.mk.inj checked
    rw [run_bind_of_ok s _ (run_get s)] at h
    rcases cases_of_run_commit s (s.upsertOf session) with ⟨_, _, _, -, run, same⟩ | ⟨_, _, run, -⟩
    · rw [← (Prod.mk.inj (run.symm.trans h)).2, same]
    · cases run.symm.trans h

/-- A put that fails leaves the sessions as they are. -/
theorem sessions_of_run_put_eq_error {session : Session} {e : Error}
    (h : (put session).run.run s = (.error e, next)) : next.sessions = s.sessions :=
  sessions_of_run_withLock_eq_error h fun _ _ _ => sessions_of_run_putLocked_eq_error

/-! ## Operations that draw a number -/

/-- The session that a begin stores. It is named and numbered after the number that is drawn. -/
def begunSession (s : Store) (address applicationId serviceGroup name : String)
    (timeout : Millis) : Session :=
  { Session.start s!"{address}:{s.nextId}" s.nextId applicationId name s.clock with
    serviceGroup, timeout }

/-- The image that a registration stores, made from the image before it. -/
def registeredSession (s : Store) (before : Session) (registration : Registration) : Session :=
  { before.addBranch (before.registeredBranch registration s.nextId s.clock) with
    modifiedTime := s.clock }

/-- A begin that succeeds answers with its address and the next number, and stores a fresh session
of that name and number. -/
theorem sessions_of_begin {address applicationId serviceGroup name : String} {timeout : Millis}
    {outcome : Operation.Outcome}
    (h : (Operation.begin address applicationId serviceGroup name timeout).runOn s
      = (.ok outcome, next)) :
    outcome = .begun s!"{address}:{s.nextId}"
      ∧ next.sessions
        = s.sessions.insert (s.begunSession address applicationId serviceGroup name timeout)
      ∧ next.nextId = s.nextId + 1 := by
  obtain ⟨xid, last, run, done⟩ := exists_of_run_bind_eq_ok h
  cases done
  unfold begin at run
  dsimp only at run
  split at run
  · obtain ⟨_, _, refused, -⟩ := exists_of_run_bind_eq_ok run
    cases refused
  · rw [run_bind_of_ok s _ (run_takeId s), run_bind_of_ok _ _ (run_get _)] at run
    obtain ⟨_, _, stored, run⟩ := exists_of_run_bind_eq_ok run
    cases run
    obtain ⟨_, stored⟩ := exists_of_run_discard_eq_ok stored
    exact ⟨rfl, of_run_put_eq_ok stored⟩

/-- A begin that fails leaves the sessions as they are. -/
theorem sessions_of_begin_eq_error {address applicationId serviceGroup name : String}
    {timeout : Millis} {e : Error}
    (h : (Operation.begin address applicationId serviceGroup name timeout).runOn s
      = (.error e, next)) : next.sessions = s.sessions := by
  rcases cases_of_run_bind_eq_error h with run | ⟨_, _, -, done⟩
  · unfold begin at run
    dsimp only at run
    split at run
    · have refused := (run_bind_of_error s _ (run_throw s _)).symm.trans run
      rw [(Prod.mk.inj refused).2]
    · rw [run_bind_of_ok s _ (run_takeId s), run_bind_of_ok _ _ (run_get _)] at run
      rcases cases_of_run_bind_eq_error run with put | ⟨_, _, -, done⟩
      · have kept := sessions_of_run_put_eq_error (run_of_run_discard_eq_error put)
        exact kept
      · cases done
  · cases done

/-- A registration that succeeds answers with the next number, and stores the image that it makes of
a session that has just begun. -/
theorem sessions_of_register {registration : Registration} {outcome : Operation.Outcome}
    (h : (Operation.register xid registration).runOn s = (.ok outcome, next)) :
    ∃ before, s.sessions.get? xid = some before ∧ before.status = .begin
      ∧ outcome = .id s.nextId
      ∧ next.sessions = s.sessions.insert (s.registeredSession before registration)
      ∧ next.nextId = s.nextId + 1 := by
  obtain ⟨id, _, locked, done⟩ := exists_of_run_bind_eq_ok h
  cases done
  obtain ⟨locks, locks', last, run, rfl⟩ := exists_of_run_withLock_eq_ok locked
  obtain ⟨before, loaded, hload, run⟩ := exists_of_run_bind_eq_ok run
  obtain ⟨found, rfl⟩ := Prod.mk.inj ((run_load _ xid).symm.trans hload)
  dsimp only at run
  split at run
  · obtain ⟨_, _, refused, -⟩ := exists_of_run_bind_eq_ok run
    cases refused
  · next begun =>
    -- The number is drawn once the session has been found, and it is drawn for good.
    rw [run_bind_of_ok _ _ (run_takeId _), run_bind_of_ok _ _ (run_get _)] at run
    obtain ⟨_, _, put, run⟩ := exists_of_run_bind_eq_ok run
    cases run
    obtain ⟨_, put⟩ := exists_of_run_discard_eq_ok put
    obtain ⟨-, sessions, nextId⟩ := of_run_putLocked_eq_ok put
    exact ⟨before, session_eq_ok_iff.1 found, Decidable.not_not.1 begun, rfl, sessions, nextId⟩

/-- A begin succeeds on an open store whose log takes records in time and has a position left, if
nobody holds the lock of its xid. -/
theorem exists_runOn_begin (s : Store) (address applicationId serviceGroup name : String)
    (timeout : Millis) (named : Text.isBlankText applicationId = false)
    (spelled : Text.isBlankText s!"{address}:{s.nextId}" = false) (isOpen : s.closed = false)
    (free : s!"{address}:{s.nextId}" ∉ s.locks.held) (running : s.log.running = true)
    (within : s.log.syncsWithinWait = true) (room : s.lsn + 1 ≠ 0) :
    ∃ next, (Operation.begin address applicationId serviceGroup name timeout).runOn s
      = (.ok (.begun s!"{address}:{s.nextId}"), next) := by
  -- The session is put into a store that differs in its counter alone.
  let counted : Store := { s with nextId := s.nextId + 1 }
  let session := s.begunSession address applicationId serviceGroup name timeout
  have intime : ¬ counted.log.TimesOut (counted.nextRecord (counted.upsertOf session)) := fun out =>
    absurd (within.symm.trans out.2) (by decide)
  obtain ⟨log, logged⟩ := exists_handOver (s := counted) running ⟨room, intime⟩
  have valid : checkImage session.xid session = .ok () := checkImage_of_no_branches spelled rfl
  obtain ⟨_, _, _, -, run, -⟩ := runOn_put (s := counted) isOpen free valid logged
  obtain ⟨modification, last, stored, -⟩ := exists_of_run_bind_eq_ok run
  have began : (begin address applicationId serviceGroup name timeout).run.run s
      = (.ok s!"{address}:{s.nextId}", last) := by
    unfold begin
    dsimp only
    rw [if_neg (by simp [named]), run_bind_of_ok s _ (run_takeId s), run_bind_of_ok _ _ (run_get _)]
    have discarded : (discard (put session)).run.run counted = (.ok (), last) :=
      run_bind_of_ok _ _ stored
    exact run_bind_of_ok _ _ discarded
  exact ⟨last, run_bind_of_ok _ _ began⟩

/-- The branches after a registration. -/
theorem branches_registeredSession (s : Store) (before : Session) (registration : Registration) :
    (s.registeredSession before registration).branches
      = if before.hasBranch s.nextId then before.branches
        else before.branches ++ [before.registeredBranch registration s.nextId s.clock] :=
  before.branches_addBranch (before.registeredBranch registration s.nextId s.clock)

end Store

/-! ## Numbers that are taken -/

/-- A branch bears the number and the data of its registration. -/
structure Branch.Bears (branch : Branch) (id : BranchId) (registration : Registration) : Prop where
  id : branch.id = id
  type : branch.type = registration.type
  resourceId : branch.resourceId = registration.resourceId
  lockKey : branch.lockKey = registration.lockKey
  clientId : branch.clientId = registration.clientId
  applicationData : branch.applicationData = registration.applicationData

namespace Store

/-- A registration keeps the branches of its session, in order, and adds the registered branch
behind them. It changes no other session. -/
structure Registered (s next : Store) (xid : Xid) (id : BranchId) (registration : Registration) :
    Prop where
  branches : ∃ before after branch, s.sessions.get? xid = some before
    ∧ next.sessions.get? xid = some after ∧ after.branches = before.branches ++ [branch]
    ∧ branch.Bears id registration
  others : ∀ other, other ≠ xid → next.sessions.get? other = s.sessions.get? other

/-- A begin stores one session, under an xid that had none. It changes no other session. -/
structure Begun (s next : Store) (xid : Xid) : Prop where
  fresh : s.sessions.get? xid = none
  stored : (next.sessions.get? xid).isSome = true
  others : ∀ other, other ≠ xid → next.sessions.get? other = s.sessions.get? other

/-- A registration that succeeds adds its branch exactly if no branch of the session has the number
that it uses. -/
theorem registered_iff {registration : Registration} {id : BranchId}
    (h : (Operation.register xid registration).runOn s = (.ok (.id id), next)) :
    id = s.nextId ∧ (Registered s next xid id registration
      ↔ ∀ session, s.sessions.get? xid = some session → session.hasBranch s.nextId = false) := by
  obtain ⟨before, stored, -, answer, sessions, -⟩ := sessions_of_register h
  cases answer
  have owner : (s.registeredSession before registration).xid = xid :=
    (before.xid_addBranch _).trans (SessionTable.xid_of_get? stored)
  have found : next.sessions.get? xid = some (s.registeredSession before registration) := by
    rw [sessions, ← owner]
    exact SessionTable.get?_insert_self ..
  have branches := s.branches_registeredSession before registration
  refine ⟨rfl, fun registered session again => ?_, fun free => ⟨?_, fun other hother => ?_⟩⟩
  · cases stored.symm.trans again
    obtain ⟨_, after, branch, stored', found', longer, -⟩ := registered.branches
    cases stored.symm.trans stored'
    cases found.symm.trans found'
    -- A branch whose number is taken is not added, so that the list does not get longer.
    cases taken : before.hasBranch s.nextId with
    | false => rfl
    | true =>
      rw [branches, if_pos taken] at longer
      simp at longer
  · refine ⟨before, _, before.registeredBranch registration s.nextId s.clock, stored, found, ?_,
      ⟨rfl, rfl, rfl, rfl, rfl, rfl⟩⟩
    rw [branches, if_neg (by simp [free before stored])]
  · rw [sessions]
    exact SessionTable.get?_insert_of_ne _ _ (owner ▸ hother.symm)

/-- A begin that succeeds keeps all other sessions exactly if no session has the xid that it
uses. -/
theorem begun_iff {address applicationId serviceGroup name : String} {timeout : Millis}
    (h : (Operation.begin address applicationId serviceGroup name timeout).runOn s
      = (.ok (.begun xid), next)) :
    xid = s!"{address}:{s.nextId}"
      ∧ (Begun s next xid ↔ s.sessions.get? s!"{address}:{s.nextId}" = none) := by
  obtain ⟨answer, sessions, -⟩ := sessions_of_begin h
  cases answer
  refine ⟨rfl, Begun.fresh, fun free => ⟨free, ?_, fun other hother => ?_⟩⟩
  · rw [sessions]
    exact Option.isSome_iff_exists.2 ⟨_, SessionTable.get?_insert_self ..⟩
  · rw [sessions]
    exact SessionTable.get?_insert_of_ne _ _ hother.symm

/-- A registration and a begin that succeed use the next number, whether or not it is free. They
keep all data exactly if it is: if no branch of the session has the number that a registration uses,
and no session has the xid that a begin uses. -/
theorem keeps_data_iff_number_free (s : Store) :
    (∀ (xid : Xid) (registration : Registration) (id : BranchId) (next : Store),
        (Operation.register xid registration).runOn s = (.ok (.id id), next) →
          id = s.nextId ∧ (Registered s next xid id registration
            ↔ ∀ session, s.sessions.get? xid = some session
              → session.hasBranch s.nextId = false))
      ∧ ∀ (address applicationId serviceGroup name : String) (timeout : Millis) (xid : Xid)
        (next : Store),
        (Operation.begin address applicationId serviceGroup name timeout).runOn s
            = (.ok (.begun xid), next) →
          xid = s!"{address}:{s.nextId}"
            ∧ (Begun s next xid ↔ s.sessions.get? s!"{address}:{s.nextId}" = none) :=
  ⟨fun _ _ _ _ h => registered_iff h, fun _ _ _ _ _ _ _ h => begun_iff h⟩

/-- A session is begun and a branch is registered with it. The numbers are free, so nothing is
lost. -/
theorem keeps_data_of_begin_and_register :
    ∃ start begun registered : Store,
      openFiles {} 0 { snapshot := none, log := [] } = .ok start
        ∧ (Operation.begin "h" "app" "" "tx" 1).runOn start = (.ok (.begun "h:1"), begun)
        ∧ (Operation.register "h:1" { type := .tcc, resourceId := "db" }).runOn begun
          = (.ok (.id 2), registered)
        ∧ Begun start begun "h:1"
        ∧ Registered begun registered "h:1" 2 { type := .tcc, resourceId := "db" } := by
  let start := resume {} 0 { snapshot := none, log := [] } (Recovered.ofSnapshot Snapshot.empty)
  let begin := Operation.begin "h" "app" "" "tx" 1
  let begun := (begin.runOn start).2
  let register := Operation.register "h:1" { type := .tcc, resourceId := "db" }
  let registered := (register.runOn begun).2
  have began : begin.runOn start = (.ok (.begun "h:1"), begun) :=
    runOn_of_toOption (by decide +kernel)
  have added : register.runOn begun = (.ok (.id 2), registered) :=
    runOn_of_toOption (by decide +kernel)
  have free : ∀ session, begun.sessions.get? "h:1" = some session →
      session.hasBranch begun.nextId = false := by
    have none : (begun.sessions.get? "h:1").all fun session =>
        !session.hasBranch begun.nextId := by decide +kernel
    intro session stored
    simpa [stored] using none
  refine ⟨start, begun, registered, openFiles_nothing {} 0, began, added, ?_, ?_⟩
  · exact ((keeps_data_iff_number_free start).2 _ _ _ _ _ _ _ began).2.2 rfl
  · exact ((keeps_data_iff_number_free begun).1 _ _ _ _ added).2.2 free

/-- A session `A` with branch `1` and a session `h:1` are put into an empty store, whose next number
stays `1`. A registration with `A` then answers `1` and adds no branch, and a begin at the address
`h` answers `h:1` and replaces the session of that xid. -/
theorem data_lost_of_put :
    ∃ (start s registered begun : Store) (events : List Event) (attempts : List Attempt),
      openFiles {} 0 { snapshot := none, log := [] } = .ok start
        ∧ History start events attempts s ∧ AllMade attempts
        ∧ (Operation.register "A" { type := .tcc, resourceId := "r2" }).runOn s
          = (.ok (.id 1), registered)
        ∧ ¬ Registered s registered "A" 1 { type := .tcc, resourceId := "r2" }
        ∧ (Operation.begin "h" "app" "" "tx" 1).runOn s = (.ok (.begun "h:1"), begun)
        ∧ ¬ Begun s begun "h:1" := by
  let start := resume {} 0 { snapshot := none, log := [] } (Recovered.ofSnapshot Snapshot.empty)
  let fresh := Session.start "A" 1 "app" "tx" 0
  let first := Operation.put (fresh.addBranch (fresh.newBranch 1 .automatic "r1" 0))
  let second := Operation.put (Session.start "h:1" 1 "app" "tx" 0)
  let middle := (first.runOn start).2
  let s := (second.runOn middle).2
  let register := Operation.register "A" { type := .tcc, resourceId := "r2" }
  let begin := Operation.begin "h" "app" "" "tx" 1
  have put1 : (first.runOn start).1.toOption.isSome := by decide +kernel
  have put2 : (second.runOn middle).1.toOption.isSome := by decide +kernel
  have taken : (s.sessions.get? "A").map (fun session => session.hasBranch s.nextId)
      = some true := by decide +kernel
  have present : (s.sessions.get? "h:1").isSome := by decide +kernel
  have added : register.runOn s = (.ok (.id 1), (register.runOn s).2) :=
    runOn_of_toOption (by decide +kernel)
  have began : begin.runOn s = (.ok (.begun "h:1"), (begin.runOn s).2) :=
    runOn_of_toOption (by decide +kernel)
  obtain ⟨_, put1⟩ := Option.isSome_iff_exists.1 put1
  obtain ⟨_, put2⟩ := Option.isSome_iff_exists.1 put2
  obtain ⟨_, next1, made1⟩ := exists_next_of_ok (runOn_of_toOption put1)
  obtain ⟨_, next2, made2⟩ := exists_next_of_ok (runOn_of_toOption put2)
  refine ⟨start, s, _, _, _, _, openFiles_nothing {} 0, (History.start.step next1).step next2,
    allMade_append.2 ⟨made1, made2⟩, added, fun kept => ?_, began, fun kept => ?_⟩
  · obtain ⟨session, stored, has⟩ := Option.map_eq_some_iff.1 taken
    have free := (registered_iff added).2.1 kept session stored
    exact absurd has (by simp [free])
  · obtain ⟨same, replaces⟩ := begun_iff began
    have free := replaces.1 kept
    rw [← same] at free
    simp [free] at present

end Store

end SessionRegistry
