import SessionRegistry.Proofs.Query.LockPaging
import SessionRegistry.Proofs.RowLock.Rewriting
import SessionRegistry.Proofs.Store.Discretion
import SessionRegistry.Proofs.Store.Unwritten

/-!
# The audit trail is exact

What an operator does beyond the regular moves of the protocol is written into the audit trail, and
nothing else is. A session or a branch that is removed by force and a status that is overridden leave
one entry each. The release of a row leaves one for each session that loses it, also if a later
session cannot be changed any more and the command fails. Each entry says what the images show that
are stored before and after the command.

## Main definitions

* `Operation.owes`: how many entries an operation has to leave.
* `Store.Shows`: the line of an entry says what the stored images show.
* `Store.Audited`: the entries that an operation leaves are those that it has to leave.
* `Store.Lost`: which sessions lose a row.

## Main results

* `Lost.trans`: sessions that lose a row in one part of a command and in the next.
* `Lost.perm`: the sessions that lose a row, told from the images before and after.
* `audit_trail_exact`: every operation in every state.
-/

namespace SessionRegistry

open Operation (Outcome)

/-! ## What the audit trail has to tell -/

namespace Store

/-- Whether a session holds a row and the image that is stored later does not. -/
def losesRow (target : LockTarget) (next : Store) (session : Session) : Bool :=
  target.heldBy session && (next.sessions.get? session.xid).any (!target.heldBy ·)

/-- The line of an entry says what the stored images show before and after a command. -/
inductive Shows (s next : Store) : Command → AuditEntry → String → Prop where
  | forceDeletedSession {xid : Xid} {before : Session} {status : GlobalStatus} {count : Nat}
    (stored : s.sessions.get? xid = some before) (gone : next.sessions.get? xid = none)
    (had : before.status = status) (branches : before.branches.length = count) :
    Shows s next (.forceDeleteSession xid) (.forceDeletedSession xid status count)
      s!"force deleted global session {xid} (status {status.name}, {count} branches)"
  | changedStatus {xid : Xid} {status : Option GlobalStatus} {before after : Session}
    (stored : s.sessions.get? xid = some before) (written : next.sessions.get? xid = some after)
    (differs : before.status ≠ after.status) :
    Shows s next (.changeStatus xid status) (.changedStatus xid before.status after.status)
      s!"changed status of global session {xid} from {before.status.name} to {after.status.name}"
  | forceDeletedBranch {xid : Xid} {id : BranchId} {before after : Session} {branch : Branch}
    (stored : s.sessions.get? xid = some before) (written : next.sessions.get? xid = some after)
    (found : before.branch? id = some branch)
    (removed : { after with modifiedTime := before.modifiedTime } = before.removeBranch id) :
    Shows s next (.forceDeleteBranch xid id) (.forceDeletedBranch xid id branch.status)
      s!"force deleted branch session {id} of global session {xid} (status {branch.status.name})"
  | releasedRow {target : LockTarget} {xid : Xid} {before after : Session} {count : Nat}
    {key : String} (stored : s.sessions.get? xid = some before)
    (written : next.sessions.get? xid = some after) (held : target.heldBy before = true)
    (free : target.heldBy after = false)
    (released :
      target.release before = (count, { after with modifiedTime := before.modifiedTime }))
    (names : s!"{target.resourceId}^^^{target.row.table}^^^{target.row.key}" = key) :
    Shows s next (.deleteLock target) (.releasedRow xid target.resourceId target.row count)
      s!"released row lock {key} of global session {xid} ({count} branches)"

end Store

/-- How many entries an operation has to leave in the audit trail: one for a forced removal that
succeeds and for a status that is another one than before, one for each session that loses the row
whose release is asked for, and otherwise none. -/
def Operation.owes (s : Store) : Operation → Except Error Outcome → Store → Nat
  | command (.forceDeleteSession _), .ok _, _ => 1
  | command (.forceDeleteBranch ..), .ok _, _ => 1
  | command (.changeStatus xid _), .ok (.reply (.status status)), _ =>
    if (s.sessions.get? xid).map Session.status = some status then 0 else 1
  | command (.deleteLock target), _, next => s.sessions.toList.countP (Store.losesRow target next)
  | _, _, _ => 0

/-- An operation that may leave no entry has to leave none. -/
theorem Operation.owes_of_unaudited {s next : Store} {op : Operation}
    {result : Except Error Outcome} (h : op.isAudited = false) : op.owes s result next = 0 := by
  unfold owes
  split <;> first | rfl | cases h

namespace Store

variable {s next last : Store} {op : Operation} {xid : Xid} {target : LockTarget} {e : Error}

/-- The entries that an operation leaves in the audit trail are as many as it has to leave, each of
them is about another session, and what their lines say is so. -/
structure Audited (s : Store) (op : Operation) (result : Except Error Outcome) (next : Store)
    (entries : List AuditEntry) : Prop where
  audits : next.audits = s.audits ++ entries
  count : entries.length = op.owes s result next
  shown : ∀ entry ∈ entries, ∃ c, op = .command c ∧ Shows s next c entry entry.text
  distinct : (entries.map AuditEntry.xid).Nodup

/-- An operation that has to leave no entry, and leaves none. -/
theorem Audited.none {result : Except Error Outcome} (same : next.audits = s.audits)
    (owes : op.owes s result next = 0) : Audited s op result next [] where
  audits := by rw [same, List.append_nil]
  count := owes.symm
  shown _ h := nomatch h
  distinct := .nil

/-- A command that has to leave one entry, and leaves it. -/
theorem Audited.one {c : Command} {result : Except Error Outcome} {entry : AuditEntry}
    (audits : next.audits = s.audits ++ [entry]) (owes : (Operation.command c).owes s result next = 1)
    (shows : Shows s next c entry entry.text) : Audited s (.command c) result next [entry] where
  audits := audits
  count := owes.symm
  shown e he := by
    obtain rfl := List.mem_singleton.1 he
    exact ⟨c, rfl, shows⟩
  distinct := List.nodup_singleton _

/-- The entry that is told is the last one of the audit trail. -/
theorem audits_tell (s : Store) (entry : AuditEntry) :
    ({ s with trail := s.trail ++ [.audit entry] } : Store).audits = s.audits ++ [entry] := by
  simp [audits, List.filterMap_append, Notice.entry?]

/-! ## Commands about one session -/

/-- A session that is removed under its lock was stored and is not any more. -/
theorem of_run_delete_eq_ok {removed : Session}
    (h : (delete xid).run.run s = (.ok removed, next)) :
    s.sessions.get? xid = some removed ∧ next.sessions.get? xid = none := by
  obtain ⟨locks, locks', last, run, rfl⟩ := exists_of_run_withLock_eq_ok h
  obtain ⟨session, _, loaded, run⟩ := exists_of_run_bind_eq_ok run
  obtain ⟨stored, rfl⟩ := Prod.mk.inj ((run_load _ xid).symm.trans loaded)
  obtain ⟨_, middle, dropped, run⟩ := exists_of_run_bind_eq_ok run
  obtain ⟨_, committed⟩ := exists_of_run_discard_eq_ok dropped
  cases run
  refine ⟨session_eq_ok_iff.1 stored, ?_⟩
  show last.sessions.get? xid = none
  rw [(of_run_commit_eq_ok committed).1]
  exact SessionTable.get?_erase_self _ _

/-- A revision that succeeds answers the image that was stored and the one that is stored, apart from
the time of the change. Where nothing has to change they are the same. -/
theorem of_run_revise_eq_ok {revision : Session → Revision} {before after : Session}
    (h : (revise xid revision).run.run s = (.ok (before, after), next)) :
    s.sessions.get? xid = some before ∧
      (revision before = .ok none ∧ after = before ∧ next.sessions = s.sessions ∨
        revision before = .ok (some after) ∧ after.xid = xid ∧
          next.sessions = s.sessions.insert { after with modifiedTime := s.clock }) := by
  obtain ⟨locks, locks', last, run, rfl⟩ := exists_of_run_withLock_eq_ok h
  obtain ⟨session, _, loaded, run⟩ := exists_of_run_bind_eq_ok run
  obtain ⟨stored, rfl⟩ := Prod.mk.inj ((run_load _ xid).symm.trans loaded)
  obtain ⟨result, _, revised, run⟩ := exists_of_run_bind_eq_ok run
  rw [run_answer] at revised
  obtain ⟨given, rfl⟩ := Prod.mk.inj revised
  cases result with
  | none =>
    cases run
    exact ⟨session_eq_ok_iff.1 stored, .inl ⟨given, rfl, rfl⟩⟩
  | some image =>
    obtain ⟨_, middle, written, run⟩ := exists_of_run_bind_eq_ok run
    obtain ⟨_, put⟩ := exists_of_run_discard_eq_ok written
    cases run
    obtain ⟨owner, sessions, -⟩ := of_run_putLocked_eq_ok put
    exact ⟨session_eq_ok_iff.1 stored, .inr ⟨given, owner, sessions⟩⟩

/-- A revision that fails leaves the sessions as they are. -/
theorem sessions_of_run_revise_eq_error {revision : Session → Revision}
    (h : (revise xid revision).run.run s = (.error e, next)) : next.sessions = s.sessions := by
  have ended := revising_revise s xid revision
  unfold Revising at ended
  rw [h] at ended
  cases ended with
  | refused _ same => exact same

/-- What follows an announcement. -/
theorem run_announced {α : Type} (c : Command) (rest : Unit → StoreM α) :
    (announce c >>= rest).run.run s = (rest ()).run.run (s.told c) :=
  run_bind_of_ok s rest (run_modify s _)

theorem audits_told (s : Store) (c : Command) : (s.told c).audits = s.audits :=
  (Leaves.announce c s).audits

/-- After its announcement a command fails without an entry, or its first part succeeds without one. -/
theorem cases_of_told {α β : Type} {c : Command} {act : StoreM α} {rest : α → StoreM β}
    {answer : Except Error β} (silent : Leaves Discreet act)
    (h : (act >>= rest).run.run (s.told c) = (answer, next)) :
    (∃ e, answer = .error e ∧ next.audits = s.audits) ∨
      ∃ a middle, act.run.run (s.told c) = (.ok a, middle) ∧ middle.audits = s.audits
        ∧ (rest a).run.run middle = (answer, next) := by
  have same := (silent (s.told c)).audits.trans (audits_told s c)
  rcases run : act.run.run (s.told c) with ⟨e | a, middle⟩
  · rw [run] at same
    rw [run_bind_of_error _ _ run] at h
    cases h
    exact .inl ⟨e, rfl, same⟩
  · rw [run] at same
    rw [run_bind_of_ok _ _ run] at h
    exact .inr ⟨a, middle, rfl, same, h⟩

theorem audited_forceDeleteSession {answer : Except Error Unit}
    (h : (forceDeleteSession xid).run.run s = (answer, next)) :
    ∃ entries, Audited s (.command (.forceDeleteSession xid))
      (answer.map fun _ => .reply .done) next entries := by
  rw [forceDeleteSession, run_announced] at h
  obtain ⟨e, rfl, same⟩ | ⟨removed, middle, run, silent, h⟩ := cases_of_told (Leaves.delete xid) h
  · exact ⟨[], .none same rfl⟩
  · obtain ⟨stored, gone⟩ := of_run_delete_eq_ok run
    cases h
    refine ⟨_, .one ?_ rfl (.forceDeletedSession stored gone rfl rfl)⟩
    rw [← silent]
    exact audits_tell middle _

theorem audited_changeStatus {status : Option GlobalStatus} {answer : Except Error GlobalStatus}
    (h : (changeStatus xid status).run.run s = (answer, next)) :
    ∃ entries, Audited s (.command (.changeStatus xid status))
      (answer.map fun status => .reply (.status status)) next entries := by
  rw [changeStatus, run_announced] at h
  dsimp only at h
  split at h
  · rw [run_bind_of_error _ _ (run_throw _ _)] at h
    cases h
    exact ⟨[], .none (audits_told ..) rfl⟩
  obtain ⟨e, rfl, same⟩ | ⟨⟨before, after⟩, middle, run, silent, h⟩ :=
    cases_of_told (Leaves.revise xid (Session.changeStatus status)) h
  · exact ⟨[], .none same rfl⟩
  obtain ⟨(stored : s.sessions.get? xid = some before), ended⟩ := of_run_revise_eq_ok run
  dsimp only at h
  split at h
  · next same =>
    cases h
    refine ⟨[], .none silent ?_⟩
    show (if _ then 0 else 1) = 0
    rw [stored, Option.map_some, same, if_pos rfl]
  · next differs =>
    -- A session that nothing was written for has the status that it had.
    obtain ⟨-, rfl, -⟩ | ⟨-, owner, sessions⟩ := ended
    · exact absurd rfl differs
    cases h
    have written := get?_of_inserted owner sessions
    refine ⟨_, .one ?_ ?_ (.changedStatus stored written differs)⟩
    · rw [← silent]
      exact audits_tell middle _
    · show (if _ then 0 else 1) = 1
      rw [stored, Option.map_some, if_neg fun same => differs (Option.some.inj same)]

theorem audited_forceDeleteBranch {id : BranchId} {answer : Except Error Unit}
    (h : (forceDeleteBranch xid id).run.run s = (answer, next)) :
    ∃ entries, Audited s (.command (.forceDeleteBranch xid id))
      (answer.map fun _ => .reply .done) next entries := by
  rw [forceDeleteBranch, run_announced] at h
  obtain ⟨e, rfl, same⟩ | ⟨⟨before, after⟩, middle, run, silent, h⟩ :=
    cases_of_told (Leaves.revise xid (Session.forceDropBranch id)) h
  · exact ⟨[], .none same rfl⟩
  obtain ⟨(stored : s.sessions.get? xid = some before), ended⟩ := of_run_revise_eq_ok run
  obtain ⟨nothing, -, -⟩ | ⟨dropped, owner, sessions⟩ := ended
  · -- A branch that is found is always dropped.
    obtain ⟨_, -, made⟩ := exists_of_bind_eq_ok nothing
    cases made
  obtain ⟨branch, found⟩ : ∃ branch, before.branch? id = some branch := by
    rcases steerable : before.steerableBranch id with e | branch
    · rw [Session.forceDropBranch, steerable] at dropped
      cases dropped
    · exact ⟨branch, Session.branch?_of_steerableBranch steerable⟩
  obtain rfl := Session.of_forceDropBranch_eq_ok dropped
  dsimp only at h
  rw [found] at h
  cases h
  have written := get?_of_inserted owner sessions
  refine ⟨_, .one ?_ rfl (.forceDeletedBranch stored written found rfl)⟩
  rw [← silent]
  exact audits_tell middle _

/-! ## The release of a row -/

/-- The entry about a session that loses a row. -/
def releaseEntry (target : LockTarget) (session : Session) : AuditEntry :=
  .releasedRow session.xid target.resourceId target.row (target.holders session)

/-- The sessions that have lost a row. There is one entry about each of them, in the same order, and
the others are as they were. -/
structure Lost (target : LockTarget) (s next : Store) (lost : List Session) : Prop where
  audits : next.audits = s.audits ++ lost.map (releaseEntry target)
  stored : ∀ session ∈ lost, s.sessions.get? session.xid = some session
  held : ∀ session ∈ lost, target.heldBy session = true
  written : ∀ session ∈ lost, ∃ time,
    next.sessions.get? session.xid = some { target.without session with modifiedTime := time }
  others : ∀ xid, xid ∉ lost.map Session.xid → next.sessions.get? xid = s.sessions.get? xid
  distinct : (lost.map Session.xid).Nodup

/-- Nobody loses a row where the sessions and the audit trail stay as they are. -/
theorem Lost.nobody (audits : next.audits = s.audits) (sessions : next.sessions = s.sessions) :
    Lost target s next [] where
  audits := by rw [audits, List.map_nil, List.append_nil]
  stored _ h := nomatch h
  held _ h := nomatch h
  written _ h := nomatch h
  others xid _ := by rw [sessions]
  distinct := .nil

/-- A session that has lost the row does not lose it again. -/
theorem Lost.disjoint {lost more : List Session} (first : Lost target s next lost)
    (second : Lost target next last more) :
    (lost.map Session.xid).Disjoint (more.map Session.xid) := by
  intro xid hxid hxid'
  obtain ⟨session, hsession, rfl⟩ := List.mem_map.1 hxid
  obtain ⟨again, hagain, same⟩ := List.mem_map.1 hxid'
  obtain ⟨time, written⟩ := first.written session hsession
  have stored := second.stored again hagain
  rw [same, written] at stored
  obtain rfl := Option.some.inj stored
  have held := second.held _ hagain
  have free : target.heldBy (target.without session) = false := target.heldBy_without session
  exact Bool.false_ne_true (free.symm.trans held)

/-- Sessions that lose a row in one part of a command and in the next. -/
theorem Lost.trans {lost more : List Session} (first : Lost target s next lost)
    (second : Lost target next last more) : Lost target s last (lost ++ more) where
  audits := by
    rw [second.audits, first.audits, List.map_append, List.append_assoc]
  stored session hsession := by
    rcases List.mem_append.1 hsession with hsession | hsession
    · exact first.stored session hsession
    · rw [← second.stored session hsession, first.others]
      exact fun earlier =>
        first.disjoint second earlier (List.mem_map_of_mem hsession)
  held session hsession := by
    rcases List.mem_append.1 hsession with hsession | hsession
    · exact first.held session hsession
    · exact second.held session hsession
  written session hsession := by
    rcases List.mem_append.1 hsession with hsession | hsession
    · obtain ⟨time, written⟩ := first.written session hsession
      rw [second.others _ fun later => first.disjoint second (List.mem_map_of_mem hsession) later]
      exact ⟨time, written⟩
    · exact second.written session hsession
  others xid absent := by
    rw [List.map_append, List.mem_append, not_or] at absent
    rw [second.others xid absent.2, first.others xid absent.1]
  distinct := by
    rw [List.map_append]
    exact first.distinct.append second.distinct (first.disjoint second)

/-- One session has lost a row: its image is the released one, dated. -/
theorem Lost.one {before : Session} {time : Millis}
    (stored : s.sessions.get? before.xid = some before) (held : target.heldBy before = true)
    (audits : next.audits = s.audits ++ [releaseEntry target before])
    (sessions : next.sessions =
      s.sessions.insert { target.without before with modifiedTime := time }) :
    Lost target s next [before] where
  audits := audits
  stored session hsession := by
    obtain rfl := List.mem_singleton.1 hsession
    exact stored
  held session hsession := by
    obtain rfl := List.mem_singleton.1 hsession
    exact held
  written session hsession := by
    obtain rfl := List.mem_singleton.1 hsession
    exact ⟨time, get?_of_inserted rfl sessions⟩
  others xid absent := by
    rw [sessions]
    apply SessionTable.get?_insert_of_ne
    exact fun same => absent (List.mem_singleton.2 same.symm)
  distinct := List.nodup_singleton _

/-- Some sessions lose a row, and nothing else is told or changed. -/
def Loses (target : LockTarget) (s next : Store) : Prop :=
  ∃ lost, Lost target s next lost

instance : IsPreorder Store (Loses target) where
  refl _ := ⟨[], .nobody rfl rfl⟩
  trans _ _ _ first second := by
    obtain ⟨lost, first⟩ := first
    obtain ⟨more, second⟩ := second
    exact ⟨_, first.trans second⟩

/-- A release in one session takes the row away from that session or from none. -/
theorem leaves_releaseIn (target : LockTarget) (xid : Xid) :
    Leaves (Loses target) (releaseIn target xid) := by
  intro s
  have silent := (Leaves.revise xid (Session.releaseRow target) s).audits
  unfold releaseIn
  rcases run : (revise xid (Session.releaseRow target)).run.run s
    with ⟨e | ⟨before, after⟩, middle⟩
  · rw [run] at silent
    rw [run_bind_of_error _ _ run]
    exact ⟨[], .nobody silent (sessions_of_run_revise_eq_error run)⟩
  rw [run] at silent
  obtain ⟨stored, ended⟩ := of_run_revise_eq_ok run
  rw [run_bind_of_ok _ _ run]
  dsimp only
  rw [target.release_eq]
  obtain ⟨nothing, -, sessions⟩ | ⟨released, owner, sessions⟩ := ended
  · rw [holders_eq_zero nothing, if_neg (Nat.lt_irrefl 0)]
    exact ⟨[], .nobody silent sessions⟩
  · have some := Nat.pos_of_ne_zero (holders_ne_zero released)
    obtain rfl := Session.of_releaseRow_eq_ok released
    obtain rfl := SessionTable.xid_of_get? stored
    rw [if_pos some]
    exact ⟨[before], .one stored ((target.heldBy_iff_holders_pos before).2 some)
      ((audits_tell middle _).trans (congrArg (· ++ _) silent)) sessions⟩

/-- Before and after the release of a row, all sessions that lose it are told. -/
theorem Lost.perm {lost : List Session} (h : Lost target s next lost) :
    lost.Perm (s.sessions.toList.filter (losesRow target next)) := by
  refine (List.perm_ext_iff_of_nodup h.distinct.of_map
    (s.sessions.nodup_xids.of_map.filter _)).2 fun session => ?_
  rw [List.mem_filter, SessionTable.mem_toList_iff]
  constructor
  · intro hsession
    obtain ⟨time, written⟩ := h.written session hsession
    refine ⟨h.stored session hsession, ?_⟩
    rw [losesRow, h.held session hsession, written, Option.any_some]
    exact congrArg not (target.heldBy_without session)
  · rintro ⟨stored, loses⟩
    rw [losesRow, Bool.and_eq_true] at loses
    by_contra kept
    -- The image of a session that is not among them would be the same as before.
    have absent : session.xid ∉ lost.map Session.xid := by
      intro hxid
      obtain ⟨other, hother, same⟩ := List.mem_map.1 hxid
      have stored' := h.stored other hother
      rw [same, stored] at stored'
      exact kept (Option.some.inj stored' ▸ hother)
    rw [h.others _ absent, stored, Option.any_some, loses.1] at loses
    exact Bool.false_ne_true loses.2

theorem audited_deleteLock (s : Store) (target : LockTarget) (result : Except Error Outcome) :
    ∃ entries, Audited s (.command (.deleteLock target)) result
      ((deleteLock target).run.run s).2 entries := by
  have announced : Leaves (Loses target) (announce (.deleteLock target)) := fun s =>
    ⟨[], .nobody (audits_told s _) rfl⟩
  obtain ⟨lost, h⟩ := Leaves.deleteLock announced (leaves_releaseIn target) s
  refine ⟨_, h.audits, ?_, ?_, ?_⟩
  · show _ = s.sessions.toList.countP _
    rw [List.length_map, h.perm.length_eq, List.countP_eq_length_filter]
  · intro entry hentry
    obtain ⟨session, hsession, rfl⟩ := List.mem_map.1 hentry
    obtain ⟨time, written⟩ := h.written session hsession
    have free : target.heldBy (target.without session) = false := target.heldBy_without session
    have stored := h.stored session hsession
    exact ⟨_, rfl, .releasedRow stored written (h.held session hsession) free
      (target.release_eq session) rfl⟩
  · rw [List.map_map]
    exact h.distinct

/-! ## Every operation -/

/-- The answer of a command is made from that of its computation. -/
theorem runOn_command {α : Type} {c : Command} {act : StoreM α} {reply : α → Command.Reply}
    {answer : Except Error α} (executes : c.execute = act >>= fun a => pure (reply a))
    (run : act.run.run s = (answer, next)) :
    (Operation.command c).runOn s = (answer.map fun a => .reply (reply a), next) := by
  show (c.execute >>= fun answered => pure (Outcome.reply answered)).run.run s = _
  rw [executes]
  cases answer with
  | error e => exact run_bind_of_error _ _ (run_bind_of_error _ _ run)
  | ok a => exact run_bind_of_ok _ _ (run_bind_of_ok _ _ run)

/-- The commands that may leave an entry leave those that they have to. -/
theorem audited_of_isAudited (s : Store) {op : Operation} (h : op.isAudited = true) :
    ∃ entries, Audited s op (op.runOn s).1 (op.runOn s).2 entries := by
  cases op with
  | command c =>
    cases c with
    | forceDeleteSession xid =>
      rcases run : (forceDeleteSession xid).run.run s with ⟨answer, next⟩
      rw [runOn_command rfl run]
      exact audited_forceDeleteSession run
    | changeStatus xid status =>
      rcases run : (changeStatus xid status).run.run s with ⟨answer, next⟩
      rw [runOn_command rfl run]
      exact audited_changeStatus run
    | forceDeleteBranch xid id =>
      rcases run : (forceDeleteBranch xid id).run.run s with ⟨answer, next⟩
      rw [runOn_command rfl run]
      exact audited_forceDeleteBranch run
    | deleteLock target =>
      rcases run : (deleteLock target).run.run s with ⟨answer, next⟩
      rw [runOn_command rfl run]
      have audited := audited_deleteLock s target (answer.map fun count => .reply (.released count))
      rwa [run] at audited
    | _ => cases h
  | _ => cases h

/-- The audit trail is exact: for every operation in every state the entries that it leaves are as
many as it has to leave, each about another session, and each line says what the images show that are
stored before and after the operation. -/
theorem audit_trail_exact (s : Store) (op : Operation) :
    ∃ entries, Audited s op (op.runOn s).1 (op.runOn s).2 entries := by
  by_cases audited : op.isAudited = true
  · exact audited_of_isAudited s audited
  · have unaudited := Bool.eq_false_iff.2 audited
    exact ⟨[], .none (op.discreet unaudited s).audits (Operation.owes_of_unaudited unaudited)⟩

end Store

end SessionRegistry
