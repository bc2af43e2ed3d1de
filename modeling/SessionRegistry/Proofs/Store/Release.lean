import SessionRegistry.Proofs.RowLock.Release
import SessionRegistry.Proofs.Store.Restart
import SessionRegistry.Proofs.Store.Timeout
import SessionRegistry.Proofs.Store.Unwritten

/-!
# Listing and releasing agree

The rows that a query for a target shows are those that the command for the target releases. If
the query shows none, the command finds nothing and writes nothing. Otherwise it takes away exactly
the rows that are shown, in as many changes as there are sessions that hold the row, and leaves all
other rows and sessions as they are.

## Main definitions

* `Store.AtRest`: a store is open, and no lock is held.
* `Store.lockListing`: the row locks that a query shows on all pages together.

## Main results

* `Store.run_releaseIn_of_heldBy`, `Store.run_releaseInAll`: what a release does in one session, and
  in several ones.
* `Store.run_deleteLock_of_none`, `Store.run_deleteLock_of_some`: what the command does.
* `Store.plain_of_prompt`: where no write fails.
* `Store.release_agrees_with_listing`: listing and releasing agree.
-/

namespace SessionRegistry

namespace SessionTable

variable {a b : SessionTable} {f : Session → Session}

/-- Tables in which the same sessions are found are the same. -/
theorem eq_of_get?_eq (h : ∀ xid, a.get? xid = b.get? xid) : a = b := by
  have mem (session : Session) : session ∈ a.toList ↔ session ∈ b.toList := by
    rw [mem_toList_iff, mem_toList_iff, h]
  have same : a.toList.Perm b.toList :=
    (List.perm_ext_iff_of_nodup a.nodup_xids.of_map b.nodup_xids.of_map).2 mem
  refine ext (same.eq_of_pairwise (fun _ _ _ _ less more => ?_) a.sorted b.sorted)
  exact absurd more (String.lt_asymm less)

/-- A table in which every session is replaced by an image of it under the same xid. -/
theorem toList_eq_map (keeps : ∀ session, (f session).xid = session.xid)
    (h : ∀ xid, b.get? xid = (a.get? xid).map f) : b.toList = a.toList.map f := by
  have sorted : (a.toList.map f).Pairwise fun a b => a.xid < b.xid :=
    List.pairwise_map.2 (a.sorted.imp fun less => by rwa [keeps, keeps])
  have found (xid : Xid) : b.get? xid = (SessionTable.mk (a.toList.map f) sorted).get? xid := by
    rw [h, get?, get?, List.find?_map]
    refine congrArg (Option.map f) (List.find?_congr fun session _ => ?_)
    rw [Function.comp_apply, keeps]
  exact congrArg toList (eq_of_get?_eq found)

end SessionTable

namespace Store

variable {s m next : Store} {xid : Xid} {session : Session} {target : LockTarget}

/-! ## One session -/

/-- A store is at rest: it is open, and no lock is held. -/
structure AtRest (s : Store) : Prop where
  isOpen : s.closed = false
  free : s.locks = .empty

theorem AtRest.not_mem_held (rest : s.AtRest) (xid : Xid) : xid ∉ s.locks.held := by
  rw [rest.free]
  exact List.not_mem_nil

/-- Moves leave the clock as it is, and the store open or closed. -/
theorem Move.frame {may : Store → LogOperation → Prop} {attempts : List Attempt}
    (move : Move may s attempts next) : next.clock = s.clock ∧ next.closed = s.closed := by
  cases move with
  | change allowed logged =>
    obtain ⟨_, _, _, frame, -⟩ := countBytes_frame (s.published _ _) _
    rw [frame]
    exact ⟨rfl, rfl⟩
  | _ => exact ⟨rfl, rfl⟩

theorem Moves.frame {may : Store → LogOperation → Prop} {attempts : List Attempt}
    (moves : Moves may s attempts next) : next.clock = s.clock ∧ next.closed = s.closed := by
  induction moves with
  | refl s => exact ⟨rfl, rfl⟩
  | cons move _ ih => exact ⟨ih.1.trans move.frame.1, ih.2.trans move.frame.2⟩

/-- After the release of a row in a session the store is at rest if it was before, and its clock
shows the same time. -/
theorem frame_releaseIn (named : ∀ x ∈ target.xid, x = xid) (rest : m.AtRest) :
    ((releaseIn target xid).run.run m).2.AtRest ∧
      ((releaseIn target xid).run.run m).2.clock = m.clock := by
  obtain ⟨_, _, -, -, moves, -⟩ := Operation.traced_releaseIn (s := m) named
  obtain ⟨clock, closed⟩ := moves.moves.frame
  exact ⟨⟨closed.trans rest.isOpen, (KeepsLocks.releaseIn target xid m).trans rest.free⟩, clock⟩

/-- A row that a session holds is released in it by one change, unless the log fails. -/
theorem run_releaseIn_of_heldBy (rest : m.AtRest) (stored : m.sessions.get? xid = some session)
    (valid : checkImage xid session = .ok ()) (held : target.heldBy session = true) :
    (∃ e next, e.isLogFailure = true ∧ (releaseIn target xid).run.run m = (.error e, next)) ∨
      ∃ next, (releaseIn target xid).run.run m = (.ok (target.holders session), next) ∧
        m.LogsOnce (.upsert { target.without session with modifiedTime := m.clock }) next := by
  have checked : checkImage xid (target.without session) = .ok () := by
    rw [← valid]
    refine checkImage_congr rfl ?_
    rw [LockTarget.without, List.map_map]
    refine List.map_congr_left fun branch _ => ?_
    obtain ⟨lockKey, is⟩ := target.releaseBranch_eq branch
    rw [Function.comp_apply, is]
  have released : session.releaseRow target = .ok (some (target.without session)) := by
    rw [Session.releaseRow_eq, if_pos held]
  have ends := meets_releaseIn target rest.isOpen (rest.not_mem_held xid)
  unfold Meets at ends
  rw [stored] at ends
  simp only [Decision.revise, Decision.require, bind, Except.bind, released, Decision.write,
    checked] at ends
  rcases run : (releaseIn target xid).run.run m with ⟨result, next⟩
  rw [run] at ends
  cases ends with
  | logged own once => exact .inr ⟨next, rfl, once⟩
  | failed failure => exact .inl ⟨_, next, failure, rfl⟩

/-! ## Several sessions -/

/-- A failure of the log in the first session ends the release. -/
theorem run_releaseInAll_cons_of_error {rest : List Xid} {e : Error}
    (failure : e.isLogFailure = true) (run : (releaseIn target xid).run.run m = (.error e, next)) :
    (releaseInAll target (xid :: rest)).run.run m = (.error e, next) := by
  obtain ⟨outage, rfl⟩ := Error.eq_internal_of_isLogFailure failure
  rw [releaseInAll, run_bind_of_ok m _ (run_attempt m _), run]
  cases target.xid <;> rfl

/-- After the first session the row is released in the others. -/
theorem run_releaseInAll_cons_of_ok {rest : List Xid} {count : Nat}
    (run : (releaseIn target xid).run.run m = (.ok count, next)) :
    (releaseInAll target (xid :: rest)).run.run m =
      (((releaseInAll target rest).run.run next).1.map (count + ·),
        ((releaseInAll target rest).run.run next).2) := by
  rw [releaseInAll, run_bind_of_ok m _ (run_attempt m _), run]
  dsimp only
  rw [run_bind_of_ok next _ (run_pure next count), run_bind]
  rcases (releaseInAll target rest).run.run next with ⟨_ | others, last⟩ <;> rfl

/-- What a release in some sessions, which hold the row, leaves of a store: these sessions have lost
the row and are dated, one change has been made for each, and nothing else. -/
structure ReleasedIn (target : LockTarget) (xids : List Xid) (m next : Store) : Prop where
  sessions : ∀ xid, next.sessions.get? xid = (m.sessions.get? xid).map fun session =>
    if xid ∈ xids then { target.without session with modifiedTime := m.clock } else session
  lsn : next.lsn = m.lsn + UInt64.ofNat xids.length
  rest : next.AtRest

/-- The number of branches that hold the row in the session with an xid. -/
def holdersOf (target : LockTarget) (table : SessionTable) (xid : Xid) : Nat :=
  (table.get? xid).elim 0 target.holders

/-- The change of one session is found under its xid. -/
theorem LogsOnce.get?_own {image : Session} (once : m.LogsOnce (.upsert image) next)
    (key : image.xid = xid) : next.sessions.get? xid = some image := by
  rw [once.sessions, ← key]
  exact SessionTable.get?_insert_self _ _

/-- The change of one session leaves the others as they are. -/
theorem LogsOnce.get?_of_ne {image : Session} (once : m.LogsOnce (.upsert image) next)
    (differs : xid ≠ image.xid) : next.sessions.get? xid = m.sessions.get? xid := by
  rw [once.sessions]
  exact SessionTable.get?_insert_of_ne _ _ differs.symm

/-- The release in one session and then in some others is the release in all of them. -/
theorem ReleasedIn.cons {xids : List Xid} {middle : Store}
    (stored : m.sessions.get? session.xid = some session) (fresh : session.xid ∉ xids)
    (once : m.LogsOnce (.upsert { target.without session with modifiedTime := m.clock }) middle)
    (clock : middle.clock = m.clock) (released : ReleasedIn target xids middle next) :
    ReleasedIn target (session.xid :: xids) m next := by
  refine ⟨fun xid => ?_, ?_, released.rest⟩
  · rw [released.sessions, clock]
    by_cases own : xid = session.xid
    · have lost : middle.sessions.get? session.xid =
          some { target.without session with modifiedTime := m.clock } := once.get?_own rfl
      rw [own, lost, stored]
      simp [fresh]
    · simp [once.get?_of_ne own, own]
  · rw [released.lsn, once.lsn, List.length_cons, UInt64.ofNat_add, UInt64.add_assoc,
      UInt64.add_comm (UInt64.ofNat _)]
    rfl

/-- In sessions that hold the row it is released by one change each, and the branches that held it
are counted, unless the log fails. -/
theorem run_releaseInAll {xids : List Xid} (named : ∀ x ∈ target.xid, ∀ xid ∈ xids, x = xid)
    (distinct : xids.Nodup) (rest : m.AtRest)
    (held : ∀ xid ∈ xids, ∃ session, m.sessions.get? xid = some session ∧
      checkImage xid session = .ok () ∧ target.heldBy session = true)
    (plain : Plain ((releaseInAll target xids).run.run m).1) :
    ∃ next, (releaseInAll target xids).run.run m =
        (.ok (xids.map (holdersOf target m.sessions)).sum, next) ∧
      ReleasedIn target xids m next := by
  induction xids generalizing m with
  | nil =>
    refine ⟨m, rfl, fun xid => ?_, ?_, rest⟩
    · simp
    · simp
  | cons xid xids ih =>
    obtain ⟨fresh, apart⟩ := List.nodup_cons.1 distinct
    obtain ⟨session, stored, valid, holds⟩ := held xid List.mem_cons_self
    obtain rfl : session.xid = xid := SessionTable.xid_of_get? stored
    rcases run_releaseIn_of_heldBy rest stored valid holds with
      ⟨e, middle, failure, run⟩ | ⟨middle, run, once⟩
    · rw [run_releaseInAll_cons_of_error failure run] at plain
      exact absurd failure (by rw [plain e rfl]; decide)
    obtain ⟨still, clock⟩ := frame_releaseIn
      (fun x hx => named x hx session.xid List.mem_cons_self) rest
    rw [run] at still clock
    -- The other sessions are still what they were when the first one has lost the row.
    have others : ∀ x ∈ xids, middle.sessions.get? x = m.sessions.get? x := fun x hx =>
      once.get?_of_ne fun same => fresh (same ▸ hx)
    have held' : ∀ x ∈ xids, ∃ session, middle.sessions.get? x = some session ∧
        checkImage x session = .ok () ∧ target.heldBy session = true := by
      intro x hx
      rw [others x hx]
      exact held x (List.mem_cons_of_mem _ hx)
    rw [run_releaseInAll_cons_of_ok run] at plain ⊢
    obtain ⟨next, run', released⟩ := ih
      (fun x hx y hy => named x hx y (List.mem_cons_of_mem _ hy)) apart still held' plain.of_map
    refine ⟨next, ?_, .cons stored fresh once clock released⟩
    have first : holdersOf target m.sessions session.xid = target.holders session := by
      rw [holdersOf, stored]
      rfl
    have same : xids.map (holdersOf target middle.sessions) =
        xids.map (holdersOf target m.sessions) :=
      List.map_congr_left fun x hx => by rw [holdersOf, holdersOf, others x hx]
    rw [run', List.map_cons, List.sum_cons, first, same]
    rfl

/-! ## Nothing to release -/

/-- A session that is missing is not revised. -/
theorem run_revise_of_missing (revision : Session → Revision) (rest : m.AtRest)
    (missing : m.sessions.get? xid = none) :
    (revise xid revision).run.run m = (.error (.notFound (.session xid)), m) := by
  have spared : Spares m (revise xid revision) _ :=
    .revise revision rest.isOpen (rest.not_mem_held xid)
  rw [missing] at spared
  exact spared (Decision.unwritten_error _)

/-- A revision for which nothing has to change leaves the store as it is. -/
theorem run_revise_of_nothing {revision : Session → Revision} (rest : m.AtRest)
    (stored : m.sessions.get? xid = some session) (nothing : revision session = .ok none) :
    (revise xid revision).run.run m = (.ok (session, session), m) := by
  have spared : Spares m (revise xid revision) _ :=
    .revise revision rest.isOpen (rest.not_mem_held xid)
  rw [stored, Decision.revise_of_nothing nothing] at spared
  exact spared (Decision.unwritten_ok _)

/-- In a session that does not hold the row the release finds nothing, unless the session itself is
missing, and leaves the store as it is. -/
theorem run_releaseIn_of_free (rest : m.AtRest)
    (free : ∀ session, m.sessions.get? xid = some session → ¬ target.heldBy session = true) :
    ∃ result, (releaseIn target xid).run.run m = (result, m) ∧
      (result = .ok 0 ∨
        m.sessions.get? xid = none ∧ result = .error (.notFound (.session xid))) := by
  cases stored : m.sessions.get? xid with
  | none =>
    have run := run_revise_of_missing (Session.releaseRow target) rest stored
    exact ⟨_, run_bind_of_error m _ run, .inr ⟨rfl, rfl⟩⟩
  | some session =>
    have nothing : session.releaseRow target = .ok none := by
      rw [Session.releaseRow_eq, if_neg (free session stored)]
    refine ⟨.ok 0, ?_, .inl rfl⟩
    rw [releaseIn, run_bind_of_ok m _ (run_revise_of_nothing rest stored nothing)]
    dsimp only
    rw [target.release_eq, holders_eq_zero nothing, if_neg (Nat.lt_irrefl 0)]
    rfl

/-- Where no session that the target speaks about holds the row, its release finds nothing, unless
the session that the target names is missing, and leaves the store as it is. -/
theorem run_releaseInAll_of_none (rest : m.AtRest)
    (none : m.sessions.toList.filter target.holdsIn = []) :
    ∃ result, (releaseInAll target (targets target m)).run.run m = (result, m) ∧
      (result = .ok 0 ∨ ∃ xid, target.xid = some xid ∧
        m.sessions.get? xid = .none ∧ result = .error (.notFound (.session xid))) := by
  cases named : target.xid with
  | none =>
    have nobody : targets target m = [] := by
      rw [targets, named, ← LockTarget.holdsIn_of_unnamed named, none]
      rfl
    rw [nobody]
    exact ⟨_, rfl, .inl rfl⟩
  | some xid =>
    have only : targets target m = [xid] := by rw [targets, named]
    have free : ∀ session, m.sessions.get? xid = some session →
        ¬ target.heldBy session = true := by
      intro session stored held
      obtain rfl := SessionTable.xid_of_get? stored
      have holds : target.holdsIn session = true := by
        simp [LockTarget.holdsIn, LockTarget.concerns, named, held]
      exact List.filter_eq_nil_iff.1 none session ((m.sessions.mem_toList_iff _).2 stored) holds
    obtain ⟨result, run, found⟩ := run_releaseIn_of_free rest free
    refine ⟨result, ?_, found.imp_right fun missing => ⟨xid, rfl, missing⟩⟩
    rw [only, run_releaseInAll_of_named named, run]

/-! ## The command -/

theorem AtRest.told (rest : s.AtRest) (command : Command) : (s.told command).AtRest :=
  ⟨rest.isOpen, rest.free⟩

/-- The command with a target that names the row in full goes on to release the row. -/
theorem run_deleteLock (valid : target.validate = .ok ()) :
    (deleteLock target).run.run s = (do
      let released ← releaseInAll target (targets target (s.told (.deleteLock target)))
      if released = 0 then
        throw (.notFound (.rowLock target.resourceId target.row.table target.row.key))
      return released : StoreM Nat).run.run (s.told (.deleteLock target)) := by
  rw [deleteLock, announce, tell, run_bind_of_ok s _ (run_modify s _), valid,
    run_bind_of_ok _ _ (run_answer _ _), run_bind_of_ok _ _ (run_get _)]
  rfl

/-- A failure in one of the sessions is the answer of the command. -/
theorem run_deleteLock_of_error (valid : target.validate = .ok ()) {e : Error}
    (run : (releaseInAll target (targets target (s.told (.deleteLock target)))).run.run
      (s.told (.deleteLock target)) = (.error e, next)) :
    (deleteLock target).run.run s = (.error e, next) := by
  rw [run_deleteLock valid, run_bind_of_error _ _ run]

/-- The command answers how many branches have released the row, and there must be one. -/
theorem run_deleteLock_of_ok (valid : target.validate = .ok ()) {count : Nat}
    (run : (releaseInAll target (targets target (s.told (.deleteLock target)))).run.run
      (s.told (.deleteLock target)) = (.ok count, next)) :
    (deleteLock target).run.run s =
      (if count = 0 then
        .error (.notFound (.rowLock target.resourceId target.row.table target.row.key))
      else .ok count, next) := by
  rw [run_deleteLock valid, run_bind_of_ok _ _ run]
  dsimp only
  split
  · rw [run_bind_of_error _ _ (run_throw _ _)]
  · rfl

/-- Where a session that the target speaks about holds the row, these sessions are chosen. -/
theorem targets_eq (some : s.sessions.toList.filter target.holdsIn ≠ []) :
    targets target s = (s.sessions.toList.filter target.holdsIn).map Session.xid := by
  cases named : target.xid with
  | none => rw [targets, named, LockTarget.holdsIn_of_unnamed named]
  | some xid =>
    have own : ∀ x ∈ (s.sessions.toList.filter target.holdsIn).map Session.xid, x = xid := by
      intro x hx
      obtain ⟨session, hsession, rfl⟩ := List.mem_map.1 hx
      exact LockTarget.xid_eq_of_holdsIn (List.mem_filter.1 hsession).2 xid named
    have distinct : ((s.sessions.toList.filter target.holdsIn).map Session.xid).Nodup :=
      s.sessions.nodup_xids.sublist (List.filter_sublist.map Session.xid)
    rw [targets, named]
    -- A list without repetitions in which only one xid occurs has that one.
    have copies := List.eq_replicate_iff.2 ⟨rfl, own⟩
    have atMost : ((s.sessions.toList.filter target.holdsIn).map Session.xid).length ≤ 1 := by
      rw [copies] at distinct
      exact List.nodup_replicate.1 distinct
    have atLeast : 0 < ((s.sessions.toList.filter target.holdsIn).map Session.xid).length :=
      List.length_pos_iff.2 fun empty => some (List.map_eq_nil_iff.1 empty)
    rw [copies, Nat.le_antisymm atMost atLeast]
    rfl

/-- Where no session that the target speaks about holds the row, the command does not find the row,
or not even the session that the target names. The command is announced, and that is all. -/
theorem run_deleteLock_of_none (rest : s.AtRest) (valid : target.validate = .ok ())
    (none : s.sessions.toList.filter target.holdsIn = []) :
    ∃ what, (deleteLock target).run.run s
        = (.error (.notFound what), s.told (.deleteLock target)) ∧
      (what = .rowLock target.resourceId target.row.table target.row.key ∨
        ∃ xid, target.xid = some xid ∧ s.sessions.get? xid = .none ∧ what = .session xid) := by
  obtain ⟨result, run, rfl | ⟨xid, named, missing, rfl⟩⟩ :=
    run_releaseInAll_of_none (rest.told (.deleteLock target)) none
  · exact ⟨_, run_deleteLock_of_ok valid run, .inl rfl⟩
  · exact ⟨_, run_deleteLock_of_error valid run, .inr ⟨xid, named, missing, rfl⟩⟩

/-- The sessions that the target speaks about and that hold the row are stored. -/
theorem get?_of_mem_filter {holds : Session → Bool}
    (h : session ∈ s.sessions.toList.filter holds) :
    s.sessions.get? session.xid = some session ∧ holds session = true :=
  ⟨(s.sessions.mem_toList_iff session).1 (List.mem_filter.1 h).1, (List.mem_filter.1 h).2⟩

/-- A stored session is chosen by its xid exactly if it holds the row. -/
theorem xid_mem_map_filter_iff {holds : Session → Bool}
    (stored : s.sessions.get? session.xid = some session) :
    session.xid ∈ (s.sessions.toList.filter holds).map Session.xid ↔ holds session = true := by
  constructor
  · intro h
    obtain ⟨other, hother, same⟩ := List.mem_map.1 h
    obtain ⟨found, holds⟩ := get?_of_mem_filter hother
    rw [same, stored] at found
    rwa [Option.some.inj found]
  · intro holds
    exact List.mem_map_of_mem
      (List.mem_filter.2 ⟨(s.sessions.mem_toList_iff session).2 stored, holds⟩)

/-- The branches that hold the row are counted session by session. -/
theorem map_holdersOf {holds : Session → Bool} :
    ((s.sessions.toList.filter holds).map Session.xid).map (holdersOf target s.sessions) =
      (s.sessions.toList.filter holds).map target.holders := by
  rw [List.map_map]
  refine List.map_congr_left fun session hsession => ?_
  rw [Function.comp_apply, holdersOf, (get?_of_mem_filter hsession).1]
  rfl

/-- Where sessions hold the row, some branches do. -/
theorem sum_holders_ne_zero {all : List Session} (some : all.filter target.holdsIn ≠ []) :
    ((all.filter target.holdsIn).map target.holders).sum ≠ 0 := by
  obtain ⟨session, hsession⟩ := List.exists_mem_of_ne_nil _ some
  have held : target.heldBy session = true :=
    (Bool.and_eq_true_iff.1 (List.mem_filter.1 hsession).2).2
  have one := (target.heldBy_iff_holders_pos session).1 held
  exact Nat.ne_of_gt (List.sum_pos_iff_exists_pos_nat.2 ⟨_, List.mem_map_of_mem hsession, one⟩)

/-- Where sessions that the target speaks about hold the row, the command takes it away from all of
them, unless the log fails. -/
theorem run_deleteLock_of_some (rest : s.AtRest) (valid : target.validate = .ok ())
    (checked : s.sessions.Every fun session => checkImage session.xid session = .ok ())
    (some : s.sessions.toList.filter target.holdsIn ≠ [])
    (plain : Plain ((deleteLock target).run.run s).1) :
    ∃ next, (deleteLock target).run.run s =
        (.ok ((s.sessions.toList.filter target.holdsIn).map target.holders).sum, next) ∧
      (∀ xid, next.sessions.get? xid =
        (s.sessions.get? xid).map (target.released s.clock)) ∧
      next.lsn = s.lsn + UInt64.ofNat (s.sessions.toList.filter target.holdsIn).length ∧
      next.AtRest := by
  let told := s.told (.deleteLock target)
  let holding := s.sessions.toList.filter target.holdsIn
  have chosen : targets target told = holding.map Session.xid := targets_eq some
  have named : ∀ x ∈ target.xid, ∀ xid ∈ holding.map Session.xid, x = xid := by
    intro x hx xid hxid
    obtain ⟨session, hsession, rfl⟩ := List.mem_map.1 hxid
    exact (LockTarget.xid_eq_of_holdsIn (get?_of_mem_filter hsession).2 x hx).symm
  have distinct : (holding.map Session.xid).Nodup :=
    s.sessions.nodup_xids.sublist (List.filter_sublist.map Session.xid)
  have held : ∀ xid ∈ holding.map Session.xid, ∃ session, told.sessions.get? xid = .some session ∧
      checkImage xid session = .ok () ∧ target.heldBy session = true := by
    intro xid hxid
    obtain ⟨session, hsession, rfl⟩ := List.mem_map.1 hxid
    obtain ⟨stored, holds⟩ := get?_of_mem_filter hsession
    exact ⟨session, stored, checked _ session stored, (Bool.and_eq_true_iff.1 holds).2⟩
  have plain' : Plain ((releaseInAll target (holding.map Session.xid)).run.run told).1 := by
    rcases run : (releaseInAll target (holding.map Session.xid)).run.run told with
      ⟨e | count, next⟩
    · rw [run_deleteLock_of_error valid (chosen ▸ run)] at plain
      exact plain
    · exact plain_ok count
  obtain ⟨next, run, released⟩ :=
    run_releaseInAll named distinct (rest.told (.deleteLock target)) held plain'
  have images (xid : Xid) :
      next.sessions.get? xid = (s.sessions.get? xid).map (target.released s.clock) := by
    rw [released.sessions]
    show (s.sessions.get? xid).map _ = _
    cases stored : s.sessions.get? xid with
    | none => rfl
    | some session =>
      obtain rfl := SessionTable.xid_of_get? stored
      simp only [Option.map_some, LockTarget.released, holding, xid_mem_map_filter_iff stored]
      rfl
  rw [show told.sessions = s.sessions from rfl, map_holdersOf] at run
  refine ⟨next, ?_, images, ?_, released.rest⟩
  · rw [run_deleteLock_of_ok valid (chosen ▸ run), if_neg (sum_holders_ne_zero some)]
  · rw [released.lsn, List.length_map]
    rfl

/-! ## Histories -/

section Histories

variable {settings : StoreSettings} {now : Millis} {start : Store} {events : List Event}
  {attempts : List Attempt}

/-- Whatever happened to a store that was opened in an empty directory, every session of it passes
the check of images. -/
theorem checked_of_history
    (opened : openFiles settings now { snapshot := none, log := [] } = .ok start)
    (history : History start events attempts s)
    (fits : (∃ settings now, Event.crash settings now ∈ events) →
      ∀ attempt ∈ attempts, (Codec.record.encode attempt.record).length < UInt32.size) :
    s.sessions.Every fun session => checkImage session.xid session = .ok () := by
  refine every_of_history (fun xid session clock stored => ?_) opened history fits
  obtain ⟨rfl, named, own, distinct⟩ := stored
  exact checkImage_eq_ok_iff.2 ⟨rfl, named, own, distinct⟩

/-- The log of a store takes records while the store is open. -/
theorem running_of_history
    (opened : openFiles settings now { snapshot := none, log := [] } = .ok start)
    (history : History start events attempts s)
    (fits : (∃ settings now, Event.crash settings now ∈ events) →
      ∀ attempt ∈ attempts, (Codec.record.encode attempt.record).length < UInt32.size)
    (isOpen : s.closed = false) : s.log.running = true := by
  have first : start.Every (fun _ => True) (∃ settings now, Event.crash settings now ∈ events) :=
    .of_open .nothing opened
  have kept := first.history history (fun _ _ _ _ _ _ => trivial)
    (fun settings now dies => ⟨settings, now, dies⟩) fits
  rw [kept.running, isOpen]
  rfl

/-- Nothing stands in the way of any change while the store is open, nobody holds a lock and every
operation can be logged. -/
theorem ready_of_history
    (opened : openFiles settings now { snapshot := none, log := [] } = .ok start)
    (history : History start events attempts s)
    (fits : (∃ settings now, Event.crash settings now ∈ events) →
      ∀ attempt ∈ attempts, (Codec.record.encode attempt.record).length < UInt32.size)
    (isOpen : s.closed = false) (free : s.locks.held = [])
    (accepts : ∀ logged, s.Accepts logged) (xid : Xid) : s.Ready xid where
  isOpen := isOpen
  free := free ▸ List.not_mem_nil
  running := running_of_history opened history fits isOpen
  accepts := accepts

end Histories

/-! ## Where nothing stands in the way -/

/-- Where nothing stands in the way of any change, a store is at rest. -/
theorem AtRest.of_ready (ready : ∀ xid, s.Ready xid) : s.AtRest where
  isOpen := (ready default).isOpen
  free := LockTable.ext (List.eq_nil_iff_forall_not_mem.2 fun xid => (ready xid).free)

/-- Where nothing stands in the way, a revision that is not refused by a failure of the log is not
ended by one. -/
theorem Ready.plain_revise (ready : s.Ready xid) (revising : ∀ before, Plain (revision before)) :
    Plain ((revise xid revision).run.run s).1 := by
  have ended := revising_revise s xid revision
  unfold Revising at ended
  rcases ran : (revise xid revision).run.run s with ⟨result, middle⟩
  rw [ran] at ended
  cases ended with
  | refused reason =>
    refine plain_error.2 ?_
    cases reason with
    | closed closed => cases closed.symm.trans ready.isOpen
    | busy held => rfl
    | missing => rfl
    | refused _ refused => exact revising _ _ refused
    | invalid _ _ invalid => exact plain_checkImage _ _ _ invalid
    | unlogged _ _ failed =>
      obtain ⟨_, logged⟩ := exists_handOver ready.running (ready.accepts _)
      cases logged.symm.trans failed
  | kept => exact plain_ok _
  | changed => exact plain_ok _

/-- Where nothing stands in the way, the release of a row in a session is not ended by a failure of
the log. -/
theorem Ready.plain_releaseIn (ready : s.Ready xid) :
    Plain ((releaseIn target xid).run.run s).1 := by
  have plain : Plain ((revise xid (Session.releaseRow target)).run.run s).1 :=
    ready.plain_revise fun _ => plain_ok _
  rcases ran : (revise xid (Session.releaseRow target)).run.run s with ⟨e | images, middle⟩
  · rw [ran] at plain
    have failed : (releaseIn target xid).run.run s = (.error e, middle) :=
      run_bind_of_error s _ ran
    rw [failed]
    exact plain_error.2 (plain_error.1 plain)
  · rw [releaseIn, run_bind_of_ok s _ ran]
    dsimp only
    split
    · exact plain_ok _
    · exact plain_ok _

/-- Nor is the command, if its target names the session. -/
theorem Ready.plain_deleteLock (ready : s.Ready xid) (named : target.xid = some xid)
    (valid : target.validate = .ok ()) : Plain ((deleteLock target).run.run s).1 := by
  let told := s.told (.deleteLock target)
  have only : targets target told = [xid] := by rw [targets, named]
  have plain : Plain ((releaseInAll target (targets target told)).run.run told).1 := by
    rw [only, run_releaseInAll_of_named named]
    have accepts (logged : LogOperation) : told.Accepts logged :=
      ⟨(ready.accepts logged).room, (ready.accepts logged).intime⟩
    exact Ready.plain_releaseIn ⟨ready.isOpen, ready.free, ready.running, accepts⟩
  rcases ran : (releaseInAll target (targets target told)).run.run told with ⟨e | count, middle⟩
  · rw [ran] at plain
    rw [run_deleteLock_of_error valid ran]
    exact plain_error.2 (plain_error.1 plain)
  · rw [run_deleteLock_of_ok valid ran]
    exact .ite (plain_error.2 rfl) (plain_ok count)

/-- With a log that is synced after every write, or before any wait is over, no operation of an open
store is ended by a failure of the log, as long as there is a position for each of its changes. -/
theorem plain_of_prompt {op : Operation} (mutation : op.isUpkeep = false)
    (isOpen : s.closed = false) (running : s.log.running = true)
    (room : s.lsn.toNat + op.mostChanges s < UInt64.size)
    (prompt : s.log.settings.syncPeriod = 0
      ∨ s.log.settings.syncPeriod < s.log.settings.durableWait) : Plain (op.runOn s).1 := by
  rcases ended : (op.runOn s).1 with e | outcome
  · obtain ⟨attempts, attempted⟩ := op.exists_attempts s
    obtain ⟨few, moves, settles⟩ := attempted.of_mutation mutation
    rw [ended] at settles
    cases settles with
    | made _ plain => exact plain
    | @failed _ made last _ failure _ =>
      -- The last record would have failed in a log that runs and takes every record in time.
      obtain ⟨before, after, earlier, lastly, -⟩ := moves.exists_last
      cases lastly with
      | change _ _ => cases failure
      | @fail logged _ _ _ run =>
        have first : s.Every (fun _ => True) False :=
          ⟨fun _ _ _ => trivial, by rw [running, isOpen]; rfl, fun h => by simp [isOpen] at h⟩
        have kept := first.moves earlier (fun _ _ _ _ => trivial) False.elim
        have still : before.log.running = true := by
          rw [kept.running, earlier.frame.2, isOpen]
          rfl
        have position : before.lsn + 1 ≠ 0 := by
          rw [List.length_append, List.length_singleton] at few
          rw [succ_ne_zero_iff, earlier.lsn_eq.1, toNat_add_ofNat (by omega)]
          omega
        obtain ⟨_, written⟩ := exists_handOver still
          ⟨position, earlier.not_timesOut_of_prompt prompt logged⟩
        cases written.symm.trans run
  · exact plain_ok outcome

/-! ## Agreement -/

/-- The row locks that a query shows on all pages together. -/
def lockListing (s : Store) (filter : LockFilter) : List RowLock :=
  Listing.matchingLocks filter s.sessions.toList

/-- The listing shows the row locks of the sessions that the filter accepts. -/
theorem mem_lockListing_iff {filter : LockFilter} {lock : RowLock} :
    lock ∈ s.lockListing filter ↔
      lock ∈ s.sessions.toList.flatMap Session.rowLocks ∧ filter.accepts lock = true := by
  rw [lockListing, (Listing.matchingLocks_perm filter _).mem_iff, List.mem_filter]

/-- Whichever page is asked for, a query counts the rows of the listing and shows those on the
page. -/
theorem listLocks_eq {limit : UInt32} {filter : LockFilter} {page : PageRequest}
    (h : page.validate limit = .ok ()) :
    s.listLocks limit filter page = .ok (page.of (s.lockListing filter)) := by
  rw [listLocks, Listing.locks, h]
  rfl

/-- Every row lock that a query lists is held. -/
theorem mem_rowLocks_of_listLocks {limit : UInt32} {filter : LockFilter} {page : PageRequest}
    {listed : Page RowLock} {lock : RowLock} (answered : s.listLocks limit filter page = .ok listed)
    (hlock : lock ∈ listed.rows) : lock ∈ s.sessions.toList.flatMap Session.rowLocks := by
  cases valid : page.validate limit with
  | error e =>
    -- A page that is not valid is not answered.
    rw [listLocks, Listing.locks, valid] at answered
    cases answered
  | ok _ =>
    rw [listLocks_eq valid] at answered
    cases answered
    exact (mem_lockListing_iff.1 (List.mem_of_mem_drop (List.mem_of_mem_take hlock))).1

/-- If at most ten row locks are held, the first page of the query without conditions has all of
them. -/
theorem slice_lockListing_of_few (few : (s.sessions.toList.flatMap Session.rowLocks).length ≤ 10) :
    PageRequest.slice {} (s.lockListing {}) = s.lockListing {} := by
  have size : (s.lockListing {}).length ≤ 10 := by
    rw [lockListing, Listing.length_matchingLocks]
    exact Nat.le_trans List.countP_le_length few
  exact List.take_of_length_le size

/-- Whichever page is asked for, a query says how many row locks satisfy a filter. -/
def CountsLocks (s : Store) (filter : LockFilter) (total : Nat) : Prop :=
  ∀ limit page, PageRequest.validate page limit = .ok () →
    (s.listLocks limit filter page).map Page.total = .ok total

/-- A query counts the rows of the listing. -/
theorem countsLocks_iff {filter : LockFilter} {total : Nat} :
    s.CountsLocks filter total ↔ (s.lockListing filter).length = total := by
  constructor
  · intro counts
    have one : PageRequest.validate ⟨1, 1⟩ 1 = .ok () := rfl
    have counted := counts 1 ⟨1, 1⟩ one
    rw [listLocks_eq one] at counted
    exact Except.ok.inj counted
  · rintro rfl limit page valid
    rw [listLocks_eq valid]
    rfl

theorem countsLocks_zero_iff {filter : LockFilter} :
    s.CountsLocks filter 0 ↔ s.lockListing filter = [] :=
  countsLocks_iff.trans List.length_eq_zero_iff

/-- What the command answers and leaves is what the release of the row answers and leaves. -/
theorem runOn_deleteLock {result : Except Error Nat}
    (run : (deleteLock target).run.run s = (result, next)) :
    (Operation.command (.deleteLock target)).runOn s =
      (result.map fun count => .reply (.released count), next) := by
  cases result with
  | error e =>
    have executed : (Command.deleteLock target).execute.run.run s = (.error e, next) :=
      run_bind_of_error s _ run
    exact run_bind_of_error s _ executed
  | ok count =>
    have executed : (Command.deleteLock target).execute.run.run s =
        (.ok (.released count), next) := run_bind_of_ok s _ run
    exact run_bind_of_ok s _ executed

/-- What the command for a target answers and leaves agrees with what is listed for the target. -/
structure ReleaseAgrees (target : LockTarget) (s : Store)
    (answer : Except Error Operation.Outcome) (next : Store) : Prop where
  /-- The row is not found exactly if the query for the target counts no row. -/
  missing : (∃ what, answer = .error (.notFound what)) ↔ s.CountsLocks target.filter 0
  /-- Then nothing is written. -/
  unwritten : s.CountsLocks target.filter 0 → s.Untouched next
  /-- Otherwise the answer is the number of branches of which a row is listed, -/
  answer : ¬ s.CountsLocks target.filter 0 → answer = .ok (.reply (.released
    ((s.lockListing target.filter).map fun lock => (lock.xid, lock.branchId)).toFinset.card))
  /-- afterwards the query counts no row, -/
  gone : ¬ s.CountsLocks target.filter 0 → next.CountsLocks target.filter 0
  /-- and the same command does not find the row. -/
  again : ¬ s.CountsLocks target.filter 0 → ∃ what last,
    (Operation.command (.deleteLock target)).runOn next = (.error (.notFound what), last)
  /-- Every other row is still listed as often, whatever is asked for. -/
  others : ∀ filter lock, lock ∉ s.lockListing target.filter →
    (next.lockListing filter).count lock = (s.lockListing filter).count lock
  /-- Every session without a listed row is as it was. -/
  unchanged : ∀ xid, (∀ lock ∈ s.lockListing target.filter, lock.xid ≠ xid) →
    next.sessions.get? xid = s.sessions.get? xid
  /-- One change has been made for each listed session. -/
  lsn : next.lsn = s.lsn +
    UInt64.ofNat ((s.lockListing target.filter).map RowLock.xid).toFinset.card

/-- If nothing is listed for the target, the command finds nothing and writes nothing. -/
theorem releaseAgrees_of_unlisted {result : Except Error Nat} (rest : s.AtRest)
    (valid : target.validate = .ok ()) (unlisted : s.lockListing target.filter = [])
    (ended : (deleteLock target).run.run s = (result, next)) :
    ReleaseAgrees target s (result.map fun count => .reply (.released count)) next := by
  obtain ⟨what, run, -⟩ :=
    run_deleteLock_of_none rest valid (LockTarget.matchingLocks_filter_eq_nil_iff.1 unlisted)
  obtain ⟨rfl, rfl⟩ := Prod.mk.inj (run.symm.trans ended)
  have none : s.CountsLocks target.filter 0 := countsLocks_zero_iff.2 unlisted
  refine ⟨⟨fun _ => none, fun _ => ⟨what, rfl⟩⟩, fun _ => ⟨_, _, _, rfl⟩, (absurd none ·),
    (absurd none ·), (absurd none ·), ?others, ?unchanged, ?lsn⟩
  case others => exact fun _ _ _ => rfl
  case unchanged => exact fun _ _ => rfl
  case lsn =>
    rw [unlisted]
    exact (UInt64.add_zero s.lsn).symm

/-- If rows are listed for the target, the command releases exactly these, unless the log fails. -/
theorem releaseAgrees_of_listed {result : Except Error Nat} (rest : s.AtRest)
    (apart : Session.Apart s.sessions.toList)
    (checked : s.sessions.Every fun session => checkImage session.xid session = .ok ())
    (valid : target.validate = .ok ()) (listed : s.lockListing target.filter ≠ [])
    (ended : (deleteLock target).run.run s = (result, next)) (plain : Plain result) :
    ReleaseAgrees target s (result.map fun count => .reply (.released count)) next := by
  have some : s.sessions.toList.filter target.holdsIn ≠ [] := fun none =>
    listed (LockTarget.matchingLocks_filter_eq_nil_iff.2 none)
  obtain ⟨next, run, images, lsn, still⟩ :=
    run_deleteLock_of_some rest valid checked some (by rwa [ended])
  obtain ⟨rfl, rfl⟩ := Prod.mk.inj (run.symm.trans ended)
  have sessions : next.sessions.toList = s.sessions.toList.map (target.released s.clock) :=
    SessionTable.toList_eq_map (target.xid_released s.clock) images
  have gone : next.lockListing target.filter = [] := by
    rw [lockListing, sessions]
    exact LockTarget.matchingLocks_filter_released apart
  have counted : ¬ s.CountsLocks target.filter 0 := fun none =>
    listed (countsLocks_zero_iff.1 none)
  refine ⟨⟨fun ⟨what, failed⟩ => (by cases failed), (absurd · counted)⟩, (absurd · counted),
    fun _ => ?answer, fun _ => countsLocks_zero_iff.2 gone, fun _ => ?again,
    fun filter lock other => ?others, fun xid unlisted => ?unchanged, ?lsn⟩
  case answer =>
    rw [lockListing, LockTarget.card_branches apart]
    rfl
  case again =>
    obtain ⟨what, run, -⟩ :=
      run_deleteLock_of_none still valid (LockTarget.matchingLocks_filter_eq_nil_iff.1 gone)
    exact ⟨what, _, runOn_deleteLock run⟩
  case others =>
    rw [lockListing, sessions]
    exact LockTarget.count_matchingLocks_released apart filter other
  case unchanged =>
    rw [images]
    cases stored : s.sessions.get? xid with
    | none => rfl
    | some session =>
      obtain rfl := SessionTable.xid_of_get? stored
      have mem : session ∈ s.sessions.toList := (s.sessions.mem_toList_iff session).2 stored
      exact congrArg Option.some (LockTarget.released_eq_self mem unlisted)
  case lsn => rw [lsn, lockListing, LockTarget.card_sessions apart]

/-- Listing and releasing agree: in a store at rest whose sessions are apart and valid, the command
for a target releases exactly the rows that are listed for it, unless the log fails. -/
theorem releaseAgrees (rest : s.AtRest) (apart : Session.Apart s.sessions.toList)
    (checked : s.sessions.Every fun session => checkImage session.xid session = .ok ())
    (valid : target.validate = .ok ()) {answer : Except Error Operation.Outcome}
    (run : (Operation.command (.deleteLock target)).runOn s = (answer, next))
    (written : Plain answer) : ReleaseAgrees target s answer next := by
  rcases ended : (deleteLock target).run.run s with ⟨result, last⟩
  obtain ⟨rfl, rfl⟩ := Prod.mk.inj ((runOn_deleteLock ended).symm.trans run)
  by_cases listed : s.lockListing target.filter = []
  · exact releaseAgrees_of_unlisted rest valid listed ended
  · exact releaseAgrees_of_listed rest apart checked valid listed ended written.of_map

/-- Listing and releasing agree, whatever happened to a store that was opened in an empty directory:
if the store is open and no lock is held, then the command for a target that names a row in full
releases exactly the rows that are listed for it, unless a write fails. No write fails with a log
that is synced after every write, or before any wait is over, as long as there is a position for each
change. If the process may have died, the records of all changes that were attempted have to be
readable. -/
theorem release_agrees_with_listing {settings : StoreSettings} {now : Millis} {start : Store}
    {events : List Event} {attempts : List Attempt} {answer : Except Error Operation.Outcome}
    (opened : openFiles settings now { snapshot := none, log := [] } = .ok start)
    (history : History start events attempts s)
    (fits : (∃ settings now, Event.crash settings now ∈ events) →
      ∀ attempt ∈ attempts, (Codec.record.encode attempt.record).length < UInt32.size)
    (isOpen : s.closed = false) (free : s.locks.held = []) (valid : target.validate = .ok ())
    (run : (Operation.command (.deleteLock target)).runOn s = (answer, next)) :
    (∀ (store : Store) (filter : LockFilter) (limit : UInt32) (page : PageRequest),
      page.validate limit = .ok () →
        store.listLocks limit filter page = .ok (page.of (store.lockListing filter))) ∧
      (Plain answer → ReleaseAgrees target s answer next) ∧
      (s.lsn.toNat + (Operation.command (.deleteLock target)).mostChanges s < UInt64.size →
        s.log.settings.syncPeriod = 0
          ∨ s.log.settings.syncPeriod < s.log.settings.durableWait → Plain answer) := by
  have rest : s.AtRest := ⟨isOpen, LockTable.ext free⟩
  refine ⟨fun _ _ _ _ => listLocks_eq, ?agrees, ?plain⟩
  case agrees =>
    exact releaseAgrees rest (apart_of_history opened history fits)
      (checked_of_history opened history fits) valid run
  case plain =>
    intro room prompt
    have plain : Plain ((Operation.command (.deleteLock target)).runOn s).1 :=
      plain_of_prompt rfl isOpen (running_of_history opened history fits isOpen) room prompt
    rwa [run] at plain

/-- Three branches of two sessions hold a row, and one of them names it twice: the command releases
it in all of them, and then it is listed no more. -/
theorem release_agrees_with_listing_of_three_branches :
    ∃ (start s next : Store) (events : List Event) (attempts : List Attempt),
      openFiles {} 0 { snapshot := none, log := [] } = .ok start ∧
      History start events attempts s ∧ s.closed = false ∧ s.locks.held = [] ∧
      (Operation.command (.deleteLock { resourceId := "db", row := ⟨"t", "1"⟩ })).runOn s =
        (.ok (.reply (.released 3)), next) ∧
      ReleaseAgrees { resourceId := "db", row := ⟨"t", "1"⟩ } s (.ok (.reply (.released 3))) next ∧
      next.CountsLocks (LockTarget.filter { resourceId := "db", row := ⟨"t", "1"⟩ }) 0 := by
  let start := resume {} 0 { snapshot := none, log := [] } (Recovered.ofSnapshot Snapshot.empty)
  let target : LockTarget := { resourceId := "db", row := ⟨"t", "1"⟩ }
  let starts := Operation.begin "h" "app" "" "tx" 1
  let joins (xid : Xid) (keys : String) :=
    Operation.register xid { type := .automatic, resourceId := "db", lockKey := some keys }
  have opened : openFiles {} 0 { snapshot := none, log := [] } = .ok start :=
    openFiles_nothing {} 0
  obtain ⟨s1, s2, s3, s4, s, next, begins, second, third, begins', fifth, isOpen, free, run⟩ :
      ∃ s1 s2 s3 s4 s next : Store,
        starts.runOn start = (.ok (.begun "h:1"), s1)
          ∧ (joins "h:1" "t:1,1;u:2").runOn s1 = (.ok (.id 2), s2)
          ∧ (joins "h:1" "t:1").runOn s2 = (.ok (.id 3), s3)
          ∧ starts.runOn s3 = (.ok (.begun "h:4"), s4)
          ∧ (joins "h:4" "u:2; t : 1").runOn s4 = (.ok (.id 5), s)
          ∧ s.closed = false ∧ s.locks.held = []
          ∧ (Operation.command (.deleteLock target)).runOn s = (.ok (.reply (.released 3)), next) :=
    ⟨_, _, _, _, _, _, runOn_of_toOption (by decide +kernel), runOn_of_toOption (by decide +kernel),
      runOn_of_toOption (by decide +kernel), runOn_of_toOption (by decide +kernel),
      runOn_of_toOption (by decide +kernel), by decide +kernel, by decide +kernel,
      runOn_of_toOption (by decide +kernel)⟩
  obtain ⟨_, -, run1, regular1⟩ := Run.start.exists_step .nil begins rfl rfl (by simp)
  obtain ⟨_, -, run2, regular2⟩ := run1.exists_step regular1 second rfl rfl (by simp)
  obtain ⟨_, -, run3, regular3⟩ := run2.exists_step regular2 third rfl rfl (by simp)
  obtain ⟨_, -, run4, regular4⟩ := run3.exists_step regular3 begins' rfl rfl (by simp)
  obtain ⟨_, -, before, -⟩ := run4.exists_step regular4 fifth rfl rfl (by simp)
  obtain ⟨-, agrees, -⟩ := release_agrees_with_listing opened before.history (by simp) isOpen free
    (by decide +kernel) run
  have agrees := agrees (plain_ok _)
  have listed : ¬ s.CountsLocks target.filter 0 := fun none => by
    obtain ⟨what, failed⟩ := agrees.missing.2 none
    cases failed
  exact ⟨start, s, next, _, _, opened, before.history, isOpen, free, run, agrees,
    agrees.gone listed⟩

end Store

end SessionRegistry
