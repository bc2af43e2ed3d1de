import SessionRegistry.Proofs.Session.Description
import SessionRegistry.Proofs.Store.Stability
import SessionRegistry.Proofs.Store.Timeout

/-!
# Descriptive data is immutable

What describes a session and its branches does not change from one moment of a run to another, for
as long as the session and the branch are there. A moment changes the list of branches by one branch
at most, and the rows of a branch are never more than before, and never fewer unless a row is
released.

## Main definitions

* `Moment.Releases`, `Moment.Registers`: what happens to rows and branches at a moment.

## Main results

* `Operation.MayLog.evolves`: every image that is logged evolves from the stored one.
* `Moment.Regular.evolves`: so does a session at a moment of a regular run.
* `Store.description_stable`: descriptive data is immutable, over runs of any length.
-/

namespace SessionRegistry

/-! ## Logged images -/

namespace Operation

variable {s : Store} {op : Operation} {image : Session}

/-- A registration changes the session that it names. -/
theorem MayLog.xid_of_register {xid : Xid} {registration : Registration}
    (h : (Operation.register xid registration).MayLog s (.upsert image)) : image.xid = xid := by
  generalize hlogged : LogOperation.upsert image = logged at h
  cases h with
  | register _ _ _ valid =>
    obtain rfl := LogOperation.upsert.inj hlogged
    exact (Store.of_checkImage_eq_ok valid).1
  | revise revises => cases revises

/-- An image that an operation logs evolves from the stored one, unless the operation puts an image
as it is given or begins a session. -/
theorem MayLog.evolves (h : op.MayLog s (.upsert image)) (given : ∀ session, op ≠ .put session)
    (others : ∀ address applicationId serviceGroup name timeout,
      op ≠ .begin address applicationId serviceGroup name timeout) :
    ∃ before, s.sessions.get? image.xid = some before
      ∧ image.Evolves op.Releases (op.Registers before) before := by
  obtain ⟨before, after, stored, makes, rfl⟩ := h.makes given others
  refine ⟨before, stored, Session.Evolves.modifiedAt ?_ s.clock⟩
  cases makes with
  | @deleteBranch _ id => exact before.evolves_removeBranch id
  | @register xid registration _ id =>
    refine Session.evolves_addBranch ⟨registration, id, s.clock, ?_, rfl⟩
    rw [SessionTable.xid_of_get? stored, h.xid_of_register]
  | revise revises revised => exact revises.evolves revised

/-- An operation makes one change, unless all images that it logs have the branches of the stored
ones: it releases a row in many sessions, or it sweeps and logs no image. -/
theorem stays_or_mostChanges_le_one (op : Operation) :
    (∀ s image, op.MayLog s (.upsert image) →
      ∃ before, s.sessions.get? image.xid = some before ∧ image.Stays op.Releases before)
      ∨ ∀ s, op.mostChanges s ≤ 1 := by
  cases op with
  | command c =>
    cases c with
    | deleteLock target =>
      left
      intro s image h
      obtain ⟨before, after, stored, makes, rfl⟩ := h.makes (by simp) (by simp)
      cases makes with
      | revise revises revised =>
        exact ⟨before, stored, (revises.stays (by simp) revised).modifiedAt s.clock⟩
    | _ => exact .inr fun _ => Nat.le_refl 1
  | sweep retention now =>
    left
    intro s image h
    obtain ⟨before, after, stored, makes, rfl⟩ := h.makes (by simp) (by simp)
    cases makes with
    | revise revises _ => cases revises
  | _ => exact .inr fun _ => Nat.le_refl 1

theorem Attempts.length_le_one {attempts : List Attempt} (h : op.Attempts s attempts)
    (once : op.mostChanges s ≤ 1) : attempts.length ≤ 1 := by
  cases h with
  | upkeep _ => exact Nat.zero_le 1
  | moves _ few _ _ => exact few.trans once

end Operation

namespace Store

variable {may : Store → LogOperation → Prop} {s t : Store} {attempts : List Attempt} {xid : Xid}
  {session : Session}

/-- A session that is stored after moves with one attempt at most was stored before, or is an image
that was logged while the stored sessions were those from before. -/
theorem Moves.get?_of_few (moves : Moves may s attempts t) (made : AllMade attempts)
    (few : attempts.length ≤ 1) (found : t.sessions.get? xid = some session) :
    s.sessions.get? xid = some session
      ∨ ∃ m, m.sessions = s.sessions ∧ may m (.upsert session) := by
  cases attempts with
  | nil =>
    obtain ⟨_, _, _, rfl⟩ := moves.eq_of_nil
    exact .inl found
  | cons attempt rest =>
    obtain rfl : rest = [] := List.eq_nil_of_length_eq_zero (by simpa using few)
    rw [← List.nil_append [attempt]] at moves
    obtain ⟨before, after, quiet, move, quiet'⟩ := moves.exists_last
    obtain ⟨locks, trail, nextId, rfl⟩ := quiet.eq_of_nil
    obtain ⟨_, _, _, rfl⟩ := quiet'.eq_of_nil
    rcases move.get?_of_made made found with stored | logged
    · exact .inl stored
    · exact .inr ⟨{ s with locks, trail, nextId }, rfl, logged⟩

end Store

/-! ## Moments -/

namespace Moment

/-- A row is released at this moment. -/
def Releases (moment : Moment) : Prop :=
  ∃ op, moment.event = .perform op ∧ op.Releases

/-- A branch is registered for a session at this moment. -/
def Registers (moment : Moment) (session : Session) (branch : Branch) : Prop :=
  ∃ op, moment.event = .perform op ∧ op.Registers session branch

variable {exposed : Prop} {moment : Moment} {xid : Xid} {after : Session}

/-- A session that is stored after a moment of a regular run evolves from the one that was stored
under its xid, unless it begins at that moment. -/
theorem Regular.evolves (h : moment.Regular exposed) (same : moment.begun ≠ some xid)
    (found : moment.next.sessions.get? xid = some after) :
    ∃ before, moment.store.sessions.get? xid = some before
      ∧ after.Evolves moment.Releases (moment.Registers before) before := by
  have still (stored : moment.store.sessions.get? xid = some after) :
      ∃ before, moment.store.sessions.get? xid = some before
        ∧ after.Evolves moment.Releases (moment.Registers before) before :=
    ⟨after, stored, (Session.Stays.refl after).evolves⟩
  cases h.shows with
  | still unchanged => exact still (unchanged ▸ found)
  | begins fresh begun _ _ sessions =>
    have other : fresh.xid ≠ xid := fun again => same (again ▸ begun)
    rw [sessions, SessionTable.get?_insert_of_ne _ _ other] at found
    exact still found
  | moves op hop given others moves =>
    -- What the operation does is what happens at the moment.
    have lift {before : Session}
        (evolves : after.Evolves op.Releases (op.Registers before) before) :
        after.Evolves moment.Releases (moment.Registers before) before :=
      evolves.mono (fun releases => ⟨op, hop, releases⟩) fun _ registers => ⟨op, hop, registers⟩
    rcases op.stays_or_mostChanges_le_one with stays | once
    · obtain ⟨before, stored, stays⟩ := moves.related
        (R := fun before after => after.Stays op.Releases before) Session.Stays.refl
        (fun first second => second.trans first) stays found
      exact ⟨before, stored, lift stays.evolves⟩
    · have few := (h.happens.effects op hop).attempts.length_le_one (once moment.store)
      rcases moves.get?_of_few h.made few found with stored | ⟨m, origin, logged⟩
      · exact still stored
      · obtain ⟨before, stored, evolves⟩ := logged.evolves given others
        rw [origin, SessionTable.xid_of_get? found] at stored
        exact ⟨before, stored, lift evolves⟩

end Moment

/-! ## Runs -/

namespace Store

variable {exposed : Prop} {s t start : Store} {past moments : List Moment} {xid : Xid}
  {before : Session} {settings : StoreSettings} {now : Millis}

/-- Without a begin a session agrees with every earlier image of it. -/
theorem Run.alike {after : Session} (run : Run s moments t)
    (regular : ∀ moment ∈ moments, moment.Regular exposed)
    (same : ∀ moment ∈ moments, moment.begun ≠ some xid)
    (found : t.sessions.get? xid = some after) :
    ∃ before, s.sessions.get? xid = some before ∧ after.Alike before := by
  refine run.related (R := fun before after => after.Alike before) Session.Alike.refl
    (fun first second => second.trans first) ?_ found
  intro moment hmoment after found
  obtain ⟨before, stored, evolves⟩ := (regular moment hmoment).evolves (same moment hmoment) found
  exact ⟨before, stored, evolves.toAlike⟩

/-- A branch keeps what branches keep for as long as it is there. -/
theorem Run.keeps_branch {earlier : Branch} (run : Run s moments t)
    (regular : ∀ moment ∈ moments,
      moment.Regular exposed ∧ moment.store.sessions.Every Session.Proper)
    (same : ∀ moment ∈ moments, moment.begun ≠ some xid)
    (stored : s.sessions.get? xid = some before) (proper : before.Proper)
    (hearlier : earlier ∈ before.branches)
    (stays : ∀ moment ∈ moments, ∃ session, moment.next.sessions.get? xid = some session
      ∧ session.hasBranch earlier.id = true) :
    ∃ after, t.sessions.get? xid = some after ∧ after.hasBranch earlier.id = true
      ∧ ∀ branch ∈ after.branches, branch.id = earlier.id →
        branch.Keeps (∃ moment ∈ moments, moment.Releases) earlier := by
  refine run.related_branch
    (R := fun earlier branch => branch.Keeps (∃ moment ∈ moments, moment.Releases) earlier)
    Branch.Keeps.refl (fun first second => second.trans first) ?_ stored proper.distinct hearlier
    stays
  intro moment hmoment before after stored found earlier hearlier branch hbranch again
  obtain ⟨here, proper⟩ := regular moment hmoment
  obtain ⟨before', stored', evolves⟩ := here.evolves (same moment hmoment) found
  cases stored.symm.trans stored'
  have keeps := evolves.branches.keeps (proper xid before stored).distinct hearlier hbranch again
  exact keeps.mono fun released => ⟨moment, hmoment, released⟩

/-! ## Main result -/

/-- Whatever happens to a store that is opened in an empty directory, as long as no image is put as
it is given and no change fails: a session says the same of itself for as long as it is there, and
so does a branch of it, whose rows become fewer only where a row is released. Each moment leaves the
branches in their places, or appends the one that it registers, or takes one out. The session is the
same one if its xid is not begun again, for which it is enough that there are numbers. -/
theorem description_stable
    (opened : openFiles settings now { snapshot := none, log := [] } = .ok start)
    (run : Run start past s) (later : Run s moments t) (regular : Regular exposed (past ++ moments))
    (stored : s.sessions.get? xid = some before)
    (same : ((past ++ moments).map Moment.drawn).sum < UInt64.size - 1
      ∨ ∀ moment ∈ moments, moment.begun ≠ some xid) :
    (∀ after, t.sessions.get? xid = some after → after.Alike before)
      ∧ (∀ earlier ∈ before.branches,
        (∀ moment ∈ moments, ∃ session, moment.next.sessions.get? xid = some session
          ∧ session.hasBranch earlier.id = true) →
        ∃ after, t.sessions.get? xid = some after ∧ after.hasBranch earlier.id = true
          ∧ ∀ branch ∈ after.branches, branch.id = earlier.id →
            branch.Keeps (∃ moment ∈ moments, moment.Releases) earlier)
      ∧ ∀ moment ∈ moments, ∀ after, moment.next.sessions.get? xid = some after →
        ∃ session, moment.store.sessions.get? xid = some session
          ∧ after.Evolves moment.Releases (moment.Registers session) session := by
  have all := ((run.trans later).proper opened regular).1
  have these : ∀ moment ∈ moments,
      moment.Regular exposed ∧ moment.store.sessions.Every Session.Proper :=
    fun moment hmoment => all moment (List.mem_append_right past hmoment)
  have same : ∀ moment ∈ moments, moment.begun ≠ some xid := by
    rcases same with few | same
    · exact run.not_begun_again opened later regular few stored
    · exact same
  refine ⟨fun after found => ?_, fun earlier hearlier stays => ?_,
    fun moment hmoment after found => ?_⟩
  · obtain ⟨before', stored', alike⟩ :=
      later.alike (fun moment hmoment => (these moment hmoment).1) same found
    cases stored.symm.trans stored'
    exact alike
  · have proper := (run.proper opened regular.left).2 xid before stored
    exact later.keeps_branch these same stored proper hearlier stays
  · exact (these moment hmoment).1.evolves (same moment hmoment) found

/-- A branch that holds two rows loses one of them, and another branch is registered: the branch
keeps its data and the other row. -/
theorem description_stable_of_release_and_register :
    ∃ (start s t : Store) (past moments : List Moment) (before after : Session) (earlier : Branch),
      openFiles {} 0 { snapshot := none, log := [] } = .ok start
        ∧ Run start past s ∧ Run s moments t ∧ Regular False (past ++ moments)
        ∧ moments.map Moment.event
          = [.perform (.command (.deleteLock ⟨some "h:1", none, "db", ⟨"t", "1"⟩⟩)),
            .perform (.register "h:1" { type := .tcc, resourceId := "db" })]
        ∧ s.sessions.get? "h:1" = some before ∧ before.branches = [earlier] ∧ earlier.id = 2
        ∧ earlier.lockedRows = [⟨"t", "1"⟩, ⟨"t", "2"⟩]
        ∧ t.sessions.get? "h:1" = some after ∧ after.Alike before
        ∧ after.branches.map (fun branch => (branch.id, branch.lockedRows))
          = [(2, [⟨"t", "2"⟩]), (3, [])]
        ∧ ∀ branch ∈ after.branches, branch.id = 2 →
          branch.Keeps (∃ moment ∈ moments, moment.Releases) earlier := by
  let start := resume {} 0 { snapshot := none, log := [] } (Recovered.ofSnapshot Snapshot.empty)
  let shown (s : Store) := (s.sessions.get? "h:1").map fun session =>
    session.branches.map fun branch => (branch.id, branch.lockedRows)
  let target : LockTarget := ⟨some "h:1", none, "db", ⟨"t", "1"⟩⟩
  have opened : openFiles {} 0 { snapshot := none, log := [] } = .ok start :=
    openFiles_nothing {} 0
  obtain ⟨s1, s2, s3, s4, begins, registers, releases, registers', early, middle, late, once⟩ :
      ∃ s1 s2 s3 s4 : Store,
        (Operation.begin "h" "app" "" "tx" 1).runOn start = (.ok (.begun "h:1"), s1)
          ∧ (Operation.register "h:1"
            { type := .tcc, resourceId := "db", lockKey := some "t:1,2" }).runOn s1
            = (.ok (.id 2), s2)
          ∧ (Operation.command (.deleteLock target)).runOn s2 = (.ok (.reply (.released 1)), s3)
          ∧ (Operation.register "h:1" { type := .tcc, resourceId := "db" }).runOn s3
            = (.ok (.id 3), s4)
          ∧ shown s2 = some [(2, [⟨"t", "1"⟩, ⟨"t", "2"⟩])] ∧ shown s3 = some [(2, [⟨"t", "2"⟩])]
          ∧ shown s4 = some [(2, [⟨"t", "2"⟩]), (3, [])]
          ∧ (Operation.command (.deleteLock target)).mostChanges s2 = 1 :=
    ⟨_, _, _, _, runOn_of_toOption (by decide +kernel), runOn_of_toOption (by decide +kernel),
      runOn_of_toOption (by decide +kernel), runOn_of_toOption (by decide +kernel),
      by decide +kernel, by decide +kernel, by decide +kernel, by decide +kernel⟩
  obtain ⟨a1, -, run1, regular1⟩ := Run.start.exists_step .nil begins rfl rfl (by simp)
  obtain ⟨a2, -, run2, regular2⟩ := run1.exists_step regular1 registers rfl rfl (by simp)
  obtain ⟨a3, released, run3, regular3⟩ := run2.exists_step regular2 releases rfl once (by simp)
  obtain ⟨a4, registered, -, regular4⟩ := run3.exists_step regular3 registers' rfl rfl (by simp)
  have later := (Run.start.step released).step registered
  obtain ⟨before, stored, was⟩ := Option.map_eq_some_iff.1 early
  obtain ⟨session, stored', was'⟩ := Option.map_eq_some_iff.1 middle
  obtain ⟨after, found, is⟩ := Option.map_eq_some_iff.1 late
  obtain ⟨earlier, branches, same⟩ := List.map_eq_singleton_iff.1 was
  obtain ⟨id, rows⟩ := Prod.mk.inj same
  obtain ⟨alike, kept, -⟩ := description_stable opened run2 later regular4 stored
    (.inr (by simp [Moment.begun]))
  have has : ∀ {session : Session} {rows : List Row},
      (2, rows) ∈ session.branches.map (fun branch => (branch.id, branch.lockedRows)) →
      session.hasBranch 2 = true := by
    intro session rows h
    obtain ⟨branch, hbranch, same⟩ := List.mem_map.1 h
    exact List.any_eq_true.2 ⟨branch, hbranch, beq_iff_eq.2 (Prod.mk.inj same).1⟩
  have stays : session.hasBranch earlier.id = true ∧ after.hasBranch earlier.id = true := by
    rw [id]
    exact ⟨has (was' ▸ List.mem_cons_self), has (is ▸ List.mem_cons_self)⟩
  obtain ⟨_, found', -, keeps⟩ := kept earlier (branches ▸ List.mem_singleton_self _)
    (by simpa using ⟨⟨session, stored', stays.1⟩, after, found, stays.2⟩)
  cases found.symm.trans found'
  rw [id] at keeps
  exact ⟨start, s2, s4, _, _, before, after, earlier, opened, run2, later, regular4, rfl, stored,
    branches, id, rows, found, alike after found, is, keeps⟩

end Store

end SessionRegistry
