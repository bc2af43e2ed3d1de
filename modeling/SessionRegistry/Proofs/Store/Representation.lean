import SessionRegistry.Proofs.Store.CrashRecovery
import SessionRegistry.Proofs.Store.Stability
import SessionRegistry.Proofs.Text.Trimming

/-!
# How sessions are stored

Every session of a store stands under its own xid, which is not blank, and owns its branches: they
bear its xid and have different numbers. Images that are put are checked for this, and recovery,
which checks nothing, finds only images that were checked when they were logged.

Where the process may die, records are assumed to have fewer than `2 ^ 32` bytes. That is the limit of
the format of the log: a frame holds the length of its record in four bytes, and behind a longer
record other bytes than those of frames would be read as records.

## Main definitions

* `Session.StoredUnder`: what is required of a session that is stored under an xid.

## Main results

* `Store.checkImage_eq_ok_iff`: the check of images lets pass what satisfies the requirements.
* `Store.storedUnder_of_history`: every session of a store satisfies the requirements.
-/

namespace SessionRegistry

/-- What is required of a session that is stored under an xid. -/
structure Session.StoredUnder (xid : Xid) (session : Session) : Prop where
  /-- The session is the one that the xid names. -/
  key : session.xid = xid
  /-- There is something left of the xid when it is trimmed. -/
  named : Text.trim xid ≠ ""
  /-- Every branch belongs to the session. -/
  own : ∀ branch ∈ session.branches, branch.xid = xid
  /-- The numbers of the branches are different. -/
  distinct : (session.branches.map Branch.id).Nodup

namespace Store

/-- Branches pass the check exactly if they name their session and have different numbers, none of
which occurred before. -/
theorem checkBranches_eq_ok_iff {owner : Xid} {seen : List BranchId} {branches : List Branch} :
    checkBranches owner seen branches = .ok () ↔
      (∀ branch ∈ branches, branch.xid = owner ∧ branch.id ∉ seen)
        ∧ (branches.map Branch.id).Nodup := by
  refine ⟨of_checkBranches_eq_ok, ?_⟩
  intro ⟨own, distinct⟩
  induction branches generalizing seen with
  | nil => rfl
  | cons first rest ih =>
    obtain ⟨ours, fresh⟩ := own first List.mem_cons_self
    obtain ⟨other, distinct⟩ := List.nodup_cons.1 distinct
    rw [checkBranches, if_neg (not_not_intro ours), if_neg fresh]
    apply ih _ distinct
    intro branch hbranch
    obtain ⟨ours, fresh⟩ := own branch (List.mem_cons_of_mem first hbranch)
    refine ⟨ours, fun seenNow => ?_⟩
    -- The number of the first branch counts as seen for the others.
    rcases List.mem_cons.1 seenNow with same | before
    · exact other (same ▸ List.mem_map_of_mem hbranch)
    · exact fresh before

/-- The check of images lets pass exactly what may be stored under the xid. -/
theorem checkImage_eq_ok_iff {xid : Xid} {session : Session} :
    checkImage xid session = .ok () ↔ session.StoredUnder xid := by
  constructor
  · intro checked
    obtain ⟨same, checked⟩ := of_guard_eq_ok checked
    obtain ⟨named, checked⟩ := of_guard_eq_ok checked
    obtain ⟨own, distinct⟩ := of_checkBranches_eq_ok checked
    have key : session.xid = xid := Decidable.not_not.1 same
    refine ⟨key, key ▸ (Text.trim_ne_empty_iff _).2 named, ?_, distinct⟩
    intro branch hbranch
    exact (own branch hbranch).1.trans key
  · intro stored
    obtain rfl := stored.key
    rw [checkImage, if_neg (not_not_intro rfl), if_neg ((Text.trim_ne_empty_iff _).1 stored.named)]
    have fresh : ∀ branch ∈ session.branches, branch.xid = session.xid ∧ branch.id ∉ [] :=
      fun branch hbranch => ⟨stored.own branch hbranch, List.not_mem_nil⟩
    exact checkBranches_eq_ok_iff.2 ⟨fresh, stored.distinct⟩

/-- Whatever happened to a store that was opened in an empty directory, every session of it has a
property that every image has which passed the check, whenever it was logged. -/
theorem every_of_history {P : Session → Prop} {settings : StoreSettings} {now : Millis}
    {start s : Store} {events : List Event} {attempts : List Attempt}
    (checked : ∀ xid (session : Session) clock, session.StoredUnder xid →
      P { session with modifiedTime := clock })
    (opened : openFiles settings now { snapshot := none, log := [] } = .ok start)
    (history : History start events attempts s)
    (fits : (∃ settings now, Event.crash settings now ∈ events) →
      ∀ attempt ∈ attempts, (Codec.record.encode attempt.record).length < UInt32.size) :
    s.sessions.Every P := by
  have first : start.Every P (∃ settings now, Event.crash settings now ∈ events) :=
    .of_open .nothing opened
  refine (first.history history ?logged (fun settings now dies => ⟨settings, now, dies⟩) fits).shown
  case logged =>
    intro op _ m image _ logged
    obtain ⟨xid, session, valid, rfl⟩ := logged.checked
    exact checked xid session _ (checkImage_eq_ok_iff.1 valid)

/-- Whatever happened to a store that was opened in an empty directory, every session of it
satisfies the requirements on stored sessions, also where images were put as they were given. If the
process may have died, the records of all changes that were attempted have to be readable. -/
theorem storedUnder_of_history {settings : StoreSettings} {now : Millis} {start s : Store}
    {events : List Event} {attempts : List Attempt}
    (opened : openFiles settings now { snapshot := none, log := [] } = .ok start)
    (history : History start events attempts s)
    (fits : (∃ settings now, Event.crash settings now ∈ events) →
      ∀ attempt ∈ attempts, (Codec.record.encode attempt.record).length < UInt32.size) :
    ∀ xid session, s.sessions.get? xid = some session → session.StoredUnder xid := by
  have first : start.Every (fun session => session.StoredUnder session.xid)
      (∃ settings now, Event.crash settings now ∈ events) := .of_open .nothing opened
  have kept := first.history history ?logged (fun settings now dies => ⟨settings, now, dies⟩) fits
  case logged =>
    intro op _ m image _ logged
    obtain ⟨xid, session, checked, rfl⟩ := logged.checked
    -- The time of the change plays no part in the requirements.
    obtain ⟨rfl, named, own, distinct⟩ := checkImage_eq_ok_iff.1 checked
    exact ⟨rfl, named, own, distinct⟩
  intro xid session found
  have stored := kept.shown xid session found
  rwa [SessionTable.xid_of_get? found] at stored

/-- An image that has a branch twice is put in vain, the session with one such branch is put, and
the process dies: a history after which the session is stored. -/
theorem storedUnder_of_puts_and_crash :
    ∃ (start s : Store) (attempts : List Attempt) (branch : Branch) (session : Session),
      openFiles {} 0 { snapshot := none, log := [] } = .ok start
        ∧ History start
          [.perform (.put
              { Session.start "A" 1 "app" "tx" 1000 with branches := [branch, branch] }),
            .perform (.put { Session.start "A" 1 "app" "tx" 1000 with branches := [branch] }),
            .crash {} 5] attempts s
        ∧ (∀ attempt ∈ attempts, (Codec.record.encode attempt.record).length < UInt32.size)
        ∧ s.sessions.get? "A" = some session ∧ session.StoredUnder "A" := by
  let start := resume {} 0 { snapshot := none, log := [] } (Recovered.ofSnapshot Snapshot.empty)
  let branch := (Session.start "A" 1 "app" "tx" 1000).newBranch 2 .tcc "db" 1000
  let bad := { Session.start "A" 1 "app" "tx" 1000 with branches := [branch, branch] }
  let good := { Session.start "A" 1 "app" "tx" 1000 with branches := [branch] }
  have opened : openFiles {} 0 { snapshot := none, log := [] } = .ok start :=
    openFiles_nothing {} 0
  have refused : (Operation.put bad).Attempts start [] := by
    obtain ⟨attempts, attempted⟩ := (Operation.put bad).exists_attempts start
    obtain ⟨-, moves, -⟩ := attempted.of_mutation rfl
    suffices attempts = [] from this ▸ attempted
    apply List.eq_nil_iff_forall_not_mem.2
    intro attempt hattempt
    obtain ⟨_, _, allowed, -⟩ := moves.exists_of_mem attempt hattempt
    cases allowed with
    | put valid => exact absurd (checkImage_eq_ok_iff.1 valid).distinct (by decide)
    | revise revises => cases revises
  have valid : checkImage good.xid good = .ok () := by
    refine checkImage_eq_ok_iff.2 ⟨rfl, by decide, ?_, by decide⟩
    intro b hb
    rw [List.mem_singleton.1 hb]
    rfl
  let idle := ((Operation.put bad).runOn start).2
  have isOpen : idle.closed = false := by decide +kernel
  have accepts : idle.Accepts (idle.upsertOf good) := by decide +kernel
  have free : good.xid ∉ idle.locks.held := by decide +kernel
  have running : idle.log.running = true := by decide +kernel
  have readable : Frame.Fits (idle.nextRecord (idle.upsertOf good)) := by decide +kernel
  obtain ⟨stored, put, shown, -⟩ :=
    exists_next_put isOpen free valid running accepts (by decide +kernel)
  have history := (History.start.step (.perform refused)).step put
  have fits : ∀ attempt ∈ [(⟨idle.nextRecord (idle.upsertOf good), none⟩ : Attempt)],
      (Codec.record.encode attempt.record).length < UInt32.size := by
    intro attempt hattempt
    rw [List.mem_singleton.1 hattempt]
    decide +kernel
  obtain ⟨intact, lsn⟩ := intact_of_nothing opened
  have kept := (intact.history history ⟨by simp [AllMade], fits, by simp [lsn, UInt64.size]⟩).1
  -- The refused image adds no number, and those of the other one are at most two.
  have small : UpTo 2 stored := by
    have files : idle.files = start.files := by decide +kernel
    have before : UpTo 2 idle := by
      refine ⟨by decide +kernel, fun found recovers => ?_⟩
      rw [files] at recovers
      exact (UpTo.of_nothing {} 0 2).found found recovers
    have intact : idle.Intact := (intact.history (History.start.step (.perform refused))
      ⟨allMade_nil, by simp, by simp [lsn, UInt64.size]⟩).1
    obtain ⟨-, after⟩ := before.put intact (by decide) isOpen free valid running accepts readable
      (by decide +kernel)
    cases put with
    | perform _ => exact after
  obtain ⟨_, s, crashed⟩ :=
    (kept.exists_next_iff (.crash {} 5)).2 (small.findsNumber (by decide) _)
  cases crashed with
  | crash reopened =>
    have found : s.sessions.get? "A" = some { good with modifiedTime := idle.clock } := by
      rw [kept.sessions_of_open reopened, shown]
      exact SessionTable.get?_insert_self _ _
    have history := history.step (.crash reopened)
    exact ⟨start, s, _, branch, _, opened, history, fits, found,
      storedUnder_of_history opened history (fun _ => fits) "A" _ found⟩

end Store

end SessionRegistry
