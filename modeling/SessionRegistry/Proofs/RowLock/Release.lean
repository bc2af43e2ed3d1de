import Mathlib.Data.Finset.Card
import SessionRegistry.Proofs.Query.LockPaging
import SessionRegistry.Proofs.RowLock.Rewriting

/-!
# The rows that a release takes away

A release chooses sessions and branches by what they hold, and writes the lock keys of these
branches anew. A query chooses among all rows that are held. Both choose the same rows: what is held
after a release is what was held before without the rows that the query for the target shows.

## Main definitions

* `LockTarget.filter`: the query for the rows that a target is about.
* `LockTarget.holdsIn`: whether a release of the target changes a session.
* `LockTarget.released`: what a release of the target makes of a session.

## Main results

* `LockTarget.mem_rowLocks_and_accepts`: which rows of a session the query shows.
* `LockTarget.rowLocks_released_perm`: which rows a session holds after the release.
* `LockTarget.matchingLocks_released`: what is listed after the release.
* `LockTarget.card_branches`, `LockTarget.card_sessions`: how many branches and sessions the query
  shows.
-/

namespace SessionRegistry

namespace LockTarget

variable {target : LockTarget} {session : Session} {branch : Branch} {now : Millis}

/-- The query for the rows that a target is about. -/
def filter (target : LockTarget) : LockFilter where
  xid := target.xid
  branchId := target.branchId
  resourceId := some target.resourceId
  table := some target.row.table
  key := some target.row.key

/-- Whether a session is one of those that the target speaks about. -/
def concerns (target : LockTarget) (session : Session) : Bool :=
  target.xid.all (session.xid == ·)

/-- Whether a session that the target speaks about holds the row. -/
def holdsIn (target : LockTarget) (session : Session) : Bool :=
  target.concerns session && target.heldBy session

/-- A target that names no session speaks about all of them. -/
theorem holdsIn_of_unnamed (unnamed : target.xid = none) : target.holdsIn = target.heldBy := by
  funext session
  rw [holdsIn, concerns, unnamed]
  rfl

/-- What a release makes of a session: a session that holds the row loses it and is dated, and every
other one stays as it is. -/
def released (target : LockTarget) (now : Millis) (session : Session) : Session :=
  if target.holdsIn session then { target.without session with modifiedTime := now } else session

@[simp]
theorem xid_released (target : LockTarget) (now : Millis) (session : Session) :
    (target.released now session).xid = session.xid := by
  unfold released
  split <;> rfl

/-! ## The rows that the query shows -/

/-- The query shows a row of a session exactly if the target speaks about the session and the branch
and names the row. -/
theorem accepts_rowLock {row : Row} :
    target.filter.accepts (session.rowLock branch row) = true ↔
      target.concerns session = true ∧ target.covers branch = true ∧ row = target.row := by
  obtain ⟨table, key⟩ := row
  obtain ⟨xid, branchId, resourceId, ⟨table', key'⟩⟩ := target
  simp only [LockFilter.accepts, filter, Session.rowLock, concerns, covers, Option.all_some,
    Bool.and_eq_true, beq_iff_eq, Row.mk.injEq]
  constructor
  · rintro ⟨⟨⟨⟨inScope, id⟩, resource⟩, sameTable⟩, sameKey⟩
    exact ⟨inScope, ⟨resource, id⟩, sameTable, sameKey⟩
  · rintro ⟨inScope, ⟨resource, id⟩, sameTable, sameKey⟩
    exact ⟨⟨⟨⟨inScope, id⟩, resource⟩, sameTable⟩, sameKey⟩

/-- The rows of a session that the query shows are those of the branches that hold the row, if the
target speaks about the session. -/
theorem mem_rowLocks_and_accepts {lock : RowLock} :
    lock ∈ session.rowLocks ∧ target.filter.accepts lock = true ↔
      target.concerns session = true ∧ ∃ branch ∈ session.branches,
        target.heldByBranch branch = true ∧ session.rowLock branch target.row = lock := by
  rw [Session.mem_rowLocks]
  constructor
  · rintro ⟨⟨branch, hbranch, row, hrow, rfl⟩, accepted⟩
    obtain ⟨inScope, covered, rfl⟩ := accepts_rowLock.1 accepted
    exact ⟨inScope, branch, hbranch, heldByBranch_iff.2 ⟨covered, hrow⟩, rfl⟩
  · rintro ⟨inScope, branch, hbranch, held, rfl⟩
    obtain ⟨covered, hrow⟩ := heldByBranch_iff.1 held
    exact ⟨⟨branch, hbranch, target.row, hrow, rfl⟩, accepts_rowLock.2 ⟨inScope, covered, rfl⟩⟩

/-- The query shows a row of a session exactly if a release changes the session. -/
theorem holdsIn_iff :
    target.holdsIn session = true ↔
      ∃ lock ∈ session.rowLocks, target.filter.accepts lock = true := by
  rw [holdsIn, Bool.and_eq_true, heldBy, List.any_eq_true]
  simp only [mem_rowLocks_and_accepts]
  constructor
  · rintro ⟨inScope, branch, hbranch, held⟩
    exact ⟨_, inScope, branch, hbranch, held, rfl⟩
  · rintro ⟨lock, inScope, branch, hbranch, held, -⟩
    exact ⟨inScope, branch, hbranch, held⟩

/-! ## The rows that are left -/

/-- The rows that a branch holds after the release are those that it held before without those that
the query shows, if the target speaks about its session. -/
theorem rowLocks_releaseBranch_perm (inScope : target.concerns session = true) :
    ((target.releaseBranch branch).lockedRows.map
        (session.rowLock (target.releaseBranch branch))).Perm
      ((branch.lockedRows.map (session.rowLock branch)).filter
        (!target.filter.accepts ·)) := by
  have same : session.rowLock (target.releaseBranch branch) = session.rowLock branch := by
    obtain ⟨lockKey, is⟩ := target.releaseBranch_eq branch
    rw [is]
    rfl
  rw [same, List.filter_map]
  refine List.Perm.map _ ?_
  by_cases covered : target.covers branch = true
  · -- Of the rows of a branch that the target speaks about the query shows the one that it names.
    have chosen : ∀ row ∈ branch.lockedRows,
        ((fun lock => !target.filter.accepts lock) ∘ session.rowLock branch) row =
          (row != target.row) := by
      intro row _
      rw [Function.comp_apply, Bool.eq_iff_iff, Bool.not_eq_true', ← Bool.not_eq_true,
        accepts_rowLock, bne_iff_ne]
      exact ⟨fun other is => other ⟨inScope, covered, is⟩, fun other is => other is.2.2⟩
    rw [List.filter_congr chosen]
    by_cases held : target.heldByBranch branch = true
    · exact lockedRows_releaseBranch held
    · rw [releaseBranch_of_not_heldByBranch held, List.filter_eq_self.2]
      intro row hrow
      refine bne_iff_ne.2 fun is => held ?_
      exact heldByBranch_iff.2 ⟨covered, is ▸ hrow⟩
  · have held : ¬ target.heldByBranch branch = true := fun held =>
      covered (heldByBranch_iff.1 held).1
    rw [releaseBranch_of_not_heldByBranch held, List.filter_eq_self.2]
    intro row _
    rw [Function.comp_apply, Bool.not_eq_true', ← Bool.not_eq_true, accepts_rowLock]
    exact fun accepted => covered accepted.2.1

/-- The rows that a session holds after the release are those that it held before without those that
the query shows. -/
theorem rowLocks_released_perm (target : LockTarget) (now : Millis) (session : Session) :
    (target.released now session).rowLocks.Perm
      (session.rowLocks.filter (!target.filter.accepts ·)) := by
  unfold released
  split
  · next holds =>
    have inScope : target.concerns session = true := (Bool.and_eq_true_iff.1 holds).1
    rw [Session.rowLocks_eq, Session.rowLocks_eq, List.filter_flatMap, without, List.flatMap_map]
    exact List.Perm.flatMap_left _ fun branch _ => rowLocks_releaseBranch_perm inScope
  · next free =>
    rw [List.filter_eq_self.2]
    intro lock hlock
    rw [Bool.not_eq_true', ← Bool.not_eq_true]
    exact fun accepted => free (holdsIn_iff.2 ⟨lock, hlock, accepted⟩)

/-! ## Listings -/

section Listings

open Listing

variable {all : List Session}

/-- Whatever is asked for, what is listed after the release is what was listed before without the
rows that the query for the target shows. -/
theorem matchingLocks_released (apart : Session.Apart all) (filter : LockFilter) :
    matchingLocks filter (all.map (target.released now)) =
      (matchingLocks filter all).filter (!target.filter.accepts ·) := by
  have rows : ((all.map (target.released now)).flatMap Session.rowLocks).Perm
      ((all.flatMap Session.rowLocks).filter (!target.filter.accepts ·)) := by
    rw [List.flatMap_map, List.filter_flatMap]
    exact List.Perm.flatMap_left _ fun session _ => target.rowLocks_released_perm now session
  refine eq_of_perm_of_pairwise apart (fun lock h => ?_) (pairwise_matchingLocks _ _)
    ((pairwise_matchingLocks _ _).filter _) ?_
  · exact mem_rowLocks_of_mem_matchingLocks (List.mem_filter.1 h).1
  · have listed : (matchingLocks filter (all.map (target.released now))).Perm
        (((all.flatMap Session.rowLocks).filter (!target.filter.accepts ·)).filter
          filter.accepts) := (matchingLocks_perm _ _).trans (rows.filter _)
    rw [List.filter_comm] at listed
    exact listed.trans ((matchingLocks_perm _ _).symm.filter _)

/-- The rows that are listed for the target are those of the branches that hold the row, in the
sessions that a release changes. -/
theorem mem_matchingLocks_filter {lock : RowLock} :
    lock ∈ matchingLocks target.filter all ↔
      ∃ session ∈ all.filter target.holdsIn, ∃ branch ∈ session.branches,
        target.heldByBranch branch = true ∧ session.rowLock branch target.row = lock := by
  rw [(matchingLocks_perm target.filter all).mem_iff, List.mem_filter, List.mem_flatMap]
  constructor
  · rintro ⟨⟨session, hsession, hlock⟩, accepted⟩
    have holds : target.holdsIn session = true := holdsIn_iff.2 ⟨lock, hlock, accepted⟩
    exact ⟨session, List.mem_filter.2 ⟨hsession, holds⟩,
      (mem_rowLocks_and_accepts.1 ⟨hlock, accepted⟩).2⟩
  · rintro ⟨session, hsession, branch, hbranch, held, rfl⟩
    obtain ⟨hsession, holds⟩ := List.mem_filter.1 hsession
    have inScope : target.concerns session = true := (Bool.and_eq_true_iff.1 holds).1
    have shown := mem_rowLocks_and_accepts.2 ⟨inScope, branch, hbranch, held, rfl⟩
    exact ⟨⟨session, hsession, shown.1⟩, shown.2⟩

/-- If the target names a session, the row is held in that one alone. -/
theorem xid_eq_of_holdsIn (holds : target.holdsIn session = true) :
    ∀ xid ∈ target.xid, session.xid = xid := by
  intro xid named
  have inScope := (Bool.and_eq_true_iff.1 holds).1
  rw [concerns, Option.mem_def.1 named] at inScope
  exact beq_iff_eq.1 inScope

/-- A session in which the row is held has a branch that holds it. -/
theorem exists_heldByBranch (holds : target.holdsIn session = true) :
    ∃ branch ∈ session.branches, target.heldByBranch branch = true :=
  List.any_eq_true.1 (Bool.and_eq_true_iff.1 holds).2

/-- Nothing is listed for the target exactly if a release changes no session. -/
theorem matchingLocks_filter_eq_nil_iff :
    matchingLocks target.filter all = [] ↔ all.filter target.holdsIn = [] := by
  rw [List.eq_nil_iff_forall_not_mem, List.eq_nil_iff_forall_not_mem]
  constructor
  · intro nothing session hsession
    obtain ⟨branch, hbranch, held⟩ := exists_heldByBranch (List.mem_filter.1 hsession).2
    exact nothing _ (mem_matchingLocks_filter.2 ⟨session, hsession, branch, hbranch, held, rfl⟩)
  · intro nothing lock hlock
    obtain ⟨session, hsession, -⟩ := mem_matchingLocks_filter.1 hlock
    exact nothing session hsession

/-- After the release nothing is listed for the target any more. -/
theorem matchingLocks_filter_released (apart : Session.Apart all) :
    matchingLocks target.filter (all.map (target.released now)) = [] := by
  rw [matchingLocks_released apart, List.filter_eq_nil_iff]
  intro lock hlock
  have accepted := (List.mem_filter.1 ((matchingLocks_perm _ _).mem_iff.1 hlock)).2
  simp [accepted]

/-- Every row that is not listed for the target is listed as often as before the release. -/
theorem count_matchingLocks_released (apart : Session.Apart all) (filter : LockFilter)
    {lock : RowLock} (other : lock ∉ matchingLocks target.filter all) :
    (matchingLocks filter (all.map (target.released now))).count lock =
      (matchingLocks filter all).count lock := by
  rw [matchingLocks_released apart]
  by_cases accepted : target.filter.accepts lock = true
  · -- A row that the query for the target would show is held by nobody.
    have unlisted : lock ∉ matchingLocks filter all := fun h =>
      other ((matchingLocks_perm _ _).mem_iff.2
        (List.mem_filter.2 ⟨mem_rowLocks_of_mem_matchingLocks h, accepted⟩))
    rw [List.count_eq_zero_of_not_mem unlisted, List.count_eq_zero_of_not_mem]
    exact fun h => unlisted (List.mem_filter.1 h).1
  · exact List.count_filter (by simp [accepted])

/-- A session of which no row is listed for the target is not changed by the release. -/
theorem released_eq_self (hsession : session ∈ all)
    (unlisted : ∀ lock ∈ matchingLocks target.filter all, lock.xid ≠ session.xid) :
    target.released now session = session := by
  refine if_neg fun holds => ?_
  obtain ⟨branch, hbranch, held⟩ := exists_heldByBranch holds
  refine unlisted (session.rowLock branch target.row) (mem_matchingLocks_filter.2 ?_) rfl
  exact ⟨session, List.mem_filter.2 ⟨hsession, holds⟩, branch, hbranch, held, rfl⟩

/-- As many branches are listed for the target as hold the row in the sessions that a release
changes. -/
theorem card_branches (apart : Session.Apart all) :
    ((matchingLocks target.filter all).map fun lock => (lock.xid, lock.branchId)).toFinset.card =
      ((all.filter target.holdsIn).map target.holders).sum := by
  let holding (session : Session) : List (Xid × BranchId) :=
    (session.branches.filter target.heldByBranch).map fun branch => (session.xid, branch.id)
  have same : ((matchingLocks target.filter all).map fun lock =>
      (lock.xid, lock.branchId)).toFinset =
        ((all.filter target.holdsIn).flatMap holding).toFinset := by
    ext pair
    simp only [List.mem_toFinset, List.mem_map, mem_matchingLocks_filter, List.mem_flatMap,
      holding, List.mem_filter]
    constructor
    · rintro ⟨_, ⟨session, hsession, branch, hbranch, held, rfl⟩, rfl⟩
      exact ⟨session, hsession, branch, ⟨hbranch, held⟩, rfl⟩
    · rintro ⟨session, hsession, branch, ⟨hbranch, held⟩, rfl⟩
      exact ⟨_, ⟨session, hsession, branch, hbranch, held, rfl⟩, rfl⟩
  -- The sessions differ in their xids, and the branches of a session in their numbers.
  have distinct : ((all.filter target.holdsIn).flatMap holding).Nodup := by
    refine List.nodup_flatMap.2 ⟨fun session hsession => ?_, ?_⟩
    · have ids := apart.ids session (List.mem_filter.1 hsession).1
      have kept : ((session.branches.filter target.heldByBranch).map Branch.id).Nodup :=
        ids.sublist (List.filter_sublist.map Branch.id)
      exact List.Nodup.of_map Prod.snd (by simpa [holding, Function.comp_def] using kept)
    · have xids : (all.filter target.holdsIn).Pairwise fun a b => a.xid ≠ b.xid :=
        (List.pairwise_map.1 apart.xids).filter _
      refine xids.imp fun {a b} differ => ?_
      intro pair first second
      obtain ⟨_, -, rfl⟩ := List.mem_map.1 first
      obtain ⟨_, -, is⟩ := List.mem_map.1 second
      exact differ (congrArg Prod.fst is).symm
  rw [same, List.toFinset_card_of_nodup distinct, List.length_flatMap]
  refine congrArg List.sum (List.map_congr_left fun session _ => ?_)
  rw [List.length_map, holders, List.countP_eq_length_filter]

/-- As many sessions are listed for the target as a release changes. -/
theorem card_sessions (apart : Session.Apart all) :
    ((matchingLocks target.filter all).map RowLock.xid).toFinset.card =
      (all.filter target.holdsIn).length := by
  have same : ((matchingLocks target.filter all).map RowLock.xid).toFinset =
      ((all.filter target.holdsIn).map Session.xid).toFinset := by
    ext xid
    simp only [List.mem_toFinset, List.mem_map, mem_matchingLocks_filter]
    constructor
    · rintro ⟨_, ⟨session, hsession, branch, -, -, rfl⟩, rfl⟩
      exact ⟨session, hsession, rfl⟩
    · rintro ⟨session, hsession, rfl⟩
      obtain ⟨branch, hbranch, held⟩ := exists_heldByBranch (List.mem_filter.1 hsession).2
      exact ⟨_, ⟨session, hsession, branch, hbranch, held, rfl⟩, rfl⟩
  have distinct : ((all.filter target.holdsIn).map Session.xid).Nodup :=
    apart.xids.sublist (List.filter_sublist.map Session.xid)
  rw [same, List.toFinset_card_of_nodup distinct, List.length_map]

end Listings

end LockTarget

end SessionRegistry
