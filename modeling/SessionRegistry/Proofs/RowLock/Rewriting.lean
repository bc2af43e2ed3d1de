import Mathlib.Data.List.Forall2
import Mathlib.Data.List.Perm.Subperm
import SessionRegistry.Proofs.RowLock.Holding
import SessionRegistry.Proofs.RowLock.Regrouping

/-!
# The release of a row rewrites lock keys

The lock key of a branch that holds the row is read, the row is taken out, and what is left is
written. A branch that does not hold the row keeps its lock key as it was written, blanks and
malformed pieces included. Afterwards nobody holds the row.

## Main definitions

* `LockTarget.Rewrites`: what a release does to a branch.
* `LockTarget.Releases`: what a release does to a session, and how many branches it counts.

## Main results

* `LockTarget.rewrites_releaseBranch`, `LockTarget.heldByBranch_releaseBranch`: one branch.
* `LockTarget.release_rewrites_lock_keys`: every session and every target.
-/

namespace SessionRegistry

namespace LockTarget

variable {target : LockTarget} {branch : Branch} {session : Session}

/-! ## One branch -/

/-- What the release of a row does to a branch. Nothing but the lock key may change, and it changes
only if the branch holds the row. Then the branch holds its other rows, each as often, sorted into
their tables, and it has no lock key if there are none. -/
structure Rewrites (target : LockTarget) (before after : Branch) : Prop where
  frame : { after with lockKey := before.lockKey } = before
  unheld : target.heldByBranch before = false → after.lockKey = before.lockKey
  rows : target.heldByBranch before = true →
    LockKey.Regrouped (before.lockedRows.filter (· != target.row)) after.lockedRows
  absent : target.heldByBranch before = true →
    (after.lockKey = none ↔ before.lockedRows.filter (· != target.row) = [])

/-- A branch that held a row holds the other rows after the release. -/
theorem lockedRows_releaseBranch (held : target.heldByBranch branch = true) :
    (target.releaseBranch branch).lockedRows.Perm
      (branch.lockedRows.filter (· != target.row)) := by
  rw [releaseBranch_of_heldByBranch held]
  exact LockKey.rows_format_perm fun row hrow =>
    LockKey.legible_of_mem_rows (List.mem_filter.1 hrow).1

/-- The release of a row adds none. -/
theorem lockedRows_releaseBranch_subperm (target : LockTarget) (branch : Branch) :
    (target.releaseBranch branch).lockedRows.Subperm branch.lockedRows := by
  by_cases held : target.heldByBranch branch = true
  · exact (lockedRows_releaseBranch held).subperm.trans List.filter_sublist.subperm
  · rw [releaseBranch_of_not_heldByBranch held]

theorem rewrites_releaseBranch (target : LockTarget) (branch : Branch) :
    target.Rewrites branch (target.releaseBranch branch) where
  frame := by
    obtain ⟨lockKey, is⟩ := target.releaseBranch_eq branch
    rw [is]
  unheld free := by
    rw [releaseBranch_of_not_heldByBranch (Bool.eq_false_iff.1 free)]
  rows held := by
    rw [releaseBranch_of_heldByBranch held]
    apply LockKey.regrouped_rows_format
    exact fun row hrow => LockKey.legible_of_mem_rows (List.mem_filter.1 hrow).1
  absent held := by
    rw [releaseBranch_of_heldByBranch held]
    exact LockKey.format_eq_none_iff _

/-- No branch holds the row after the release. -/
theorem heldByBranch_releaseBranch (target : LockTarget) (branch : Branch) :
    target.heldByBranch (target.releaseBranch branch) = false := by
  by_cases held : target.heldByBranch branch = true
  · -- What was written for the other rows does not name the row when it is read.
    rw [Bool.eq_false_iff, Ne, heldByBranch_iff, (lockedRows_releaseBranch held).mem_iff,
      List.mem_filter]
    rintro ⟨-, -, differs⟩
    exact bne_iff_ne.1 differs rfl
  · rw [releaseBranch_of_not_heldByBranch held]
    exact Bool.eq_false_iff.2 held

/-- A branch loses rows exactly if it held the row. -/
theorem length_lockedRows_releaseBranch_lt_iff :
    (target.releaseBranch branch).lockedRows.length < branch.lockedRows.length ↔
      target.heldByBranch branch = true := by
  by_cases held : target.heldByBranch branch = true
  · rw [(lockedRows_releaseBranch held).length_eq]
    refine iff_of_true (List.length_filter_lt_length_iff_exists.2 ?_) held
    exact ⟨target.row, (heldByBranch_iff.1 held).2, by simp⟩
  · rw [releaseBranch_of_not_heldByBranch held]
    exact iff_of_false (lt_irrefl _) held

/-! ## All branches of a session -/

/-- What the release of a row does to a session, and which number of branches it reports: that of
the branches which held the row, and these are the ones which have fewer rows than before. -/
structure Releases (target : LockTarget) (before after : Session) (count : Nat) : Prop where
  frame : { after with branches := before.branches } = before
  branches : List.Forall₂ target.Rewrites before.branches after.branches
  counted : count = (before.branches.filter target.heldByBranch).length
  fewer : count = (before.branches.zip after.branches).countP fun (old, new) =>
    new.lockedRows.length < old.lockedRows.length
  held_iff : target.heldBy before = true ↔ 0 < count
  free : target.heldBy after = false

/-- Nobody holds the row after the release. -/
theorem heldBy_without (target : LockTarget) (session : Session) :
    target.heldBy (target.without session) = false := by
  rw [heldBy, without, List.any_map, List.any_eq_false]
  intro branch _
  rw [Function.comp_apply, heldByBranch_releaseBranch]
  exact Bool.false_ne_true

/-- Nothing changes in a session in which nobody holds the row, and no branch is counted. -/
theorem release_of_free (free : target.heldBy session = false) :
    target.release session = (0, session) := by
  have unheld : ∀ branch ∈ session.branches, ¬ target.heldByBranch branch = true :=
    List.any_eq_false.1 free
  have same : session.branches.map target.releaseBranch = session.branches.map id :=
    List.map_congr_left fun branch hbranch => releaseBranch_of_not_heldByBranch (unheld _ hbranch)
  rw [release_eq, holders, List.countP_eq_zero.2 unheld, without, same, List.map_id]

theorem releases_without (target : LockTarget) (session : Session) :
    target.Releases session (target.without session) (target.holders session) where
  frame := rfl
  branches := by
    show List.Forall₂ _ session.branches (session.branches.map target.releaseBranch)
    rw [List.forall₂_map_right_iff, List.forall₂_same]
    exact fun branch _ => target.rewrites_releaseBranch branch
  counted := List.countP_eq_length_filter
  fewer := by
    have pairs : session.branches.zip (target.without session).branches =
        session.branches.map fun branch => (branch, target.releaseBranch branch) := by
      show session.branches.zip (session.branches.map target.releaseBranch) = _
      rw [List.zip_map_right, List.zip_eq_zipWith, List.zipWith_self, List.map_map]
      rfl
    rw [pairs, List.countP_map, holders]
    refine List.countP_congr fun branch _ => ?_
    rw [Function.comp_apply, decide_eq_true_iff]
    exact length_lockedRows_releaseBranch_lt_iff.symm
  held_iff := target.heldBy_iff_holders_pos session
  free := target.heldBy_without session

/-- A release takes the row away from every branch that holds it, reports how many these are and
changes nothing else. A second release finds nothing to do. -/
theorem release_rewrites_lock_keys (target : LockTarget) (session : Session) :
    target.Releases session (target.release session).2 (target.release session).1 ∧
      target.release (target.release session).2 = (0, (target.release session).2) := by
  rw [release_eq]
  exact ⟨target.releases_without session, release_of_free (target.heldBy_without session)⟩

end LockTarget

end SessionRegistry
