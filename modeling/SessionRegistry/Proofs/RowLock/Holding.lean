import SessionRegistry.Command.Revision

/-!
# The branches that hold a row

A release takes the row out of the lock keys of the branches, one after another, and goes by the
number of rows that are left: a branch whose lock key gets shorter is written anew and counted. These
are the branches that hold the row.

## Main definitions

* `LockTarget.holders`: how many branches of a session hold the row.
* `LockTarget.releaseBranch`, `LockTarget.without`: a branch and a session without the row.

## Main results

* `LockTarget.releaseBranch?_eq`: the branches that are written anew are those that hold the row.
* `LockTarget.release_eq`: what a release makes of a session.
-/

namespace SessionRegistry

namespace LockTarget

variable {target : LockTarget} {branch : Branch} {session : Session}

/-- A branch holds the row exactly if the target speaks about the branch and its lock key names the
row. -/
theorem heldByBranch_iff :
    target.heldByBranch branch = true ↔
      target.covers branch = true ∧ target.row ∈ branch.lockedRows := by
  simp [heldByBranch]

/-- As many rows are left as there were exactly if the row was none of them. -/
theorem length_filter_eq_iff {rows : List Row} {row : Row} :
    (rows.filter (· != row)).length = rows.length ↔ row ∉ rows := by
  rw [List.length_filter_eq_length_iff]
  constructor
  · exact fun differ hrow => bne_iff_ne.1 (differ row hrow) rfl
  · exact fun absent other hother => bne_iff_ne.2 fun same => absent (same ▸ hother)

/-! ## One branch -/

/-- A branch is written anew exactly if it holds the row. -/
theorem releaseBranch?_eq (target : LockTarget) (branch : Branch) :
    target.releaseBranch? branch =
      if target.heldByBranch branch = true then
        some { branch with lockKey := LockKey.format (branch.lockedRows.filter (· != target.row)) }
      else none := by
  simp only [heldByBranch_iff]
  unfold releaseBranch?
  cases covered : target.covers branch with
  | false => simp
  | true =>
    cases key : branch.lockKey with
    | none =>
      have free : target.row ∉ branch.lockedRows := by
        rw [Branch.lockedRows, key]
        exact List.not_mem_nil
      simp [free]
    | some lockKey =>
      have rows : branch.lockedRows = LockKey.parse lockKey := by
        rw [Branch.lockedRows, key]
        rfl
      simp only [rows, length_filter_eq_iff, true_and]
      by_cases held : target.row ∈ LockKey.parse lockKey
      · rw [if_neg (not_not_intro held), if_pos held]
      · rw [if_pos held, if_neg held]

/-- The branch as a release leaves it. -/
def releaseBranch (target : LockTarget) (branch : Branch) : Branch :=
  (target.releaseBranch? branch).getD branch

/-- A branch that holds the row gets the lock key of its other rows. -/
theorem releaseBranch_of_heldByBranch (held : target.heldByBranch branch = true) :
    target.releaseBranch branch =
      { branch with lockKey := LockKey.format (branch.lockedRows.filter (· != target.row)) } := by
  rw [releaseBranch, releaseBranch?_eq, if_pos held]
  rfl

/-- A branch that does not hold the row stays as it is. -/
theorem releaseBranch_of_not_heldByBranch (free : ¬ target.heldByBranch branch = true) :
    target.releaseBranch branch = branch := by
  rw [releaseBranch, releaseBranch?_eq, if_neg free]
  rfl

/-- Releasing a row changes the lock key of a branch alone. -/
theorem releaseBranch_eq (target : LockTarget) (branch : Branch) :
    ∃ lockKey, target.releaseBranch branch = { branch with lockKey } := by
  by_cases held : target.heldByBranch branch = true
  · exact ⟨_, releaseBranch_of_heldByBranch held⟩
  · exact ⟨branch.lockKey, releaseBranch_of_not_heldByBranch held⟩

/-! ## All branches of a session -/

/-- How many branches of a session hold the row. -/
def holders (target : LockTarget) (session : Session) : Nat :=
  session.branches.countP target.heldByBranch

/-- The session without the row. -/
def without (target : LockTarget) (session : Session) : Session :=
  { session with branches := session.branches.map target.releaseBranch }

/-- A session holds the row exactly if one of its branches does. -/
theorem heldBy_iff_holders_pos (target : LockTarget) (session : Session) :
    target.heldBy session = true ↔ 0 < target.holders session := by
  rw [heldBy, holders, List.any_eq_true, List.countP_pos_iff]

/-- The loop counts the branches that hold the row, and leaves every branch without it. -/
theorem releaseAll_eq (target : LockTarget) (released : Nat) (branches : List Branch) :
    target.releaseAll released branches =
      (released + branches.countP target.heldByBranch, branches.map target.releaseBranch) := by
  induction branches generalizing released with
  | nil => rfl
  | cons branch rest ih =>
    rw [releaseAll, releaseBranch?_eq, List.map_cons]
    by_cases held : target.heldByBranch branch = true
    · rw [if_pos held, List.countP_cons_of_pos held, releaseBranch_of_heldByBranch held]
      simp only [ih, Nat.add_assoc, Nat.add_comm 1]
    · rw [if_neg held, List.countP_cons_of_neg held, releaseBranch_of_not_heldByBranch held]
      simp only [ih]

/-- A release counts the branches that hold the row and takes it away from them. -/
theorem release_eq (target : LockTarget) (session : Session) :
    target.release session = (target.holders session, target.without session) := by
  rw [release, releaseAll_eq, Nat.zero_add]
  rfl

end LockTarget

/-- A row is released in a session that holds it. -/
theorem Session.releaseRow_eq (target : LockTarget) (session : Session) :
    session.releaseRow target =
      .ok (if target.heldBy session = true then some (target.without session) else none) := by
  simp only [releaseRow, target.release_eq, target.heldBy_iff_holders_pos]

end SessionRegistry
