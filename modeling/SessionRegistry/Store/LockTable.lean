import SessionRegistry.Error

/-!
# Lock tables

Every change of a session is made under the lock of its xid, so that a command and a report never
interleave. A lock that is held is not given out again, also not to its holder.

* `acquire_eq_ok_iff`: a lock is given out exactly when it is not held.
* `mem_release_iff`: releasing a lock frees that lock and no other.
-/

namespace SessionRegistry

/-- The locks that are held, each listed once. -/
structure LockTable where
  held : List Xid
  nodup : held.Nodup

namespace LockTable

/-- No lock is held. -/
def empty : LockTable where
  held := []
  nodup := .nil

instance : Inhabited LockTable := ⟨empty⟩

/-- The number of locks that are held. -/
def size (table : LockTable) : Nat :=
  table.held.length

/-- Whether no lock is held. -/
def isEmpty (table : LockTable) : Bool :=
  table.held.isEmpty

/-- Take the lock of an xid. While another holder has it, the wait passes in vain. -/
def acquire (table : LockTable) (xid : Xid) (wait : Millis) : Except Error LockTable :=
  if h : xid ∈ table.held then .error (.busy xid wait)
  else .ok { held := xid :: table.held, nodup := List.nodup_cons.2 ⟨h, table.nodup⟩ }

/-- Give the lock of an xid back. -/
def release (table : LockTable) (xid : Xid) : LockTable where
  held := table.held.erase xid
  nodup := table.nodup.erase xid

/-- A lock is given out exactly when it is not held, and then it is held on top of the others. -/
theorem acquire_eq_ok_iff (table taken : LockTable) (xid : Xid) (wait : Millis) :
    table.acquire xid wait = .ok taken ↔ xid ∉ table.held ∧ taken.held = xid :: table.held := by
  obtain ⟨held, _⟩ := taken
  by_cases h : xid ∈ table.held <;> simp [acquire, h, eq_comm]

/-- Releasing a lock frees that lock and no other. -/
theorem mem_release_iff (table : LockTable) (xid other : Xid) :
    other ∈ (table.release xid).held ↔ other ≠ xid ∧ other ∈ table.held :=
  table.nodup.mem_erase_iff

end LockTable

end SessionRegistry
