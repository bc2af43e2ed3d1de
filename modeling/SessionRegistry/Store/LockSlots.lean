import SessionRegistry.Error

/-!
# Slots of locks

How locks are kept in memory. A key has a slot only while its lock is held or waited for. The slot
refers to a mutex, and so does everyone who holds or waits for the lock; when a reference is given
up and the slot's own is the last one that is left, the slot is removed. The next one who asks for
the key then finds no slot and gets another mutex.

Mutexes are told apart by numbers, which are given out once.

* `mutex_modify_self`, `mutex_modify_of_ne`: changing a mutex leaves the others as they are.
-/

namespace SessionRegistry

/-- A mutex that several parties refer to. -/
structure Mutex where
  isLocked : Bool := false
  /-- How many references to the mutex there are. -/
  references : Nat := 0
  deriving DecidableEq, Repr, Inhabited

/-- The slots of locks, and the mutexes behind them. -/
structure LockSlots where
  /-- The number of the mutex in the slot of each key. -/
  slots : List (Xid × Nat)
  mutex : Nat → Mutex
  /-- The number of the next mutex. -/
  next : Nat

/-- A lock that is held: its key, and the mutex that is locked for it. -/
structure LockGuard where
  key : Xid
  number : Nat
  deriving DecidableEq, Repr, Inhabited

namespace LockSlots

/-- There are no slots. -/
def empty : LockSlots where
  slots := []
  mutex _ := {}
  next := 0

instance : Inhabited LockSlots := ⟨empty⟩

/-- The number of keys whose locks are held or waited for. -/
def size (slots : LockSlots) : Nat :=
  slots.slots.length

/-- Whether there are no slots. -/
def isEmpty (slots : LockSlots) : Bool :=
  slots.size == 0

/-- Change a mutex. -/
def modify (slots : LockSlots) (number : Nat) (change : Mutex → Mutex) : LockSlots :=
  { slots with mutex := fun n => if n = number then change (slots.mutex n) else slots.mutex n }

/-- Refer to a mutex one more time. -/
def refer (slots : LockSlots) (number : Nat) : LockSlots :=
  slots.modify number fun mutex => { mutex with references := mutex.references + 1 }

/-- Give up a reference to a mutex. -/
def unrefer (slots : LockSlots) (number : Nat) : LockSlots :=
  slots.modify number fun mutex => { mutex with references := mutex.references - 1 }

/-- Lock a mutex or unlock it. -/
def setLocked (slots : LockSlots) (number : Nat) (isLocked : Bool) : LockSlots :=
  slots.modify number fun mutex => { mutex with isLocked }

/-- The mutex in the slot of a key. A key that has no slot gets one with a new mutex, which the slot
alone refers to. -/
def slotOf (slots : LockSlots) (key : Xid) : Nat × LockSlots :=
  match slots.slots.lookup key with
  | some number => (number, slots)
  | none =>
    let entered :=
      { slots with slots := (key, slots.next) :: slots.slots, next := slots.next + 1 }
    (slots.next, entered.modify slots.next fun _ => { references := 1 })

/-- Remove the slot of a key if nothing else refers to its mutex. -/
def collect (slots : LockSlots) (key : Xid) : LockSlots :=
  match slots.slots.lookup key with
  | some number =>
    if (slots.mutex number).references = 1 then
      unrefer { slots with slots := slots.slots.filter (·.1 != key) } number
    else slots
  | none => slots

/-- Ask for the lock of a key. While the mutex is locked, the wait passes in vain. -/
def acquire (slots : LockSlots) (key : Xid) (wait : Millis) : Except Error LockGuard × LockSlots :=
  let (number, slots) := slots.slotOf key
  let slots := slots.refer number
  if (slots.mutex number).isLocked then
    (.error (.busy key wait), (slots.unrefer number).collect key)
  else
    -- the reference stays with the guard
    (.ok { key, number }, slots.setLocked number true)

/-- Give a lock back. The mutex is free before it is asked whether the slot is still needed. -/
def release (slots : LockSlots) (guard : LockGuard) : LockSlots :=
  ((slots.setLocked guard.number false).unrefer guard.number).collect guard.key

/-- A mutex that is changed. -/
theorem mutex_modify_self (slots : LockSlots) (number : Nat) (change : Mutex → Mutex) :
    (slots.modify number change).mutex number = change (slots.mutex number) :=
  if_pos rfl

/-- Changing a mutex leaves the others as they are. -/
theorem mutex_modify_of_ne (slots : LockSlots) {number other : Nat} (change : Mutex → Mutex)
    (h : other ≠ number) : (slots.modify number change).mutex other = slots.mutex other :=
  if_neg h

end LockSlots

/-- What is done with the locks. -/
inductive LockStep where
  /-- Ask for the lock of a key, and wait for it for a while. -/
  | acquire (key : Xid) (wait : Millis)
  /-- Give the lock of a key back, if it is held. -/
  | release (key : Xid)
  deriving DecidableEq, Repr, Inhabited

/-- The key that a step is about. -/
def LockStep.key : LockStep → Xid
  | acquire key _ => key
  | release key => key

/-- The slots of locks, and the locks that are held. -/
structure Locking where
  slots : LockSlots
  guards : List LockGuard

namespace Locking

/-- No lock is held. -/
def idle : Locking where
  slots := .empty
  guards := []

/-- Perform a step. The answer to a request is an error or tells that the lock is held from now on;
when a lock is given back, the answer tells whether it was held. -/
def perform (s : Locking) : LockStep → Except Error Bool × Locking
  | .acquire key wait =>
    match s.slots.acquire key wait with
    | (.ok guard, slots) => (.ok true, { slots, guards := guard :: s.guards })
    | (.error e, slots) => (.error e, { s with slots })
  | .release key =>
    match s.guards.find? (·.key == key) with
    | some guard => (.ok true, { slots := s.slots.release guard, guards := s.guards.erase guard })
    | none => (.ok false, s)

end Locking

end SessionRegistry
