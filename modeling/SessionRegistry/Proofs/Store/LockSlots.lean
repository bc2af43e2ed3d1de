import Mathlib.Data.List.Nodup
import SessionRegistry.Store.LockSlots
import SessionRegistry.Store.LockTable

/-!
# Slots are kept exactly for the locks that are held

As long as requests for locks come one after another, a key has a slot exactly while its lock is
held. The mutex in the slot is locked, and two refer to it: the slot and the holder. So a lock is
given out exactly when it is free, a request in vain leaves everything as it is, and the lock table
that a store works with gives the same answers.

## Main definitions

* `LockStep.answer`, `LockStep.Leaves`: what a step comes to if the lock of its key is held or free.
* `Locking.Sound`: the slots are those of the locks that are held, each with a mutex of its own.
* `Locking.after`: what steps lead to that are performed one after another.
* `Locking.Exact`: the slots are kept exactly for the locks that are held.

## Main results

* `Locking.Sound.perform`: every step keeps the slots sound.
* `Locking.Sound.holds_after_filter`: whether a lock is held depends on the steps on its key alone.
* `Locking.slots_exact`: the slots are exact after any steps, and steps are answered as by the lock
  table.
-/

namespace SessionRegistry

namespace LockSlots

variable {slots : LockSlots} {number : Nat}

/-- A reference that is given up at once leaves everything as it was. -/
theorem unrefer_refer : (slots.refer number).unrefer number = slots := by
  have same : ((slots.refer number).unrefer number).mutex = slots.mutex := by
    funext n
    by_cases h : n = number
    · subst h
      simp [refer, unrefer, mutex_modify_self]
    · rw [unrefer, mutex_modify_of_ne _ _ h, refer, mutex_modify_of_ne _ _ h]
  obtain ⟨_, _, _⟩ := slots
  exact congrArg (LockSlots.mk _ · _) same

/-- The slots with one more, for a lock that has just been taken. -/
def taken (slots : LockSlots) (key : Xid) : LockSlots where
  slots := (key, slots.next) :: slots.slots
  mutex n := if n = slots.next then { isLocked := true, references := 2 } else slots.mutex n
  next := slots.next + 1

/-- A request for a key that has no slot is granted, with a new mutex. -/
theorem acquire_of_lookup_eq_none {key : Xid} (free : slots.slots.lookup key = none)
    (wait : Millis) :
    slots.acquire key wait = (.ok { key, number := slots.next }, slots.taken key) := by
  simp only [acquire, slotOf, free, refer, setLocked, mutex_modify_self, Bool.false_eq_true,
    if_false]
  refine congrArg (Prod.mk _) (congrArg (LockSlots.mk _ · _) ?_)
  funext n
  by_cases h : n = slots.next <;> simp [modify, h]

/-- The slots without that of a lock which has just been given back. -/
def freed (slots : LockSlots) (guard : LockGuard) : LockSlots where
  slots := slots.slots.filter (·.1 != guard.key)
  mutex n := if n = guard.number then {} else slots.mutex n
  next := slots.next

/-- A lock is given back whose slot and holder alone refer to the mutex. -/
theorem release_of_lookup_eq_some {guard : LockGuard}
    (slot : slots.slots.lookup guard.key = some guard.number)
    (two : (slots.mutex guard.number).references = 2) :
    slots.release guard = slots.freed guard := by
  have single :
      (((slots.setLocked guard.number false).unrefer guard.number).mutex guard.number).references
        = 1 := by
    rw [unrefer, mutex_modify_self, setLocked, mutex_modify_self, two]
  have same : ((slots.setLocked guard.number false).unrefer guard.number).slots.lookup guard.key =
      some guard.number :=
    slot
  rw [release, collect, same]
  dsimp only
  rw [if_pos single]
  refine congrArg (LockSlots.mk _ · _) ?_
  funext n
  by_cases h : n = guard.number
  · subst h
    simp [unrefer, setLocked, modify, two]
  · simp [unrefer, setLocked, modify, h]

end LockSlots

/-! ## What a step comes to -/

namespace LockStep

/-- The answer to a step, by whether the lock of its key is held. -/
def answer (held : Prop) [Decidable held] : LockStep → Except Error Bool
  | acquire key wait => if held then .error (.busy key wait) else .ok true
  | release _ => .ok (decide held)

/-- Whether the lock of a key is held after a step, by whether it was held before. -/
def Leaves (key : Xid) (held : Prop) : LockStep → Prop
  | acquire asked _ => key = asked ∨ held
  | release asked => key ≠ asked ∧ held

variable (step : LockStep)

theorem answer_congr {held held' : Prop} [Decidable held] [Decidable held'] (same : held ↔ held') :
    step.answer held = step.answer held' := by
  cases step with
  | acquire => exact if_congr same rfl rfl
  | release => exact congrArg Except.ok (decide_eq_decide.2 same)

theorem leaves_congr {key : Xid} {held held' : Prop} (same : held ↔ held') :
    step.Leaves key held ↔ step.Leaves key held' := by
  rw [propext same]

theorem leaves_of_ne {key : Xid} {held : Prop} (ne : key ≠ step.key) :
    step.Leaves key held ↔ held := by
  cases step with
  | acquire => exact or_iff_right ne
  | release => exact and_iff_right ne

end LockStep

/-! ## The lock table -/

namespace LockTable

/-- Perform a step on a lock table. -/
def perform (table : LockTable) : LockStep → Except Error Bool × LockTable
  | .acquire key wait =>
    match table.acquire key wait with
    | .ok table => (.ok true, table)
    | .error e => (.error e, table)
  | .release key => (.ok (decide (key ∈ table.held)), table.release key)

/-- What steps make of a lock table that are performed one after another. -/
def after (table : LockTable) (steps : List LockStep) : LockTable :=
  steps.foldl (fun table step => (table.perform step).2) table

theorem perform_fst (table : LockTable) (step : LockStep) :
    (table.perform step).1 = step.answer (step.key ∈ table.held) := by
  cases step with
  | acquire key wait =>
    by_cases held : key ∈ table.held <;>
      simp [perform, acquire, LockStep.answer, LockStep.key, held]
  | release key => rfl

theorem mem_perform_iff (table : LockTable) (step : LockStep) (key : Xid) :
    key ∈ (table.perform step).2.held ↔ step.Leaves key (key ∈ table.held) := by
  cases step with
  | acquire asked wait =>
    by_cases held : asked ∈ table.held
    · have kept : key = asked → key ∈ table.held := fun same => same ▸ held
      simp only [perform, acquire, held, dif_pos]
      exact (or_iff_right_of_imp kept).symm
    · simp only [perform, acquire, held, dif_neg, not_false_eq_true]
      exact List.mem_cons
  | release asked => exact table.mem_release_iff asked key

end LockTable

namespace Locking

variable {s : Locking} {guard : LockGuard} {key other : Xid} {wait : Millis} {step : LockStep}

/-- The lock of a key is held. -/
def Holds (s : Locking) (key : Xid) : Prop :=
  key ∈ s.guards.map LockGuard.key

instance (s : Locking) (key : Xid) : Decidable (s.Holds key) :=
  inferInstanceAs (Decidable (_ ∈ _))

/-- The slots are those of the locks that are held, one for each. -/
structure Sound (s : Locking) : Prop where
  slots_eq : s.slots.slots = s.guards.map fun guard => (guard.key, guard.number)
  nodup_keys : (s.guards.map LockGuard.key).Nodup
  /-- No two locks share a mutex. -/
  nodup_numbers : (s.guards.map LockGuard.number).Nodup
  number_lt : ∀ guard ∈ s.guards, guard.number < s.slots.next
  /-- The slot and the holder refer to the mutex, and nobody else does. -/
  mutex_eq : ∀ guard ∈ s.guards,
    s.slots.mutex guard.number = { isLocked := true, references := 2 }

theorem sound_idle : idle.Sound where
  slots_eq := rfl
  nodup_keys := .nil
  nodup_numbers := .nil
  number_lt := nofun
  mutex_eq := nofun

namespace Sound

/-! ## Slots that are looked up -/

theorem eq_of_key_eq (sound : s.Sound) {first second : LockGuard} (hfirst : first ∈ s.guards)
    (hsecond : second ∈ s.guards) (same : first.key = second.key) : first = second :=
  List.inj_on_of_nodup_map sound.nodup_keys hfirst hsecond same

theorem eq_of_number_eq (sound : s.Sound) {first second : LockGuard} (hfirst : first ∈ s.guards)
    (hsecond : second ∈ s.guards) (same : first.number = second.number) : first = second :=
  List.inj_on_of_nodup_map sound.nodup_numbers hfirst hsecond same

theorem nodup_guards (sound : s.Sound) : s.guards.Nodup :=
  sound.nodup_keys.of_map _

/-- The lock of a key that is held is found. -/
theorem find?_eq (sound : s.Sound) (mem : guard ∈ s.guards) :
    s.guards.find? (fun guard' => guard'.key == guard.key) = some guard := by
  cases found : s.guards.find? (fun guard' => guard'.key == guard.key) with
  | none => exact absurd BEq.rfl (List.find?_eq_none.1 found guard mem)
  | some other =>
    have same : other.key = guard.key := by simpa using List.find?_some found
    rw [sound.eq_of_key_eq (List.mem_of_find?_eq_some found) mem same]

/-- The lock of a key that is free is not found. -/
theorem find?_eq_none (free : ¬ s.Holds key) : s.guards.find? (·.key == key) = none := by
  refine List.find?_eq_none.2 fun guard mem same => free ?_
  exact List.mem_map.2 ⟨guard, mem, beq_iff_eq.1 same⟩

/-- A slot is looked up by finding the holder of the lock. -/
theorem lookup_slots (sound : s.Sound) (key : Xid) :
    s.slots.slots.lookup key = (s.guards.find? (·.key == key)).map LockGuard.number := by
  rw [sound.slots_eq]
  induction s.guards with
  | nil => rfl
  | cons guard rest ih =>
    rw [List.map_cons, List.lookup_cons, List.find?_cons, Bool.beq_comm, ih]
    cases guard.key == key <;> rfl

/-! ## Requests -/

/-- A request for a lock that is held is made in vain, and leaves the slots as they are. -/
theorem acquire_of_held (sound : s.Sound) (mem : guard ∈ s.guards) (wait : Millis) :
    s.slots.acquire guard.key wait = (.error (.busy guard.key wait), s.slots) := by
  have slot : s.slots.slots.lookup guard.key = some guard.number := by
    rw [sound.lookup_slots, sound.find?_eq mem, Option.map_some]
  have entered : s.slots.slotOf guard.key = (guard.number, s.slots) := by
    rw [LockSlots.slotOf, slot]
  have taken : ((s.slots.refer guard.number).mutex guard.number).isLocked = true := by
    rw [LockSlots.refer, LockSlots.mutex_modify_self, sound.mutex_eq guard mem]
  -- the holder refers to the mutex as well, so the slot stays
  have kept : s.slots.collect guard.key = s.slots := by
    rw [LockSlots.collect, slot]
    exact if_neg (by rw [sound.mutex_eq guard mem]; decide)
  rw [LockSlots.acquire, entered]
  dsimp only
  rw [if_pos taken, LockSlots.unrefer_refer, kept]

/-- A request for a lock that is free is granted, with a new mutex. -/
theorem acquire_of_free (sound : s.Sound) (free : ¬ s.Holds key) (wait : Millis) :
    s.slots.acquire key wait =
      (.ok { key, number := s.slots.next }, s.slots.taken key) := by
  refine LockSlots.acquire_of_lookup_eq_none ?_ wait
  rw [sound.lookup_slots, find?_eq_none free, Option.map_none]

/-- A lock that is held is given back. -/
theorem release_of_held (sound : s.Sound) (mem : guard ∈ s.guards) :
    s.slots.release guard = s.slots.freed guard := by
  refine LockSlots.release_of_lookup_eq_some ?_ (by rw [sound.mutex_eq guard mem])
  rw [sound.lookup_slots, sound.find?_eq mem, Option.map_some]

/-! ## Steps -/

theorem perform_acquire_of_held (sound : s.Sound) (held : s.Holds key) :
    s.perform (.acquire key wait) = (.error (.busy key wait), s) := by
  obtain ⟨guard, mem, rfl⟩ := List.mem_map.1 held
  rw [perform, sound.acquire_of_held mem]

theorem perform_acquire_of_free (sound : s.Sound) (free : ¬ s.Holds key) :
    s.perform (.acquire key wait) = (.ok true,
      { slots := s.slots.taken key
        guards := { key, number := s.slots.next } :: s.guards }) := by
  rw [perform, sound.acquire_of_free free]

theorem perform_release_of_held (sound : s.Sound) (mem : guard ∈ s.guards) :
    s.perform (.release guard.key) = (.ok true,
      { slots := s.slots.freed guard, guards := s.guards.erase guard }) := by
  rw [perform, sound.find?_eq mem]
  dsimp only
  rw [sound.release_of_held mem]

theorem perform_release_of_free (free : ¬ s.Holds key) :
    s.perform (.release key) = (.ok false, s) := by
  rw [perform, find?_eq_none free]

/-- The slots stay sound when a lock is taken. -/
theorem taken (sound : s.Sound) (free : ¬ s.Holds key) :
    Sound { slots := s.slots.taken key
            guards := { key, number := s.slots.next } :: s.guards } where
  slots_eq := congrArg (_ :: ·) sound.slots_eq
  nodup_keys := List.nodup_cons.2 ⟨free, sound.nodup_keys⟩
  nodup_numbers := by
    refine List.nodup_cons.2 ⟨fun used => ?_, sound.nodup_numbers⟩
    obtain ⟨guard, mem, same⟩ := List.mem_map.1 used
    exact absurd same (Nat.ne_of_lt (sound.number_lt guard mem))
  number_lt := List.forall_mem_cons.2
    ⟨Nat.lt_succ_self _, fun guard mem => Nat.lt_succ_of_lt (sound.number_lt guard mem)⟩
  mutex_eq := List.forall_mem_cons.2 ⟨if_pos rfl, fun guard mem =>
    (if_neg (Nat.ne_of_lt (sound.number_lt guard mem))).trans (sound.mutex_eq guard mem)⟩

/-- The slots stay sound when a lock is given back. -/
theorem freed (sound : s.Sound) (mem : guard ∈ s.guards) :
    Sound { slots := s.slots.freed guard, guards := s.guards.erase guard } where
  slots_eq := by
    change s.slots.slots.filter (·.1 != guard.key) = _
    rw [sound.slots_eq, List.filter_map, sound.nodup_guards.erase_eq_filter]
    refine congrArg (List.map _) (List.filter_congr fun other hother => ?_)
    rw [Bool.eq_iff_iff]
    simp only [Function.comp_apply, bne_iff_ne]
    exact not_congr ⟨sound.eq_of_key_eq hother mem, congrArg LockGuard.key⟩
  nodup_keys := sound.nodup_keys.sublist (List.erase_sublist.map _)
  nodup_numbers := sound.nodup_numbers.sublist (List.erase_sublist.map _)
  number_lt other hother := sound.number_lt other (List.mem_of_mem_erase hother)
  mutex_eq other hother := by
    obtain ⟨ne, hother⟩ := sound.nodup_guards.mem_erase_iff.1 hother
    have apart : other.number ≠ guard.number := fun same =>
      ne (sound.eq_of_number_eq hother mem same)
    exact (if_neg apart).trans (sound.mutex_eq other hother)

/-- Every step keeps the slots sound. -/
theorem perform (sound : s.Sound) (step : LockStep) : (s.perform step).2.Sound := by
  cases step with
  | acquire key wait =>
    by_cases held : s.Holds key
    · rwa [sound.perform_acquire_of_held held]
    · rw [sound.perform_acquire_of_free held]
      exact sound.taken held
  | release key =>
    by_cases held : s.Holds key
    · obtain ⟨guard, mem, rfl⟩ := List.mem_map.1 held
      rw [sound.perform_release_of_held mem]
      exact sound.freed mem
    · rwa [perform_release_of_free held]

/-- A step is answered by whether the lock of its key is held. -/
theorem perform_fst (sound : s.Sound) (step : LockStep) :
    (s.perform step).1 = step.answer (s.Holds step.key) := by
  cases step with
  | acquire key wait =>
    by_cases held : s.Holds key
    · rw [sound.perform_acquire_of_held held]
      exact (if_pos held).symm
    · rw [sound.perform_acquire_of_free held]
      exact (if_neg held).symm
  | release key =>
    by_cases held : s.Holds key
    · refine Eq.trans ?_ (congrArg Except.ok (decide_eq_true held)).symm
      obtain ⟨guard, mem, rfl⟩ := List.mem_map.1 held
      rw [sound.perform_release_of_held mem]
    · rw [perform_release_of_free held]
      exact (congrArg Except.ok (decide_eq_false held)).symm

/-- A step settles whether the lock of its key is held, and leaves the other locks as they are. -/
theorem holds_perform_iff (sound : s.Sound) (step : LockStep) (key : Xid) :
    (s.perform step).2.Holds key ↔ step.Leaves key (s.Holds key) := by
  cases step with
  | acquire asked wait =>
    by_cases held : s.Holds asked
    · have kept : key = asked → s.Holds key := fun same => same ▸ held
      rw [sound.perform_acquire_of_held held]
      exact (or_iff_right_of_imp kept).symm
    · rw [sound.perform_acquire_of_free held]
      exact List.mem_cons
  | release asked =>
    by_cases held : s.Holds asked
    · obtain ⟨guard, mem, rfl⟩ := List.mem_map.1 held
      rw [sound.perform_release_of_held mem]
      constructor
      · intro holds
        obtain ⟨other, hother, rfl⟩ := List.mem_map.1 holds
        obtain ⟨ne, hother⟩ := sound.nodup_guards.mem_erase_iff.1 hother
        exact ⟨mt (sound.eq_of_key_eq hother mem) ne, List.mem_map_of_mem hother⟩
      · rintro ⟨ne, holds⟩
        obtain ⟨other, hother, rfl⟩ := List.mem_map.1 holds
        have apart : other ≠ guard := fun same => ne (congrArg LockGuard.key same)
        exact List.mem_map_of_mem (sound.nodup_guards.mem_erase_iff.2 ⟨apart, hother⟩)
    · have apart : s.Holds key → key ≠ asked := fun holds same => held (same ▸ holds)
      rw [perform_release_of_free held]
      exact (and_iff_right_of_imp apart).symm

end Sound

/-! ## Steps one after another -/

/-- What steps lead to that are performed one after another. -/
def after (s : Locking) (steps : List LockStep) : Locking :=
  steps.foldl (fun s step => (s.perform step).2) s

/-- Slots stay sound for as long as steps are performed. -/
theorem Sound.after (sound : s.Sound) (steps : List LockStep) : (s.after steps).Sound := by
  induction steps generalizing s with
  | nil => exact sound
  | cons step steps ih => exact ih (sound.perform step)

/-- Which lock is held after some steps depends on the steps on its key alone. -/
theorem Sound.holds_after_filter (sound : s.Sound) {s' : Locking} (sound' : s'.Sound)
    (same : s.Holds key ↔ s'.Holds key) (steps : List LockStep) :
    (s.after steps).Holds key ↔ (s'.after (steps.filter (·.key == key))).Holds key := by
  induction steps generalizing s s' with
  | nil => exact same
  | cons step steps ih =>
    have performed := sound.holds_perform_iff step key
    by_cases h : step.key = key
    · have passes : (step.key == key) = true := beq_iff_eq.2 h
      rw [List.filter_cons, if_pos passes]
      refine ih (sound.perform step) (sound'.perform step) ?_
      rw [performed, sound'.holds_perform_iff, step.leaves_congr same]
    · have drops : ¬ (step.key == key) = true := mt beq_iff_eq.1 h
      rw [List.filter_cons, if_neg drops]
      refine ih (sound.perform step) sound' ?_
      rw [performed, step.leaves_of_ne (Ne.symm h), same]

/-- The lock table holds the same locks after the same steps. -/
theorem Sound.holds_after_iff_mem (sound : s.Sound) {table : LockTable}
    (same : ∀ key, s.Holds key ↔ key ∈ table.held) (steps : List LockStep) (key : Xid) :
    (s.after steps).Holds key ↔ key ∈ (table.after steps).held := by
  induction steps generalizing s table with
  | nil => exact same key
  | cons step steps ih =>
    refine ih (sound.perform step) fun key => ?_
    rw [sound.holds_perform_iff, table.mem_perform_iff, step.leaves_congr (same key)]

/-- The slots are kept exactly for the locks that are held. -/
structure Exact (s : Locking) : Prop where
  /-- A request is granted exactly if the lock is free. -/
  granted_iff : ∀ key wait, (s.perform (.acquire key wait)).1 = .ok true ↔ ¬ s.Holds key
  /-- A request in vain tells how long it waited, and leaves everything as it is. -/
  refused : ∀ key wait, s.Holds key → s.perform (.acquire key wait) = (.error (.busy key wait), s)
  /-- The keys that have a slot are those whose locks are held, and each has one slot. -/
  keys_eq : s.slots.slots.map Prod.fst = s.guards.map LockGuard.key
  nodup_keys : (s.slots.slots.map Prod.fst).Nodup
  size_eq : s.slots.size = s.guards.length
  isEmpty_iff : s.slots.isEmpty = true ↔ ∀ key, ¬ s.Holds key
  /-- A lock that is given back can be had again. -/
  granted_again : ∀ key wait,
    ((s.perform (.release key)).2.perform (.acquire key wait)).1 = .ok true

theorem Sound.granted_iff (sound : s.Sound) (key : Xid) (wait : Millis) :
    (s.perform (.acquire key wait)).1 = .ok true ↔ ¬ s.Holds key := by
  rw [sound.perform_fst]
  by_cases held : s.Holds key <;> simp [LockStep.answer, LockStep.key, held]

theorem Sound.exact (sound : s.Sound) : s.Exact where
  granted_iff := sound.granted_iff
  refused _ _ := sound.perform_acquire_of_held
  keys_eq := by rw [sound.slots_eq, List.map_map]; rfl
  nodup_keys := by rw [sound.slots_eq, List.map_map]; exact sound.nodup_keys
  size_eq := by rw [LockSlots.size, sound.slots_eq, List.length_map]
  isEmpty_iff := by
    rw [LockSlots.isEmpty, beq_iff_eq, LockSlots.size, sound.slots_eq, List.length_map,
      List.length_eq_zero_iff, ← List.map_eq_nil_iff (f := LockGuard.key),
      List.eq_nil_iff_forall_not_mem]
    rfl
  granted_again key wait := by
    rw [(sound.perform _).granted_iff, sound.holds_perform_iff]
    exact fun left => left.1 rfl

/-- After any steps the slots are kept exactly for the locks that are held. Another step is answered
as it would be without the steps on other keys, and as the lock table answers it. -/
theorem slots_exact (steps : List LockStep) :
    (idle.after steps).Exact ∧ ∀ step,
      ((idle.after steps).perform step).1 =
        ((idle.after (steps.filter (·.key == step.key))).perform step).1 ∧
      ((idle.after steps).perform step).1 = ((LockTable.empty.after steps).perform step).1 := by
  have sound := sound_idle.after steps
  refine ⟨sound.exact, fun step => ⟨?_, ?_⟩⟩
  · rw [sound.perform_fst, (sound_idle.after _).perform_fst]
    exact step.answer_congr (sound_idle.holds_after_filter sound_idle .rfl steps)
  · rw [sound.perform_fst, LockTable.perform_fst]
    have both_free (key : Xid) : idle.Holds key ↔ key ∈ LockTable.empty.held := .rfl
    exact step.answer_congr (sound_idle.holds_after_iff_mem both_free steps step.key)

end Locking

end SessionRegistry
