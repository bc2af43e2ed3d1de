import SessionRegistry.Proofs.Store.Intact

/-!
# Crash recovery

A store that began in an empty directory is recovered from its files as it is, at every moment
between two operations of its history, as long as the changes that it attempts are made.

## Main results

* `recovers_of_history`: what recovery finds is what the store holds.
-/

namespace SessionRegistry.Store

/-- Whatever happened to a store that was opened in an empty directory, recovery finds in its files
the sessions, the position and the time that the store holds. Everything can happen to it next, but
no store is opened where there is no number left. -/
theorem recovers_of_history {settings : StoreSettings} {now : Millis} {start s : Store}
    {events : List Event} {attempts : List Attempt}
    (opened : openFiles settings now { snapshot := none, log := [] } = .ok start)
    (history : History start events attempts s) (made : AllMade attempts)
    (fits : ∀ attempt ∈ attempts, (Codec.record.encode attempt.record).length < UInt32.size)
    (room : attempts.length < UInt64.size - 1) :
    s.Recovers ∧ ∀ event, (∃ new next, Next s event new next) ↔ s.FindsNumber event := by
  obtain ⟨intact, lsn⟩ := intact_of_nothing opened
  have good : Recoverable start.lsn.toNat attempts := by
    refine ⟨made, fits, ?_⟩
    rw [lsn, UInt64.toNat_zero]
    omega
  have last := (intact.history history good).1
  exact ⟨last.recovers, last.exists_next_iff⟩

/-- A session is put and the process dies: a history that has an attempt, after which the session is
found. -/
theorem recovers_of_put_and_crash :
    ∃ (start s : Store) (attempts : List Attempt),
      openFiles {} 0 { snapshot := none, log := [] } = .ok start
        ∧ History start [.perform (.put (Session.start "A" 1 "app" "tx" 1000)), .crash {} 5]
          attempts s
        ∧ attempts.length = 1 ∧ AllMade attempts
        ∧ (∀ attempt ∈ attempts, (Codec.record.encode attempt.record).length < UInt32.size)
        ∧ s.Recovers := by
  let start := resume {} 0 { snapshot := none, log := [] } (Recovered.ofSnapshot Snapshot.empty)
  let session := Session.start "A" 1 "app" "tx" 1000
  have opened : openFiles {} 0 { snapshot := none, log := [] } = .ok start :=
    openFiles_nothing {} 0
  have valid : checkImage session.xid session = .ok () :=
    checkImage_of_no_branches (by decide) rfl
  have accepts : start.Accepts (start.upsertOf session) := by decide
  have put := History.start.step (next_put rfl List.not_mem_nil valid rfl accepts)
  have made : AllMade [⟨start.nextRecord (start.upsertOf session), none⟩] := by simp [AllMade]
  have fits : ∀ attempt ∈ [(⟨start.nextRecord (start.upsertOf session), none⟩ : Attempt)],
      (Codec.record.encode attempt.record).length < UInt32.size := by
    intro attempt hattempt
    rw [List.mem_singleton.1 hattempt]
    decide
  -- No number beyond that of the session is in use, so the next store finds one.
  have readable : Frame.Fits (start.nextRecord (start.upsertOf session)) := by decide
  obtain ⟨-, few⟩ : ((Operation.put session).runOn start).2.Intact
      ∧ UpTo 1 ((Operation.put session).runOn start).2 :=
    (UpTo.of_nothing {} 0 1).put (intact_of_nothing opened).1 (by decide) rfl List.not_mem_nil valid
      rfl accepts readable (by decide)
  generalize ((Operation.put session).runOn start).2 = s at put few
  -- The theorem tells both that the process may die now and what the next store recovers.
  obtain ⟨-, possible⟩ := recovers_of_history opened put made fits (by decide)
  obtain ⟨_, s, crashed⟩ := (possible (.crash {} 5)).2 (few.findsNumber (by decide) _)
  cases crashed with
  | crash reopened =>
    have history := put.step (.crash reopened)
    exact ⟨start, s, _, opened, history, rfl, made, fits,
      (recovers_of_history opened history made fits (by decide)).1⟩

end SessionRegistry.Store
