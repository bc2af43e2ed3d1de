import SessionRegistry.Store.Commit

/-!
# Retention sweep

A sweep removes the sessions that ended long enough ago and lists those that wait for a retry.
Stopped sessions are never touched. A session whose lock is held when the sweep reaches it is left
for the next pass.
-/

namespace SessionRegistry

/-- Whether a session ended at least the given time ago. -/
def Session.isExpired (session : Session) (retention now : Millis) : Bool :=
  session.status.isTerminal
    && decide (retention.toNat ≤ now.toNat - session.modifiedTime.toNat)

/-- The outcome of a sweep. -/
structure SweepReport where
  removed : List Xid
  /-- The sessions that wait for a retry, in ascending order. -/
  retryCandidates : List Xid
  /-- The number of expired sessions whose lock was held. -/
  skipped : Nat
  deriving DecidableEq, Repr

/-- What a sweep did with one expired session. -/
inductive SweepStep where
  | removed
  | skipped
  /-- Under the lock the session turned out not to be expired. -/
  | kept
  deriving DecidableEq, Repr

namespace Store

/-- Remove an expired session, if its lock is free and it is still expired under the lock. -/
def sweepSession (xid : Xid) (retention now : Millis) : StoreM SweepStep := do
  match ← attempt (lock xid) with
  | .error (.busy ..) => return .skipped
  | .error e => throw e
  | .ok () =>
    let result ← attempt do
      -- the session may have changed between the listing and the lock
      match (← get).sessions.get? xid with
      | some session =>
        if session.isExpired retention now then
          discard <| removeLocked xid
          return SweepStep.removed
        else return .kept
      | none => return .kept
    unlock xid
    answer result

/-- Sweep the given sessions one after the other. -/
def sweepAll (retention now : Millis) : List Xid → StoreM (List Xid × Nat)
  | [] => return ([], 0)
  | xid :: rest => do
    let step ← sweepSession xid retention now
    let (removed, skipped) ← sweepAll retention now rest
    return match step with
      | .removed => (xid :: removed, skipped)
      | .skipped => (removed, skipped + 1)
      | .kept => (removed, skipped)

/-- Make one pass over all sessions. -/
def sweep (retention now : Millis) : StoreM SweepReport := do
  let sessions := (← get).sessions.toList
  let expired := sessions.filter (·.isExpired retention now)
  let retrying := sessions.filter (·.status.isRetrying)
  let (removed, skipped) ← sweepAll retention now (expired.map Session.xid)
  return { removed, retryCandidates := retrying.map Session.xid, skipped }

/-- Make passes at the reading of the clock until the given number of sessions has been removed. A
pass that comes after a complete one finds nothing to remove, so at most one is made. -/
def sweepUntilRemoved (retention : Millis) : Nat → StoreM Unit
  | 0 => return
  | _ + 1 => do discard <| sweep retention (← get).clock

end Store

end SessionRegistry
