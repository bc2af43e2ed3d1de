import SessionRegistry.Codec.Basic
import SessionRegistry.Session.Basic

/-!
# Log records

The log holds one record for every change of the store. A record carries the whole new image of the
session that it changes, so replaying it does not depend on what it is replayed onto.

* `Codec.record_roundTrips`: a record is read back with every field as it was written.
-/

namespace SessionRegistry

/-- The position of a change in the order of all changes. -/
abbrev Lsn := UInt64

/-- What a log record says. -/
inductive LogOperation where
  /-- The session was created or replaced. -/
  | upsert (session : Session)
  /-- The session was removed. -/
  | remove (xid : Xid)
  /-- A snapshot covers every record up to the given one. -/
  | checkpoint (snapshotLsn : Lsn)
  deriving DecidableEq, Repr

/-- The session that an operation speaks about. -/
def LogOperation.xid? : LogOperation → Option Xid
  | upsert session => some session.xid
  | remove xid => some xid
  | checkpoint _ => none

/-- A record of the log. -/
structure LogRecord where
  lsn : Lsn
  op : LogOperation
  timestamp : Millis
  deriving DecidableEq, Repr

namespace Codec

/-- The status of a session, as its position in the order of declaration. -/
def globalStatus : Codec GlobalStatus :=
  oneOf GlobalStatus.all

theorem globalStatus_roundTrips : globalStatus.RoundTrips :=
  oneOf_roundTrips GlobalStatus.mem_all (by decide)

/-- The status of a branch, as its position in the order of declaration. -/
def branchStatus : Codec BranchStatus :=
  oneOf BranchStatus.all

theorem branchStatus_roundTrips : branchStatus.RoundTrips :=
  oneOf_roundTrips BranchStatus.mem_all (by decide)

/-- The mode of a branch, as its position in the order of declaration. -/
def branchType : Codec BranchType :=
  oneOf BranchType.all

theorem branchType_roundTrips : branchType.RoundTrips :=
  oneOf_roundTrips (fun mode => by cases mode <;> decide) (by decide)

/-- Branches, field by field. -/
def branch : Codec Branch :=
  (text.pair <| uint64.pair <| text.pair <| text.pair <| branchType.pair <| text.pair <|
    text.option.pair <| text.option.pair <| text.option.pair <| branchStatus.pair <|
    branchStatus.option.pair <| uint64.pair uint64).iso
    (fun (xid, id, applicationId, transactionName, type, resourceId, lockKey, clientId,
        applicationData, status, suspendedFrom, beginTime, modifiedTime) =>
      { xid, id, applicationId, transactionName, type, resourceId, lockKey, clientId,
        applicationData, status, suspendedFrom, beginTime, modifiedTime })
    (fun b => (b.xid, b.id, b.applicationId, b.transactionName, b.type, b.resourceId, b.lockKey,
      b.clientId, b.applicationData, b.status, b.suspendedFrom, b.beginTime, b.modifiedTime))

theorem branch_roundTrips : branch.RoundTrips :=
  RoundTrips.iso
    (text_roundTrips.pair <| uint64_roundTrips.pair <| text_roundTrips.pair <|
      text_roundTrips.pair <| branchType_roundTrips.pair <| text_roundTrips.pair <|
      text_roundTrips.option.pair <| text_roundTrips.option.pair <| text_roundTrips.option.pair <|
      branchStatus_roundTrips.pair <| branchStatus_roundTrips.option.pair <|
      uint64_roundTrips.pair uint64_roundTrips)
    fun _ => rfl

/-- Sessions, field by field, the branches last. -/
def session : Codec Session :=
  (text.pair <| uint64.pair <| text.pair <| text.pair <| text.pair <| uint64.pair <|
    globalStatus.pair <| globalStatus.option.pair <| uint64.pair <| uint64.pair branch.list).iso
    (fun (xid, transactionId, applicationId, serviceGroup, name, timeout, status, suspendedFrom,
        beginTime, modifiedTime, branches) =>
      { xid, transactionId, applicationId, serviceGroup, name, timeout, status, suspendedFrom,
        beginTime, modifiedTime, branches })
    (fun s => (s.xid, s.transactionId, s.applicationId, s.serviceGroup, s.name, s.timeout, s.status,
      s.suspendedFrom, s.beginTime, s.modifiedTime, s.branches))

/-- A branch takes up at least a byte. -/
theorem encode_branch_ne_nil (b : Branch) : branch.encode b ≠ [] := by
  intro h
  have := congrArg List.length h
  simp [branch, iso, pair, text] at this

theorem session_roundTrips : session.RoundTrips :=
  RoundTrips.iso
    (text_roundTrips.pair <| uint64_roundTrips.pair <| text_roundTrips.pair <|
      text_roundTrips.pair <| text_roundTrips.pair <| uint64_roundTrips.pair <|
      globalStatus_roundTrips.pair <| globalStatus_roundTrips.option.pair <|
      uint64_roundTrips.pair <| uint64_roundTrips.pair <|
      branch_roundTrips.list encode_branch_ne_nil)
    fun _ => rfl

/-- Operations: a number in four bytes that tells which one, and what it is about. -/
def operation : Codec LogOperation where
  encode
    | .upsert s => littleEndian 4 0 ++ session.encode s
    | .remove xid => littleEndian 4 1 ++ text.encode xid
    | .checkpoint lsn => littleEndian 4 2 ++ uint64.encode lsn
  decode bytes := do
    let (tag, bytes) ← readLittleEndian 4 bytes
    match tag with
    | 0 => (session.decode bytes).map fun (s, rest) => (.upsert s, rest)
    | 1 => (text.decode bytes).map fun (xid, rest) => (.remove xid, rest)
    | 2 => (uint64.decode bytes).map fun (lsn, rest) => (.checkpoint lsn, rest)
    | _ => none

theorem operation_roundTrips : operation.RoundTrips := by
  intro op rest h
  cases op with
  | upsert s =>
    have := session_roundTrips s rest (by
      simp only [operation, List.length_append, length_littleEndian] at h; omega)
    simp [operation, readLittleEndian_littleEndian, this]
  | remove xid =>
    have := text_roundTrips xid rest (by
      simp only [operation, List.length_append, length_littleEndian] at h; omega)
    simp [operation, readLittleEndian_littleEndian, this]
  | checkpoint lsn =>
    have := uint64_roundTrips lsn rest (by
      simp only [operation, List.length_append, length_littleEndian] at h; omega)
    simp [operation, readLittleEndian_littleEndian, this]

/-- Records, field by field. -/
def record : Codec LogRecord :=
  (uint64.pair (operation.pair uint64)).iso (fun (lsn, op, timestamp) => { lsn, op, timestamp })
    (fun r => (r.lsn, r.op, r.timestamp))

theorem record_roundTrips : record.RoundTrips :=
  RoundTrips.iso (uint64_roundTrips.pair (operation_roundTrips.pair uint64_roundTrips)) fun _ => rfl

end Codec

end SessionRegistry
