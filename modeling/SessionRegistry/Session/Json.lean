import SessionRegistry.Json.Record
import SessionRegistry.Session.Basic

/-!
# Sessions in JSON

How snapshot files spell sessions and branches: every field under its name, statuses and modes by
their names, absent values as null.
-/

namespace SessionRegistry

namespace Branch

/-- The names of the fields, in order. -/
def fieldNames : List String :=
  ["xid", "branch_id", "application_id", "transaction_name", "branch_type", "resource_id",
    "lock_key", "client_id", "application_data", "status", "suspended_from", "begin_time",
    "gmt_modified"]

/-- The JSON form of a branch. -/
def toJson (b : Branch) : Json :=
  .obj
    [("xid", .str b.xid), ("branch_id", .nat b.id.toNat),
      ("application_id", .str b.applicationId), ("transaction_name", .str b.transactionName),
      ("branch_type", .str b.type.name), ("resource_id", .str b.resourceId),
      ("lock_key", .ofOption .str b.lockKey), ("client_id", .ofOption .str b.clientId),
      ("application_data", .ofOption .str b.applicationData), ("status", .str b.status.name),
      ("suspended_from", .ofOption (fun status => .str status.name) b.suspendedFrom),
      ("begin_time", .nat b.beginTime.toNat), ("gmt_modified", .nat b.modifiedTime.toNat)]

/-- The branch that a JSON value spells. -/
def ofJson? (j : Json) : Option Branch := do
  let [some xid, some id, some applicationId, some transactionName, some type, some resourceId,
    lockKey, clientId, applicationData, some status, suspendedFrom, some beginTime,
    some modifiedTime] ← j.record fieldNames | none
  return {
    xid := ← xid.text?
    id := ← id.uint64?
    applicationId := ← applicationId.text?
    transactionName := ← transactionName.text?
    type := ← type.constant? >>= BranchType.ofName?
    resourceId := ← resourceId.text?
    lockKey := ← Json.optional? Json.text? lockKey
    clientId := ← Json.optional? Json.text? clientId
    applicationData := ← Json.optional? Json.text? applicationData
    status := ← status.constant? >>= BranchStatus.ofName?
    suspendedFrom := ← Json.optional? (fun j => j.constant? >>= BranchStatus.ofName?) suspendedFrom
    beginTime := ← beginTime.uint64?
    modifiedTime := ← modifiedTime.uint64? }

end Branch

namespace Session

/-- The names of the fields, in order. -/
def fieldNames : List String :=
  ["xid", "transaction_id", "application_id", "transaction_service_group", "transaction_name",
    "timeout_ms", "status", "suspended_from", "begin_time", "gmt_modified", "branches"]

/-- The JSON form of a session. -/
def toJson (s : Session) : Json :=
  .obj
    [("xid", .str s.xid), ("transaction_id", .nat s.transactionId.toNat),
      ("application_id", .str s.applicationId), ("transaction_service_group", .str s.serviceGroup),
      ("transaction_name", .str s.name), ("timeout_ms", .nat s.timeout.toNat),
      ("status", .str s.status.name),
      ("suspended_from", .ofOption (fun status => .str status.name) s.suspendedFrom),
      ("begin_time", .nat s.beginTime.toNat), ("gmt_modified", .nat s.modifiedTime.toNat),
      ("branches", .arr (s.branches.map Branch.toJson))]

/-- The session that a JSON value spells. -/
def ofJson? (j : Json) : Option Session := do
  let [some xid, some transactionId, some applicationId, some serviceGroup, some name,
    some timeout, some status, suspendedFrom, some beginTime, some modifiedTime,
    some branches] ← j.record fieldNames | none
  return {
    xid := ← xid.text?
    transactionId := ← transactionId.uint64?
    applicationId := ← applicationId.text?
    serviceGroup := ← serviceGroup.text?
    name := ← name.text?
    timeout := ← timeout.uint64?
    status := ← status.constant? >>= GlobalStatus.ofName?
    suspendedFrom := ← Json.optional? (fun j => j.constant? >>= GlobalStatus.ofName?) suspendedFrom
    beginTime := ← beginTime.uint64?
    modifiedTime := ← modifiedTime.uint64?
    branches := ← Json.list? Branch.ofJson? branches }

end Session

end SessionRegistry
