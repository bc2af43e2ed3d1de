import SessionRegistry.Json.Record
import SessionRegistry.RowLock.Basic

/-!
# Views

How the console shows sessions, branches and row locks in JSON. A status is shown twice, as its code
and as its name. The numbers of transactions and branches are shown as texts, because they exceed
the integers that a browser keeps exactly.
-/

namespace SessionRegistry

/-- A number as a text. -/
def numeral (n : UInt64) : Json :=
  .str (toString n.toNat)

/-- A branch as the console shows it. -/
def Branch.view (branch : Branch) : Json :=
  .obj
    [("xid", .str branch.xid), ("branchId", numeral branch.id),
      ("resourceId", .str branch.resourceId), ("branchType", .str branch.type.name),
      ("status", .nat branch.status.code), ("statusName", .str branch.status.name),
      ("applicationId", .str branch.applicationId),
      ("transactionName", .str branch.transactionName),
      ("lockKey", .ofOption .str branch.lockKey), ("clientId", .ofOption .str branch.clientId),
      ("applicationData", .ofOption .str branch.applicationData),
      ("beginTime", .nat branch.beginTime.toNat), ("gmtModified", .nat branch.modifiedTime.toNat)]

/-- A session as the console shows it. The status before a stop is shown of stopped sessions
alone. -/
def Session.view (session : Session) : Json :=
  .obj <|
    [("xid", .str session.xid), ("transactionId", numeral session.transactionId),
      ("status", .nat session.status.code), ("statusName", .str session.status.name),
      ("applicationId", .str session.applicationId),
      ("transactionServiceGroup", .str session.serviceGroup),
      ("transactionName", .str session.name), ("timeout", .nat session.timeout.toNat),
      ("beginTime", .nat session.beginTime.toNat),
      ("gmtModified", .nat session.modifiedTime.toNat)]
    ++ session.suspendedFrom.toList.map (fun status => ("suspendedFrom", .str status.name))
    ++ [("branchSessionVOs", .arr (session.branches.map Branch.view))]

/-- A row lock as the console shows it. -/
def RowLock.view (lock : RowLock) : Json :=
  .obj
    [("xid", .str lock.xid), ("transactionId", numeral lock.transactionId),
      ("branchId", numeral lock.branchId), ("resourceId", .str lock.resourceId),
      ("tableName", .str lock.row.table), ("pk", .str lock.row.key),
      ("rowKey", .str (rowKey lock.resourceId lock.row)),
      ("gmtCreate", .nat lock.beginTime.toNat), ("gmtModified", .nat lock.modifiedTime.toNat)]

end SessionRegistry
