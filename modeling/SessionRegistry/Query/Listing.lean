import SessionRegistry.Query.Filter
import SessionRegistry.Query.Page
import SessionRegistry.RowLock.Basic
import SessionRegistry.Store.Basic

/-!
# Listings

Filtered and ordered listings of sessions and of row locks. Sessions are listed by begin time, the
latest first, and sessions that began together by xid. Row locks are listed by xid, branch, table
and key. The order in which the sessions are given plays no part.

A store lists the sessions and row locks that it has published. Listing changes nothing and works on
a store that has been shut down as well.
-/

namespace SessionRegistry

/-- The order of sessions in a listing. -/
def Session.precedes (a b : Session) : Bool :=
  decide (b.beginTime < a.beginTime)
    || (a.beginTime == b.beginTime && decide (a.xid ≤ b.xid))

/-- The order of row locks in a listing. -/
def RowLock.precedes (a b : RowLock) : Bool :=
  if a.xid ≠ b.xid then decide (a.xid < b.xid)
  else if a.branchId ≠ b.branchId then decide (a.branchId < b.branchId)
  else if a.row.table ≠ b.row.table then decide (a.row.table < b.row.table)
  else decide (a.row.key ≤ b.row.key)

namespace Listing

/-- The sessions that satisfy a filter, in the order of a listing. -/
def matching (filter : SessionFilter) (sessions : List Session) : List Session :=
  (sessions.filter filter.accepts).mergeSort Session.precedes

/-- A session as a listing shows it: with its branches only where the filter asks for them. -/
def row (filter : SessionFilter) (session : Session) : Session :=
  if filter.withBranch then session else { session with branches := [] }

/-- One page of the sessions that satisfy a filter. -/
def sessions (limit : UInt32) (filter : SessionFilter) (page : PageRequest)
    (all : List Session) : Except Error (Page Session) := do
  filter.validate
  page.validate limit
  return (page.of (matching filter all)).map (row filter)

/-- The row locks that satisfy a filter, in the order of a listing. A session with another xid than
the one that is asked for is passed over before its rows are looked at. -/
def matchingLocks (filter : LockFilter) (sessions : List Session) : List RowLock :=
  let concerned := sessions.filter fun session => filter.xid.all (session.xid == ·)
  ((concerned.flatMap Session.rowLocks).filter filter.accepts).mergeSort RowLock.precedes

/-- One page of the row locks that satisfy a filter. -/
def locks (limit : UInt32) (filter : LockFilter) (page : PageRequest)
    (all : List Session) : Except Error (Page RowLock) := do
  page.validate limit
  return page.of (matchingLocks filter all)

end Listing

namespace Store

/-- One page of the sessions that satisfy a filter. -/
def listSessions (store : Store) (limit : UInt32) (filter : SessionFilter) (page : PageRequest) :
    Except Error (Page Session) :=
  Listing.sessions limit filter page store.sessions.toList

/-- One page of the row locks that satisfy a filter. -/
def listLocks (store : Store) (limit : UInt32) (filter : LockFilter) (page : PageRequest) :
    Except Error (Page RowLock) :=
  Listing.locks limit filter page store.sessions.toList

end Store

end SessionRegistry
