import SessionRegistry.Console.Action
import SessionRegistry.Console.Reading

/-!
# Endpoints

The places where the console takes requests: the path and the method of each, the parameters that it
knows, and the action that they ask for. Every path but that of the health check stands under two
roots.
-/

namespace SessionRegistry

/-- The methods that the console tells apart. -/
inductive Method where
  | get
  | head
  | put
  | delete
  | options
  | other
  deriving DecidableEq, Repr, Inhabited

namespace Method

/-- The method of a given name. Names are written in capital letters. -/
def ofName : String → Method
  | "GET" => get
  | "HEAD" => head
  | "PUT" => put
  | "DELETE" => delete
  | "OPTIONS" => options
  | _ => other

end Method

/-- A place where the console takes requests. -/
inductive Endpoint where
  | listSessions
  | deleteSession
  | forceDeleteSession
  | stopSession
  | startSession
  | sendOutcome
  | changeStatus
  | listBranches
  | deleteBranch
  | forceDeleteBranch
  | stopBranch
  | startBranch
  | listLocks
  | deleteLock
  | checkLock
  | health
  deriving DecidableEq, Repr, Inhabited

namespace Endpoint

/-- Every endpoint, in the order of declaration. -/
def all : List Endpoint :=
  [listSessions, deleteSession, forceDeleteSession, stopSession, startSession, sendOutcome,
    changeStatus, listBranches, deleteBranch, forceDeleteBranch, stopBranch, startBranch, listLocks,
    deleteLock, checkLock, health]

/-- Where the endpoint stands under its roots. -/
def name : Endpoint → String
  | listSessions => "/globalSession/query"
  | deleteSession => "/globalSession/deleteGlobalSession"
  | forceDeleteSession => "/globalSession/forceDeleteGlobalSession"
  | stopSession => "/globalSession/stopGlobalSession"
  | startSession => "/globalSession/startGlobalSession"
  | sendOutcome => "/globalSession/sendCommitOrRollback"
  | changeStatus => "/globalSession/changeGlobalStatus"
  | listBranches => "/branchSession/queryByXid"
  | deleteBranch => "/branchSession/deleteBranchSession"
  | forceDeleteBranch => "/branchSession/forceDeleteBranchSession"
  | stopBranch => "/branchSession/stopBranchSession"
  | startBranch => "/branchSession/startBranchSession"
  | listLocks => "/globalLock/query"
  | deleteLock => "/globalLock/delete"
  | checkLock => "/globalLock/check"
  | health => "/health"

/-- The roots that the endpoint stands under. -/
def roots : Endpoint → List String
  | health => [""]
  | _ => ["/console", "/api/v1/console"]

/-- The paths of the endpoint. -/
def paths (endpoint : Endpoint) : List String :=
  endpoint.roots.map (· ++ endpoint.name)

/-- The endpoint with a given path. -/
def ofPath? (path : String) : Option Endpoint :=
  all.find? fun endpoint => endpoint.paths.contains path

/-- The methods that the endpoint takes. What can be got can also be asked for without its body. -/
def methods : Endpoint → List Method
  | listSessions | listBranches | listLocks | checkLock | health => [.get, .head]
  | stopSession | startSession | sendOutcome | changeStatus | stopBranch | startBranch => [.put]
  | deleteSession | forceDeleteSession | deleteBranch | forceDeleteBranch | deleteLock => [.delete]

/-- The methods that the endpoint takes, as a response names them. -/
def allowed (endpoint : Endpoint) : String :=
  if .get ∈ endpoint.methods then "GET,HEAD"
  else if .put ∈ endpoint.methods then "PUT"
  else "DELETE"

/-- The parameters that the endpoint knows. -/
def parameters : Endpoint → List Parameter
  | listSessions =>
    [.xid, .applicationId, .status, .transactionName, .withBranch, .pageNum, .pageSize, .timeStart,
      .timeEnd]
  | deleteSession | forceDeleteSession | stopSession | startSession | listBranches => [.xid]
  | sendOutcome => [.xid, .action]
  | changeStatus => [.xid, .status]
  | deleteBranch | forceDeleteBranch | stopBranch | startBranch | checkLock => [.xid, .branchId]
  | listLocks | deleteLock =>
    [.xid, .branchId, .resourceId, .tableName, .pk, .pageNum, .pageSize]
  | health => []

/-- The action that the parameters of a request ask for. -/
def action (ps : Parameters) : Endpoint → Except Error Action
  | listSessions => return .listSessions (← ps.sessionFilter) (← ps.page)
  | deleteSession => return .command (.deleteSession (← ps.xid))
  | forceDeleteSession => return .command (.forceDeleteSession (← ps.xid))
  | stopSession => return .command (.stopSession (← ps.xid))
  | startSession => return .command (.startSession (← ps.xid))
  | sendOutcome => return .command (.sendOutcome (← ps.xid) (← ps.direction))
  | changeStatus => return .command (.changeStatus (← ps.xid) (← ps.status))
  | listBranches => return .listBranches (← ps.xid)
  | deleteBranch => return .command (.deleteBranch (← ps.xid) (← ps.branchId))
  | forceDeleteBranch => return .command (.forceDeleteBranch (← ps.xid) (← ps.branchId))
  | stopBranch => return .command (.stopBranch (← ps.xid) (← ps.branchId))
  | startBranch => return .command (.startBranch (← ps.xid) (← ps.branchId))
  | listLocks => return .listLocks (← ps.lockFilter) (← ps.page)
  | deleteLock => return .command (.deleteLock (← ps.lockTarget))
  | checkLock => return .checkLock (← ps.xid) (← ps.branchId)
  | health => return .health

end Endpoint

end SessionRegistry
