import SessionRegistry.Command.Execution
import SessionRegistry.Console.View
import SessionRegistry.Query.Listing

/-!
# Actions

What a request can ask a registry for: a listing, a check, its health, or a command. An action is
performed on a store and has an answer, which the console shows in JSON.
-/

namespace SessionRegistry

/-- What a request asks for. -/
inductive Action where
  | listSessions (filter : SessionFilter) (page : PageRequest)
  | listBranches (xid : Xid)
  | listLocks (filter : LockFilter) (page : PageRequest)
  /-- Whether a session exists and has a branch of a given number. -/
  | checkLock (xid : Xid) (id : BranchId)
  | health
  | command (command : Command)
  deriving DecidableEq, Repr

/-- What an action answers. -/
inductive Answer where
  | sessions (page : Page Session)
  | branches (branches : List Branch)
  | locks (page : Page RowLock)
  | flag (b : Bool)
  /-- The number of sessions and the latest change. -/
  | health (sessions : Nat) (latest : Modification)
  /-- The status that a session was moved to. -/
  | status (status : GlobalStatus)
  | done
  deriving DecidableEq, Repr

namespace Action

/-- The answer to a command. How many branches released a row is not told. -/
def ofReply : Command.Reply → Answer
  | .done => .done
  | .status status => .status status
  | .released _ => .done

/-- Perform an action. No page of a listing has more rows than the limit. -/
def perform (limit : UInt32) : Action → StoreM Answer
  | listSessions filter page => do
    return .sessions (← Store.answer ((← get).listSessions limit filter page))
  | listBranches xid => return .branches (← Store.answer ((← get).branches xid))
  | listLocks filter page => do
    return .locks (← Store.answer ((← get).listLocks limit filter page))
  | checkLock xid id => return .flag ((← get).ownsBranch xid id)
  | health => return .health (← get).sessions.size (← get).modification
  | command c => return ofReply (← c.execute)

end Action

namespace Answer

/-- The fields that report success. -/
def success (data : Json) : List (String × Json) :=
  [("success", .bool true), ("code", .str "OK"), ("message", .str "success"), ("data", data)]

/-- A page of a listing: its rows, and where it stands in the listing. -/
def pageFields {α : Type} (view : α → Json) (page : Page α) : List (String × Json) :=
  success (.arr (page.rows.map view))
    ++ [("totalCount", .nat page.total), ("pageNum", .nat page.number.toNat),
      ("pageSize", .nat page.size.toNat), ("pages", .nat page.pages)]

/-- An answer as the console shows it. -/
def toJson : Answer → Json
  | sessions page => .obj (pageFields Session.view page)
  | locks page => .obj (pageFields RowLock.view page)
  | branches items => .obj (success (.arr (items.map Branch.view)))
  | flag b => .obj (success (.bool b))
  | health count latest =>
    .obj <| success <| .obj
      [("status", .str "UP"), ("sessions", .nat count), ("lastLsn", .nat latest.lsn.toNat),
        ("lastModified", .nat latest.timestamp.toNat)]
  | status new => .obj (success (.str new.name))
  | done => .obj (success .null)

end Answer

/-- A failure as the console shows it. -/
def Error.toJson (e : Error) : Json :=
  .obj [("success", .bool false), ("code", .str e.kind.code), ("message", .str e.message),
    ("data", .null)]

end SessionRegistry
