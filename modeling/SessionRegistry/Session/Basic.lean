import SessionRegistry.Session.Branch

/-!
# Sessions

A session is the record of one distributed transaction and owns its branches. It is stored and
replaced as a whole.

* `isSome_branch?`: a branch is found exactly when the session has one of that number.
* `branches_addBranch`, `hasBranch_addBranch`: the branches after an addition.
-/

namespace SessionRegistry

/-- The record of one distributed transaction. -/
structure Session where
  xid : Xid
  transactionId : UInt64
  applicationId : String
  serviceGroup : String
  name : String
  timeout : Millis
  status : GlobalStatus
  /-- The status that a stopped session had before. -/
  suspendedFrom : Option GlobalStatus
  beginTime : Millis
  modifiedTime : Millis
  /-- The branches, in the order of registration. -/
  branches : List Branch
  deriving DecidableEq, Repr, Inhabited

/-- Apply a function to the first entry that satisfies a test. -/
def modifyFirst {α : Type} (test : α → Bool) (f : α → α) : List α → List α
  | [] => []
  | a :: rest => if test a then f a :: rest else a :: modifyFirst test f rest

namespace Session

/-- A fresh session: it begins, has no branches and a timeout of one minute. -/
def start (xid : Xid) (transactionId : UInt64) (applicationId name : String)
    (beginTime : Millis) : Session where
  xid
  transactionId
  applicationId
  serviceGroup := ""
  name
  timeout := 60000
  status := .begin
  suspendedFrom := none
  beginTime
  modifiedTime := beginTime
  branches := []

/-- A fresh branch of the session. It takes over the session's application and name. -/
def newBranch (session : Session) (id : BranchId) (type : BranchType) (resourceId : String)
    (now : Millis) : Branch where
  xid := session.xid
  id
  applicationId := session.applicationId
  transactionName := session.name
  type
  resourceId
  lockKey := none
  clientId := none
  applicationData := none
  status := .registered
  suspendedFrom := none
  beginTime := now
  modifiedTime := now

/-- The branch of a given number, the first if there are several. -/
def branch? (session : Session) (id : BranchId) : Option Branch :=
  session.branches.find? (·.id == id)

/-- Whether the session has a branch of a given number. -/
def hasBranch (session : Session) (id : BranchId) : Bool :=
  session.branches.any (·.id == id)

/-- Add a branch at the end, unless its number is taken. -/
def addBranch (session : Session) (branch : Branch) : Session :=
  if session.hasBranch branch.id then session
  else { session with branches := session.branches ++ [branch] }

/-- Take out the first branch of a given number. -/
def removeBranch (session : Session) (id : BranchId) : Session :=
  { session with branches := session.branches.eraseP (·.id == id) }

/-- Change the first branch of a given number. -/
def modifyBranch (session : Session) (id : BranchId) (f : Branch → Branch) : Session :=
  { session with branches := modifyFirst (·.id == id) f session.branches }

/-- Whether the transaction runs in Saga mode: one of its branches does. -/
def isSaga (session : Session) : Bool :=
  session.branches.any (·.type == .saga)

/-- The statuses of the branches, in order. -/
def branchStatuses (session : Session) : List BranchStatus :=
  session.branches.map Branch.status

/-- The highest number in a session: its own or one of its branches'. -/
def maxId (session : Session) : UInt64 :=
  session.branches.foldl (fun top branch => max top branch.id) session.transactionId

/-- A session has a branch of a number exactly when one can be found. -/
theorem isSome_branch? (session : Session) (id : BranchId) :
    (session.branch? id).isSome = session.hasBranch id := by
  unfold branch? hasBranch
  induction session.branches with
  | nil => rfl
  | cons b rest ih => by_cases h : b.id = id <;> simp_all

@[simp]
theorem xid_addBranch (session : Session) (branch : Branch) :
    (session.addBranch branch).xid = session.xid := by
  unfold addBranch
  split <;> rfl

/-- A branch is added at the end, unless its number is taken. -/
theorem branches_addBranch (session : Session) (branch : Branch) :
    (session.addBranch branch).branches
      = if session.hasBranch branch.id then session.branches
        else session.branches ++ [branch] := by
  unfold addBranch
  split <;> rfl

/-- After an addition the number is taken. -/
theorem hasBranch_addBranch (session : Session) (branch : Branch) :
    (session.addBranch branch).hasBranch branch.id = true := by
  by_cases h : session.hasBranch branch.id = true
  · simp [addBranch, h]
  · rw [addBranch, if_neg h]
    simp [hasBranch]

end Session

end SessionRegistry
