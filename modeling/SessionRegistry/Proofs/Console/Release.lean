import SessionRegistry.Proofs.Console.Form
import SessionRegistry.Proofs.Console.Requests
import SessionRegistry.Proofs.Store.Description

/-!
# Listed row locks can be released

The texts that the console shows of a row lock say which row is held, so that the row can be
released by passing these texts back. Parameters are trimmed and must not be blank, and neither does
any harm to the table and the key of a row: a lock key names trimmed tables and keys alone. A
resource id is registered as it is given. Passing back fails if it is blank or has blank characters
at its ends.

## Main definitions

* `RowLock.shown?`: the text that is shown of a row lock under a name.
* `Request.PassesBack`: a request passes back what is shown of a row lock.
* `RowLock.Returnable`: a row lock that can be passed back.
* `PassedBack`: what comes of it.

## Main results

* `RowLock.passesBack_releaseRequest`: every row lock can be named in a request.
* `Store.trim_xid_of_history`: xids are read as they are if the addresses are.
* `Store.release_of_shown_row`: passing back releases a row if and only if it can be passed back.
-/

namespace SessionRegistry

/-! ## Passing a row lock back -/

namespace RowLock

variable (lock : RowLock)

/-- The text that the console shows of a row lock under a name. -/
def shown? (name : String) : Option String :=
  match lock.view with
  | .obj fields => (Json.field fields name).join.bind Json.text?
  | _ => none

/-- The parameters that say which row lock is meant. -/
def coordinates : List Parameter :=
  [.xid, .branchId, .resourceId, .tableName, .pk]

/-- What is shown of a row lock under the names of these parameters. -/
theorem shown?_coordinates :
    coordinates.map (fun parameter => lock.shown? parameter.name) =
      [some lock.xid, some (toString lock.branchId.toNat), some lock.resourceId,
        some lock.row.table, some lock.row.key] := by
  rfl

/-- What a row lock is when it is read from its texts: the blank characters at the ends of its xid
and its resource id are lost. -/
def target : LockTarget where
  xid := some (Text.trim lock.xid)
  branchId := some lock.branchId
  resourceId := Text.trim lock.resourceId
  row := lock.row

/-- A row lock can be passed back: its xid and its resource id are read as they are. -/
structure Returnable : Prop where
  xid : Text.trim lock.xid = lock.xid
  resourceId : Text.trim lock.resourceId = lock.resourceId
  named : lock.resourceId ≠ ""

end RowLock

/-- A request passes a row lock back: it asks for the release of a row and names it by the texts
that the console shows of the row lock. -/
structure Request.PassesBack (request : Request) (lock : RowLock) : Prop where
  method : request.method = .delete
  path : Endpoint.ofPath? request.path = some .deleteLock
  texts : ∃ ps, Parameters.ofFields Endpoint.deleteLock.parameters (Form.parse request.query)
      = .ok ps ∧
    RowLock.coordinates.map ps.text? =
      RowLock.coordinates.map fun parameter => lock.shown? parameter.name

namespace RowLock

variable (lock : RowLock)

/-- The coordinates of a row lock as fields of form data. -/
def fields : List (String × String) :=
  [("xid", lock.xid), ("branchId", toString lock.branchId.toNat), ("resourceId", lock.resourceId),
    ("tableName", lock.row.table), ("pk", lock.row.key)]

/-- A request that passes a row lock back. -/
def releaseRequest : Request where
  method := .delete
  target := "/console/globalLock/delete?" ++ Form.write lock.fields

/-- Every row lock can be passed back, whatever characters its texts have. -/
theorem passesBack_releaseRequest : lock.releaseRequest.PassesBack lock := by
  have target : lock.releaseRequest.target.toList = '/' ::
      ("console/globalLock/delete".toList ++ '?' :: (Form.write lock.fields).toList) := by
    rw [releaseRequest, String.toList_append]
    rfl
  obtain ⟨path, query⟩ := Request.path_and_query (by decide) (by decide)
    (Form.hash_not_mem_write _) target
  rw [String.ofList_toList] at query
  refine ⟨rfl, ?_, ?_⟩
  · rw [path]
    decide
  · rw [query, Form.parse_write]
    exact ⟨_, rfl, rfl⟩

end RowLock

/-! ## Reading what is passed back -/

section Reading

variable {ps : Parameters} {lock : RowLock}

/-- The table and the key of a row that a lock key names are read as they are. -/
theorem Row.Legible.trim {row : Row} (legible : row.Legible) :
    (Text.trim row.table = row.table ∧ row.table ≠ "") ∧
      Text.trim row.key = row.key ∧ row.key ≠ "" := by
  refine ⟨⟨Text.trim_eq_self_iff.2 legible.table_trimmed, fun empty => ?_⟩,
    Text.trim_eq_self_iff.2 legible.key_trimmed, fun empty => ?_⟩
  · exact legible.table_ne_nil (empty ▸ rfl)
  · exact legible.key_ne_nil (empty ▸ rfl)

/-- The five texts of a row lock name its row, unless nothing is left of the resource id when it is
trimmed. -/
theorem Parameters.lockTarget_of_texts (named : Text.trim lock.xid ≠ "")
    (legible : lock.row.Legible)
    (texts : RowLock.coordinates.map ps.text? =
      RowLock.coordinates.map fun parameter => lock.shown? parameter.name) :
    ps.lockTarget =
      if Text.trim lock.resourceId = "" then .error (.invalidArgument (.missing "resourceId"))
      else .ok lock.target := by
  rw [lock.shown?_coordinates] at texts
  obtain ⟨xid, branchId, resourceId, table, key⟩ :
      ps.text? .xid = some lock.xid ∧ ps.text? .branchId = some (toString lock.branchId.toNat) ∧
        ps.text? .resourceId = some lock.resourceId ∧ ps.text? .tableName = some lock.row.table ∧
        ps.text? .pk = some lock.row.key := by
    simpa [RowLock.coordinates] using texts
  obtain ⟨⟨tableTrimmed, tableFilled⟩, keyTrimmed, keyFilled⟩ := legible.trim
  have xid := present?_of_text xid
  have resourceId := require_of_text resourceId
  have table : ps.require .tableName = .ok lock.row.table := by
    rw [require_of_text table, tableTrimmed, if_neg tableFilled]
  have key : ps.require .pk = .ok lock.row.key := by
    rw [require_of_text key, keyTrimmed, if_neg keyFilled]
  rw [lockTarget, optional_branchId_of_text branchId, resourceId, table, key, xid, if_neg named]
  split <;> rfl

/-- What is read from the texts of a row lock names a row in full, unless nothing is left of the
resource id. -/
theorem RowLock.validate_target (legible : lock.row.Legible)
    (named : Text.trim lock.resourceId ≠ "") : lock.target.validate = .ok () := by
  obtain ⟨⟨tableTrimmed, tableFilled⟩, keyTrimmed, keyFilled⟩ := legible.trim
  have resource := (Text.trim_ne_empty_iff _).1 ((Text.trim_trim lock.resourceId).symm ▸ named)
  have table := (Text.trim_ne_empty_iff _).1 (tableTrimmed.symm ▸ tableFilled)
  have key := (Text.trim_ne_empty_iff _).1 (keyTrimmed.symm ▸ keyFilled)
  rw [LockTarget.validate, target, if_neg resource, if_neg table, if_neg key]
  rfl

/-- The query for what is read from the texts of a row lock shows the row lock exactly if its xid
and its resource id are read as they are. -/
theorem RowLock.accepts_target_iff :
    lock.target.filter.accepts lock = true ↔
      Text.trim lock.xid = lock.xid ∧ Text.trim lock.resourceId = lock.resourceId := by
  simp only [LockFilter.accepts, LockTarget.filter, target, Option.all_some, beq_self_eq_true,
    Bool.and_true, Bool.and_eq_true, beq_iff_eq]
  exact and_congr eq_comm eq_comm

end Reading

/-! ## Releasing a row -/

namespace Store

variable {s next : Store} {lock other : RowLock}

/-- A row lock of a store is that of a row which a stored session holds, and its table and its key
can be read. -/
theorem exists_of_mem_rowLocks (held : lock ∈ s.sessions.toList.flatMap Session.rowLocks) :
    ∃ session, s.sessions.get? lock.xid = some session ∧ lock.row.Legible := by
  obtain ⟨session, hsession, hlock⟩ := List.mem_flatMap.1 held
  obtain ⟨branch, -, row, hrow, rfl⟩ := Session.mem_rowLocks.1 hlock
  exact ⟨session, (s.sessions.mem_toList_iff session).1 hsession, LockKey.legible_of_mem_rows hrow⟩

/-- The request that passes a row lock back is refused if nothing is left of the resource id, and
otherwise answered by the release of the row that is read. -/
theorem run_serve_of_passesBack {request : Request} {limit : UInt32}
    (passes : request.PassesBack lock) (named : Text.trim lock.xid ≠ "")
    (legible : lock.row.Legible) :
    (request.serve limit).run s =
      if Text.trim lock.resourceId = "" then
        (.ofResult (.error (.invalidArgument (.missing "resourceId"))), s)
      else
        (.ofResult (((deleteLock lock.target).run.run s).1.map fun _ => .done),
          ((deleteLock lock.target).run.run s).2) := by
  obtain ⟨ps, read, texts⟩ := passes.texts
  have asked : Endpoint.action ps .deleteLock =
      if Text.trim lock.resourceId = "" then .error (.invalidArgument (.missing "resourceId"))
      else .ok (.command (.deleteLock lock.target)) := by
    rw [Endpoint.action, ps.lockTarget_of_texts named legible texts]
    split <;> rfl
  rw [request.run_serve passes.path (passes.method ▸ (by decide)), passes.method,
    Endpoint.run_serve read, asked]
  by_cases blank : Text.trim lock.resourceId = ""
  · rw [if_pos blank, if_pos blank]
    rfl
  · rw [if_neg blank, if_neg blank]
    have performed : ((Action.command (.deleteLock lock.target)).perform limit).run.run s =
        (((deleteLock lock.target).run.run s).1.map fun _ => .done,
          ((deleteLock lock.target).run.run s).2) := by
      rcases ran : (deleteLock lock.target).run.run s with ⟨e | count, next⟩
      · have executed : (Command.deleteLock lock.target).execute.run.run s = (.error e, next) :=
          run_bind_of_error s _ ran
        exact run_bind_of_error s _ executed
      · have executed : (Command.deleteLock lock.target).execute.run.run s =
            (.ok (.released count), next) := run_bind_of_ok s _ ran
        exact run_bind_of_ok s _ executed
    dsimp only
    rw [performed, Response.forMethod, if_neg (by decide)]

/-- If the xid is read as it is, at most the row lock itself is listed for what is read from its
texts. -/
theorem eq_of_mem_lockListing_target (apart : Session.Apart s.sessions.toList)
    (held : lock ∈ s.sessions.toList.flatMap Session.rowLocks)
    (xid : Text.trim lock.xid = lock.xid) (found : other ∈ s.lockListing lock.target.filter) :
    other = lock := by
  obtain ⟨held', accepted⟩ := mem_lockListing_iff.1 found
  obtain ⟨sameXid, sameId, -, table, key⟩ := (LockFilter.accepts_iff_satisfied _ _).1 accepted
  refine Listing.eq_of_position_eq apart held' held ?_
  rw [RowLock.position, RowLock.position, (sameXid _ rfl).trans xid, sameId _ rfl, table _ rfl,
    key _ rfl]
  rfl

/-- What comes of passing a listed row lock back. -/
structure PassedBack (lock : RowLock) (s : Store) (response : Response) (next : Store) : Prop where
  /-- If it can be passed back, the request succeeds, -/
  succeeds : lock.Returnable → response = .ofResult (.ok .done)
  /-- and afterwards no query shows the row lock. -/
  gone : lock.Returnable → ∀ (limit : UInt32) (query : Request), query.ListsLocks →
    ¬ ((query.serve limit).run next).1.Shows lock
  /-- Every other row lock is then listed as often as before, whatever is asked for. -/
  others : lock.Returnable → ∀ filter other, other ≠ lock →
    (next.lockListing filter).count other = (s.lockListing filter).count other
  /-- If it cannot be passed back, the row lock itself is listed as often as before. -/
  kept : ¬ lock.Returnable → ∀ filter,
    (next.lockListing filter).count lock = (s.lockListing filter).count lock
  /-- If this is not due to the xid, the request is refused, and nothing is written. -/
  refused : ¬ lock.Returnable → Text.trim lock.xid = lock.xid → s.Untouched next ∧
    response = .ofResult (.error
      (if Text.trim lock.resourceId = "" then .invalidArgument (.missing "resourceId")
      else .notFound (.rowLock (Text.trim lock.resourceId) lock.row.table lock.row.key)))

/-- A row lock that is found by what is read from its texts is released. -/
theorem ReleaseAgrees.passedBack {result : Except Error Nat}
    (agrees : ReleaseAgrees lock.target s
      (result.map fun count => Operation.Outcome.reply (.released count)) next)
    (apart : Session.Apart s.sessions.toList)
    (held : lock ∈ s.sessions.toList.flatMap Session.rowLocks) (ok : lock.Returnable) :
    PassedBack lock s (.ofResult (result.map fun _ => .done)) next := by
  have accepted := lock.accepts_target_iff.2 ⟨ok.xid, ok.resourceId⟩
  have listed : lock ∈ s.lockListing lock.target.filter := mem_lockListing_iff.2 ⟨held, accepted⟩
  have counted : ¬ s.CountsLocks lock.target.filter 0 := fun none =>
    List.not_mem_nil (countsLocks_zero_iff.1 none ▸ listed)
  refine ⟨fun _ => ?succeeds, fun _ limit query lists shown => ?gone, fun _ filter other differs =>
    agrees.others filter other fun found => differs ?others, (absurd ok ·), (absurd ok ·)⟩
  case succeeds =>
    have answer := agrees.answer counted
    cases result with
    | error e => cases answer
    | ok count => rfl
  case gone =>
    have still : lock ∈ next.lockListing lock.target.filter :=
      mem_lockListing_iff.2 ⟨lists.mem_of_shows shown, accepted⟩
    rw [countsLocks_zero_iff.1 (agrees.gone counted)] at still
    exact List.not_mem_nil still
  case others => exact eq_of_mem_lockListing_target apart held ok.xid found

/-- A row lock that is not found by what is read from its texts stays. If its xid is read as it is,
nothing else is found either. -/
theorem ReleaseAgrees.passedBack_of_not_accepts {result : Except Error Nat}
    (agrees : ReleaseAgrees lock.target s
      (result.map fun count => Operation.Outcome.reply (.released count)) next)
    (apart : Session.Apart s.sessions.toList) (rest : s.AtRest)
    (valid : lock.target.validate = .ok ()) (blank : Text.trim lock.resourceId ≠ "")
    (ran : (deleteLock lock.target).run.run s = (result, next))
    (held : lock ∈ s.sessions.toList.flatMap Session.rowLocks)
    (missed : ¬ lock.target.filter.accepts lock = true) :
    PassedBack lock s (.ofResult (result.map fun _ => .done)) next := by
  have lost : ¬ lock.Returnable := fun ok =>
    missed (lock.accepts_target_iff.2 ⟨ok.xid, ok.resourceId⟩)
  have unlisted : lock ∉ s.lockListing lock.target.filter := fun listed =>
    missed (mem_lockListing_iff.1 listed).2
  refine ⟨(absurd · lost), (absurd · lost), (absurd · lost),
    fun _ filter => agrees.others filter lock unlisted, fun _ xid => ?_⟩
  have none : s.lockListing lock.target.filter = [] :=
    List.eq_nil_iff_forall_not_mem.2 fun found listed => by
      have same : found = lock := eq_of_mem_lockListing_target apart held xid listed
      rw [same] at listed
      exact unlisted listed
  obtain ⟨what, run, missing⟩ :=
    run_deleteLock_of_none rest valid (LockTarget.matchingLocks_filter_eq_nil_iff.1 none)
  obtain ⟨rfl, rfl⟩ := Prod.mk.inj (run.symm.trans ran)
  refine ⟨⟨_, _, _, rfl⟩, ?_⟩
  rcases missing with rfl | ⟨gone, is, missing, -⟩
  · rw [if_neg blank]
    rfl
  · -- The session that is named is the one that holds the row.
    obtain ⟨session, stored, -⟩ := exists_of_mem_rowLocks held
    obtain rfl : Text.trim lock.xid = gone := Option.some.inj is
    rw [xid, stored] at missing
    cases missing

/-- What comes of passing back a row lock of a store in which nothing stands in the way of any
change. -/
theorem passedBack {request : Request} {limit : UInt32} (ready : ∀ xid, s.Ready xid)
    (apart : Session.Apart s.sessions.toList)
    (checked : s.sessions.Every fun session => checkImage session.xid session = .ok ())
    (held : lock ∈ s.sessions.toList.flatMap Session.rowLocks) (passes : request.PassesBack lock) :
    PassedBack lock s ((request.serve limit).run s).1 ((request.serve limit).run s).2 := by
  obtain ⟨session, stored, legible⟩ := exists_of_mem_rowLocks held
  have key : session.xid = lock.xid := SessionTable.xid_of_get? stored
  have named : Text.trim lock.xid ≠ "" :=
    key ▸ (checkImage_eq_ok_iff.1 (checked lock.xid session stored)).named
  rw [run_serve_of_passesBack passes named legible]
  by_cases blank : Text.trim lock.resourceId = ""
  · -- Nothing is asked of the store.
    rw [if_pos blank]
    have lost : ¬ lock.Returnable := fun ok => ok.named (ok.resourceId ▸ blank)
    exact ⟨(absurd · lost), (absurd · lost), (absurd · lost), fun _ _ => rfl, fun _ _ =>
      ⟨.refl s, by rw [if_pos blank]⟩⟩
  rw [if_neg blank]
  have rest := AtRest.of_ready ready
  have valid := lock.validate_target legible blank
  have plain : Plain ((deleteLock lock.target).run.run s).1 :=
    (ready (Text.trim lock.xid)).plain_deleteLock rfl valid
  rcases ran : (deleteLock lock.target).run.run s with ⟨result, next⟩
  rw [ran] at plain
  have agrees := releaseAgrees rest apart checked valid (runOn_deleteLock ran) (plain.map _)
  by_cases accepted : lock.target.filter.accepts lock = true
  · obtain ⟨xid, resourceId⟩ := lock.accepts_target_iff.1 accepted
    exact agrees.passedBack apart held
      ⟨xid, resourceId, fun empty => blank (resourceId.trans empty)⟩
  · exact agrees.passedBack_of_not_accepts apart rest valid blank ran held accepted

/-! ## Xids -/

/-- The xid that a session gets when it is begun is read as it is if the address is. -/
theorem trim_begun {address : String} (h : Text.trim address = address) (id : UInt64) :
    Text.trim s!"{address}:{id}" = s!"{address}:{id}" := by
  rw [Text.trim_eq_self_iff] at h ⊢
  have chars : (s!"{address}:{id}").toList =
      address.toList ++ ':' :: (toString id.toNat).toList := by
    simp [toString]
  rw [chars]
  refine Text.trimChars_eq_self (fun c hc => ?_) fun c hc => ?_
  · -- The address comes first, or the colon if the address is empty.
    rw [List.head?_append] at hc
    cases first : address.toList.head? with
    | none =>
      rw [first] at hc
      obtain rfl : ':' = c := Option.some.inj hc
      decide
    | some d =>
      rw [first] at hc
      obtain rfl : d = c := Option.some.inj hc
      exact Text.isBlank_head?_of_trimChars_eq_self h d first
  · have digits : (toString id.toNat).toList ≠ [] := Text.toList_toString _ ▸ Nat.toDigits_ne_nil
    rw [List.getLast?_append, List.getLast?_cons_of_ne_nil digits,
      List.getLast?_eq_some_getLast digits, Option.some_or,
      ← List.getLast?_eq_some_getLast digits] at hc
    exact (Text.isTrimmed_toString id.toNat).isBlank_getLast? c hc

/-- If no image is put as it is given, and the addresses under which sessions are begun have no
blank characters at their ends, then neither have the xids. -/
theorem trim_xid_of_history {settings : StoreSettings} {now : Millis} {start : Store}
    {events : List Event} {attempts : List Attempt}
    (opened : openFiles settings now { snapshot := none, log := [] } = .ok start)
    (history : History start events attempts s)
    (fits : (∃ settings now, Event.crash settings now ∈ events) →
      ∀ attempt ∈ attempts, (Codec.record.encode attempt.record).length < UInt32.size)
    (given : ∀ session, .perform (.put session) ∉ events)
    (addresses : ∀ address applicationId serviceGroup name timeout,
      .perform (.begin address applicationId serviceGroup name timeout) ∈ events →
        Text.trim address = address) :
    s.sessions.Every fun session => Text.trim session.xid = session.xid := by
  have first : start.Every (fun session => Text.trim session.xid = session.xid)
      (∃ settings now, Event.crash settings now ∈ events) := .of_open .nothing opened
  refine (first.history history ?logged (fun settings now dies => ⟨settings, now, dies⟩) fits).shown
  case logged =>
    intro op performed m image trimmed logged
    -- Only `put` and `begin` choose an xid, every other image has that of the session before.
    cases op with
    | put session => exact absurd performed (given session)
    | begin address applicationId serviceGroup name timeout =>
      have whole := addresses _ _ _ _ _ performed
      generalize hlogged : LogOperation.upsert image = change at logged
      cases logged with
      | begin _ begun _ =>
        obtain rfl := LogOperation.upsert.inj hlogged
        subst begun
        exact trim_begun whole _
      | revise revises => cases revises
    | _ =>
      obtain ⟨before, stored, -⟩ := logged.evolves (by simp) (by simp)
      have kept : Text.trim before.xid = before.xid := trimmed _ before stored
      rwa [SessionTable.xid_of_get? stored] at kept

/-! ## Listed rows -/

section Histories

variable {settings : StoreSettings} {now : Millis} {start : Store} {events : List Event}
  {attempts : List Attempt}

/-- Whatever happened to a store that was opened in an empty directory: while it is open, nobody
holds a lock and every operation can be logged, passing back a row lock that a query shows
succeeds, and no query shows it afterwards, if its xid and its resource id have no blank characters
at their ends and the resource id is not empty. Otherwise it stays listed. Every row lock can be
passed back by some request, and its xid is no obstacle where no image was put as it is given and
all addresses are trimmed. If the process may have died, the records of all changes that were
attempted have to be readable. -/
theorem release_of_shown_row
    (opened : openFiles settings now { snapshot := none, log := [] } = .ok start)
    (history : History start events attempts s)
    (fits : (∃ settings now, Event.crash settings now ∈ events) →
      ∀ attempt ∈ attempts, (Codec.record.encode attempt.record).length < UInt32.size)
    (isOpen : s.closed = false) (free : s.locks.held = [])
    (accepts : ∀ logged, s.Accepts logged) {query : Request} {limit : UInt32}
    (lists : query.ListsLocks) (shown : ((query.serve limit).run s).1.Shows lock) :
    (∃ request : Request, request.PassesBack lock) ∧
      (∀ (request : Request) (limit : UInt32), request.PassesBack lock →
        PassedBack lock s ((request.serve limit).run s).1 ((request.serve limit).run s).2) ∧
      ((∀ session, .perform (.put session) ∉ events) →
        (∀ address applicationId serviceGroup name timeout,
          .perform (.begin address applicationId serviceGroup name timeout) ∈ events →
            Text.trim address = address) →
        Text.trim lock.xid = lock.xid) := by
  have held := lists.mem_of_shows shown
  refine ⟨⟨_, lock.passesBack_releaseRequest⟩, fun request limit passes => ?_,
    fun given addresses => ?_⟩
  · exact passedBack (ready_of_history opened history fits isOpen free accepts)
      (apart_of_history opened history fits) (checked_of_history opened history fits) held passes
  · obtain ⟨session, stored, -⟩ := exists_of_mem_rowLocks held
    have trimmed : Text.trim session.xid = session.xid :=
      trim_xid_of_history opened history fits given addresses lock.xid session stored
    rwa [SessionTable.xid_of_get? stored] at trimmed

end Histories

/-- A branch registers for a resource whose id has spaces, an ampersand and an umlaut inside: its
row is shown, passed back and released. -/
theorem release_of_shown_row_of_registration :
    ∃ (start s : Store) (events : List Event) (attempts : List Attempt) (lock : RowLock),
      openFiles {} 0 { snapshot := none, log := [] } = .ok start ∧
      History start events attempts s ∧ s.closed = false ∧ s.locks.held = [] ∧
      (∀ logged, s.Accepts logged) ∧
      ((Request.listAllLocks.serve 10).run s).1.Shows lock ∧ lock.Returnable ∧
      ((lock.releaseRequest.serve 10).run s).1 = .ofResult (.ok .done) ∧
      PassedBack lock s ((lock.releaseRequest.serve 10).run s).1
        ((lock.releaseRequest.serve 10).run s).2 := by
  let start := resume {} 0 { snapshot := none, log := [] } (Recovered.ofSnapshot Snapshot.empty)
  let join := Operation.register "h:1"
    { type := .automatic, resourceId := "db & ü", lockKey := some "t : 1" }
  have opened : openFiles {} 0 { snapshot := none, log := [] } = .ok start :=
    openFiles_nothing {} 0
  let shown (s : Store) := (s.sessions.toList.flatMap Session.rowLocks).map fun lock =>
    (lock.xid, lock.resourceId)
  obtain ⟨s1, s, begins, joins, isOpen, free, within, room, seen⟩ :
      ∃ s1 s : Store,
        (Operation.begin "h" "app" "" "tx" 1).runOn start = (.ok (.begun "h:1"), s1)
          ∧ join.runOn s1 = (.ok (.id 2), s)
          ∧ s.closed = false ∧ s.locks.held = [] ∧ s.log.syncsWithinWait = true
          ∧ s.lsn + 1 ≠ 0
          ∧ shown s = [("h:1", "db & ü")] :=
    ⟨_, _, runOn_of_toOption (by decide +kernel), runOn_of_toOption (by decide +kernel),
      by decide +kernel, by decide +kernel, by decide +kernel, by decide +kernel,
      by decide +kernel⟩
  obtain ⟨_, -, run1, regular1⟩ := Run.start.exists_step .nil begins rfl rfl (by simp)
  obtain ⟨_, -, run, -⟩ := run1.exists_step regular1 joins rfl rfl (by simp)
  have few : (s.sessions.toList.flatMap Session.rowLocks).length = 1 := by
    simpa [shown] using congrArg List.length seen
  obtain ⟨lock, hlock, is⟩ := List.mem_map.1 (seen ▸ List.mem_cons_self)
  obtain ⟨xid, resourceId⟩ := Prod.mk.inj is
  have shows : ((Request.listAllLocks.serve 10).run s).1.Shows lock :=
    (shows_listAllLocks_iff (by decide) (by omega)).2 hlock
  have returnable : lock.Returnable := by
    constructor
    · rw [xid]
      decide +kernel
    · rw [resourceId]
      decide +kernel
    · rw [resourceId]
      decide
  have accepts := accepts_of_syncsWithinWait within room
  obtain ⟨-, passedBack, -⟩ := release_of_shown_row opened run.history (by simp) isOpen free accepts
    Request.listsLocks_listAllLocks shows
  have back := passedBack lock.releaseRequest 10 lock.passesBack_releaseRequest
  exact ⟨start, s, _, _, lock, opened, run.history, isOpen, free, accepts, shows, returnable,
    back.succeeds returnable, back⟩

/-- A row lock that cannot be passed back on account of its resource id is shown, refused, and shown
again. -/
theorem refused_and_shown_again (ready : ∀ xid, s.Ready xid)
    (apart : Session.Apart s.sessions.toList)
    (checked : s.sessions.Every fun session => checkImage session.xid session = .ok ())
    (few : (s.sessions.toList.flatMap Session.rowLocks).length ≤ 10)
    (held : lock ∈ s.sessions.toList.flatMap Session.rowLocks)
    (xid : Text.trim lock.xid = lock.xid) (lost : ¬ lock.Returnable) :
    ((Request.listAllLocks.serve 10).run s).1.Shows lock ∧
      lock.releaseRequest.PassesBack lock ∧
      ((lock.releaseRequest.serve 10).run s).1 ≠ .ofResult (.ok .done) ∧
      ((Request.listAllLocks.serve 10).run ((lock.releaseRequest.serve 10).run s).2).1.Shows
        lock := by
  have shows : ((Request.listAllLocks.serve 10).run s).1.Shows lock :=
    (shows_listAllLocks_iff (by decide) few).2 held
  obtain ⟨same, response⟩ :=
    (passedBack ready apart checked held lock.passesBack_releaseRequest).refused lost xid
  refine ⟨shows, lock.passesBack_releaseRequest, ?_, ?_⟩
  · rw [response]
    exact fun same => by cases congrArg Response.body same
  · refine (shows_listAllLocks_iff (by decide) ?_).2 ?_
    · rwa [same.sessions]
    · rwa [same.sessions]

/-- Two branches register, one for a resource whose id has spaces at its ends and one for a resource
without a name. Their rows are shown, but the requests that pass them back are refused, and the rows
are shown again. -/
theorem not_release_of_untrimmed_resourceId :
    ∃ (start s : Store) (attempts : List Attempt) (padded nameless : RowLock),
      openFiles {} 0 { snapshot := none, log := [] } = .ok start ∧
      History start [.perform (.begin "h" "app" "" "tx" 1),
        .perform (.register "h:1"
          { type := .automatic, resourceId := " db ", lockKey := some "t:1" }),
        .perform (.register "h:1" { type := .automatic, resourceId := "", lockKey := some "t:1" })]
        attempts s ∧
      s.closed = false ∧ s.locks.held = [] ∧
      (∀ logged, s.Accepts logged) ∧
      (padded.resourceId = " db " ∧ nameless.resourceId = "") ∧
      (∀ lock ∈ [padded, nameless],
        ((Request.listAllLocks.serve 10).run s).1.Shows lock ∧
        lock.releaseRequest.PassesBack lock ∧
        ((lock.releaseRequest.serve 10).run s).1 ≠ .ofResult (.ok .done) ∧
        ((Request.listAllLocks.serve 10).run ((lock.releaseRequest.serve 10).run s).2).1.Shows
          lock) := by
  let start := resume {} 0 { snapshot := none, log := [] } (Recovered.ofSnapshot Snapshot.empty)
  let join (resourceId : String) := Operation.register "h:1"
    { type := .automatic, resourceId, lockKey := some "t:1" }
  have opened : openFiles {} 0 { snapshot := none, log := [] } = .ok start :=
    openFiles_nothing {} 0
  let shown (s : Store) := (s.sessions.toList.flatMap Session.rowLocks).map fun lock =>
    (lock.xid, lock.resourceId)
  obtain ⟨s1, s2, s, begins, joins, joins', isOpen, free, within, room, seen⟩ :
      ∃ s1 s2 s : Store,
        (Operation.begin "h" "app" "" "tx" 1).runOn start = (.ok (.begun "h:1"), s1)
          ∧ (join " db ").runOn s1 = (.ok (.id 2), s2) ∧ (join "").runOn s2 = (.ok (.id 3), s)
          ∧ s.closed = false ∧ s.locks.held = [] ∧ s.log.syncsWithinWait = true
          ∧ s.lsn + 1 ≠ 0
          ∧ shown s = [("h:1", " db "), ("h:1", "")] :=
    ⟨_, _, _, runOn_of_toOption (by decide +kernel), runOn_of_toOption (by decide +kernel),
      runOn_of_toOption (by decide +kernel), by decide +kernel, by decide +kernel,
      by decide +kernel, by decide +kernel, by decide +kernel⟩
  obtain ⟨_, -, run1, regular1⟩ := Run.start.exists_step .nil begins rfl rfl (by simp)
  obtain ⟨_, -, run2, regular2⟩ := run1.exists_step regular1 joins rfl rfl (by simp)
  obtain ⟨_, -, run, -⟩ := run2.exists_step regular2 joins' rfl rfl (by simp)
  have few : (s.sessions.toList.flatMap Session.rowLocks).length = 2 := by
    simpa [shown] using congrArg List.length seen
  have accepts := accepts_of_syncsWithinWait within room
  have ready := ready_of_history opened run.history (by simp) isOpen free accepts
  have apart := apart_of_history opened run.history (by simp)
  have checked := checked_of_history opened run.history (by simp)
  have refuses (lock : RowLock) (held : lock ∈ s.sessions.toList.flatMap Session.rowLocks) :=
    refused_and_shown_again ready apart checked (by omega) held
  obtain ⟨padded, others, held, is, rest⟩ := List.map_eq_cons_iff.1 seen
  obtain ⟨nameless, _, rfl, is', -⟩ := List.map_eq_cons_iff.1 rest
  obtain ⟨xid, resourceId⟩ := Prod.mk.inj is
  obtain ⟨xid', resourceId'⟩ := Prod.mk.inj is'
  refine ⟨start, s, _, padded, nameless, opened, run.history, isOpen, free, accepts,
    ⟨resourceId, resourceId'⟩, ?_⟩
  refine List.forall_mem_cons.2 ⟨?_, List.forall_mem_singleton.2 ?_⟩
  · refine refuses padded (held ▸ by simp) (xid ▸ by decide +kernel) fun ok => ?_
    exact absurd ok.resourceId (resourceId ▸ by decide +kernel)
  · exact refuses nameless (held ▸ by simp) (xid' ▸ by decide +kernel) fun ok =>
      ok.named resourceId'

end Store

end SessionRegistry
