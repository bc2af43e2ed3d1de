import SessionRegistry.Console.Router
import SessionRegistry.Proofs.Console.Reading
import SessionRegistry.Proofs.Store.Release

/-!
# What the console answers

A request that reaches an endpoint is answered by the action that its parameters ask for. The
response to a query for row locks shows those that are listed, page by page.

## Main definitions

* `Request.ListsLocks`: a request asks for a listing of row locks.
* `Response.Shows`: a response shows a row lock.

## Main results

* `Endpoint.run_serve`, `Request.run_serve`: how a request is answered.
* `Request.path_and_query`: the path and the query of a target.
* `RowLock.view_injective`: what is shown of a row lock determines it.
* `Request.ListsLocks.shows_iff`: which row locks a query shows.
-/

namespace SessionRegistry

/-! ## Requests -/

section Requests

open Store

variable {limit : UInt32} {s : Store} {endpoint : Endpoint} {request : Request}

/-- No endpoint takes the request for its methods as one of its own. -/
theorem Endpoint.options_not_mem_methods (endpoint : Endpoint) : .options ∉ endpoint.methods := by
  cases endpoint <;> decide

/-- An endpoint performs the action that the parameters of a request ask for. -/
theorem Endpoint.run_serve {fields : List (String × String)} {ps : Parameters}
    (read : Parameters.ofFields endpoint.parameters fields = .ok ps) :
    (endpoint.serve limit fields).run s =
      match endpoint.action ps with
      | .error e => (.ofResult (.error e), s)
      | .ok action => (.ofResult ((action.perform limit).run.run s).1,
          ((action.perform limit).run.run s).2) := by
  have served : (endpoint.serve limit fields).run s =
      let ended := (Store.answer (endpoint.action ps) >>= (·.perform limit)).run.run s
      (.ofResult ended.1, ended.2) := by
    rw [serve, read]
    rfl
  rw [served]
  cases endpoint.action ps with
  | error e => rw [run_bind_of_error s _ (run_answer s _)]
  | ok action => rw [run_bind_of_ok s _ (run_answer s _)]

/-- A request with a method that its endpoint takes is answered by the endpoint. -/
theorem Request.run_serve (reaches : Endpoint.ofPath? request.path = some endpoint)
    (taken : request.method ∈ endpoint.methods) :
    (request.serve limit).run s =
      ((((endpoint.serve limit (Form.parse request.query)).run s).1).forMethod request.method,
        ((endpoint.serve limit (Form.parse request.query)).run s).2) := by
  have other : request.method ≠ .options := fun same =>
    endpoint.options_not_mem_methods (same ▸ taken)
  simp only [serve, reaches, if_neg other, if_pos taken, StateT.run_bind, StateT.run_pure]
  rfl

/-- The path and the query of a target. The path begins with a slash. -/
theorem Request.path_and_query {path query : List Char} (noFragment : '#' ∉ path)
    (noQuery : '?' ∉ path) (whole : '#' ∉ query)
    (target : request.target.toList = '/' :: (path ++ '?' :: query)) :
    request.path = String.ofList ('/' :: path) ∧ request.query = String.ofList query := by
  have kept : ∀ c ∈ '/' :: (path ++ '?' :: query), (c != '#') = true := by
    intro c hc
    refine bne_iff_ne.2 fun same => ?_
    subst same
    simp [noFragment, whole] at hc
  have location : request.location = '/' :: (path ++ '?' :: query) := by
    rw [Request.location, target, List.takeWhile_eq_self_iff.2 kept]
    rfl
  have passes : ∀ c ∈ '/' :: path, (c != '?') = true := by
    intro c hc
    refine bne_iff_ne.2 fun same => ?_
    subst same
    simp [noQuery] at hc
  rw [Request.path, Request.query, location, ← List.cons_append,
    List.takeWhile_append_of_pos passes, List.dropWhile_append_of_pos passes]
  simp

end Requests

/-! ## Listings -/

/-- A request asks for a listing of row locks. -/
structure Request.ListsLocks (request : Request) : Prop where
  method : request.method = .get
  path : Endpoint.ofPath? request.path = some .listLocks

/-- A response shows a row lock: it is a page on which the row lock stands. -/
def Response.Shows (response : Response) (lock : RowLock) : Prop :=
  ∃ page : Page RowLock, lock ∈ page.rows ∧ response = .json 200 (Answer.locks page).toJson

/-- Different numbers are shown as different texts. -/
theorem toString_toNat_injective : Function.Injective fun n : UInt64 => toString n.toNat := by
  intro n m same
  have read := congrArg Text.readUInt64 same
  rwa [Text.readUInt64_toString, Text.readUInt64_toString, Option.some.injEq] at read

/-- What the console shows of a row lock determines it. -/
theorem RowLock.view_injective : Function.Injective RowLock.view := by
  intro a b same
  obtain ⟨xid, transactionId, branchId, resourceId, ⟨table, key⟩, beginTime, modifiedTime⟩ := a
  obtain ⟨xid', transactionId', branchId', resourceId', ⟨table', key'⟩, beginTime',
    modifiedTime'⟩ := b
  simp only [RowLock.view, numeral, Json.obj.injEq, List.cons.injEq, Prod.mk.injEq, Json.str.injEq,
    Json.nat.injEq, true_and, and_true, UInt64.toNat_inj] at same
  obtain ⟨rfl, transaction, branch, rfl, rfl, rfl, -, rfl, rfl⟩ := same
  obtain rfl := toString_toNat_injective transaction
  obtain rfl := toString_toNat_injective branch
  rfl

namespace Response

variable {lock : RowLock}

/-- A failure shows no row lock. -/
theorem not_shows_of_error (e : Error) : ¬ (ofResult (.error e)).Shows lock := by
  rintro ⟨page, -, same⟩
  cases congrArg Response.body same

/-- A page shows its own rows alone. -/
theorem shows_locks_iff {page : Page RowLock} :
    (ofResult (.ok (.locks page))).Shows lock ↔ lock ∈ page.rows := by
  refine ⟨?_, fun mem => ⟨page, mem, rfl⟩⟩
  rintro ⟨other, mem, same⟩
  have rows : page.rows.map RowLock.view = other.rows.map RowLock.view := by
    have body := congrArg Response.body same
    simp [ofResult, json, Answer.toJson, Answer.pageFields, Answer.success] at body
    exact body.1
  exact List.map_injective_iff.2 RowLock.view_injective rows ▸ mem

end Response

section Listings

open Store

variable {limit : UInt32} {s : Store} {request : Request} {lock : RowLock}

/-- A query is answered by the page of the listing that its parameters describe. -/
theorem Request.ListsLocks.run_serve {ps : Parameters} (lists : request.ListsLocks)
    (read : Parameters.ofFields Endpoint.listLocks.parameters (Form.parse request.query) = .ok ps) :
    (request.serve limit).run s =
      (.ofResult (do
        let filter ← ps.lockFilter
        let page ← ps.page
        (s.listLocks limit filter page).map Answer.locks), s) := by
  rw [request.run_serve lists.path (lists.method ▸ (by decide)), lists.method,
    Endpoint.run_serve read, Endpoint.action]
  cases ps.lockFilter with
  | error e => rfl
  | ok filter =>
    cases ps.page with
    | error e => rfl
    | ok page =>
      have performed : ((Action.listLocks filter page).perform limit).run.run s =
          ((s.listLocks limit filter page).map Answer.locks, s) := by
        rw [Action.perform, run_bind_of_ok s _ (run_get s)]
        cases s.listLocks limit filter page with
        | error e => rw [run_bind_of_error s _ (run_answer s _)]; rfl
        | ok found => rw [run_bind_of_ok s _ (run_answer s _)]; rfl
      exact congrArg (fun ended => (Response.ofResult ended.1, ended.2)) performed

/-- A query shows the row locks on the page that it asks for. -/
theorem Request.ListsLocks.shows_iff {ps : Parameters} {filter : LockFilter} {page : PageRequest}
    (lists : request.ListsLocks)
    (read : Parameters.ofFields Endpoint.listLocks.parameters (Form.parse request.query) = .ok ps)
    (filtered : ps.lockFilter = .ok filter) (paged : ps.page = .ok page)
    (valid : page.validate limit = .ok ()) :
    ((request.serve limit).run s).1.Shows lock ↔ lock ∈ page.slice (s.lockListing filter) := by
  rw [lists.run_serve read, filtered, paged]
  dsimp only [bind, Except.bind]
  rw [listLocks_eq valid]
  exact Response.shows_locks_iff

/-- Every row lock that a query shows is held. -/
theorem Request.ListsLocks.mem_of_shows (lists : request.ListsLocks)
    (shown : ((request.serve limit).run s).1.Shows lock) :
    lock ∈ s.sessions.toList.flatMap Session.rowLocks := by
  rcases read : Parameters.ofFields Endpoint.listLocks.parameters (Form.parse request.query) with
    twice | ps
  · -- A request that gives a parameter twice is not answered by a page.
    rw [request.run_serve lists.path (lists.method ▸ (by decide)), lists.method, Endpoint.serve,
      read] at shown
    obtain ⟨page, -, same⟩ := shown
    cases congrArg Response.body same
  rw [lists.run_serve read] at shown
  cases ended : (do
      let filter ← ps.lockFilter
      let page ← ps.page
      (s.listLocks limit filter page).map Answer.locks) with
  | error e =>
    rw [ended] at shown
    exact absurd shown (Response.not_shows_of_error e)
  | ok answer =>
    rw [ended] at shown
    obtain ⟨filter, -, ended⟩ := exists_of_bind_eq_ok ended
    obtain ⟨page, -, ended⟩ := exists_of_bind_eq_ok ended
    cases answered : s.listLocks limit filter page with
    | error e =>
      rw [answered] at ended
      cases ended
    | ok listed =>
      rw [answered] at ended
      cases ended
      exact mem_rowLocks_of_listLocks answered (Response.shows_locks_iff.1 shown)

/-- The query without conditions. -/
def Request.listAllLocks : Request where
  method := .get
  target := "/console/globalLock/query"

theorem Request.listsLocks_listAllLocks : listAllLocks.ListsLocks where
  method := rfl
  path := by decide +kernel

/-- The query without conditions shows every row lock if there are at most ten. -/
theorem shows_listAllLocks_iff (limit_ge : 10 ≤ limit)
    (few : (s.sessions.toList.flatMap Session.rowLocks).length ≤ 10) :
    ((Request.listAllLocks.serve limit).run s).1.Shows lock ↔
      lock ∈ s.sessions.toList.flatMap Session.rowLocks := by
  have fields : Form.parse Request.listAllLocks.query = [] := by decide +kernel
  have read : Parameters.ofFields Endpoint.listLocks.parameters
      (Form.parse Request.listAllLocks.query) = .ok Parameters.none := by
    rw [fields]
    rfl
  have valid : PageRequest.validate {} limit = .ok () :=
    PageRequest.validate_eq_ok (by decide) (by decide) limit_ge
  have filtered : Parameters.none.lockFilter = .ok {} := rfl
  have paged : Parameters.none.page = .ok {} := rfl
  rw [Request.listsLocks_listAllLocks.shows_iff read filtered paged valid,
    slice_lockListing_of_few few, mem_lockListing_iff]
  exact and_iff_left rfl

end Listings

end SessionRegistry
