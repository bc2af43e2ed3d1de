import SessionRegistry.Proofs.Console.Release
import SessionRegistry.Proofs.RowLock.RowKeys

/-!
# Row keys of listed rows

The row key that is shown of a listed row identifies the row unless it can be read as the row key of
another one. Registrations take any resource id and any lock key, so that this happens. It does not
happen where all resource ids and all tables that are registered are separable: rows come into a
store by registrations and as parts of images that are put, and everything else keeps the resource
of a branch and adds no row.

## Main definitions

* `SeparableRows`: a resource id and the tables that a lock key names are separable.
* `Event.Separable`: what an event registers or puts is separable.
* `Store.ListsLock`: a query lists a row lock.

## Main results

* `Operation.MayLog.separable`: what keeps the branches of all sessions separable.
* `Store.separable_of_history`: separable registrations make separable sessions.
* `Store.rowKey_identifies_rows`: when the row keys of listed rows identify the rows.
-/

namespace SessionRegistry

/-! ## What is registered -/

/-- A resource id and the tables that a lock key names are separable. -/
structure SeparableRows (resourceId : String) (lockKey : Option String) : Prop where
  resourceId : RowKey.Separable resourceId.toList
  tables : ∀ row ∈ LockKey.rows lockKey, RowKey.Separable row.table.toList

/-- The row keys of the rows that a branch holds can be taken apart. -/
def Branch.Separable (branch : Branch) : Prop :=
  SeparableRows branch.resourceId branch.lockKey

/-- The row keys of the rows that the branches of a session hold can be taken apart. -/
def Session.Separable (session : Session) : Prop :=
  ∀ branch ∈ session.branches, branch.Separable

/-- A branch that is registered and an image that is put as it is given are separable. -/
def Event.Separable : Event → Prop
  | .perform (.put session) => session.Separable
  | .perform (.register _ registration) =>
    SeparableRows registration.resourceId registration.lockKey
  | _ => True

/-! ## Sessions -/

/-- No revision gives a branch another resource or more rows. -/
theorem Branch.Keeps.separable {released : Prop} {before after : Branch}
    (h : after.Keeps released before) (separable : before.Separable) : after.Separable where
  resourceId := h.resourceId ▸ separable.resourceId
  tables row hrow := separable.tables row (h.rows.subset hrow)

/-- The branches of a list stay separable if the ones that are registered are. -/
theorem BranchesChange.separable {released : Prop} {registers : Branch → Prop}
    {before after : List Branch} (h : BranchesChange released registers before after)
    (fresh : ∀ branch, registers branch → branch.Separable)
    (separable : ∀ branch ∈ before, branch.Separable) : ∀ branch ∈ after, branch.Separable := by
  intro branch hbranch
  rcases h.origin hbranch with ⟨source, hsource, keeps⟩ | ⟨registered, -⟩
  · exact keeps.separable (separable source hsource)
  · exact fresh branch registered

/-- The row locks of a separable session are separable. -/
theorem Session.Separable.of_mem_rowLocks {session : Session} {lock : RowLock}
    (h : session.Separable) (held : lock ∈ session.rowLocks) : lock.Separable := by
  obtain ⟨branch, hbranch, row, hrow, rfl⟩ := Session.mem_rowLocks.1 held
  exact ⟨(h branch hbranch).resourceId, (h branch hbranch).tables row hrow⟩

/-- An image that an operation logs is separable if the stored sessions are, and so is what the
operation registers or puts. -/
theorem Operation.MayLog.separable {s : Store} {op : Operation} {image : Session}
    (h : op.MayLog s (.upsert image)) (given : (Event.perform op).Separable)
    (stored : s.sessions.Every Session.Separable) : image.Separable := by
  cases op with
  | put session =>
    generalize hlogged : LogOperation.upsert image = logged at h
    cases h with
    | put _ =>
      cases hlogged
      exact given
    | revise revises => cases revises
  | begin address applicationId serviceGroup name timeout =>
    generalize hlogged : LogOperation.upsert image = logged at h
    cases h with
    | begin _ begun _ =>
      -- A session that begins has no branches.
      cases hlogged
      rw [begun]
      exact List.forall_mem_nil _
    | revise revises => cases revises
  | _ =>
    obtain ⟨before, found, evolves⟩ := h.evolves (by simp) (by simp)
    refine evolves.branches.separable ?_ (stored _ before found)
    -- Only a registration registers a branch.
    rintro branch ⟨registration, id, now, registers, rfl⟩
    cases registers
    all_goals exact given

namespace Store

variable {s : Store} {a b lock : RowLock}

/-! ## Listed rows -/

/-- A query, for some page and under some filter, lists a row lock. -/
def ListsLock (s : Store) (lock : RowLock) : Prop :=
  ∃ limit filter page listed, s.listLocks limit filter page = .ok listed ∧ lock ∈ listed.rows

/-- Every listed row lock is held. -/
theorem ListsLock.mem_rowLocks (h : s.ListsLock lock) :
    lock ∈ s.sessions.toList.flatMap Session.rowLocks := by
  obtain ⟨limit, filter, page, listed, answered, hlock⟩ := h
  exact mem_rowLocks_of_listLocks answered hlock

/-- If at most ten row locks are held, the first page lists all of them. -/
theorem listsLock_of_few (few : (s.sessions.toList.flatMap Session.rowLocks).length ≤ 10)
    (held : lock ∈ s.sessions.toList.flatMap Session.rowLocks) : s.ListsLock lock := by
  have valid : PageRequest.validate {} 10 = .ok () := rfl
  refine ⟨10, {}, {}, _, listLocks_eq valid, ?_⟩
  show lock ∈ PageRequest.slice {} (s.lockListing {})
  rw [slice_lockListing_of_few few, mem_lockListing_iff]
  exact ⟨held, rfl⟩

/-- Whatever is seen of the held row locks, if they are at most ten, is seen of listed ones. -/
theorem exists_listsLock {α : Type} {f : RowLock → α} {seen : List α} {x : α}
    (h : (s.sessions.toList.flatMap Session.rowLocks).map f = seen) (few : seen.length ≤ 10)
    (hx : x ∈ seen) : ∃ lock, s.ListsLock lock ∧ f lock = x := by
  subst h
  obtain ⟨lock, held, same⟩ := List.mem_map.1 hx
  exact ⟨lock, listsLock_of_few (by rwa [List.length_map] at few) held, same⟩

/-- The console shows the row key of a row lock. -/
theorem shown?_rowKey (lock : RowLock) :
    lock.shown? "rowKey" = some (rowKey lock.resourceId lock.row) :=
  rfl

/-! ## Histories -/

section Histories

variable {settings : StoreSettings} {now : Millis} {start : Store} {events : List Event}
  {attempts : List Attempt}

/-- If everything that was registered or put is separable, then all sessions are. -/
theorem separable_of_history
    (opened : openFiles settings now { snapshot := none, log := [] } = .ok start)
    (history : History start events attempts s)
    (fits : (∃ settings now, Event.crash settings now ∈ events) →
      ∀ attempt ∈ attempts, (Codec.record.encode attempt.record).length < UInt32.size)
    (separable : ∀ event ∈ events, event.Separable) : s.sessions.Every Session.Separable := by
  have first : start.Every Session.Separable (∃ settings now, Event.crash settings now ∈ events) :=
    .of_open .nothing opened
  refine (first.history history ?_ (fun settings now dies => ⟨settings, now, dies⟩) fits).shown
  intro op performed s image stored logged
  exact logged.separable (separable _ performed) stored

/-- Whatever happened to a store that was opened in an empty directory: the row keys of two listed
rows identify the rows if and only if neither of them can be read as the other one. So they do if
all resource ids and all tables that were registered, or put as parts of images, are separable. If
the process may have died, the records of all changes that were attempted have to be readable. -/
theorem rowKey_identifies_rows
    (opened : openFiles settings now { snapshot := none, log := [] } = .ok start)
    (history : History start events attempts s)
    (fits : (∃ settings now, Event.crash settings now ∈ events) →
      ∀ attempt ∈ attempts, (Codec.record.encode attempt.record).length < UInt32.size)
    (listed : s.ListsLock a) (listed' : s.ListsLock b) :
    ((a.shown? "rowKey" = b.shown? "rowKey" ↔ a.SameRow b) ↔
        ¬ a.MistakenFor b ∧ ¬ b.MistakenFor a) ∧
      ((∀ event ∈ events, event.Separable) →
        (a.shown? "rowKey" = b.shown? "rowKey" ↔ a.SameRow b)) := by
  have exactly : (a.shown? "rowKey" = b.shown? "rowKey" ↔ a.SameRow b) ↔
      ¬ a.MistakenFor b ∧ ¬ b.MistakenFor a := by
    rw [shown?_rowKey, shown?_rowKey, Option.some.injEq]
    exact RowLock.rowKey_identifies_iff a b
  refine ⟨exactly, fun separable => exactly.2 ?_⟩
  have every := separable_of_history opened history fits separable
  have each {lock : RowLock} (listed : s.ListsLock lock) : lock.Separable := by
    obtain ⟨session, hsession, held⟩ := List.mem_flatMap.1 listed.mem_rowLocks
    have stored := (s.sessions.mem_toList_iff session).1 hsession
    exact (every _ session stored).of_mem_rowLocks held
  exact ⟨(each listed').not_mistakenFor, (each listed).not_mistakenFor⟩

end Histories

/-- A branch holds two rows of a table in a resource, and carets stand in the texts of all of them:
everything is separable, and the row keys of the two rows are different. -/
theorem rowKey_identifies_rows_with_carets :
    ∃ (start s : Store) (events : List Event) (attempts : List Attempt) (a b : RowLock),
      openFiles {} 0 { snapshot := none, log := [] } = .ok start ∧
      History start events attempts s ∧ (∀ event ∈ events, event.Separable) ∧
      s.ListsLock a ∧ s.ListsLock b ∧
      a.resourceId = "db^^x" ∧ a.row = ⟨"^t", "^1"⟩ ∧ b.resourceId = "db^^x" ∧
      b.row = ⟨"^t", "1^"⟩ ∧ a.shown? "rowKey" ≠ b.shown? "rowKey" := by
  let start := resume {} 0 { snapshot := none, log := [] } (Recovered.ofSnapshot Snapshot.empty)
  let join := Operation.register "h:1"
    { type := .automatic, resourceId := "db^^x", lockKey := some "^t:^1,1^" }
  have opened : openFiles {} 0 { snapshot := none, log := [] } = .ok start :=
    openFiles_nothing {} 0
  let held (s : Store) := (s.sessions.toList.flatMap Session.rowLocks).map fun lock =>
    (lock.resourceId, lock.row)
  obtain ⟨s1, s, begins, joins, seen⟩ :
      ∃ s1 s : Store,
        (Operation.begin "h" "app" "" "tx" 1).runOn start = (.ok (.begun "h:1"), s1)
          ∧ join.runOn s1 = (.ok (.id 2), s)
          ∧ held s = [("db^^x", ⟨"^t", "^1"⟩), ("db^^x", ⟨"^t", "1^"⟩)] :=
    ⟨_, _, runOn_of_toOption (by decide +kernel), runOn_of_toOption (by decide +kernel),
      by decide +kernel⟩
  obtain ⟨_, -, run1, regular1⟩ := Run.start.exists_step .nil begins rfl rfl (by simp)
  obtain ⟨_, -, run, -⟩ := run1.exists_step regular1 joins rfl rfl (by simp)
  obtain ⟨a, listed, is⟩ := exists_listsLock seen (by decide) List.mem_cons_self
  obtain ⟨b, listed', is'⟩ :=
    exists_listsLock seen (by decide) (List.mem_cons_of_mem _ List.mem_cons_self)
  obtain ⟨resource, row⟩ := Prod.mk.inj is
  obtain ⟨resource', row'⟩ := Prod.mk.inj is'
  have separable : ∀ event ∈ [Event.perform (.begin "h" "app" "" "tx" 1), .perform join],
      event.Separable := by
    refine List.forall_mem_cons.2 ⟨trivial, List.forall_mem_singleton.2 ⟨?_, ?_⟩⟩
    · decide +kernel
    · decide +kernel
  obtain ⟨-, identifies⟩ := rowKey_identifies_rows opened run.history (by simp) listed listed'
  refine ⟨start, s, _, _, a, b, opened, run.history, separable, listed, listed', resource, row,
    resource', row', fun same => ?_⟩
  have key := ((identifies separable).1 same).key
  rw [row, row'] at key
  exact absurd key (by decide)

/-- Two branches register, one for a resource whose id is that of the other one's resource with a
separator and a schema behind it. The other one names the schema in its table. They hold different
rows, and the row keys of these are the same. -/
theorem same_rowKey_of_different_rows :
    ∃ (start s : Store) (attempts : List Attempt) (a b : RowLock),
      openFiles {} 0 { snapshot := none, log := [] } = .ok start ∧
      History start [.perform (.begin "h" "app" "" "tx" 1),
        .perform (.register "h:1"
          { type := .automatic, resourceId := "db^^^app", lockKey := some "users:1" }),
        .perform (.register "h:1"
          { type := .automatic, resourceId := "db", lockKey := some "app^^^users:1" })]
        attempts s ∧
      s.ListsLock a ∧ s.ListsLock b ∧
      a.shown? "rowKey" = b.shown? "rowKey" ∧ a.resourceId ≠ b.resourceId ∧
      a.row.table ≠ b.row.table := by
  let start := resume {} 0 { snapshot := none, log := [] } (Recovered.ofSnapshot Snapshot.empty)
  let join (resourceId lockKey : String) := Operation.register "h:1"
    { type := .automatic, resourceId, lockKey := some lockKey }
  have opened : openFiles {} 0 { snapshot := none, log := [] } = .ok start :=
    openFiles_nothing {} 0
  let held (s : Store) := (s.sessions.toList.flatMap Session.rowLocks).map fun lock =>
    (lock.resourceId, lock.row)
  obtain ⟨s1, s2, s, begins, joins, joins', seen⟩ :
      ∃ s1 s2 s : Store,
        (Operation.begin "h" "app" "" "tx" 1).runOn start = (.ok (.begun "h:1"), s1)
          ∧ (join "db^^^app" "users:1").runOn s1 = (.ok (.id 2), s2)
          ∧ (join "db" "app^^^users:1").runOn s2 = (.ok (.id 3), s)
          ∧ held s = [("db^^^app", ⟨"users", "1"⟩), ("db", ⟨"app^^^users", "1"⟩)] :=
    ⟨_, _, _, runOn_of_toOption (by decide +kernel), runOn_of_toOption (by decide +kernel),
      runOn_of_toOption (by decide +kernel), by decide +kernel⟩
  obtain ⟨_, -, run1, regular1⟩ := Run.start.exists_step .nil begins rfl rfl (by simp)
  obtain ⟨_, -, run2, regular2⟩ := run1.exists_step regular1 joins rfl rfl (by simp)
  obtain ⟨_, -, run, -⟩ := run2.exists_step regular2 joins' rfl rfl (by simp)
  obtain ⟨a, listed, is⟩ := exists_listsLock seen (by decide) List.mem_cons_self
  obtain ⟨b, listed', is'⟩ :=
    exists_listsLock seen (by decide) (List.mem_cons_of_mem _ List.mem_cons_self)
  obtain ⟨resource, row⟩ := Prod.mk.inj is
  obtain ⟨resource', row'⟩ := Prod.mk.inj is'
  refine ⟨start, s, _, a, b, opened, run.history, listed, listed', ?_, ?_, ?_⟩
  · rw [shown?_rowKey, shown?_rowKey, resource, row, resource', row']
    decide +kernel
  · rw [resource, resource']
    decide
  · rw [row, row']
    decide

end Store

end SessionRegistry
