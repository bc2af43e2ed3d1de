import Mathlib.Data.Prod.Lex
import Mathlib.Data.String.Basic
import SessionRegistry.Proofs.Query.Paging
import SessionRegistry.Proofs.Store.Representation

/-!
# Paging through a listing of row locks

The pages of a listing, one behind the other, are the rows that the branches of the sessions hold
and that satisfy the filter, each as often as the lock key of its branch names it, by xid, branch,
table and key. Row locks that share all four are the same, since no two sessions share an xid and no
two branches of a session share a number. So the order in which the sessions are given plays no
part, although the listing is not sorted by all that a row lock says.

## Main definitions

* `Session.rowLock`: the lock of a row that a branch of a session holds.
* `LockFilter.Satisfied`: what a filter asks of a row lock, field by field.
* `RowLock.position`: where a row lock stands in a listing.
* `Session.Apart`: sessions with different xids, each with branches with different numbers.
* `Listing.LocksPaged`: what a query for row locks answers page by page.

## Main results

* `Listing.matchingLocks_eq`: sessions that are passed over would not be listed.
* `Listing.count_matchingLocks`: a row is listed as often as the lock key of its branch names it.
* `Listing.matchingLocks_eq_of_perm`: the listing does not depend on the order of the sessions.
* `Store.apart_of_history`: the sessions of a store are apart, whatever happened to it.
* `lock_pages_exact`: paging through row locks is exact.
-/

namespace SessionRegistry

/-! ## Row locks and filters -/

/-- The lock of a row that a branch of a session holds. -/
def Session.rowLock (session : Session) (branch : Branch) (row : Row) : RowLock where
  xid := session.xid
  transactionId := session.transactionId
  branchId := branch.id
  resourceId := branch.resourceId
  row
  beginTime := branch.beginTime
  modifiedTime := branch.modifiedTime

/-- Different rows of a branch have different locks. -/
theorem Session.rowLock_injective (session : Session) (branch : Branch) :
    Function.Injective (session.rowLock branch) :=
  fun _ _ same => congrArg RowLock.row same

/-- The row locks of a session are those of its branches. -/
theorem Session.rowLocks_eq (session : Session) :
    session.rowLocks =
      session.branches.flatMap fun branch => branch.lockedRows.map (session.rowLock branch) :=
  rfl

/-- Every row lock of a session is that of a row that one of its branches holds. -/
theorem Session.mem_rowLocks {session : Session} {lock : RowLock} :
    lock ∈ session.rowLocks ↔
      ∃ branch ∈ session.branches, ∃ row ∈ branch.lockedRows,
        session.rowLock branch row = lock := by
  simp only [rowLocks_eq, List.mem_flatMap, List.mem_map]

/-- A row lock agrees with every field of the filter that is present. -/
structure LockFilter.Satisfied (filter : LockFilter) (lock : RowLock) : Prop where
  xid : ∀ xid, filter.xid = some xid → lock.xid = xid
  branchId : ∀ id, filter.branchId = some id → lock.branchId = id
  resourceId : ∀ id, filter.resourceId = some id → lock.resourceId = id
  table : ∀ table, filter.table = some table → lock.row.table = table
  key : ∀ key, filter.key = some key → lock.row.key = key

/-- The row locks that a filter accepts are those that satisfy it. -/
theorem LockFilter.accepts_iff_satisfied (filter : LockFilter) (lock : RowLock) :
    filter.accepts lock = true ↔ filter.Satisfied lock := by
  simp only [accepts, Bool.and_eq_true, Option.all_eq_true, beq_iff_eq, and_assoc]
  constructor
  · intro ⟨xid, branchId, resourceId, table, key⟩
    exact ⟨xid, branchId, resourceId, table, key⟩
  · intro satisfied
    exact ⟨satisfied.xid, satisfied.branchId, satisfied.resourceId, satisfied.table,
      satisfied.key⟩

/-! ## The order of a listing -/

namespace RowLock

/-- Where a row lock stands in a listing: by xid, then by branch, table and key. -/
def position (lock : RowLock) : Xid ×ₗ Nat ×ₗ String ×ₗ String :=
  toLex (lock.xid, toLex (lock.branchId.toNat, toLex (lock.row.table, lock.row.key)))

theorem position_le_iff {a b : RowLock} :
    a.position ≤ b.position ↔ a.xid < b.xid ∨ a.xid = b.xid ∧
      (a.branchId < b.branchId ∨ a.branchId = b.branchId ∧
        (a.row.table < b.row.table ∨ a.row.table = b.row.table ∧ a.row.key ≤ b.row.key)) := by
  simp only [position, Prod.Lex.toLex_le_toLex, UInt64.lt_iff_toNat_lt, UInt64.toNat_inj]

/-- The order in which row locks are sorted is that of their positions. -/
theorem precedes_iff (a b : RowLock) : a.precedes b = true ↔ a.position ≤ b.position := by
  rw [position_le_iff, precedes]
  -- Where the two differ first, the texts or numbers there decide.
  by_cases xid : a.xid = b.xid
  · by_cases branch : a.branchId = b.branchId
    · by_cases table : a.row.table = b.row.table
      · simp [xid, branch, table]
      · simp [xid, branch, table]
    · simp [xid, branch]
  · simp [xid]

theorem precedes_trans (a b c : RowLock) (first : a.precedes b = true)
    (second : b.precedes c = true) : a.precedes c = true := by
  rw [precedes_iff] at *
  exact first.trans second

theorem precedes_total (a b : RowLock) : (a.precedes b || b.precedes a) = true := by
  rw [Bool.or_eq_true, precedes_iff, precedes_iff]
  exact le_total a.position b.position

end RowLock

/-! ## Sessions that are apart -/

/-- The sessions have different xids, and the branches of each of them have different numbers. -/
structure Session.Apart (all : List Session) : Prop where
  xids : (all.map Session.xid).Nodup
  ids : ∀ session ∈ all, (session.branches.map Branch.id).Nodup

/-- An entry that a single part of a list can contribute occurs as often as in that part. -/
theorem count_flatMap_of_mem {α β : Type} [DecidableEq β] {l : List α} {f : α → List β} {a : α}
    {b : β} (nodup : l.Nodup) (ha : a ∈ l) (only : ∀ other ∈ l, b ∈ f other → other = a) :
    (l.flatMap f).count b = (f a).count b := by
  obtain ⟨front, back, rfl⟩ := List.append_of_mem ha
  obtain ⟨-, nodup, apart⟩ := List.nodup_append.1 nodup
  have absent (part : List α) (free : ∀ other ∈ part, b ∉ f other) :
      (part.flatMap f).count b = 0 := by
    refine List.count_eq_zero_of_not_mem fun hb => ?_
    obtain ⟨other, hother, hb⟩ := List.mem_flatMap.1 hb
    exact free other hother hb
  have inFront := absent front fun other hother hb =>
    apart other hother a List.mem_cons_self (only other (by simp [hother]) hb)
  have inBack := absent back fun other hother hb =>
    (List.nodup_cons.1 nodup).1 (only other (by simp [hother]) hb ▸ hother)
  rw [List.flatMap_append, List.flatMap_cons, List.count_append, List.count_append, inFront,
    inBack, Nat.zero_add, Nat.add_zero]

namespace Listing

variable {filter : LockFilter} {all others : List Session}

/-- Row locks at the same position are the same. -/
theorem eq_of_position_eq (apart : Session.Apart all) {a b : RowLock}
    (ha : a ∈ all.flatMap Session.rowLocks) (hb : b ∈ all.flatMap Session.rowLocks)
    (same : a.position = b.position) : a = b := by
  obtain ⟨session, hsession, ha⟩ := List.mem_flatMap.1 ha
  obtain ⟨session', hsession', hb⟩ := List.mem_flatMap.1 hb
  obtain ⟨branch, hbranch, row, -, rfl⟩ := Session.mem_rowLocks.1 ha
  obtain ⟨branch', hbranch', row', -, rfl⟩ := Session.mem_rowLocks.1 hb
  simp only [RowLock.position, Session.rowLock, EmbeddingLike.apply_eq_iff_eq, Prod.mk.injEq,
    UInt64.toNat_inj] at same
  obtain ⟨xid, id, table, key⟩ := same
  obtain rfl := List.inj_on_of_nodup_map apart.xids hsession hsession' xid
  obtain rfl := List.inj_on_of_nodup_map (apart.ids session hsession) hbranch hbranch' id
  cases row
  cases row'
  cases table
  cases key
  rfl

/-- A row of a session with another xid than the one that is asked for does not satisfy the filter. -/
theorem xid_of_accepts {session : Session} {lock : RowLock} (hlock : lock ∈ session.rowLocks)
    (accepted : filter.accepts lock = true) :
    filter.xid.all (session.xid == ·) = true := by
  obtain ⟨branch, -, row, -, rfl⟩ := Session.mem_rowLocks.1 hlock
  simp only [LockFilter.accepts, Bool.and_eq_true] at accepted
  exact accepted.1.1.1.1

/-- It makes no difference that some sessions are passed over: all their rows would be. -/
theorem matchingLocks_eq (filter : LockFilter) (all : List Session) :
    matchingLocks filter all =
      ((all.flatMap Session.rowLocks).filter filter.accepts).mergeSort RowLock.precedes := by
  let concerns (session : Session) : Bool := filter.xid.all (session.xid == ·)
  have rows : ((all.filter concerns).flatMap Session.rowLocks).filter filter.accepts =
      (all.flatMap Session.rowLocks).filter filter.accepts := by
    induction all with
    | nil => rfl
    | cons session rest ih =>
      rw [List.flatMap_cons, List.filter_append, ← ih]
      by_cases concerned : concerns session = true
      · rw [List.filter_cons_of_pos concerned, List.flatMap_cons, List.filter_append]
      · have none : session.rowLocks.filter filter.accepts = [] := List.filter_eq_nil_iff.2
          fun _ hlock accepted => concerned (xid_of_accepts hlock accepted)
        rw [List.filter_cons_of_neg concerned, none, List.nil_append]
  exact congrArg (List.mergeSort · RowLock.precedes) rows

/-- The listing is a rearrangement of the rows that satisfy the filter. -/
theorem matchingLocks_perm (filter : LockFilter) (all : List Session) :
    (matchingLocks filter all).Perm ((all.flatMap Session.rowLocks).filter filter.accepts) := by
  rw [matchingLocks_eq]
  exact List.mergeSort_perm _ _

/-- The listing holds the rows that branches of the sessions hold and that satisfy the filter. -/
theorem mem_matchingLocks (lock : RowLock) :
    lock ∈ matchingLocks filter all ↔
      (∃ session ∈ all, ∃ branch ∈ session.branches, ∃ row ∈ branch.lockedRows,
        session.rowLock branch row = lock) ∧ filter.Satisfied lock := by
  simp only [(matchingLocks_perm filter all).mem_iff, List.mem_filter, List.mem_flatMap,
    Session.mem_rowLocks, filter.accepts_iff_satisfied]

theorem length_matchingLocks (filter : LockFilter) (all : List Session) :
    (matchingLocks filter all).length =
      (all.flatMap Session.rowLocks).countP filter.accepts := by
  rw [(matchingLocks_perm filter all).length_eq, List.countP_eq_length_filter]

/-- A row that satisfies the filter is listed as often as the lock key of its branch names it. -/
theorem count_matchingLocks (apart : Session.Apart all) {session : Session}
    (hsession : session ∈ all) {branch : Branch} (hbranch : branch ∈ session.branches) {row : Row}
    (satisfied : filter.Satisfied (session.rowLock branch row)) :
    (matchingLocks filter all).count (session.rowLock branch row) =
      branch.lockedRows.count row := by
  have sessions : (all.flatMap Session.rowLocks).count (session.rowLock branch row) =
      session.rowLocks.count (session.rowLock branch row) := by
    refine count_flatMap_of_mem apart.xids.of_map hsession fun other hother found => ?_
    obtain ⟨_, -, _, -, same⟩ := Session.mem_rowLocks.1 found
    exact List.inj_on_of_nodup_map apart.xids hother hsession (congrArg RowLock.xid same)
  have branches : session.rowLocks.count (session.rowLock branch row) =
      (branch.lockedRows.map (session.rowLock branch)).count (session.rowLock branch row) := by
    have ids := apart.ids session hsession
    refine count_flatMap_of_mem ids.of_map hbranch fun other hother found => ?_
    obtain ⟨_, -, same⟩ := List.mem_map.1 found
    exact List.inj_on_of_nodup_map ids hother hbranch (congrArg RowLock.branchId same)
  calc (matchingLocks filter all).count (session.rowLock branch row)
    _ = ((all.flatMap Session.rowLocks).filter filter.accepts).count
          (session.rowLock branch row) := (matchingLocks_perm filter all).count_eq _
    _ = (all.flatMap Session.rowLocks).count (session.rowLock branch row) :=
      List.count_filter ((filter.accepts_iff_satisfied _).2 satisfied)
    _ = (branch.lockedRows.map (session.rowLock branch)).count (session.rowLock branch row) :=
      sessions.trans branches
    _ = branch.lockedRows.count row :=
      List.count_map_of_injective _ _ (session.rowLock_injective branch) _

/-- The listing is in the order of the positions. -/
theorem pairwise_matchingLocks (filter : LockFilter) (all : List Session) :
    (matchingLocks filter all).Pairwise fun a b => a.position ≤ b.position :=
  (List.pairwise_mergeSort RowLock.precedes_trans RowLock.precedes_total _).imp
    fun precedes => (RowLock.precedes_iff _ _).1 precedes

/-- Lists in the order of the positions that hold the same row locks are the same. -/
theorem eq_of_perm_of_pairwise (apart : Session.Apart all) {a b : List RowLock}
    (held : ∀ lock ∈ b, lock ∈ all.flatMap Session.rowLocks)
    (ha : a.Pairwise fun a b => a.position ≤ b.position)
    (hb : b.Pairwise fun a b => a.position ≤ b.position) (same : a.Perm b) : a = b := by
  refine same.eq_of_pairwise ?_ ha hb
  intro first second hfirst hsecond le ge
  exact eq_of_position_eq apart (held first (same.mem_iff.1 hfirst)) (held second hsecond)
    (le_antisymm le ge)

theorem mem_rowLocks_of_mem_matchingLocks {lock : RowLock} (h : lock ∈ matchingLocks filter all) :
    lock ∈ all.flatMap Session.rowLocks :=
  (List.mem_filter.1 ((matchingLocks_perm filter all).mem_iff.1 h)).1

/-- The listing does not depend on the order of the given sessions. -/
theorem matchingLocks_eq_of_perm (apart : Session.Apart all) (same : others.Perm all) :
    matchingLocks filter others = matchingLocks filter all := by
  refine eq_of_perm_of_pairwise apart (fun _ => mem_rowLocks_of_mem_matchingLocks)
    (pairwise_matchingLocks _ _) (pairwise_matchingLocks _ _) ?_
  exact (matchingLocks_perm filter others).trans
    (((same.flatMap_right Session.rowLocks).filter _).trans (matchingLocks_perm filter all).symm)

/-! ## Pages -/

/-- What a query for the pages of a given size answers, given the sessions of a store: the pages
show a list of row locks. -/
structure LocksPaged (limit size : UInt32) (filter : LockFilter) (all : List Session)
    (listed : List RowLock) : Prop where
  /-- Every row that a branch holds and that satisfies the filter is listed, and no other one. -/
  mem : ∀ lock, lock ∈ listed ↔
    (∃ session ∈ all, ∃ branch ∈ session.branches, ∃ row ∈ LockKey.rows branch.lockKey,
      session.rowLock branch row = lock) ∧ filter.Satisfied lock
  /-- A row is listed as often as the lock key of its branch names it. -/
  count : ∀ session ∈ all, ∀ branch ∈ session.branches, ∀ row,
    filter.Satisfied (session.rowLock branch row) →
      listed.count (session.rowLock branch row) = (LockKey.rows branch.lockKey).count row
  /-- The rows are listed by xid, branch, table and key. -/
  ordered : listed.Pairwise fun a b => a.position ≤ b.position
  /-- The rows of the pages, one behind the other, are the listed ones. -/
  rows : ∃ pages,
    (pageNumbers (listed.length ⌈/⌉ size.toNat)).mapM
        (fun number => locks limit filter ⟨number, size⟩ all) = .ok pages ∧
      pages.flatMap Page.rows = listed
  /-- Every page says how many rows and how many pages there are. -/
  counts : ∀ number : UInt32, 1 ≤ number → ∃ page,
    locks limit filter ⟨number, size⟩ all = .ok page ∧ page.number = number ∧
      page.size = size ∧ page.total = listed.length ∧
      page.pages = listed.length ⌈/⌉ size.toNat
  /-- The order in which the sessions are given plays no part. -/
  anyOrder : ∀ others : List Session, others.Perm all → ∀ number : UInt32,
    locks limit filter ⟨number, size⟩ others = locks limit filter ⟨number, size⟩ all
  /-- A store that has these sessions gives the same answers. -/
  ofStore : ∀ store : Store, store.sessions.toList.Perm all → ∀ number : UInt32,
    store.listLocks limit filter ⟨number, size⟩ = locks limit filter ⟨number, size⟩ all

/-- What is answered to a query that is not refused. -/
theorem locks_of_valid {limit : UInt32} {page : PageRequest} (filter : LockFilter)
    (all : List Session) (number : 1 ≤ page.number) (positive : 1 ≤ page.size)
    (bounded : page.size ≤ limit) :
    locks limit filter page all = .ok (page.of (matchingLocks filter all)) := by
  rw [locks, PageRequest.validate_eq_ok number positive bounded]
  rfl

/-- Sessions that are apart are listed on pages. -/
theorem locksPaged_of_apart {limit size : UInt32} (apart : Session.Apart all) (positive : 1 ≤ size)
    (bounded : size ≤ limit)
    (few : (all.flatMap Session.rowLocks).countP filter.accepts ⌈/⌉ size.toNat < UInt32.size) :
    LocksPaged limit size filter all (matchingLocks filter all) := by
  have answer (number : UInt32) (hn : 1 ≤ number) :
      locks limit filter ⟨number, size⟩ all =
        .ok (PageRequest.of ⟨number, size⟩ (matchingLocks filter all)) :=
    locks_of_valid filter all hn positive bounded
  have anyOrder (others : List Session) (same : others.Perm all) (number : UInt32) :
      locks limit filter ⟨number, size⟩ others = locks limit filter ⟨number, size⟩ all := by
    rw [locks, locks, matchingLocks_eq_of_perm apart same]
  rw [← length_matchingLocks filter all] at few
  refine ⟨mem_matchingLocks, ?count, pairwise_matchingLocks filter all, ?rows, ?counts, anyOrder,
    fun store same => anyOrder _ same⟩
  case count =>
    exact fun session hsession branch hbranch row =>
      count_matchingLocks apart hsession hbranch
  case rows =>
    refine ⟨_, mapM_eq_ok fun number hn => answer number (one_le_of_mem_pageNumbers few hn), ?_⟩
    rw [List.flatMap_map]
    exact PageRequest.flatMap_slice_pageNumbers_all positive few
  case counts =>
    exact fun number hn => ⟨_, answer number hn, rfl, rfl, rfl, pageCount_eq_ceilDiv _ positive⟩

end Listing

/-! ## Stores -/

/-- The sessions of a table have different xids. -/
theorem SessionTable.nodup_xids (table : SessionTable) : (table.toList.map Session.xid).Nodup :=
  List.pairwise_map.2 (table.sorted.imp fun less => String.ne_of_lt less)

/-- Whatever happened to a store that was opened in an empty directory, its sessions are apart. If
the process may have died, the records of all changes that were attempted have to be readable. -/
theorem Store.apart_of_history {settings : StoreSettings} {now : Millis} {start s : Store}
    {events : List Event} {attempts : List Attempt}
    (opened : openFiles settings now { snapshot := none, log := [] } = .ok start)
    (history : History start events attempts s)
    (fits : (∃ settings now, Event.crash settings now ∈ events) →
      ∀ attempt ∈ attempts, (Codec.record.encode attempt.record).length < UInt32.size) :
    Session.Apart s.sessions.toList where
  xids := s.sessions.nodup_xids
  ids session hsession :=
    every_of_history (P := fun session => (session.branches.map Branch.id).Nodup)
      (fun _ _ _ stored => stored.distinct) opened history fits session.xid session
      ((s.sessions.mem_toList_iff session).1 hsession)

open Store Listing in
/-- Paging through row locks is exact: whatever the lock keys are and however many rows satisfy the
filter, the pages show each of those as often as it is held and in order, and everything that a page
says about the others is right. This holds for all sessions that are apart, and those of a store
that was opened in an empty directory are, whatever happened to it. -/
theorem lock_pages_exact {limit size : UInt32} {filter : LockFilter} (positive : 1 ≤ size)
    (bounded : size ≤ limit) :
    (∀ all : List Session, Session.Apart all →
      (all.flatMap Session.rowLocks).countP filter.accepts ⌈/⌉ size.toNat < UInt32.size →
        ∃ listed, LocksPaged limit size filter all listed) ∧
    ∀ (settings : StoreSettings) (now : Millis) (start s : Store) (events : List Event)
      (attempts : List Attempt),
      openFiles settings now { snapshot := none, log := [] } = .ok start →
      History start events attempts s →
      ((∃ settings now, Event.crash settings now ∈ events) →
        ∀ attempt ∈ attempts, (Codec.record.encode attempt.record).length < UInt32.size) →
      (s.sessions.toList.flatMap Session.rowLocks).countP filter.accepts ⌈/⌉ size.toNat
        < UInt32.size →
      ∃ listed, LocksPaged limit size filter s.sessions.toList listed := by
  constructor
  · exact fun all apart few => ⟨_, locksPaged_of_apart apart positive bounded few⟩
  · exact fun _ _ _ _ _ _ opened history fits few =>
      ⟨_, locksPaged_of_apart (apart_of_history opened history fits) positive bounded few⟩

open Store Listing in
/-- A branch registers with a lock key that names a row twice, another row with blanks around it and
nothing in one segment: the pages of two rows show the row of the first table twice. -/
theorem lock_pages_exact_of_registration :
    ∃ (start s : Store) (events : List Event) (attempts : List Attempt) (listed : List RowLock),
      openFiles {} 0 { snapshot := none, log := [] } = .ok start ∧
      History start events attempts s ∧
      LocksPaged 10 2 { table := some "t" } s.sessions.toList listed ∧ listed.length = 2 := by
  let start := resume {} 0 { snapshot := none, log := [] } (Recovered.ofSnapshot Snapshot.empty)
  let join := Operation.register "h:1"
    { type := .automatic, resourceId := "db", lockKey := some "t:1,1;:3; u : 2 " }
  let begun := ((Operation.begin "h" "app" "" "tx" 1).runOn start).2
  let s := (join.runOn begun).2
  have opened : openFiles {} 0 { snapshot := none, log := [] } = .ok start :=
    openFiles_nothing {} 0
  obtain ⟨first, begins⟩ := (Operation.begin "h" "app" "" "tx" 1).exists_attempts start
  obtain ⟨second, joins⟩ := join.exists_attempts begun
  have history := (History.start.step (.perform begins)).step (.perform joins)
  obtain ⟨listed, paged⟩ :=
    (@lock_pages_exact 10 2 { table := some "t" } (by decide) (by decide)).2 {} 0 start s _ _
      opened history (by simp) (by decide +kernel)
  obtain ⟨page, shown, -, -, total, -⟩ := paged.counts 1 (by decide)
  have two : (s.sessions.toList.flatMap Session.rowLocks).countP
      (LockFilter.accepts { table := some "t" }) = 2 := by decide +kernel
  rw [locks_of_valid _ _ (by decide) (by decide) (by decide)] at shown
  cases shown
  have listedTwo := total.symm.trans ((length_matchingLocks _ _).trans two)
  exact ⟨start, s, _, _, listed, opened, history, paged, listedTwo⟩

end SessionRegistry
