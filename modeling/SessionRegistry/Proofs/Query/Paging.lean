import Mathlib.Algebra.Order.Floor.Div
import SessionRegistry.Query.Listing

/-!
# Paging through a listing of sessions

The pages of a listing, one behind the other, are the listing: the sessions that satisfy the filter,
each of them once, the latest first and those that began together by xid. The order in which the
sessions are given to the query plays no part, since no two of them have the same xid.

## Main definitions

* `SessionFilter.Satisfied`: what a filter asks of a session, condition by condition.
* `Session.Before`: the strict order of a listing.
* `pageNumbers`: the numbers of the first pages.
* `Listing.Paged`: what a query answers page by page.

## Main results

* `accepts_iff_satisfied`: the sessions that a filter accepts are those that satisfy it.
* `matching_eq_of_perm`: the listing does not depend on the order of the given sessions.
* `flatMap_slice_pageNumbers`: the first pages of a listing are its first rows.
* `pages_exact`: paging is exact.
-/

namespace SessionRegistry

/-- A part is found in a list exactly when it stands somewhere in it without a gap. -/
theorem occursIn_iff_isInfix {α : Type} [BEq α] [LawfulBEq α] (part l : List α) :
    occursIn part l = true ↔ part <:+: l := by
  induction l with
  | nil => simp [occursIn]
  | cons a rest ih =>
    rw [occursIn, Bool.or_eq_true, List.isPrefixOf_iff_prefix, ih, List.infix_cons_iff]

namespace SessionFilter

/-- A session satisfies every condition of the filter that is present. -/
structure Satisfied (filter : SessionFilter) (session : Session) : Prop where
  xid : ∀ xid, filter.xid = some xid → session.xid = xid
  applicationId : ∀ id, filter.applicationId = some id → session.applicationId = id
  status : ∀ status, filter.status = some status → session.status = status
  name : ∀ part, filter.name = some part → part.toList <:+: session.name.toList
  timeStart : ∀ first, filter.timeStart = some first → first ≤ session.beginTime
  timeEnd : ∀ last, filter.timeEnd = some last → session.beginTime ≤ last

/-- The sessions that a filter accepts are those that satisfy it. -/
theorem accepts_iff_satisfied (filter : SessionFilter) (session : Session) :
    filter.accepts session = true ↔ filter.Satisfied session := by
  simp only [accepts, Bool.and_eq_true, Option.all_eq_true, beq_iff_eq, occursIn_iff_isInfix,
    decide_eq_true_eq, and_assoc]
  constructor
  · intro ⟨xid, applicationId, status, name, timeStart, timeEnd⟩
    exact ⟨xid, applicationId, status, name, timeStart, timeEnd⟩
  · intro satisfied
    exact ⟨satisfied.xid, satisfied.applicationId, satisfied.status, satisfied.name,
      satisfied.timeStart, satisfied.timeEnd⟩

end SessionFilter

namespace Session

/-- A session stands in front of another one in a listing. -/
def Before (a b : Session) : Prop :=
  b.beginTime < a.beginTime ∨ a.beginTime = b.beginTime ∧ a.xid < b.xid

theorem precedes_iff (a b : Session) :
    a.precedes b = true ↔
      b.beginTime < a.beginTime ∨ a.beginTime = b.beginTime ∧ a.xid ≤ b.xid := by
  simp [precedes]

theorem precedes_trans (a b c : Session) (first : a.precedes b = true)
    (second : b.precedes c = true) : a.precedes c = true := by
  rw [precedes_iff] at *
  rcases first with later | ⟨together, le⟩
  · rcases second with later' | ⟨together', le'⟩
    · exact .inl (UInt64.lt_trans later' later)
    · exact .inl (together' ▸ later)
  · rcases second with later' | ⟨together', le'⟩
    · exact .inl (together ▸ later')
    · exact .inr ⟨together.trans together', String.le_trans le le'⟩

theorem precedes_total (a b : Session) : (a.precedes b || b.precedes a) = true := by
  rw [Bool.or_eq_true, precedes_iff, precedes_iff]
  by_cases together : a.beginTime = b.beginTime
  · rcases String.le_total a.xid b.xid with le | le
    · exact .inl (.inr ⟨together, le⟩)
    · exact .inr (.inr ⟨together.symm, le⟩)
  · rcases UInt64.lt_or_lt_of_ne together with later | later
    · exact .inr (.inl later)
    · exact .inl (.inl later)

/-- Two sessions that both precede the other one have the same xid. -/
theorem xid_eq_of_precedes {a b : Session} (first : a.precedes b = true)
    (second : b.precedes a = true) : a.xid = b.xid := by
  rw [precedes_iff] at *
  rcases first with later | ⟨together, le⟩
  · rcases second with later' | ⟨together', -⟩
    · exact (UInt64.lt_asymm later later').elim
    · exact (UInt64.lt_irrefl _ (together' ▸ later)).elim
  · rcases second with later' | ⟨-, le'⟩
    · exact (UInt64.lt_irrefl _ (together ▸ later')).elim
    · exact String.le_antisymm le le'

/-- Of two sessions with different xids the one that precedes the other stands in front of it. -/
theorem before_of_precedes {a b : Session} (precedes : a.precedes b = true)
    (differ : a.xid ≠ b.xid) : a.Before b := by
  rcases (precedes_iff a b).1 precedes with later | ⟨together, le⟩
  · exact .inl later
  · refine .inr ⟨together, ?_⟩
    -- The order of texts is decided here: an xid that is not smaller is the same.
    by_contra notSmaller
    exact differ (String.le_antisymm le (String.not_lt.1 notSmaller))

end Session

namespace Listing

variable {filter : SessionFilter} {all others : List Session}

/-- A listing holds the sessions that satisfy its filter. -/
theorem mem_matching (session : Session) :
    session ∈ matching filter all ↔ session ∈ all ∧ filter.Satisfied session := by
  rw [matching, List.mem_mergeSort, List.mem_filter, filter.accepts_iff_satisfied]

theorem length_matching (filter : SessionFilter) (all : List Session) :
    (matching filter all).length = all.countP filter.accepts := by
  rw [matching, List.length_mergeSort, List.countP_eq_length_filter]

/-- Sessions with different xids have different xids in the listing as well. -/
theorem nodup_xids_matching (distinct : (all.map Session.xid).Nodup) :
    ((matching filter all).map Session.xid).Nodup := by
  have listed : (matching filter all).Perm (all.filter filter.accepts) := List.mergeSort_perm _ _
  have kept : ((all.filter filter.accepts).map Session.xid).Nodup :=
    distinct.sublist (List.filter_sublist.map Session.xid)
  exact (listed.map Session.xid).nodup_iff.2 kept

/-- The latest session is listed first, and sessions that began together are listed by xid. -/
theorem pairwise_matching (distinct : (all.map Session.xid).Nodup) :
    (matching filter all).Pairwise Session.Before := by
  have sorted : (matching filter all).Pairwise fun a b => a.precedes b = true :=
    List.pairwise_mergeSort Session.precedes_trans Session.precedes_total _
  have differ : (matching filter all).Pairwise fun a b => a.xid ≠ b.xid :=
    List.pairwise_map.1 (nodup_xids_matching distinct)
  apply (sorted.and differ).imp
  intro a b ⟨precedes, ne⟩
  exact Session.before_of_precedes precedes ne

/-- The listing does not depend on the order of the given sessions. -/
theorem matching_eq_of_perm (distinct : (all.map Session.xid).Nodup) (same : others.Perm all) :
    matching filter others = matching filter all := by
  have listed : (matching filter others).Perm (matching filter all) :=
    (List.mergeSort_perm _ _).trans ((same.filter _).trans (List.mergeSort_perm _ _).symm)
  refine List.Perm.eq_of_pairwise ?_
    (List.pairwise_mergeSort Session.precedes_trans Session.precedes_total _)
    (List.pairwise_mergeSort Session.precedes_trans Session.precedes_total _) listed
  -- Sessions that precede each other have one xid, so they are one session.
  intro a b ha hb first second
  have hall : a ∈ all := same.mem_iff.1 ((mem_matching a).1 ha).1
  exact List.inj_on_of_nodup_map distinct hall ((mem_matching b).1 hb).1
    (Session.xid_eq_of_precedes first second)

end Listing

/-- The numbers of the first pages. -/
def pageNumbers (count : Nat) : List UInt32 :=
  (List.range count).map fun k => UInt32.ofNat (k + 1)

theorem pageNumbers_succ (count : Nat) :
    pageNumbers (count + 1) = pageNumbers count ++ [UInt32.ofNat (count + 1)] := by
  simp [pageNumbers, List.range_succ]

/-- The number of pages is the number of rows, divided by the size of a page and rounded up. -/
theorem pageCount_eq_ceilDiv (total : Nat) {size : UInt32} (positive : 1 ≤ size) :
    pageCount total size = total ⌈/⌉ size.toNat := by
  have nonzero : size ≠ 0 := by rintro rfl; exact absurd positive (by decide)
  have : 1 ≤ size.toNat := UInt32.le_iff_toNat_le.1 positive
  rw [pageCount, if_neg nonzero, Nat.ceilDiv_eq_add_pred_div, Nat.add_sub_assoc this]

namespace PageRequest

/-- No page starts behind the last number of 64 bits. -/
theorem offset_lt (page : PageRequest) : page.offset < UInt64.size := by
  have number : page.number.toNat - 1 ≤ UInt32.size - 1 := by
    have := page.number.toNat_lt
    simp only [UInt32.size]
    omega
  have size : page.size.toNat ≤ UInt32.size - 1 := by
    have := page.size.toNat_lt
    simp only [UInt32.size]
    omega
  calc page.offset ≤ (UInt32.size - 1) * (UInt32.size - 1) := Nat.mul_le_mul number size
    _ < UInt64.size := by decide

/-- A page behind the last one has no rows. -/
theorem slice_eq_nil {α : Type} {page : PageRequest} {rows : List α}
    (beyond : pageCount rows.length page.size < page.number.toNat) (positive : 1 ≤ page.size) :
    page.slice rows = [] := by
  rw [pageCount_eq_ceilDiv _ positive] at beyond
  have size : 0 < page.size.toNat := UInt32.le_iff_toNat_le.1 positive
  have covered : rows.length ≤ page.offset := by
    rw [offset, Nat.mul_comm]
    exact (ceilDiv_le_iff_le_mul size).1 (by omega)
  rw [slice, List.drop_eq_nil_of_le covered, List.take_nil]

/-- A request for a page that there is, of a size within the limit, is accepted. -/
theorem validate_eq_ok {page : PageRequest} {limit : UInt32} (number : 1 ≤ page.number)
    (positive : 1 ≤ page.size) (bounded : page.size ≤ limit) : page.validate limit = .ok () := by
  have small : ¬ page.number < 1 := UInt32.not_lt.2 number
  have size : ¬ (page.size < 1 ∨ limit < page.size) := by
    rintro (below | above)
    · exact UInt32.not_lt.2 positive below
    · exact UInt32.not_lt.2 bounded above
  rw [validate, if_neg small, if_neg size]

/-- The first pages of a listing, one behind the other, are its first rows. -/
theorem flatMap_slice_pageNumbers {α : Type} (rows : List α) (size : UInt32) {count : Nat}
    (few : count < UInt32.size) :
    (pageNumbers count).flatMap (fun number => slice ⟨number, size⟩ rows) =
      rows.take (count * size.toNat) := by
  induction count with
  | zero => simp [pageNumbers]
  | succ count ih =>
    have last : slice ⟨UInt32.ofNat (count + 1), size⟩ rows =
        (rows.drop (count * size.toNat)).take size.toNat := by
      rw [slice, offset, UInt32.toNat_ofNat_of_lt' few, Nat.add_sub_cancel]
    rw [pageNumbers_succ, List.flatMap_append, ih (by omega), List.flatMap_singleton, last,
      Nat.succ_mul, List.take_add]

/-- All pages of a listing, one behind the other, are its rows. -/
theorem flatMap_slice_pageNumbers_all {α : Type} {rows : List α} {size : UInt32}
    (positive : 1 ≤ size) (few : rows.length ⌈/⌉ size.toNat < UInt32.size) :
    (pageNumbers (rows.length ⌈/⌉ size.toNat)).flatMap
      (fun number => slice ⟨number, size⟩ rows) = rows := by
  have whole : rows.length ≤ rows.length ⌈/⌉ size.toNat * size.toNat := by
    rw [Nat.mul_comm]
    exact (ceilDiv_le_iff_le_mul (UInt32.le_iff_toNat_le.1 positive)).1 le_rfl
  rw [flatMap_slice_pageNumbers rows size few, List.take_of_length_le whole]

end PageRequest

namespace Listing

/-- What a query for the pages of a given size answers, given the sessions of a store: the pages
show a list of sessions. -/
structure Paged (limit size : UInt32) (filter : SessionFilter) (all listed : List Session) :
    Prop where
  /-- Every session that satisfies the filter is listed, and no other one. -/
  mem : ∀ session, session ∈ listed ↔ session ∈ all ∧ filter.Satisfied session
  /-- No session is listed twice. -/
  once : listed.Nodup
  /-- The latest session is listed first, and sessions that began together are listed by xid. -/
  ordered : listed.Pairwise Session.Before
  /-- The rows of the pages, one behind the other, are the listed sessions, with their branches only
  where the filter asks for them. -/
  rows : ∃ pages,
    (pageNumbers (listed.length ⌈/⌉ size.toNat)).mapM
        (fun number => sessions limit filter ⟨number, size⟩ all) = .ok pages ∧
      pages.flatMap Page.rows =
        listed.map fun session =>
          if filter.withBranch then session else { session with branches := [] }
  /-- Every page says how many rows and how many pages there are. -/
  counts : ∀ number : UInt32, 1 ≤ number → ∃ page,
    sessions limit filter ⟨number, size⟩ all = .ok page ∧ page.number = number ∧
      page.size = size ∧ page.total = listed.length ∧
      page.pages = listed.length ⌈/⌉ size.toNat
  /-- A page behind the last one is empty, and the count of rows in front of it is not too large
  for 64 bits. -/
  beyond : ∀ number : UInt32, listed.length ⌈/⌉ size.toNat < number.toNat →
    PageRequest.offset ⟨number, size⟩ < UInt64.size ∧ ∃ page,
      sessions limit filter ⟨number, size⟩ all = .ok page ∧ page.rows = []
  /-- The order in which the sessions are given plays no part. -/
  anyOrder : ∀ others : List Session, others.Perm all → ∀ number : UInt32,
    sessions limit filter ⟨number, size⟩ others = sessions limit filter ⟨number, size⟩ all
  /-- A store that has these sessions gives the same answers. -/
  ofStore : ∀ store : Store, store.sessions.toList.Perm all → ∀ number : UInt32,
    store.listSessions limit filter ⟨number, size⟩ =
      sessions limit filter ⟨number, size⟩ all

/-- What is answered to a query that is not refused. -/
theorem sessions_of_valid {limit : UInt32} {filter : SessionFilter} {page : PageRequest}
    (all : List Session) (valid : filter.validate = .ok ()) (number : 1 ≤ page.number)
    (positive : 1 ≤ page.size) (bounded : page.size ≤ limit) :
    sessions limit filter page all = .ok ((page.of (matching filter all)).map (row filter)) := by
  rw [sessions, valid, PageRequest.validate_eq_ok number positive bounded]
  rfl

/-- Requests that are all answered are answered one by one. -/
theorem mapM_eq_ok {ε α β : Type} {f : α → Except ε β} {g : α → β} {l : List α}
    (answered : ∀ a ∈ l, f a = .ok (g a)) : l.mapM f = .ok (l.map g) := by
  induction l with
  | nil => rfl
  | cons a rest ih =>
    rw [List.mapM_cons, answered a List.mem_cons_self,
      ih fun b hb => answered b (List.mem_cons_of_mem a hb)]
    rfl

theorem one_le_of_mem_pageNumbers {count : Nat} (few : count < UInt32.size) {number : UInt32}
    (h : number ∈ pageNumbers count) : 1 ≤ number := by
  obtain ⟨k, hk, rfl⟩ := List.mem_map.1 h
  have := List.mem_range.1 hk
  rw [UInt32.le_iff_toNat_le, UInt32.toNat_ofNat_of_lt' (by omega)]
  exact Nat.succ_pos k

/-- Paging is exact: whatever the sessions are and however many of them satisfy the filter, the
pages show each of those once and in order, and everything that a page says about the others is
right. -/
theorem pages_exact {limit size : UInt32} {filter : SessionFilter} {all : List Session}
    (distinct : (all.map Session.xid).Nodup) (valid : filter.validate = .ok ())
    (positive : 1 ≤ size) (bounded : size ≤ limit)
    (few : all.countP filter.accepts ⌈/⌉ size.toNat < UInt32.size) :
    ∃ listed, Paged limit size filter all listed := by
  let listed := matching filter all
  have answer (number : UInt32) (hn : 1 ≤ number) :
      sessions limit filter ⟨number, size⟩ all =
        .ok ((PageRequest.of ⟨number, size⟩ listed).map (row filter)) :=
    sessions_of_valid all valid hn positive bounded
  have pages : pageCount listed.length size = listed.length ⌈/⌉ size.toNat :=
    pageCount_eq_ceilDiv _ positive
  have anyOrder (others : List Session) (same : others.Perm all) (number : UInt32) :
      sessions limit filter ⟨number, size⟩ others = sessions limit filter ⟨number, size⟩ all := by
    rw [sessions, sessions, matching_eq_of_perm distinct same]
  rw [← length_matching filter all] at few
  refine ⟨listed, mem_matching, (nodup_xids_matching distinct).of_map, pairwise_matching distinct,
    ?rows, ?counts, ?beyond, anyOrder, fun store same => anyOrder _ same⟩
  case rows =>
    refine ⟨_, mapM_eq_ok fun number hn => answer number (one_le_of_mem_pageNumbers few hn), ?_⟩
    have whole : listed.length ≤ listed.length ⌈/⌉ size.toNat * size.toNat := by
      rw [Nat.mul_comm]
      exact (ceilDiv_le_iff_le_mul (UInt32.le_iff_toNat_le.1 positive)).1 le_rfl
    calc ((pageNumbers (listed.length ⌈/⌉ size.toNat)).map fun number =>
            (PageRequest.of ⟨number, size⟩ listed).map (row filter)).flatMap Page.rows
      _ = ((pageNumbers (listed.length ⌈/⌉ size.toNat)).flatMap fun number =>
            PageRequest.slice ⟨number, size⟩ listed).map (row filter) := by
        rw [List.flatMap_map, List.map_flatMap]
        rfl
      _ = (listed.take (listed.length ⌈/⌉ size.toNat * size.toNat)).map (row filter) := by
        rw [PageRequest.flatMap_slice_pageNumbers listed size few]
      _ = listed.map (row filter) := by
        rw [List.take_of_length_le whole]
  case counts =>
    intro number hn
    exact ⟨_, answer number hn, rfl, rfl, rfl, pages⟩
  case beyond =>
    intro number hn
    refine ⟨PageRequest.offset_lt _, _, answer number ?_, ?_⟩
    · exact UInt32.le_iff_toNat_le.2 (Nat.lt_of_le_of_lt (Nat.zero_le _) hn)
    · show (PageRequest.slice ⟨number, size⟩ listed).map (row filter) = []
      rw [PageRequest.slice_eq_nil (pages.trans_lt hn) positive, List.map_nil]

/-- Three sessions on pages of two rows: two pages show them. -/
theorem pages_exact_of_three :
    ∃ listed, Paged 2 2 {}
      [Session.start "b" 1 "" "" 5, Session.start "a" 2 "" "" 5, Session.start "c" 3 "" "" 7]
      listed :=
  pages_exact (by decide) rfl (by decide) (by decide) (by decide)

end Listing

end SessionRegistry
