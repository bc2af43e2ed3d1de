import Mathlib.Algebra.GroupWithZero.Nat
import SessionRegistry.Proofs.Store.Numbers

/-!
# No number is handed out twice

The numbers that begins and registrations answer over a whole run ascend, so that none is handed out
twice, also over restarts and also if the session or the branch that bore it is gone. The xid of a
session ends with its number, so that no xid is handed out twice either.

Where the process may die, records are assumed to have fewer than `2 ^ 32` bytes. That is the limit of
the format of the log, not of the numbers: a frame holds the length of its record in four bytes, and
a longer record is not read back.

## Main definitions

* `Fresh`: the invariant of a run and its store.

## Main results

* `number_of_xid`: an xid tells its number.
* `Fresh.step`: every moment of a regular run keeps the invariant.
* `Store.numbers_never_reused`: the numbers and the xids of a run are distinct, and those in a
  session ascend.
-/

namespace SessionRegistry

/-! ## The number in an xid -/

/-- What follows the last separator of a list is determined by the list. -/
theorem eq_of_append_cons_eq {α : Type} {c : α} {x y p q : List α} (hp : c ∉ p) (hq : c ∉ q)
    (h : x ++ c :: p = y ++ c :: q) : p = q := by
  have same : ∀ {x p q : List α}, c ∉ p → c :: p = x ++ c :: q → p = q := by
    intro x p q hp h
    cases x with
    | nil => exact (List.cons.inj h).2
    | cons d x =>
      -- The separator in front of `q` would stand in `p`.
      have inside : c ∈ p := by
        rw [(List.cons.inj h).2]
        exact List.mem_append_right x List.mem_cons_self
      exact absurd inside hp
  rcases List.append_eq_append_iff.1 h with ⟨mid, -, h⟩ | ⟨mid, -, h⟩
  · exact same hp h
  · exact (same hq h).symm

/-- The xid of a session that is begun tells the session's number. -/
theorem number_of_xid {a b : String} {n m : UInt64} (h : s!"{a}:{n}" = s!"{b}:{m}") : n = m := by
  have digits : ∀ n : UInt64, (toString n).toList = Nat.toDigits 10 n.toNat := by
    intro n
    simp [toString]
  have noColon : ∀ n : Nat, ':' ∉ Nat.toDigits 10 n := by
    intro n hmem
    cases Nat.isDigit_of_mem_toDigits (by decide) (by decide) hmem
  -- The number is what follows the last colon, because its digits contain none.
  have lists : a.toList ++ ':' :: Nat.toDigits 10 n.toNat
      = b.toList ++ ':' :: Nat.toDigits 10 m.toNat := by
    have lists := congrArg String.toList h
    simp only [String.toList_append, digits, List.append_assoc] at lists
    exact lists
  have same := eq_of_append_cons_eq (noColon _) (noColon _) lists
  have values := congrArg (fun digits => Nat.ofDigitChars 10 digits 0) same
  exact UInt64.toNat_inj.1 (by simpa using values)

namespace Store

variable {exposed : Prop} {s start : Store} {past moments : List Moment}

/-! ## The invariant of a run -/

/-- The numbers that a run has handed out so far: there are as many as the counter tells at most,
each one that was answered is above those before it, and the store has counted past all of them. -/
structure Fresh (exposed : Prop) (past : List Moment) (s : Store) : Prop where
  counted : s.nextId.toNat ≤ 1 + (past.map Moment.drawn).sum
  ascending : (past.filterMap Moment.issued).Pairwise (· < ·)
  spent : ∃ low, Numbered exposed low s ∧ ∀ id ∈ past.filterMap Moment.issued, id ≤ low

/-- A store that is opened in an empty directory has handed out no number. -/
theorem fresh_of_nothing {settings : StoreSettings} {now : Millis}
    (opened : openFiles settings now { snapshot := none, log := [] } = .ok start) :
    Fresh exposed [] start := by
  cases (openFiles_nothing settings now).symm.trans opened
  have first : (0 : UInt64) < 1 := by decide
  refine ⟨Nat.le_refl 1, .nil, 0, ⟨?_, first, fun _ => ⟨_, recover_nothing, ?_⟩⟩, by simp⟩
  · intro xid session stored
    cases stored
  · exact ⟨UInt64.le_refl 0, first⟩

/-- A moment of a regular run keeps the invariant as long as there are numbers. -/
theorem Fresh.step {moment : Moment} (h : Fresh exposed past moment.store)
    (regular : moment.Regular exposed)
    (few : ((past ++ [moment]).map Moment.drawn).sum < UInt64.size - 1) :
    Fresh exposed (past ++ [moment]) moment.next := by
  obtain ⟨low, numbered, spent⟩ := h.spent
  have total : ((past ++ [moment]).map Moment.drawn).sum
      = (past.map Moment.drawn).sum + moment.drawn := by simp
  have counted := h.counted
  have room : moment.store.nextId.toNat + moment.drawn < UInt64.size := by omega
  obtain ⟨kept, next⟩ := numbered.step regular room
  cases hid : moment.issued with
  | none =>
    have same : (past ++ [moment]).filterMap Moment.issued = past.filterMap Moment.issued := by
      simp [hid]
    refine ⟨by omega, ?_, low, kept, ?_⟩
    · rw [same]
      exact h.ascending
    · rw [same]
      exact spent
  | some id =>
    obtain ⟨above, kept⟩ := numbered.issued regular room hid
    have more : (past ++ [moment]).filterMap Moment.issued
        = past.filterMap Moment.issued ++ [id] := by
      simp [hid]
    refine ⟨by omega, ?_, id, kept, ?_⟩
    · rw [more, List.pairwise_append]
      refine ⟨h.ascending, List.pairwise_singleton _ _, fun earlier hearlier last hlast => ?_⟩
      rw [List.mem_singleton.1 hlast]
      exact UInt64.lt_of_le_of_lt (spent earlier hearlier) above
    · rw [more]
      intro earlier hearlier
      rcases List.mem_append.1 hearlier with hearlier | hlast
      · exact UInt64.le_of_lt (UInt64.lt_of_le_of_lt (spent earlier hearlier) above)
      · rw [List.mem_singleton.1 hlast]
        exact UInt64.le_refl id

/-- Every moment of a run happens. -/
theorem Run.happens (run : Run start moments s) : ∀ moment ∈ moments, moment.Happens := by
  induction run with
  | start => simp
  | step _ happens ih =>
    intro moment hmoment
    rcases List.mem_append.1 hmoment with hmoment | hlast
    · exact ih moment hmoment
    · rw [List.mem_singleton.1 hlast]
      exact happens

/-- If the numbers of a run ascend, its xids are distinct. -/
theorem Run.nodup_begun (run : Run start moments s)
    (ascending : (moments.filterMap Moment.issued).Pairwise (· < ·)) :
    (moments.filterMap Moment.begun).Nodup := by
  rw [List.pairwise_filterMap] at ascending
  rw [List.Nodup, List.pairwise_filterMap]
  refine ascending.imp_of_mem fun {earlier later} hearlier hlater less => ?_
  intro xid hxid xid' hxid' same
  obtain ⟨_, spelled, issued⟩ := (run.happens earlier hearlier).of_begun hxid
  obtain ⟨_, spelled', issued'⟩ := (run.happens later hlater).of_begun hxid'
  -- Equal xids end with equal numbers, but the later number is above the earlier one.
  have equal := number_of_xid (spelled.symm.trans (same.trans spelled'))
  have ascends := less _ issued _ issued'
  rw [equal] at ascends
  exact UInt64.lt_irrefl _ ascends

/-! ## Main result -/

/-- A regular run that hands out few numbers keeps the invariant. -/
theorem Run.fresh {settings : StoreSettings} {now : Millis}
    (opened : openFiles settings now { snapshot := none, log := [] } = .ok start)
    (run : Run start moments s) (regular : Regular exposed moments)
    (few : (moments.map Moment.drawn).sum < UInt64.size - 1) : Fresh exposed moments s := by
  refine (run.induct (I := fun past s =>
    (past.map Moment.drawn).sum < UInt64.size - 1 → Fresh exposed past s) opened regular
    (fun _ => fresh_of_nothing opened) ?_).1 few
  intro past moment regular fresh few
  refine (fresh ?_).step regular few
  rw [List.map_append, List.sum_append] at few
  omega

/-- Whatever happens to a store that is opened in an empty directory, as long as no image is put as
it is given, no change fails, and fewer than `2 ^ 64 - 1` numbers are handed out: the numbers that
begins give to sessions and registrations to branches ascend over the whole run, the xids that are
answered are distinct, and in every store that a run leads to, the branches of each session are
numbered in ascending order, above the number of the session and below the next one. -/
theorem numbers_never_reused {settings : StoreSettings} {now : Millis}
    (opened : openFiles settings now { snapshot := none, log := [] } = .ok start)
    (run : Run start moments s) (regular : Regular exposed moments)
    (few : (moments.map Moment.drawn).sum < UInt64.size - 1) :
    (moments.filterMap Moment.issued).Pairwise (· < ·)
      ∧ (moments.filterMap Moment.begun).Nodup
      ∧ ∀ xid session, s.sessions.get? xid = some session →
        (session.branches.map Branch.id).Pairwise (· < ·)
          ∧ session.transactionId < s.nextId
          ∧ ∀ branch ∈ session.branches, session.transactionId < branch.id
            ∧ branch.id < s.nextId := by
  have fresh := run.fresh opened regular few
  refine ⟨fresh.ascending, run.nodup_begun fresh.ascending, fun xid session stored => ?_⟩
  obtain ⟨low, numbered, -⟩ := fresh.spent
  obtain ⟨ascending, below⟩ := numbered.sessions xid session stored
  obtain ⟨above, ascending⟩ := List.pairwise_cons.1 ascending
  have handed := Session.maxId_le_iff.1 (UInt64.le_refl session.maxId)
  refine ⟨ascending, UInt64.lt_of_le_of_lt handed.1 below, fun branch hbranch => ⟨?_, ?_⟩⟩
  · exact above branch.id (List.mem_map_of_mem hbranch)
  · exact UInt64.lt_of_le_of_lt (handed.2 branch hbranch) below

/-- The record of a begin has as many bytes as its texts, and 97 more. -/
theorem length_encode_begin {m : Store} {logged : LogOperation}
    {address applicationId serviceGroup name : String} {timeout : Millis}
    (allowed : (Operation.begin address applicationId serviceGroup name timeout).Allows s m
      logged) :
    (Codec.record.encode (m.nextRecord logged)).length
      = (Utf8.encode s!"{address}:{s.nextId}").length + (Utf8.encode applicationId).length
        + (Utf8.encode serviceGroup).length + (Utf8.encode name).length + 97 := by
  obtain ⟨may, counter, -⟩ := allowed
  cases may with
  | begin fresh begun _ =>
    obtain rfl := (UInt64.add_left_inj 1).1 (fresh.symm.trans counter)
    rw [begun]
    simp only [nextRecord, upsertOf, Session.start, Codec.record, Codec.iso, Codec.pair,
      Codec.uint64, Codec.operation, Codec.session, Codec.text, Codec.globalStatus, Codec.oneOf,
      Codec.option, Codec.list, List.length_append, length_littleEndian, List.flatMap_nil,
      List.length_cons, List.length_nil]
    omega
  | revise revises _ _ _ => cases revises

/-- The record of a forced removal has as many bytes as the xid, and 28 more. -/
theorem length_encode_forceDelete {m : Store} {logged : LogOperation} {xid : Xid}
    (allowed : (Operation.command (.forceDeleteSession xid)).Allows s m logged) :
    (Codec.record.encode (m.nextRecord logged)).length = (Utf8.encode xid).length + 28 := by
  obtain ⟨may, -⟩ := allowed
  cases may with
  | forceDelete _ =>
    simp only [nextRecord, Codec.record, Codec.iso, Codec.pair, Codec.uint64, Codec.operation,
      Codec.text, List.length_append, length_littleEndian]
    omega
  | revise revises _ _ _ => cases revises

/-- A session is begun, an operator removes it, and the process dies. The session that is begun then
has a new number nonetheless. -/
theorem numbers_distinct_of_removal_and_crash :
    ∃ (start s : Store) (moments : List Moment),
      openFiles {} 0 { snapshot := none, log := [] } = .ok start
        ∧ Run start moments s ∧ Regular True moments
        ∧ moments.map Moment.event = [.perform (.begin "h" "app" "" "tx" 1),
          .perform (.command (.forceDeleteSession "h:1")), .crash {} 5,
          .perform (.begin "h" "app" "" "tx" 1)]
        ∧ (moments.map Moment.drawn).sum < UInt64.size - 1
        ∧ moments.filterMap Moment.begun = ["h:1", "h:2"]
        ∧ (moments.filterMap Moment.begun).Nodup := by
  let start := resume {} 0 { snapshot := none, log := [] } (Recovered.ofSnapshot Snapshot.empty)
  let begin := Operation.begin "h" "app" "" "tx" 1
  let remove := Operation.command (.forceDeleteSession "h:1")
  have opened : openFiles {} 0 { snapshot := none, log := [] } = .ok start :=
    openFiles_nothing {} 0
  have size : UInt64.size = 2 ^ 64 := rfl
  obtain ⟨begun, removed, begins, removes⟩ : ∃ begun removed,
      begin.runOn start = (.ok (.begun "h:1"), begun)
        ∧ remove.runOn begun = (.ok (.reply .done), removed) :=
    ⟨_, _, runOn_of_toOption (by decide +kernel), runOn_of_toOption (by decide +kernel)⟩
  have nothing : Regular True [] := .nil
  obtain ⟨a1, h1, once1, run1, regular1⟩ := Run.start.exists_performed nothing begins rfl rfl
    (by simp [begin]) (fun _ m logged allowed => by
      rw [length_encode_begin allowed]
      decide +kernel) (by simp)
  obtain ⟨a2, h2, once2, run2, regular2⟩ := run1.exists_performed regular1 removes rfl rfl
    (by simp [remove]) (fun _ m logged allowed => by
      rw [length_encode_forceDelete allowed]
      decide +kernel) (by simp; omega)
  let m1 : Moment := ⟨start, .perform begin, a1, begun⟩
  let m2 : Moment := ⟨begun, .perform remove, a2, removed⟩
  have begun1 : m1.begun = some "h:1" := Moment.begun_of_ok rfl begins
  obtain ⟨-, -, issued1⟩ := h1.of_begun begun1
  have drawn1 : m1.drawn ≤ 1 := h1.drawn_le rfl
  have drawn2 : m2.drawn ≤ 0 := h2.drawn_le rfl
  -- The process may die now, because the files are intact and there is a number left.
  have intact := (run2.durable opened regular2).intact (.inl trivial)
  have number : removed.FindsNumber (.crash {} 5) := by
    have drawn : ([m1, m2].map Moment.drawn).sum < UInt64.size - 1 := by
      simp only [List.map_cons, List.map_nil, List.sum_cons, List.sum_nil]
      omega
    obtain ⟨_, numbered, -⟩ := (run2.fresh opened regular2 drawn).spent
    exact numbered.findsNumber trivial {} 5
  obtain ⟨_, reopened, dies⟩ := (intact.exists_next_iff (.crash {} 5)).2 number
  cases dies with
  | crash opens =>
    let m3 : Moment := ⟨removed, .crash {} 5, [], reopened⟩
    have h3 : m3.Happens := ⟨.crash opens, fun _ same => by cases same⟩
    have run3 : Run start [m1, m2, m3] reopened := run2.step h3
    have regular3 : Regular True [m1, m2, m3] :=
      regular2.step (by simp [m3]) allMade_nil (fun _ => trivial) (by simp [m3]) regular2.room
    have drawn3 : m3.drawn = 0 := rfl
    -- The store that is opened counts on behind the one number that was handed out.
    have counter : reopened.nextId = 2 := by
      have drawn : ([m1, m2, m3].map Moment.drawn).sum ≤ 1 := by
        simp only [List.map_cons, List.map_nil, List.sum_cons, List.sum_nil]
        omega
      have fresh := run3.fresh opened regular3 (by omega)
      obtain ⟨low, numbered, spent⟩ := fresh.spent
      have counted := fresh.counted
      have spent1 : 1 ≤ low := spent 1 (List.mem_filterMap.2 ⟨m1, List.mem_cons_self, issued1⟩)
      have above := UInt64.lt_iff_toNat_lt.1 (UInt64.lt_of_le_of_lt spent1 numbered.handed)
      rw [UInt64.toNat_one] at above
      exact UInt64.toNat_inj.1 (show reopened.nextId.toNat = 2 by omega)
    let address := "h"
    have spelled : s!"{address}:{reopened.nextId}" = "h:2" := by
      rw [counter]
      decide +kernel
    obtain ⟨recovered, -, -, same⟩ := of_openFiles_eq_ok opens
    obtain ⟨_, _, log, frame, running, settings⟩ : ∃ snapshotFile bytesSinceCheckpoint log,
        reopened = { resume {} 5 removed.files recovered with
          snapshotFile, bytesSinceCheckpoint, log }
          ∧ log.running = true ∧ log.settings = ({} : StoreSettings).log := by
      rcases same with ⟨-, same⟩ | ⟨-, same⟩
      · exact ⟨_, _, _, same, rfl, rfl⟩
      · rw [same]
        exact checkpoint_frame _
    have room : reopened.lsn + 1 ≠ 0 := by
      rw [succ_ne_zero_iff, run3.lsn_eq opened regular3 trivial]
      simp [m1, m2, m3]
      omega
    obtain ⟨s, again⟩ := exists_runOn_begin reopened "h" "app" "" "tx" 1 (by decide)
      (by rw [spelled]; decide) (by rw [frame]; rfl) (by rw [frame]; exact List.not_mem_nil)
      (by rw [frame]; exact running) (by rw [frame, LogWriter.syncsWithinWait, settings]; decide)
      room
    rw [spelled] at again
    obtain ⟨a4, h4, -, run4, regular4⟩ := run3.exists_performed regular3 again rfl rfl
      (by simp) (fun _ m logged allowed => by
        rw [length_encode_begin allowed, spelled]
        decide +kernel) (by simp [m1, m2, m3]; omega)
    let m4 : Moment := ⟨reopened, .perform begin, a4, s⟩
    have begun4 : m4.begun = some "h:2" := Moment.begun_of_ok rfl again
    have drawn4 : m4.drawn ≤ 1 := h4.drawn_le rfl
    have few : ([m1, m2, m3, m4].map Moment.drawn).sum < UInt64.size - 1 := by
      simp only [List.map_cons, List.map_nil, List.sum_cons, List.sum_nil]
      omega
    have names : [m1, m2, m3, m4].filterMap Moment.begun = ["h:1", "h:2"] := by
      have none2 : m2.begun = none := rfl
      have none3 : m3.begun = none := rfl
      simp [begun1, none2, none3, begun4]
    exact ⟨start, s, _, opened, run4, regular4, rfl, few, names,
      (numbers_never_reused opened run4 regular4 few).2.1⟩

end Store

end SessionRegistry
