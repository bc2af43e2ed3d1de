import SessionRegistry.Proofs.Log.Scan
import SessionRegistry.Store.Commit
import SessionRegistry.Store.Recovery

/-!
# Laws of recovery

What a longer log adds to what is recovered. Records are replayed in the order of their positions,
so a record behind all others is replayed last, and the positions of all records are at most the
recovered one.

* `uncovered_concat`, `ofParts_concat`: a record behind all others is replayed last.
* `lsn_le_lastLsn`: no record has a position beyond the recovered one.
* `get?_ofParts`: a recovered session is in the snapshot, or a record wrote it.
* `maxId_le_of_recover`: the recovered number is at least every number in the recovered sessions.
* `recover_append`: what is recovered after a record was appended to the log.
* `SessionTable.ofList_toList`: the sessions of a table make up that table.
-/

namespace SessionRegistry

/-- The larger of two numbers of 64 bits, as a natural number. -/
theorem toNat_max (a b : UInt64) : (max a b).toNat = max a.toNat b.toNat := by
  show (if a ≤ b then b else a).toNat = _
  split
  · next h => exact (Nat.max_eq_right (UInt64.le_iff_toNat_le.1 h)).symm
  · next h =>
    have less : b.toNat < a.toNat := UInt64.lt_iff_toNat_lt.1 (UInt64.not_le.1 h)
    exact (Nat.max_eq_left (Nat.le_of_lt less)).symm

theorem max_le_iff {a b c : UInt64} : max a b ≤ c ↔ a ≤ c ∧ b ≤ c := by
  simp only [UInt64.le_iff_toNat_le, toNat_max]
  omega

theorem max_lt_iff {a b c : UInt64} : max a b < c ↔ a < c ∧ b < c := by
  simp only [UInt64.lt_iff_toNat_lt, toNat_max]
  omega

/-- A number of 64 bits has a successor exactly if the successor does not wrap around to zero. -/
theorem succ_ne_zero_iff {n : UInt64} : n + 1 ≠ 0 ↔ n.toNat + 1 < UInt64.size := by
  have bound := n.toNat_lt_size
  rw [Ne, ← UInt64.toNat_inj, UInt64.toNat_add, UInt64.toNat_one, UInt64.toNat_zero]
  rcases Nat.lt_or_ge (n.toNat + 1) UInt64.size with less | full
  · rw [Nat.mod_eq_of_lt less]
    simp [less]
  · have last : n.toNat + 1 = 2 ^ 64 := Nat.le_antisymm bound full
    simp [last, UInt64.size]

/-- Counting on does not wrap around below the size of the counter. -/
theorem toNat_add_ofNat {a : UInt64} {n : Nat} (room : a.toNat + n < UInt64.size) :
    (a + UInt64.ofNat n).toNat = a.toNat + n := by
  rw [UInt64.toNat_add, UInt64.toNat_ofNat']
  simp only [UInt64.size] at room
  omega

/-- A number is below one that is not too far behind it exactly if counting on does not wrap
around. -/
theorem lt_add_ofNat_iff {a : UInt64} {n : Nat} (some : 0 < n) (few : n ≤ UInt64.size) :
    a < a + UInt64.ofNat n ↔ a.toNat + n < UInt64.size := by
  have bound := a.toNat_lt_size
  rw [UInt64.lt_iff_toNat_lt, UInt64.toNat_add, UInt64.toNat_ofNat']
  simp only [UInt64.size] at bound few ⊢
  omega

/-- A number of 64 bits is below its successor exactly if the successor does not wrap around. -/
theorem lt_succ_iff {n : UInt64} : n < n + 1 ↔ n.toNat + 1 < UInt64.size :=
  lt_add_ofNat_iff Nat.one_pos (by decide)

theorem lt_succ_of_ne_zero {n : UInt64} (h : n + 1 ≠ 0) : n < n + 1 :=
  lt_succ_iff.2 (succ_ne_zero_iff.1 h)

/-- A running maximum is at most a number exactly if all that it ran over is. -/
theorem foldl_max_le_iff {α : Type} (f : α → UInt64) (l : List α) (a b : UInt64) :
    l.foldl (fun top x => max top (f x)) a ≤ b ↔ a ≤ b ∧ ∀ x ∈ l, f x ≤ b := by
  induction l generalizing a with
  | nil => simp
  | cons x rest ih => rw [List.foldl_cons, ih, max_le_iff, List.forall_mem_cons, and_assoc]

/-- A number is at least the highest one in a session exactly if it is at least that of the session
and those of its branches. -/
theorem Session.maxId_le_iff {session : Session} {b : UInt64} :
    session.maxId ≤ b ↔ session.transactionId ≤ b ∧ ∀ branch ∈ session.branches, branch.id ≤ b :=
  foldl_max_le_iff Branch.id session.branches session.transactionId b

namespace SessionTable

/-- Tables with the same sessions are the same. -/
@[ext]
theorem ext {a b : SessionTable} (h : a.toList = b.toList) : a = b := by
  cases a
  cases b
  cases h
  rfl

/-- A session behind all others is put at the end. -/
theorem insertInto_concat {session : Session} {l : List Session}
    (h : ∀ a ∈ l, a.xid < session.xid) : insertInto session l = l ++ [session] := by
  induction l with
  | nil => rfl
  | cons head rest ih =>
    have first := h head List.mem_cons_self
    rw [insertInto, if_neg (String.lt_asymm first), if_pos first,
      ih fun a ha => h a (List.mem_cons_of_mem head ha), List.cons_append]

/-- Sessions in ascending order make up the table of these sessions. -/
theorem toList_ofList {sessions : List Session}
    (h : sessions.Pairwise fun a b => a.xid < b.xid) : (ofList sessions).toList = sessions := by
  suffices step : ∀ (rest : List Session) (table : SessionTable),
      (table.toList ++ rest).Pairwise (fun a b => a.xid < b.xid) →
        (rest.foldl insert table).toList = table.toList ++ rest by
    simpa [ofList, empty] using step sessions empty (by simpa [empty] using h)
  intro rest
  induction rest with
  | nil => simp
  | cons session rest ih =>
    intro table sorted
    have last : ∀ a ∈ table.toList, a.xid < session.xid := fun a ha =>
      (List.pairwise_append.1 sorted).2.2 a ha session List.mem_cons_self
    have inserted : (table.insert session).toList = table.toList ++ [session] :=
      insertInto_concat last
    rw [List.foldl_cons, ih, inserted, List.append_assoc, List.singleton_append]
    rwa [inserted, List.append_assoc, List.singleton_append]

/-- The sessions of a table make up that table. -/
theorem ofList_toList (table : SessionTable) : ofList table.toList = table :=
  ext (toList_ofList table.sorted)

/-- A session that is found after an insertion was found before, or it was inserted. -/
theorem get?_insert {table : SessionTable} {written session : Session} {xid : Xid}
    (h : (table.insert written).get? xid = some session) :
    table.get? xid = some session ∨ written = session := by
  by_cases same : written.xid = xid
  · subst same
    rw [get?_insert_self] at h
    exact .inr (Option.some.inj h)
  · rw [get?_insert_of_ne table written same] at h
    exact .inl h

/-- Every session of a table that is made of a list is in the list. -/
theorem mem_of_get?_ofList {sessions : List Session} {xid : Xid} {session : Session}
    (h : (ofList sessions).get? xid = some session) : session ∈ sessions := by
  suffices step : ∀ (rest : List Session) (table : SessionTable),
      (rest.foldl insert table).get? xid = some session →
        table.get? xid = some session ∨ session ∈ rest by
    exact (step sessions empty h).resolve_left (by simp)
  intro rest
  induction rest with
  | nil => exact fun table h => .inl h
  | cons first rest ih =>
    intro table h
    rcases ih (table.insert first) h with found | found
    · rcases get?_insert found with found | rfl
      · exact .inl found
      · exact .inr List.mem_cons_self
    · exact .inr (List.mem_cons_of_mem first found)

/-- A session that is found after a change was published was found before, or the change wrote
it. -/
theorem get?_publish {table : SessionTable} {op : LogOperation} {xid : Xid} {session : Session}
    (h : (Store.publish table op).get? xid = some session) :
    table.get? xid = some session ∨ op = .upsert session := by
  cases op with
  | upsert written => exact (get?_insert h).imp_right (congrArg _)
  | remove removed =>
    by_cases same : removed = xid
    · subst same
      rw [Store.publish, get?_erase_self] at h
      cases h
    · rw [Store.publish, get?_erase_of_ne table same] at h
      exact .inl h
  | checkpoint lsn => exact .inl h

end SessionTable

namespace Recovered

/-- The order in which records are replayed. -/
private def before (a b : LogRecord) : Bool :=
  decide (a.lsn ≤ b.lsn)

private theorem before_trans (a b c : LogRecord) (hab : before a b) (hbc : before b c) :
    before a c := by
  simp only [before, decide_eq_true_eq] at *
  exact UInt64.le_trans hab hbc

private theorem before_total (a b : LogRecord) : before a b || before b a := by
  simp only [before, Bool.or_eq_true, decide_eq_true_eq]
  exact UInt64.le_total a.lsn b.lsn

/-- A record that is not before any other one is sorted to the end. -/
private theorem mergeSort_concat {records : List LogRecord} {record : LogRecord}
    (h : ∀ a ∈ records, before a record) :
    (records ++ [record]).mergeSort before = records.mergeSort before ++ [record] := by
  induction records with
  | nil => simp
  | cons a rest ih =>
    obtain ⟨front, back, whole, parts, less⟩ :=
      List.mergeSort_cons before_trans before_total a (rest ++ [record])
    obtain ⟨front', back', whole', parts', less'⟩ :=
      List.mergeSort_cons before_trans before_total a rest
    rw [ih fun b hb => h b (List.mem_cons_of_mem a hb), parts', List.append_assoc] at parts
    -- Both times `a` is put in front of the first record that it is not behind, so the records
    -- are divided at the same place.
    have more : ∀ b ∈ back, before a b := by
      have sorted := List.pairwise_mergeSort before_trans before_total (a :: (rest ++ [record]))
      rw [whole] at sorted
      exact (List.pairwise_cons.1 (List.pairwise_append.1 sorted).2.1).1
    have more' : ∀ b ∈ back' ++ [record], before a b := by
      have sorted := List.pairwise_mergeSort before_trans before_total (a :: rest)
      rw [whole'] at sorted
      intro b hb
      rcases List.mem_append.1 hb with hb | hb
      · exact (List.pairwise_cons.1 (List.pairwise_append.1 sorted).2.1).1 b hb
      · rw [List.mem_singleton.1 hb]
        exact h a List.mem_cons_self
    have same : front = front' ∧ back = back' ++ [record] := by
      rcases List.append_eq_append_iff.1 parts with ⟨middle, hf, hb⟩ | ⟨middle, hf, hb⟩
      · cases middle with
        | nil => simp_all
        | cons b tail =>
          have no := less b (by simp [hf])
          have yes := more' b (by simp [hb])
          simp [yes] at no
      · cases middle with
        | nil => simp_all
        | cons b tail =>
          have no := less' b (by simp [hf])
          have yes := more b (by simp [hb])
          simp [yes] at no
    rw [List.cons_append, whole, whole', same.1, same.2, List.append_assoc, List.cons_append]

/-- A record behind all others that the snapshot does not cover is replayed last. -/
theorem uncovered_concat {snapshot : Snapshot} {records : List LogRecord} {record : LogRecord}
    (hlast : ∀ a ∈ records, a.lsn ≤ record.lsn) (hnew : snapshot.lsn < record.lsn) :
    uncovered snapshot (records ++ [record]) = uncovered snapshot records ++ [record] := by
  have earlier : ∀ a ∈ records, before a record := by
    simpa [before] using hlast
  have sorted := mergeSort_concat earlier
  unfold before at sorted
  simp [uncovered, sorted, hnew]

/-- What is recovered with a further record behind all others. -/
theorem ofParts_concat {snapshot : Snapshot} {records : List LogRecord} {record : LogRecord}
    (hlast : ∀ a ∈ records, a.lsn ≤ record.lsn) (hnew : snapshot.lsn < record.lsn) :
    ofParts snapshot (records ++ [record]) = (ofParts snapshot records).replay record := by
  rw [ofParts, uncovered_concat hlast hnew, List.foldl_append]
  rfl

/-- Records are replayed in ascending order of their positions. -/
theorem sorted_uncovered (snapshot : Snapshot) (records : List LogRecord) :
    (uncovered snapshot records).Pairwise fun a b => a.lsn ≤ b.lsn :=
  ((List.pairwise_mergeSort before_trans before_total records).imp of_decide_eq_true).filter _

/-- A record is replayed exactly if the snapshot does not cover it. -/
theorem mem_uncovered {snapshot : Snapshot} {records : List LogRecord} {record : LogRecord} :
    record ∈ uncovered snapshot records ↔ record ∈ records ∧ snapshot.lsn < record.lsn := by
  simp [uncovered, and_comm]

/-- Without uncovered records the snapshot alone is recovered. -/
theorem ofParts_of_covered {snapshot : Snapshot} {records : List LogRecord}
    (h : ∀ record ∈ records, record.lsn ≤ snapshot.lsn) :
    ofParts snapshot records = ofSnapshot snapshot := by
  have nothing : uncovered snapshot records = [] := by
    rw [List.eq_nil_iff_forall_not_mem]
    intro record hrecord
    rw [mem_uncovered] at hrecord
    exact UInt64.not_lt.2 (h record hrecord.1) hrecord.2
  rw [ofParts, nothing, List.foldl_nil]

/-! ## Single records -/

/-- A replayed record does to the sessions what publishing its operation does. -/
@[simp]
theorem sessions_replay (state : Recovered) (record : LogRecord) :
    (state.replay record).sessions = Store.publish state.sessions record.op := by
  unfold replay
  cases record.op <;> rfl

/-- A replayed record of a change dates the latest change. -/
theorem lastModified_replay (state : Recovered) {record : LogRecord}
    (h : record.op.xid?.isSome = true) :
    (state.replay record).lastModified = max state.lastModified record.timestamp := by
  unfold replay
  cases hop : record.op with
  | upsert session => rfl
  | remove xid => rfl
  | checkpoint lsn => simp [hop, LogOperation.xid?] at h

/-- A session that is found after records were replayed was found before, or one of them wrote
it. -/
theorem get?_foldl_replay {records : List LogRecord} {state : Recovered} {xid : Xid}
    {session : Session} (h : (records.foldl replay state).sessions.get? xid = some session) :
    state.sessions.get? xid = some session ∨ ∃ record ∈ records, record.op = .upsert session := by
  induction records generalizing state with
  | nil => exact .inl h
  | cons first rest ih =>
    rcases ih h with h | ⟨record, hrecord, hop⟩
    · rw [sessions_replay] at h
      rcases SessionTable.get?_publish h with h | hop
      · exact .inl h
      · exact .inr ⟨first, List.mem_cons_self, hop⟩
    · exact .inr ⟨record, List.mem_cons_of_mem first hrecord, hop⟩

/-- A recovered session is in the snapshot, or a record that the snapshot does not cover wrote
it. -/
theorem get?_ofParts {snapshot : Snapshot} {records : List LogRecord} {xid : Xid}
    {session : Session} (h : (ofParts snapshot records).sessions.get? xid = some session) :
    (ofSnapshot snapshot).sessions.get? xid = some session
      ∨ ∃ record ∈ records, snapshot.lsn < record.lsn ∧ record.op = .upsert session := by
  rcases get?_foldl_replay h with h | ⟨record, hrecord, hop⟩
  · exact .inl h
  · obtain ⟨hrecord, hnew⟩ := mem_uncovered.1 hrecord
    exact .inr ⟨record, hrecord, hnew, hop⟩

/-! ## Positions -/

@[simp]
theorem lastLsn_replay (state : Recovered) (record : LogRecord) :
    (state.replay record).lastLsn = max state.lastLsn record.lsn := by
  unfold replay
  split <;> rfl

@[simp]
theorem replayed_replay (state : Recovered) (record : LogRecord) :
    (state.replay record).replayed = state.replayed + 1 := by
  unfold replay
  split <;> rfl

/-- Every replayed record is counted. -/
theorem replayed_foldl_replay (records : List LogRecord) (state : Recovered) :
    (records.foldl replay state).replayed = state.replayed + records.length := by
  induction records generalizing state with
  | nil => rfl
  | cons record rest ih =>
    rw [List.foldl_cons, ih, replayed_replay, List.length_cons]
    omega

/-- Nothing was replayed exactly if the snapshot covers all records. -/
theorem replayed_ofParts_eq_zero_iff {snapshot : Snapshot} {records : List LogRecord} :
    (ofParts snapshot records).replayed = 0 ↔ ∀ record ∈ records, record.lsn ≤ snapshot.lsn := by
  have none_left : (ofParts snapshot records).replayed = 0 ↔ uncovered snapshot records = [] := by
    rw [ofParts, replayed_foldl_replay, ← List.length_eq_zero_iff]
    simp [ofSnapshot]
  rw [none_left, List.eq_nil_iff_forall_not_mem]
  simp only [mem_uncovered, not_and, UInt64.not_lt]

/-- Replaying never lowers the recovered position, and raises it to that of each record. -/
theorem lastLsn_le_foldl_replay (records : List LogRecord) (state : Recovered) :
    state.lastLsn ≤ (records.foldl replay state).lastLsn
      ∧ ∀ record ∈ records, record.lsn ≤ (records.foldl replay state).lastLsn := by
  induction records generalizing state with
  | nil => simp
  | cons first rest ih =>
    -- The first record has raised the position to its own before the others are replayed.
    obtain ⟨above, others⟩ := ih (state.replay first)
    rw [List.foldl_cons]
    rw [lastLsn_replay, UInt64.le_iff_toNat_le, toNat_max] at above
    refine ⟨UInt64.le_iff_toNat_le.2 (by omega), fun record hrecord => ?_⟩
    rcases List.mem_cons.1 hrecord with rfl | hrecord
    · exact UInt64.le_iff_toNat_le.2 (by omega)
    · exact others record hrecord

/-- The snapshot does not reach beyond the recovered position. -/
theorem snapshot_lsn_le_lastLsn (snapshot : Snapshot) (records : List LogRecord) :
    snapshot.lsn ≤ (ofParts snapshot records).lastLsn :=
  (lastLsn_le_foldl_replay (uncovered snapshot records) (ofSnapshot snapshot)).1

/-- No record has a position beyond the recovered one. -/
theorem lsn_le_lastLsn {snapshot : Snapshot} {records : List LogRecord} {record : LogRecord}
    (h : record ∈ records) : record.lsn ≤ (ofParts snapshot records).lastLsn := by
  by_cases hnew : snapshot.lsn < record.lsn
  · have replayed : record ∈ uncovered snapshot records := mem_uncovered.2 ⟨h, hnew⟩
    exact (lastLsn_le_foldl_replay _ (ofSnapshot snapshot)).2 record replayed
  · exact UInt64.le_trans (UInt64.not_lt.1 hnew) (snapshot_lsn_le_lastLsn snapshot records)

/-! ## Numbers -/

/-- The number that is recovered from a snapshot is at most a bound exactly if the snapshot's own
number and those of its sessions are. -/
theorem maxId_ofSnapshot_le_iff {snapshot : Snapshot} {b : UInt64} :
    (ofSnapshot snapshot).maxId ≤ b
      ↔ snapshot.maxId ≤ b ∧ ∀ session ∈ snapshot.sessions, session.maxId ≤ b :=
  foldl_max_le_iff Session.maxId snapshot.sessions snapshot.maxId b

/-- A replayed image raises the number to its own. -/
theorem maxId_replay (state : Recovered) (record : LogRecord) :
    (state.replay record).maxId = match record.op with
      | .upsert session => max state.maxId session.maxId
      | _ => state.maxId := by
  unfold replay
  split <;> simp_all

/-- The number of a recovery is at least every number in its sessions. -/
def Covers (state : Recovered) : Prop :=
  ∀ xid session, state.sessions.get? xid = some session → session.maxId ≤ state.maxId

theorem covers_ofSnapshot (snapshot : Snapshot) : (ofSnapshot snapshot).Covers :=
  fun _ session found => (maxId_ofSnapshot_le_iff.1 (UInt64.le_refl _)).2 session
    (SessionTable.mem_of_get?_ofList found)

theorem Covers.replay {state : Recovered} (h : state.Covers) (record : LogRecord) :
    (state.replay record).Covers := by
  intro xid session found
  rw [sessions_replay] at found
  have raised : state.maxId ≤ (state.replay record).maxId := by
    rw [maxId_replay]
    split
    · exact (max_le_iff.1 (UInt64.le_refl _)).1
    · exact UInt64.le_refl _
  rcases SessionTable.get?_publish found with found | hop
  · exact UInt64.le_trans (h xid session found) raised
  · rw [maxId_replay, hop]
    exact (max_le_iff.1 (UInt64.le_refl _)).2

theorem covers_ofParts (snapshot : Snapshot) (records : List LogRecord) :
    (ofParts snapshot records).Covers := by
  suffices step : ∀ (rest : List LogRecord) (state : Recovered), state.Covers →
      (rest.foldl Recovered.replay state).Covers by
    exact step _ _ (covers_ofSnapshot snapshot)
  intro rest
  induction rest with
  | nil => exact fun state h => h
  | cons record rest ih => exact fun state h => ih _ (h.replay record)

end Recovered

/-- What is recovered is what a snapshot and the records of the log give. -/
theorem recover_eq_ok_iff {files : Files} {recovered : Recovered} :
    recover files = .ok recovered ↔ ∃ snapshot, Snapshot.read files.snapshot = .ok snapshot
      ∧ Recovered.ofParts snapshot (Frame.records files.log) = recovered := by
  unfold recover
  cases Snapshot.read files.snapshot <;> simp [Except.map]

/-- The recovered number is at least every number in the recovered sessions. -/
theorem maxId_le_of_recover {files : Files} {recovered : Recovered} {xid : Xid} {session : Session}
    (h : recover files = .ok recovered) (found : recovered.sessions.get? xid = some session) :
    session.maxId ≤ recovered.maxId := by
  obtain ⟨snapshot, -, rfl⟩ := recover_eq_ok_iff.1 h
  exact Recovered.covers_ofParts _ _ xid session found

/-- A record at a new position is replayed last if it is appended to a log that ends with a whole
frame. -/
theorem recover_append {files : Files} {recovered : Recovered} {record : LogRecord}
    (h : recover files = .ok recovered) (whole : Frame.remainder files.log = [])
    (fits : Frame.Fits record) (hnew : recovered.lastLsn < record.lsn) :
    recover { files with log := files.log ++ Frame.ofRecord record }
      = .ok (recovered.replay record) := by
  obtain ⟨snapshot, hread, rfl⟩ := recover_eq_ok_iff.1 h
  refine recover_eq_ok_iff.2 ⟨snapshot, hread, ?_⟩
  rw [Frame.records_append_ofRecord whole fits, Recovered.ofParts_concat]
  · intro a ha
    exact UInt64.le_of_lt (UInt64.lt_of_le_of_lt (Recovered.lsn_le_lastLsn ha) hnew)
  · exact UInt64.lt_of_le_of_lt (Recovered.snapshot_lsn_le_lastLsn ..) hnew

end SessionRegistry
