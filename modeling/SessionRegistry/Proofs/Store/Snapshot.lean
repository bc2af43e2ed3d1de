import SessionRegistry.Proofs.Json.RoundTrip
import SessionRegistry.Store.Snapshot

/-!
# Round trip of snapshots

A snapshot file is read back as the snapshot that was written, whatever the texts, numbers and
statuses of its sessions are.

* `Branch.ofJson?_toJson`, `Session.ofJson?_toJson`, `Snapshot.ofJson?_toJson`: the JSON form of a
  value spells that value.
* `Snapshot.read_write`: a snapshot file is read back.
-/

namespace SessionRegistry

namespace Json

/-- A number of 64 bits is read back. -/
@[simp]
theorem uint64?_toNat (n : UInt64) : (nat n.toNat).uint64? = some n := by
  have h : n.toNat < UInt64.size := n.toNat_lt
  simp [uint64?, h]

/-- A text is read back. -/
@[simp]
theorem text?_str (s : String) : (str s).text? = some s :=
  rfl

/-- A reader that starts with something that is read back goes on with it. -/
theorem bind_eq_some {α β : Type} {first : Option α} {rest : α → Option β} {a : α} {b : β}
    (h : first = some a) (hrest : rest a = some b) : first >>= rest = some b := by
  rw [h]
  exact hrest

/-- A field is read from an object that has each name once. -/
theorem field_of_mem {fields : List (String × Json)} (distinct : (fields.map Prod.fst).Nodup)
    {name : String} {value : Json} (h : (name, value) ∈ fields) :
    field fields name = some (some value) := by
  have only : fields.filter (·.1 == name) = [(name, value)] := by
    induction fields with
    | nil => cases h
    | cons first rest ih =>
      obtain ⟨fresh, others⟩ := List.nodup_cons.1 distinct
      rcases List.mem_cons.1 h with rfl | h
      · have none : rest.filter (·.1 == name) = [] := by
          refine List.filter_eq_nil_iff.2 fun other hother same => fresh ?_
          exact List.mem_map.2 ⟨other, hother, beq_iff_eq.1 same⟩
        rw [List.filter_cons, if_pos (beq_self_eq_true name), none]
      · have other : ¬ (first.1 == name) = true := fun same =>
          fresh (List.mem_map.2 ⟨(name, value), h, (beq_iff_eq.1 same).symm⟩)
        rw [List.filter_cons, if_neg other, ih others h]
  rw [field, only]

/-- The fields of an object that has each name once are read in order. -/
theorem record_obj {fields : List (String × Json)} {names : List String}
    (hnames : fields.map Prod.fst = names) (distinct : names.Nodup) :
    record names (obj fields) = some (fields.map fun entry => some entry.2) := by
  subst hnames
  have step : ∀ some_of : List (String × Json), (∀ entry ∈ some_of, entry ∈ fields) →
      (some_of.map Prod.fst).mapM (field fields)
        = some (some_of.map fun entry => some entry.2) := by
    intro some_of
    induction some_of with
    | nil => intro _; rfl
    | cons entry rest ih =>
      intro inside
      have first := field_of_mem distinct (inside entry List.mem_cons_self)
      have others := ih fun other hother => inside other (List.mem_cons_of_mem entry hother)
      rw [List.map_cons, List.mapM_cons, first, others]
      rfl
  exact step fields fun _ h => h

/-- A value that may be absent is read back, where a value that is present is not written as
null. -/
theorem optional?_ofOption {α : Type} (read : Json → Option α) (write : α → Json)
    (hnull : ∀ a, write a ≠ null) (h : ∀ a, read (write a) = some a) (value : Option α) :
    optional? read (some (ofOption write value)) = some value := by
  cases value with
  | none => rfl
  | some a =>
    simp only [ofOption, optional?]
    unfold nullable?
    split
    · exact absurd ‹_› (hnull a)
    · rw [h a, Option.map_some]

/-- The values of an array are read back. -/
theorem list?_map {α : Type} {read : Json → Option α} {write : α → Json} (values : List α)
    (h : ∀ a ∈ values, read (write a) = some a) :
    list? read (arr (values.map write)) = some values := by
  rw [list?]
  induction values with
  | nil => rfl
  | cons a more ih =>
    have first := h a List.mem_cons_self
    have others := ih fun b hb => h b (List.mem_cons_of_mem a hb)
    rw [List.map_cons, List.mapM_cons, first, others]
    rfl

end Json

/-- The status with the name of a status is that status. -/
@[simp]
theorem GlobalStatus.ofName?_name (status : GlobalStatus) : ofName? status.name = some status := by
  cases status <;> decide

/-- The status with the name of a status is that status. -/
@[simp]
theorem BranchStatus.ofName?_name (status : BranchStatus) : ofName? status.name = some status := by
  cases status <;> decide

/-- The mode with the name of a mode is that mode. -/
@[simp]
theorem BranchType.ofName?_name (mode : BranchType) : ofName? mode.name = some mode := by
  cases mode <;> decide

open Json

/-- The JSON form of a branch spells that branch. -/
theorem Branch.ofJson?_toJson (b : Branch) : ofJson? b.toJson = some b := by
  have fields : b.toJson.record fieldNames = some _ := record_obj rfl (by decide)
  have text := optional?_ofOption text? str (by simp) text?_str
  have status := optional?_ofOption (fun j => j.constant? >>= BranchStatus.ofName?)
    (fun status => .str status.name) (by simp) BranchStatus.ofName?_name
  refine bind_eq_some fields ?_
  -- one step for each field, in order
  refine bind_eq_some (text?_str b.xid) ?_
  refine bind_eq_some (uint64?_toNat b.id) ?_
  refine bind_eq_some (text?_str b.applicationId) ?_
  refine bind_eq_some (text?_str b.transactionName) ?_
  refine bind_eq_some (BranchType.ofName?_name b.type) ?_
  refine bind_eq_some (text?_str b.resourceId) ?_
  refine bind_eq_some (text b.lockKey) ?_
  refine bind_eq_some (text b.clientId) ?_
  refine bind_eq_some (text b.applicationData) ?_
  refine bind_eq_some (BranchStatus.ofName?_name b.status) ?_
  refine bind_eq_some (status b.suspendedFrom) ?_
  refine bind_eq_some (uint64?_toNat b.beginTime) ?_
  exact bind_eq_some (uint64?_toNat b.modifiedTime) rfl

/-- The JSON form of a session spells that session. -/
theorem Session.ofJson?_toJson (s : Session) : ofJson? s.toJson = some s := by
  have fields : s.toJson.record fieldNames = some _ := record_obj rfl (by decide)
  have status := optional?_ofOption (fun j => j.constant? >>= GlobalStatus.ofName?)
    (fun status => .str status.name) (by simp) GlobalStatus.ofName?_name
  have branches := list?_map s.branches fun b _ => Branch.ofJson?_toJson b
  refine bind_eq_some fields ?_
  refine bind_eq_some (text?_str s.xid) ?_
  refine bind_eq_some (uint64?_toNat s.transactionId) ?_
  refine bind_eq_some (text?_str s.applicationId) ?_
  refine bind_eq_some (text?_str s.serviceGroup) ?_
  refine bind_eq_some (text?_str s.name) ?_
  refine bind_eq_some (uint64?_toNat s.timeout) ?_
  refine bind_eq_some (GlobalStatus.ofName?_name s.status) ?_
  refine bind_eq_some (status s.suspendedFrom) ?_
  refine bind_eq_some (uint64?_toNat s.beginTime) ?_
  refine bind_eq_some (uint64?_toNat s.modifiedTime) ?_
  exact bind_eq_some branches rfl

namespace Snapshot

/-- The JSON form of a snapshot spells that snapshot. -/
theorem ofJson?_toJson (snapshot : Snapshot) : ofJson? snapshot.toJson = some snapshot := by
  have fields : snapshot.toJson.record fieldNames = some _ := record_obj rfl (by decide)
  have sessions := list?_map snapshot.sessions fun s _ => Session.ofJson?_toJson s
  refine bind_eq_some fields ?_
  refine bind_eq_some (uint64?_toNat snapshot.lsn) ?_
  refine bind_eq_some (uint64?_toNat snapshot.timestamp) ?_
  refine bind_eq_some (uint64?_toNat snapshot.lastModified) ?_
  refine bind_eq_some (uint64?_toNat snapshot.maxId) ?_
  exact bind_eq_some sessions rfl

/-- A snapshot file is read back. -/
theorem read_write (snapshot : Snapshot) : read (some snapshot.write) = .ok snapshot := by
  rw [read, write, Json.parse_render, Option.bind_some, ofJson?_toJson]

end Snapshot

end SessionRegistry
