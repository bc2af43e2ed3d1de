import SessionRegistry.Session.Basic

/-!
# Session tables

The sessions of a store, one for each xid, in ascending order of xid.

* `get?_insert_self`, `get?_insert_of_ne`, `get?_erase_self`, `get?_erase_of_ne`: what each change
  does to the session found under an xid.
-/

namespace SessionRegistry

/-- The sessions of a store, one for each xid, in ascending order of xid. -/
structure SessionTable where
  toList : List Session
  sorted : toList.Pairwise fun a b => a.xid < b.xid

namespace SessionTable

/-- No sessions. -/
def empty : SessionTable where
  toList := []
  sorted := .nil

instance : Inhabited SessionTable := ⟨empty⟩

/-- The number of sessions. -/
def size (table : SessionTable) : Nat :=
  table.toList.length

/-- The session with a given xid. -/
def get? (table : SessionTable) (xid : Xid) : Option Session :=
  table.toList.find? (·.xid == xid)

/-- Whether there is a session with a given xid. -/
def contains (table : SessionTable) (xid : Xid) : Bool :=
  (table.get? xid).isSome

/-- Put a session into its place in an ordered list, instead of one with the same xid. -/
def insertInto (session : Session) : List Session → List Session
  | [] => [session]
  | head :: rest =>
    if session.xid < head.xid then session :: head :: rest
    else if head.xid < session.xid then head :: insertInto session rest
    else session :: rest

/-- Every session of the list after an insertion was in it before or is the new one. -/
theorem mem_insertInto {session a : Session} {l : List Session} (h : a ∈ insertInto session l) :
    a = session ∨ a ∈ l := by
  induction l with
  | nil => simpa [insertInto] using h
  | cons head rest ih =>
    unfold insertInto at h
    split at h
    · simpa using h
    · split at h
      · rcases List.mem_cons.1 h with rfl | h
        · simp
        · rcases ih h with rfl | h <;> simp [*]
      · rcases List.mem_cons.1 h with rfl | h <;> simp [*]

/-- An insertion keeps the order. -/
theorem sorted_insertInto (session : Session) {l : List Session}
    (h : l.Pairwise fun a b => a.xid < b.xid) :
    (insertInto session l).Pairwise fun a b => a.xid < b.xid := by
  induction l with
  | nil => simp [insertInto]
  | cons head rest ih =>
    obtain ⟨first, others⟩ := List.pairwise_cons.1 h
    unfold insertInto
    split
    · next hlt =>
      refine List.pairwise_cons.2 ⟨fun a ha => ?_, h⟩
      rcases List.mem_cons.1 ha with rfl | ha
      · exact hlt
      · exact String.lt_trans hlt (first a ha)
    · next hge =>
      split
      · next hgt =>
        refine List.pairwise_cons.2 ⟨fun a ha => ?_, ih others⟩
        rcases mem_insertInto ha with rfl | ha
        · exact hgt
        · exact first a ha
      · next hle =>
        have same : head.xid = session.xid :=
          String.le_antisymm (String.not_lt.1 hge) (String.not_lt.1 hle)
        exact List.pairwise_cons.2 ⟨fun a ha => same ▸ first a ha, others⟩

/-- Put a session into the table, instead of one with the same xid. -/
def insert (table : SessionTable) (session : Session) : SessionTable where
  toList := insertInto session table.toList
  sorted := sorted_insertInto session table.sorted

/-- Take the session with a given xid out of the table. -/
def erase (table : SessionTable) (xid : Xid) : SessionTable where
  toList := table.toList.filter (·.xid != xid)
  sorted := table.sorted.filter _

/-- The table of a list of sessions. Of several with the same xid the last one counts. -/
def ofList (sessions : List Session) : SessionTable :=
  sessions.foldl insert empty

@[simp]
theorem get?_empty (xid : Xid) : empty.get? xid = none :=
  rfl

/-- A session is found under its own xid. -/
theorem xid_of_get? {table : SessionTable} {xid : Xid} {session : Session}
    (h : table.get? xid = some session) : session.xid = xid :=
  beq_iff_eq.1 (List.find?_some (p := fun session : Session => session.xid == xid) h)

/-- The inserted session is found. -/
@[simp]
theorem get?_insert_self (table : SessionTable) (session : Session) :
    (table.insert session).get? session.xid = some session := by
  obtain ⟨l, hl⟩ := table
  simp only [insert, get?]
  clear hl
  induction l with
  | nil => simp [insertInto]
  | cons head rest ih =>
    unfold insertInto
    split
    · simp
    · split
      · next hgt =>
        have : head.xid ≠ session.xid := fun h => String.lt_irrefl _ (h ▸ hgt)
        simpa [this] using ih
      · simp

/-- An insertion does not change what is found under another xid. -/
theorem get?_insert_of_ne (table : SessionTable) (session : Session) {xid : Xid}
    (h : session.xid ≠ xid) : (table.insert session).get? xid = table.get? xid := by
  obtain ⟨l, hl⟩ := table
  simp only [insert, get?]
  clear hl
  induction l with
  | nil => simp [insertInto, h]
  | cons head rest ih =>
    unfold insertInto
    split
    · simp [h]
    · next hge =>
      split
      · simp only [List.find?_cons, ih]
      · next hle =>
        have same : head.xid = session.xid :=
          String.le_antisymm (String.not_lt.1 hge) (String.not_lt.1 hle)
        simp [h, same]

/-- The erased session is not found. -/
@[simp]
theorem get?_erase_self (table : SessionTable) (xid : Xid) : (table.erase xid).get? xid = none := by
  simp [erase, get?]

/-- Erasing does not change what is found under another xid. -/
theorem get?_erase_of_ne (table : SessionTable) {erased xid : Xid} (h : erased ≠ xid) :
    (table.erase erased).get? xid = table.get? xid := by
  obtain ⟨l, hl⟩ := table
  simp only [erase, get?]
  clear hl
  induction l with
  | nil => rfl
  | cons head rest ih =>
    by_cases hx : head.xid = xid
    · have : head.xid ≠ erased := fun e => h (e.symm.trans hx)
      simp_all
    · by_cases he : head.xid = erased <;> simp_all

/-- A session is in the table exactly when it is found under its xid. -/
theorem mem_toList_iff (table : SessionTable) (session : Session) :
    session ∈ table.toList ↔ table.get? session.xid = some session := by
  obtain ⟨l, hl⟩ := table
  simp only [get?]
  induction l with
  | nil => simp
  | cons head rest ih =>
    obtain ⟨first, others⟩ := List.pairwise_cons.1 hl
    have ih := ih others
    by_cases hx : head.xid = session.xid
    · have absent : session ∉ rest := fun hm => String.lt_irrefl _ (hx ▸ first session hm)
      simp only [List.mem_cons, List.find?_cons, hx, BEq.rfl, Option.some.injEq]
      exact ⟨fun h => (h.resolve_right absent).symm, fun h => .inl h.symm⟩
    · have hne : session ≠ head := fun h => hx (h ▸ rfl)
      simp [hx, hne, ih]

end SessionTable

end SessionRegistry
