import SessionRegistry.Proofs.Store.Intact

/-!
# Snapshot files

The snapshot file is all that is left of a store once a checkpoint has emptied the log. Whatever the
texts of the sessions are, the file is one line without control characters, two snapshots never
have the same file, and a store opens on it with what the snapshot holds.

## Main results

* `Json.le_of_mem_render`: a printed value has no control characters.
* `Store.read_of_writeSnapshot`: a written snapshot is read back, and a store opens on it.
-/

namespace SessionRegistry

namespace Json

/-- Every digit of a number is a visible character. -/
theorem le_of_mem_toDigits {n : Nat} {c : Char} (h : c ∈ Nat.toDigits 10 n) : 0x20 ≤ c.toNat := by
  have digit : c.isDigit = true := Nat.isDigit_of_mem_toDigits (by decide) (by decide) h
  simp only [Char.isDigit, Bool.and_eq_true, decide_eq_true_eq] at digit
  exact Nat.le_trans (by decide) (UInt32.le_iff_toNat_le.1 digit.1)

/-- A text that has been looked through has no control characters. -/
theorem le_of_all {cs : List Char} (h : cs.all (0x20 ≤ ·.toNat) = true) :
    ∀ c ∈ cs, 0x20 ≤ c.toNat := by
  simpa using h

/-- A character in a quoted text is written without control characters. -/
theorem le_of_mem_escape (c : Char) : ∀ shown ∈ escape c, 0x20 ≤ shown.toNat := by
  unfold escape
  -- the escapes of one letter
  iterate 7
    split
    · exact le_of_all (by decide)
  split
  · next control =>
    have digits : ∀ n < 16, 0x20 ≤ (Text.hexDigit n).toNat := by decide
    have high := digits (c.toNat / 16) (by omega)
    have low := digits (c.toNat % 16) (by omega)
    simpa using ⟨high, low⟩
  · next plain =>
    intro shown mem
    rw [List.mem_singleton.1 mem]
    exact Nat.le_of_not_lt plain

/-- A quoted text is written without control characters. -/
theorem le_of_mem_quote (cs : List Char) : ∀ shown ∈ quote cs, 0x20 ≤ shown.toNat := by
  intro shown mem
  simp only [quote, List.mem_cons, List.mem_append, List.mem_flatMap, List.not_mem_nil,
    or_false] at mem
  obtain (rfl | ⟨c, -, mem⟩) | rfl := mem
  · decide
  · exact le_of_mem_escape c shown mem
  · decide

/-- A token is written without control characters. -/
theorem Token.le_of_mem_chars (t : Token) : ∀ shown ∈ t.chars, 0x20 ≤ shown.toNat := by
  cases t with
  | nat n => exact fun shown mem => le_of_mem_toDigits mem
  | bool b => exact le_of_all (by cases b <;> decide)
  | text s =>
    cases s with
    | none => exact le_of_all (by decide)
    | some s => exact le_of_mem_quote s.toList
  | _ => exact le_of_all (by decide)

/-- A printed value has no control characters, so it stands on one line. -/
theorem le_of_mem_render {j : Json} {shown : Char} (h : shown ∈ j.render.toList) :
    0x20 ≤ shown.toNat := by
  rw [render, String.toList_ofList] at h
  obtain ⟨t, -, mem⟩ := List.mem_flatMap.1 h
  exact t.le_of_mem_chars shown mem

end Json

/-- Two snapshots never have the same file. -/
theorem Snapshot.write_injective : Function.Injective write := by
  intro a b same
  have read := a.read_write
  rw [same, b.read_write] at read
  exact (Except.ok.inj read).symm

namespace Store

/-- Writing a snapshot succeeds in every state of a store and replaces the snapshot file alone. The
file is read back as exactly that snapshot, it has no control characters, and no other snapshot has
the same file. So a store opens on it with what the snapshot holds once the log is empty, as long as
there is a number behind the highest one in the snapshot. -/
theorem read_of_writeSnapshot (s : Store) (snapshot : Snapshot) :
    ∃ text, (writeSnapshot snapshot).run.run s = (.ok (), { s with snapshotFile := some text })
      ∧ Snapshot.read (some text) = .ok snapshot
      ∧ (∀ shown ∈ text.toList, 0x20 ≤ shown.toNat)
      ∧ (∀ other : Snapshot, other.write = text ↔ other = snapshot)
      ∧ ∀ settings clock, openFiles settings clock { snapshot := some text, log := [] }
        = if (Recovered.ofSnapshot snapshot).maxId + 1 = 0 then .error (.internal .overflow)
          else .ok (resume settings clock { snapshot := some text, log := [] }
            (Recovered.ofSnapshot snapshot)) := by
  refine ⟨snapshot.write, s.run_writeSnapshot snapshot, snapshot.read_write,
    fun shown => Json.le_of_mem_render, fun other => Snapshot.write_injective.eq_iff,
    fun settings clock => ?_⟩
  have found : recover { snapshot := some snapshot.write, log := [] }
      = .ok (Recovered.ofSnapshot snapshot) := by
    rw [recover, snapshot.read_write, Frame.records_nil, Except.map,
      Recovered.ofParts_of_covered (by simp)]
  exact openFiles_of_replayed_eq_zero settings clock found rfl

end Store

end SessionRegistry
