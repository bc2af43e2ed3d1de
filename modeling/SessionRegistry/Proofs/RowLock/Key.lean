import SessionRegistry.Proofs.RowLock.Grouping
import SessionRegistry.Proofs.Text.Trimming

/-!
# Lock keys are read back

A lock key that is written for rows which were read from a lock key names these rows again, grouped
by table: none is lost, none is added, and each is named as often as before.

## Main definitions

* `Row.Legible`: a row that a lock key can name.

## Main results

* `LockKey.legible_of_mem_rows`: every row that is read is legible.
* `LockKey.rows_format`, `LockKey.rows_format_perm`: a written lock key is read back.
-/

namespace SessionRegistry

/-! ## Pieces of a text -/

/-- A piece between two separators holds none, and characters of the text alone. -/
theorem not_mem_and_subset_of_mem_splitOn {separator : Char} {cs piece : List Char}
    (h : piece ∈ cs.splitOn separator) : separator ∉ piece ∧ piece ⊆ cs := by
  induction cs generalizing piece with
  | nil =>
    rw [List.splitOn_nil, List.mem_singleton] at h
    subst h
    exact ⟨List.not_mem_nil, List.Subset.refl _⟩
  | cons c rest ih =>
    rw [List.splitOn_cons_eq_if_modifyHead] at h
    split at h
    · rcases List.mem_cons.1 h with rfl | h
      · exact ⟨List.not_mem_nil, List.nil_subset _⟩
      · exact (ih h).imp_right fun inRest => List.subset_cons_of_subset c inRest
    · next other =>
      -- The character stands in front of the first piece of the rest.
      obtain ⟨first, more, pieces⟩ :=
        List.exists_cons_of_ne_nil (List.splitOn_ne_nil separator rest)
      rw [pieces, List.modifyHead_cons] at h
      rcases List.mem_cons.1 h with rfl | h
      · obtain ⟨free, inRest⟩ := ih (pieces ▸ List.mem_cons_self)
        refine ⟨?_, List.cons_subset_cons c inRest⟩
        rw [List.mem_cons, not_or]
        exact ⟨fun same => other (beq_iff_eq.2 same.symm), free⟩
      · exact (ih (pieces ▸ List.mem_cons_of_mem _ h)).imp_right
          fun inRest => List.subset_cons_of_subset c inRest

/-- A character of texts that are joined is the separator or one of a text. -/
theorem not_mem_intercalate {c separator : Char} {pieces : List (List Char)}
    (other : c ≠ separator) (free : ∀ piece ∈ pieces, c ∉ piece) :
    c ∉ [separator].intercalate pieces := by
  induction pieces with
  | nil => exact List.not_mem_nil
  | cons piece rest ih =>
    obtain ⟨first, more⟩ := List.forall_mem_cons.1 free
    cases rest with
    | nil => simpa using first
    | cons next rest =>
      rw [List.intercalate_cons_cons]
      simpa [first, other] using ih more

namespace LockKey

variable {separator : Char} {cs front back : List Char}

theorem of_splitOnce?_eq_some (h : splitOnce? separator cs = some (front, back)) :
    separator ∉ front ∧ cs = front ++ separator :: back := by
  unfold splitOnce? at h
  split at h
  · cases h
  · next c rest dropped =>
    cases h
    have free : separator ∉ cs.takeWhile (· != separator) := by
      intro mem
      simpa using List.mem_takeWhile_imp mem
    obtain rfl : c = separator := by
      have head := List.head?_dropWhile_not (· != separator) cs
      rw [dropped] at head
      simpa using head
    have whole := List.takeWhile_append_dropWhile (p := (· != c)) (l := cs)
    rw [dropped] at whole
    exact ⟨free, whole.symm⟩

theorem splitOnce?_append (free : separator ∉ front) (back : List Char) :
    splitOnce? separator (front ++ separator :: back) = some (front, back) := by
  have passes : ∀ c ∈ front, (c != separator) = true := by
    intro c hc
    exact bne_iff_ne.2 fun same => free (same ▸ hc)
  rw [splitOnce?, List.dropWhile_append_of_pos passes, List.takeWhile_append_of_pos passes]
  simp

end LockKey

/-! ## Legible rows -/

/-- A row that a lock key can name: its table and its key are trimmed, not empty, and free of the
characters that end them. -/
structure Row.Legible (row : Row) : Prop where
  table_ne_nil : row.table.toList ≠ []
  table_trimmed : Text.trimChars row.table.toList = row.table.toList
  colon_not_mem : ':' ∉ row.table.toList
  semicolon_not_mem_table : ';' ∉ row.table.toList
  key_ne_nil : row.key.toList ≠ []
  key_trimmed : Text.trimChars row.key.toList = row.key.toList
  comma_not_mem : ',' ∉ row.key.toList
  semicolon_not_mem_key : ';' ∉ row.key.toList

namespace LockKey

variable {rows : List Row} {row : Row}

/-- Every row of a segment is legible. -/
theorem legible_of_mem_segmentRows {segment : List Char} (free : ';' ∉ segment)
    (h : row ∈ segmentRows segment) : row.Legible := by
  unfold segmentRows at h
  split at h
  · cases h
  · next table keys split =>
    obtain ⟨noColon, whole⟩ := of_splitOnce?_eq_some split
    dsimp only at h
    split at h
    · cases h
    · next nonempty =>
      obtain ⟨key, hkey, named⟩ := List.mem_filterMap.1 h
      obtain ⟨piece, hpiece, rfl⟩ := List.mem_map.1 hkey
      obtain ⟨noComma, inKeys⟩ := not_mem_and_subset_of_mem_splitOn hpiece
      have inTable := Text.trimChars_subset table
      have inPiece := Text.trimChars_subset piece
      split at named
      · cases named
      · next filled =>
        cases named
        refine ⟨?_, ?_, ?_, ?_, ?_, ?_, ?_, ?_⟩ <;> simp only [String.toList_ofList]
        · exact nonempty
        · exact Text.trimChars_trimChars table
        · exact fun mem => noColon (inTable mem)
        · exact fun mem => free (whole ▸ List.mem_append_left _ (inTable mem))
        · exact filled
        · exact Text.trimChars_trimChars piece
        · exact fun mem => noComma (inPiece mem)
        · refine fun mem => free (whole ▸ List.mem_append_right _ (List.mem_cons_of_mem _ ?_))
          exact inKeys (inPiece mem)

/-- Every row that is read from a lock key is legible. -/
theorem legible_of_mem_rows {lockKey : Option String} (h : row ∈ LockKey.rows lockKey) :
    row.Legible := by
  cases lockKey with
  | none => cases h
  | some text =>
    obtain ⟨segment, hsegment, h⟩ := List.mem_flatMap.1 h
    exact legible_of_mem_segmentRows (not_mem_and_subset_of_mem_splitOn hsegment).1 h

/-! ## Reading what is written -/

/-- The segment of a table names the rows of the table. -/
theorem segmentRows_append {table : String} {keys : List String} (nonempty : keys ≠ [])
    (legible : ∀ key ∈ keys, (⟨table, key⟩ : Row).Legible) :
    segmentRows (table.toList ++ ':' :: [','].intercalate (keys.map String.toList))
      = keys.map fun key => ⟨table, key⟩ := by
  obtain ⟨key, hkey⟩ := List.exists_mem_of_ne_nil keys nonempty
  have row := legible key hkey
  have pieces : ([','].intercalate (keys.map String.toList)).splitOn ','
      = keys.map String.toList := by
    refine List.splitOn_intercalate ',' ?_ (by simpa using nonempty)
    exact List.forall_mem_map.2 fun key hkey => (legible key hkey).comma_not_mem
  rw [segmentRows, splitOnce?_append row.colon_not_mem]
  simp only [row.table_trimmed, if_neg row.table_ne_nil, pieces, List.filterMap_map,
    String.ofList_toList]
  rw [← List.filterMap_eq_map]
  refine List.filterMap_congr fun key hkey => ?_
  have row := legible key hkey
  simp [row.key_trimmed, row.key_ne_nil]

/-- What is written of the rows of one table. -/
def segmentOf (rows : List Row) (table : String) : List Char :=
  table.toList ++ ':' :: [','].intercalate ((keysOf rows table).map String.toList)

/-- The rows of a segment that is written are read back. -/
theorem segmentRows_segmentOf {table : String} (legible : ∀ row ∈ rows, row.Legible)
    (h : table ∈ tables rows) :
    segmentRows (segmentOf rows table) = rows.filter (·.table == table) := by
  rw [segmentOf, segmentRows_append (keysOf_ne_nil h), map_keysOf]
  exact fun key hkey => legible _ (mem_keysOf_iff.1 hkey)

/-- A segment that is written does not end early. -/
theorem semicolon_not_mem_segmentOf {table : String} (legible : ∀ row ∈ rows, row.Legible)
    (h : table ∈ tables rows) : ';' ∉ segmentOf rows table := by
  obtain ⟨key, hkey⟩ := List.exists_mem_of_ne_nil _ (keysOf_ne_nil h)
  have row := legible _ (mem_keysOf_iff.1 hkey)
  have keys : ';' ∉ [','].intercalate ((keysOf rows table).map String.toList) := by
    refine not_mem_intercalate (by decide) (List.forall_mem_map.2 fun key hkey => ?_)
    exact (legible _ (mem_keysOf_iff.1 hkey)).semicolon_not_mem_key
  rw [segmentOf, List.mem_append, List.mem_cons, not_or, not_or]
  exact ⟨row.semicolon_not_mem_table, by decide, keys⟩

/-- The lock key of some rows joins the segments of their tables. -/
theorem exists_format_eq_some (h : rows ≠ []) :
    ∃ text, format rows = some text
      ∧ text.toList = [';'].intercalate ((tables rows).map (segmentOf rows)) := by
  refine ⟨_, (format_eq rows).trans (if_neg h), ?_⟩
  rw [String.toList_intercalate, List.map_map]
  congr 1
  refine List.map_congr_left fun table _ => ?_
  simp [segmentOf, String.toList_intercalate]

/-- A lock key that is written for legible rows names them table by table. -/
theorem rows_format (legible : ∀ row ∈ rows, row.Legible) :
    LockKey.rows (format rows)
      = (tables rows).flatMap fun table => rows.filter (·.table == table) := by
  by_cases none : rows = []
  · subst none
    rfl
  · obtain ⟨text, written, chars⟩ := exists_format_eq_some none
    have free : ∀ segment ∈ (tables rows).map (segmentOf rows), ';' ∉ segment :=
      List.forall_mem_map.2 fun table h => semicolon_not_mem_segmentOf legible h
    have some : (tables rows).map (segmentOf rows) ≠ [] := by
      obtain ⟨row, hrow⟩ := List.exists_mem_of_ne_nil rows none
      exact List.ne_nil_of_mem (List.mem_map_of_mem
        (List.mem_eraseDups.2 (List.mem_map_of_mem hrow)))
    rw [written]
    show parse text = _
    rw [parse, chars, List.splitOn_intercalate ';' free some, List.flatMap_map]
    exact List.flatMap_congr fun table h => segmentRows_segmentOf legible h

/-- A lock key that is written for legible rows names the same rows, each as often. -/
theorem rows_format_perm (legible : ∀ row ∈ rows, row.Legible) :
    (LockKey.rows (format rows)).Perm rows := by
  rw [rows_format legible]
  exact flatMap_tables_perm rows

/-- The rows of two tables are grouped, and one that is named twice stays so. -/
example : LockKey.rows (format [⟨"t", "1"⟩, ⟨"u", "2"⟩, ⟨"t", "3"⟩, ⟨"t", "1"⟩])
    = [⟨"t", "1"⟩, ⟨"t", "3"⟩, ⟨"t", "1"⟩, ⟨"u", "2"⟩] := by
  decide +kernel

end LockKey

end SessionRegistry
