import Mathlib.Data.List.Induction
import Mathlib.Data.List.Nodup
import SessionRegistry.RowLock.Key

/-!
# Rows grouped by table

A lock key is written from groups, which are made row by row: each key is put behind the keys of its
table, and a table that is new gets the last group. What comes of it can be said at once: the tables
are those of the rows without repetitions, and the keys of a table are those of its rows.

## Main definitions

* `LockKey.tables`, `LockKey.keysOf`: the tables of some rows, and the keys of one table.

## Main results

* `LockKey.group_eq`: what the grouping of any rows gives.
* `LockKey.format_eq`: what is written of them.
* `LockKey.flatMap_tables_perm`: no row is lost, and none is added.
-/

namespace SessionRegistry

/-! ## First appearances -/

section FirstAppearance

variable {α : Type} [DecidableEq α]

/-- A last entry is kept if it is the first one of its kind. -/
theorem eraseDups_concat (l : List α) (a : α) :
    (l ++ [a]).eraseDups = if a ∈ l then l.eraseDups else l.eraseDups ++ [a] := by
  rw [List.eraseDups_append, List.removeAll]
  split <;> simp [List.eraseDups_cons, *]

theorem eraseDups_sublist (l : List α) : l.eraseDups.Sublist l := by
  induction l using List.reverseRecOn with
  | nil => exact .slnil
  | append_singleton l a ih =>
    rw [eraseDups_concat]
    split
    · exact ih.trans (List.sublist_append_left l [a])
    · exact ih.append (List.Sublist.refl [a])

/-- What is left without repetitions stands in the order of the first appearances. -/
theorem pairwise_idxOf_eraseDups (l : List α) :
    l.eraseDups.Pairwise fun a b => l.idxOf a < l.idxOf b := by
  induction l using List.reverseRecOn with
  | nil => exact .nil
  | append_singleton l c ih =>
    -- The position of an entry of the front does not change when the list grows at the end.
    have kept : l.eraseDups.Pairwise fun a b => (l ++ [c]).idxOf a < (l ++ [c]).idxOf b := by
      refine ih.imp_of_mem fun {a b} ha hb before => ?_
      rwa [List.idxOf_append_of_mem (List.mem_eraseDups.1 ha),
        List.idxOf_append_of_mem (List.mem_eraseDups.1 hb)]
    rw [eraseDups_concat]
    split
    · exact kept
    · next fresh =>
      refine List.pairwise_append.2 ⟨kept, List.pairwise_singleton _ _, fun a ha b hb => ?_⟩
      obtain rfl := List.mem_singleton.1 hb
      have ha := List.mem_eraseDups.1 ha
      rw [List.idxOf_append_of_mem ha, List.idxOf_append_of_notMem fresh]
      exact Nat.lt_add_right _ (List.idxOf_lt_length_iff.2 ha)

theorem nodup_eraseDups (l : List α) : l.eraseDups.Nodup :=
  (pairwise_idxOf_eraseDups l).imp fun before same =>
    Nat.ne_of_lt before (congrArg (l.idxOf ·) same)

end FirstAppearance

namespace LockKey

variable {rows : List Row} {row : Row} {table : String}

/-- The keys of one table, in order. -/
def keysOf (rows : List Row) (table : String) : List String :=
  (rows.filter (·.table == table)).map Row.key

/-- The tables, in the order in which they first appear. -/
def tables (rows : List Row) : List String :=
  (rows.map Row.table).eraseDups

/-! ## The grouping -/

/-- The tables of the groups are named once. -/
theorem nodup_tables (rows : List Row) : (tables rows).Nodup :=
  nodup_eraseDups _

theorem mem_tables_iff : table ∈ tables rows ↔ ∃ row ∈ rows, row.table = table := by
  rw [tables, List.mem_eraseDups, List.mem_map]

/-- One more row adds its table, unless the table has appeared. -/
theorem tables_concat (rows : List Row) (row : Row) :
    tables (rows ++ [row]) =
      if row.table ∈ tables rows then tables rows else tables rows ++ [row.table] := by
  simp only [tables, List.map_append, List.map_singleton, eraseDups_concat, List.mem_eraseDups]

/-- One more row adds its key to those of its table. -/
theorem keysOf_concat (rows : List Row) (row : Row) (table : String) :
    keysOf (rows ++ [row]) table =
      if table = row.table then keysOf rows table ++ [row.key] else keysOf rows table := by
  by_cases own : table = row.table
  · simp [keysOf, own]
  · simp [keysOf, own, Ne.symm own]

variable {names : List String} {keys : String → List String}

/-- A key joins the keys of a table that has a group. -/
theorem addRow_of_mem (once : names.Nodup) (known : row.table ∈ names) :
    addRow row (names.map fun name => (name, keys name)) =
      names.map fun name =>
        (name, if name = row.table then keys name ++ [row.key] else keys name) := by
  induction names with
  | nil => cases known
  | cons name names ih =>
    obtain ⟨fresh, once⟩ := List.nodup_cons.1 once
    rw [List.map_cons, List.map_cons, addRow]
    by_cases own : name = row.table
    · -- The group is found, and none of the later ones is that of the table.
      have others : ∀ other ∈ names, other ≠ row.table := fun other hother same =>
        fresh (own ▸ same ▸ hother)
      rw [if_pos own, if_pos own]
      congr 1
      refine List.map_congr_left fun other hother => ?_
      rw [if_neg (others other hother)]
    · rw [if_neg own, if_neg own, ih once ((List.mem_cons.1 known).resolve_left (Ne.symm own))]

/-- A table without a group gets the last one. -/
theorem addRow_of_not_mem (new : row.table ∉ names) :
    addRow row (names.map fun name => (name, keys name)) =
      (names.map fun name => (name, keys name)) ++ [(row.table, [row.key])] := by
  induction names with
  | nil => rfl
  | cons name names ih =>
    obtain ⟨other, new⟩ := not_or.1 (mt List.mem_cons.2 new)
    rw [List.map_cons, addRow, if_neg (Ne.symm other), ih new, List.cons_append]

/-- The groups are the tables in the order in which they first appear, each with its keys. -/
theorem group_eq (rows : List Row) :
    group rows = (tables rows).map fun table => (table, keysOf rows table) := by
  induction rows using List.reverseRecOn with
  | nil => rfl
  | append_singleton rows row ih =>
    have step : group (rows ++ [row]) = addRow row (group rows) := by
      rw [group, group, List.foldl_append, List.foldl_cons, List.foldl_nil]
    rw [step, ih, tables_concat]
    split
    · next known =>
      rw [addRow_of_mem (nodup_tables rows) known]
      refine List.map_congr_left fun table _ => ?_
      rw [keysOf_concat]
    · next new =>
      have none : keysOf rows row.table = [] := by
        rw [keysOf, List.map_eq_nil_iff, List.filter_eq_nil_iff]
        exact fun other hother same => new (mem_tables_iff.2 ⟨other, hother, beq_iff_eq.1 same⟩)
      rw [addRow_of_not_mem new, List.map_append, List.map_singleton, keysOf_concat, if_pos rfl, none,
        List.nil_append]
      congr 1
      refine List.map_congr_left fun table htable => ?_
      rw [keysOf_concat, if_neg fun (own : table = row.table) => new (own ▸ htable)]

/-- What is written of some rows: their tables, each with its keys. -/
theorem format_eq (rows : List Row) :
    format rows =
      if rows = [] then none
      else
        some <| ";".intercalate <| (tables rows).map fun table =>
          table ++ ":" ++ ",".intercalate (keysOf rows table) := by
  rw [format, group_eq]
  cases rows with
  | nil => rfl
  | cons row rows =>
    obtain ⟨table, rest, is⟩ : ∃ table rest, tables (row :: rows) = table :: rest :=
      List.exists_cons_of_ne_nil (List.ne_nil_of_mem (mem_tables_iff.2 ⟨row, by simp, rfl⟩))
    rw [if_neg (List.cons_ne_nil row rows), is]
    simp only [List.map_cons, List.map_map]
    rfl

/-- Only an empty list of rows has no lock key. -/
theorem format_eq_none_iff (rows : List Row) : format rows = none ↔ rows = [] := by
  simp [format_eq]

/-! ## The rows of a table -/

/-- The rows of one table are named by the keys of that table. -/
theorem map_keysOf (rows : List Row) (table : String) :
    ((keysOf rows table).map fun key => (⟨table, key⟩ : Row))
      = rows.filter (·.table == table) := by
  rw [keysOf, List.map_map]
  refine (List.map_congr_left fun row hrow => ?_).trans (List.map_id _)
  have same : row.table = table := beq_iff_eq.1 (List.mem_filter.1 hrow).2
  rw [← same]
  rfl

/-- A key of a table is the key of a row. -/
theorem mem_keysOf_iff {table key : String} : key ∈ keysOf rows table ↔ ⟨table, key⟩ ∈ rows := by
  constructor
  · intro h
    have mem := List.mem_map_of_mem (f := fun key => (⟨table, key⟩ : Row)) h
    rw [map_keysOf] at mem
    exact (List.mem_filter.1 mem).1
  · exact fun h => List.mem_map.2 ⟨⟨table, key⟩, List.mem_filter.2 ⟨h, beq_self_eq_true table⟩, rfl⟩

/-- A table has a key. -/
theorem keysOf_ne_nil {table : String} (h : table ∈ tables rows) : keysOf rows table ≠ [] := by
  obtain ⟨row, hrow, rfl⟩ := List.mem_map.1 (List.mem_eraseDups.1 h)
  exact List.ne_nil_of_mem (mem_keysOf_iff.2 hrow)

/-- Rows that are grouped by table are the same rows. -/
theorem flatMap_tables_perm (rows : List Row) :
    ((tables rows).flatMap fun table => rows.filter (·.table == table)).Perm rows := by
  match rows with
  | [] => exact .refl []
  | row :: rest =>
    -- The rows of the first table come first, and the others are grouped among themselves.
    let others := rest.filter (!·.table == row.table)
    have tables_eq : tables (row :: rest) = row.table :: tables others := by
      rw [tables, List.map_cons, List.eraseDups_cons, List.filter_map]
      rfl
    have others_eq : (row :: rest).filter (!·.table == row.table) = others :=
      List.filter_cons_of_neg (by simp)
    have same : ∀ table ∈ tables others,
        (row :: rest).filter (·.table == table) = others.filter (·.table == table) := by
      intro table h
      obtain ⟨other, hother, rfl⟩ := List.mem_map.1 (List.mem_eraseDups.1 h)
      have apart : other.table ≠ row.table := by simpa using (List.mem_filter.1 hother).2
      rw [← others_eq, List.filter_filter]
      refine List.filter_congr fun row' _ => ?_
      by_cases equal : row'.table = other.table <;> simp [equal, apart]
    rw [tables_eq, List.flatMap_cons, List.flatMap_congr same]
    refine ((flatMap_tables_perm others).append_left _).trans ?_
    rw [← others_eq]
    exact List.filter_append_perm (·.table == row.table) (row :: rest)
termination_by rows.length
decreasing_by exact Nat.lt_succ_of_le (List.length_filter_le _ _)

end LockKey

end SessionRegistry
