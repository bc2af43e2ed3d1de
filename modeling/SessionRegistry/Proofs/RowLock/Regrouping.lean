import SessionRegistry.Proofs.RowLock.Key

/-!
# Lock keys in normal form

A lock key may name its rows in any order, with blanks around the names, with pieces that name no row
and with a table in several places. What is written for the rows that are read from it is its normal
form: the rows of each table stand together, and the tables stand in the order in which they first
appear. The normal form of a normal form is the same text.

## Main definitions

* `LockKey.Regrouped`: one list of rows is another one, sorted into its tables.

## Main results

* `LockKey.regrouped_rows_format`: rows that are written and read again are regrouped.
* `LockKey.Regrouped.format_eq`: regrouped rows are written in the same way.
* `LockKey.format_parse_normalises`: the normal form of any text.
-/

namespace SessionRegistry

namespace LockKey

variable {rows grouped : List Row}

/-- Where the table of a row first appears. -/
def firstOf (rows : List Row) (row : Row) : Nat :=
  (rows.map Row.table).idxOf row.table

/-- The rows of one list, each as often, sorted into their tables: the tables stand in the order in
which they first appear, and the rows of each table in their order. -/
structure Regrouped (rows grouped : List Row) : Prop where
  perm : grouped.Perm rows
  ordered : grouped.Pairwise fun a b => firstOf rows a ≤ firstOf rows b
  within : ∀ table, grouped.filter (·.table == table) = rows.filter (·.table == table)

/-- Of rows that are gathered table by table those of one table are the ones that were gathered for
it. -/
theorem filter_flatMap_filter (rows : List Row) (table : String) {names : List String}
    (once : names.Nodup) :
    (names.flatMap fun name => rows.filter (·.table == name)).filter (·.table == table)
      = if table ∈ names then rows.filter (·.table == table) else [] := by
  induction names with
  | nil => rfl
  | cons name names ih =>
    obtain ⟨fresh, once⟩ := List.nodup_cons.1 once
    rw [List.flatMap_cons, List.filter_append, ih once]
    by_cases same : name = table
    · subst same
      rw [if_neg fresh, if_pos List.mem_cons_self, List.append_nil, List.filter_filter]
      simp only [Bool.and_self]
    · -- A row of another table is none of this one.
      have none : (rows.filter (·.table == name)).filter (·.table == table) = [] := by
        rw [List.filter_filter, List.filter_eq_nil_iff]
        intro row _ both
        simp only [Bool.and_eq_true, beq_iff_eq] at both
        exact same (both.2.symm.trans both.1)
      simp only [none, List.nil_append, List.mem_cons, Ne.symm same, false_or]

/-- The rows that are gathered table by table are regrouped. -/
theorem regrouped_flatMap_tables (rows : List Row) :
    Regrouped rows ((tables rows).flatMap fun table => rows.filter (·.table == table)) where
  perm := flatMap_tables_perm rows
  ordered := by
    have named : ∀ {table row}, row ∈ rows.filter (·.table == table) → row.table = table :=
      fun h => beq_iff_eq.1 (List.mem_filter.1 h).2
    rw [List.pairwise_flatMap]
    constructor
    · intro table _
      refine List.pairwise_of_forall_mem_list fun a ha b hb => ?_
      rw [firstOf, firstOf, named ha, named hb]
    · refine (pairwise_idxOf_eraseDups (rows.map Row.table)).imp fun before a ha b hb => ?_
      rw [firstOf, firstOf, named ha, named hb]
      exact before.le
  within table := by
    rw [tables, filter_flatMap_filter rows table (nodup_eraseDups _)]
    split
    · rfl
    · next absent =>
      symm
      rw [List.filter_eq_nil_iff]
      intro row hrow same
      apply absent
      rw [← beq_iff_eq.1 same]
      exact List.mem_eraseDups.2 (List.mem_map_of_mem hrow)

/-- Legible rows that are written and read again are regrouped. -/
theorem regrouped_rows_format (legible : ∀ row ∈ rows, row.Legible) :
    Regrouped rows (LockKey.rows (format rows)) := by
  rw [rows_format legible]
  exact regrouped_flatMap_tables rows

namespace Regrouped

/-- Regrouped rows name the same tables in the same order. -/
theorem tables_eq (h : Regrouped rows grouped) : tables grouped = tables rows := by
  have names : (grouped.map Row.table).Perm (rows.map Row.table) := h.perm.map Row.table
  have ordered : (tables grouped).Pairwise fun a b =>
      (rows.map Row.table).idxOf a ≤ (rows.map Row.table).idxOf b := by
    refine List.Pairwise.sublist (eraseDups_sublist _) ?_
    rw [List.pairwise_map]
    exact h.ordered
  refine List.Perm.eq_of_pairwise ?_ ordered
    ((pairwise_idxOf_eraseDups _).imp Nat.le_of_lt) ?_
  · -- Tables that first appear at one place are the same.
    intro a b _ hb below above
    exact ((List.idxOf_inj (List.mem_eraseDups.1 hb)).1 (le_antisymm above below)).symm
  · refine (List.perm_ext_iff_of_nodup (nodup_eraseDups _) (nodup_eraseDups _)).2 fun table => ?_
    rw [List.mem_eraseDups, List.mem_eraseDups]
    exact names.mem_iff

/-- Regrouped rows name the same keys of each table in the same order. -/
theorem keysOf_eq (h : Regrouped rows grouped) : keysOf grouped = keysOf rows := by
  funext table
  rw [keysOf, keysOf, h.within table]

/-- Regrouped rows are written in the same way. -/
theorem format_eq (h : Regrouped rows grouped) : format grouped = format rows := by
  have nothing : grouped = [] ↔ rows = [] := by
    rw [← List.length_eq_zero_iff, h.perm.length_eq, List.length_eq_zero_iff]
  rw [LockKey.format_eq, LockKey.format_eq, h.tables_eq, h.keysOf_eq]
  simp only [nothing]

end Regrouped

/-- Whatever a text names, its rows have a lock key unless there are none. This lock key names them
again, each as often, sorted into their tables, and writing what it names gives it once more. -/
theorem format_parse_normalises (lockKey : String) :
    (format (parse lockKey) = none ↔ parse lockKey = []) ∧
      (parse lockKey ≠ [] → ∃ text, format (parse lockKey) = some text ∧
        Regrouped (parse lockKey) (parse text)) ∧
      format (LockKey.rows (format (parse lockKey))) = format (parse lockKey) := by
  have regrouped : Regrouped (parse lockKey) (LockKey.rows (format (parse lockKey))) := by
    apply regrouped_rows_format
    intro row hrow
    have read : row ∈ LockKey.rows (some lockKey) := hrow
    exact legible_of_mem_rows read
  refine ⟨format_eq_none_iff _, fun some => ?_, regrouped.format_eq⟩
  obtain ⟨text, written, -⟩ := exists_format_eq_some some
  rw [written] at regrouped
  exact ⟨text, written, regrouped⟩

/-- Blanks, pieces that name no row and a table in two places. -/
example : format (parse " orders:1, 2 ;:3;items:9;broken;orders: a:b ,,1")
    = some "orders:1,2,a:b,1;items:9" := by
  decide +kernel

end LockKey

end SessionRegistry
