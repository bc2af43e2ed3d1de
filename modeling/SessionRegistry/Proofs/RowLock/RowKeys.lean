import Mathlib.Data.List.Infix
import SessionRegistry.RowLock.Basic

/-!
# What row keys tell apart

The key of a row joins the id of its resource, its table and its key by three carets. These texts
may have carets themselves, and then the same row key can be read in several ways: the separator is
seen at an earlier place, inside of a longer text. This is the only way in which the row keys of
different rows can be the same, and it needs a resource id or a table in which a separator could
begin.

## Main definitions

* `RowKey.Overlaps`: the separator behind a text begins inside of a longer one.
* `RowKey.Separable`: no three carets in a row in a text, and none at its end.
* `RowLock.SameRow`: two row locks are of the same row.
* `RowLock.MistakenFor`: the row key of the one can be read as that of the other.

## Main results

* `RowKey.join_eq_join_iff`: when texts that are joined in pairs are the same.
* `RowKey.separable_iff_not_overlaps`: where no separator is seen too early.
* `RowLock.rowKey_eq_rowKey_iff`: when two row keys are the same.
* `RowLock.rowKey_identifies_iff`: when the row keys of two row locks tell their rows apart.
-/

namespace SessionRegistry

namespace RowKey

/-- What stands between two texts. -/
def separator : List Char :=
  ['^', '^', '^']

/-- Two texts with the separator between them. -/
def join (front back : List Char) : List Char :=
  front ++ separator ++ back

/-- The separator behind a text begins inside of a longer text, and ends inside of it or inside of
its separator. What is left of these and all that follows is the rest `x` behind the shorter text,
where `y` is the rest behind the longer one. -/
def Overlaps (a x b y : List Char) : Prop :=
  ∃ rest, b ++ ['^', '^'] = a ++ separator ++ rest ∧ x = rest ++ '^' :: y

/-- A text has no three carets in a row, and none at its end. -/
def Separable (cs : List Char) : Prop :=
  ¬ separator <:+: cs ∧ cs.getLast? ≠ some '^'

instance (cs : List Char) : Decidable (Separable cs) :=
  inferInstanceAs (Decidable (_ ∧ _))

variable {a b x y cs : List Char}

/-- A separator and what follows, after two of its carets. -/
theorem join_eq (front back : List Char) :
    join front back = front ++ ['^', '^'] ++ '^' :: back := by
  simp [join, separator]

/-- Where a separator is seen too early, it is seen in the same text. -/
theorem Overlaps.join_eq (h : Overlaps a x b y) : join a x = join b y := by
  obtain ⟨rest, front, rfl⟩ := h
  calc
    a ++ separator ++ (rest ++ '^' :: y)
      = a ++ separator ++ rest ++ '^' :: y := by rw [List.append_assoc _ rest]
    _ = b ++ ['^', '^'] ++ '^' :: y := by rw [front]
    _ = join b y := (RowKey.join_eq b y).symm

theorem Overlaps.length_lt (h : Overlaps a x b y) : a.length < b.length := by
  obtain ⟨rest, front, -⟩ := h
  have lengths := congrArg List.length front
  simp [separator] at lengths
  omega

/-- If two pairs of texts are joined to the same text, then the separator behind the shorter first
text begins inside of the longer one. -/
theorem overlaps_of_join_eq (same : join a x = join b y) (shorter : a.length < b.length) :
    Overlaps a x b y := by
  rw [RowKey.join_eq b y] at same
  -- Without the last caret of its separator, the longer text still covers the earlier separator.
  have covered : (a ++ separator).length ≤ (b ++ ['^', '^']).length := by
    simp [separator]
    omega
  obtain ⟨rest, front⟩ :=
    List.prefix_of_prefix_length_le ⟨x, rfl⟩ ⟨'^' :: y, same.symm⟩ covered
  refine ⟨rest, front.symm, ?_⟩
  rw [← front, join, List.append_assoc _ rest] at same
  exact List.append_cancel_left same

/-- Two pairs of texts are joined to the same text exactly if they are the same, or the separator of
the one is seen too early in the other. -/
theorem join_eq_join_iff :
    join a x = join b y ↔ (a = b ∧ x = y) ∨ Overlaps a x b y ∨ Overlaps b y a x := by
  constructor
  · intro same
    rcases Nat.lt_trichotomy a.length b.length with shorter | equal | longer
    · exact .inr (.inl (overlaps_of_join_eq same shorter))
    · rw [join, join, List.append_assoc, List.append_assoc] at same
      obtain ⟨front, back⟩ := List.append_inj same equal
      exact .inl ⟨front, List.append_cancel_left back⟩
    · exact .inr (.inr (overlaps_of_join_eq same.symm longer))
  · rintro (⟨rfl, rfl⟩ | early | early)
    · rfl
    · exact early.join_eq
    · exact early.join_eq.symm

/-- A text is separable exactly if no separator begins inside of it, also none that ends behind
it. -/
theorem separable_iff : Separable cs ↔ ¬ separator <:+: cs ++ ['^', '^'] := by
  constructor
  · rintro ⟨inside, last⟩ ⟨front, back, same⟩
    -- Two carets of the separator stand behind the text, or one, or none.
    match back with
    | [] =>
      have split : (front ++ ['^']) ++ ['^', '^'] = cs ++ ['^', '^'] := by
        simpa [separator] using same
      obtain rfl := List.append_cancel_right split
      simp at last
    | [c] =>
      have split : (front ++ ['^', '^']) ++ ['^', c] = cs ++ ['^', '^'] := by
        simpa [separator] using same
      obtain ⟨rfl, -⟩ := List.append_inj' split rfl
      simp at last
    | c :: d :: back =>
      have lengths := congrArg List.length same
      simp [separator] at lengths
      have within : front ++ separator <+: cs :=
        List.prefix_of_prefix_length_le ⟨c :: d :: back, same⟩ (List.prefix_append ..)
          (by simp [separator]; omega)
      exact inside ((List.suffix_append ..).isInfix.trans within.isInfix)
  · intro h
    refine ⟨fun inside => h (inside.trans (List.prefix_append ..).isInfix), fun last => h ?_⟩
    obtain ⟨front, rfl⟩ := List.getLast?_eq_some_iff.1 last
    exact ⟨front, [], by simp [separator]⟩

/-- The separable texts are those in which no separator is seen too early, whatever follows. -/
theorem separable_iff_not_overlaps : Separable b ↔ ∀ a x y, ¬ Overlaps a x b y := by
  rw [separable_iff]
  constructor
  · rintro h a x y ⟨rest, front, -⟩
    exact h ⟨a, rest, front.symm⟩
  · rintro h ⟨a, rest, front⟩
    exact h a (rest ++ ['^']) [] ⟨rest, front.symm, rfl⟩

end RowKey

open RowKey

/-- What a row key says of a row, behind the resource. -/
def Row.text (row : Row) : List Char :=
  join row.table.toList row.key.toList

/-- A row key joins the resource and the row. -/
theorem toList_rowKey (resourceId : String) (row : Row) :
    (rowKey resourceId row).toList = join resourceId.toList row.text := by
  simp [rowKey, join, Row.text, separator, toString]

namespace RowLock

/-- Two row locks are of the same row of the same resource. -/
structure SameRow (a b : RowLock) : Prop where
  resourceId : a.resourceId = b.resourceId
  table : a.row.table = b.row.table
  key : a.row.key = b.row.key

/-- The row key of the second one can be read as that of the first one, because a separator is seen
too early: in the resource id, or in the table of the same resource. -/
inductive MistakenFor (a b : RowLock) : Prop where
  | resource (early : Overlaps a.resourceId.toList a.row.text b.resourceId.toList b.row.text)
  | table (same : a.resourceId = b.resourceId)
    (early : Overlaps a.row.table.toList a.row.key.toList b.row.table.toList b.row.key.toList)

/-- No separator is seen too early in the row key, whatever the key of the row is. -/
structure Separable (lock : RowLock) : Prop where
  resourceId : RowKey.Separable lock.resourceId.toList
  table : RowKey.Separable lock.row.table.toList

variable {a b : RowLock}

/-- Row locks of which one is mistaken for the other are of different rows. -/
theorem MistakenFor.not_sameRow (h : a.MistakenFor b) : ¬ a.SameRow b := by
  intro same
  cases h with
  | resource early => exact Nat.ne_of_lt early.length_lt (by rw [same.resourceId])
  | table _ early => exact Nat.ne_of_lt early.length_lt (by rw [same.table])

/-- What separable texts make up is not mistaken. -/
theorem Separable.not_mistakenFor (h : b.Separable) : ¬ a.MistakenFor b := by
  intro mistaken
  cases mistaken with
  | resource early => exact separable_iff_not_overlaps.1 h.resourceId _ _ _ early
  | table _ early => exact separable_iff_not_overlaps.1 h.table _ _ _ early

/-- Two row keys are the same exactly if they are of the same row, or the one is mistaken for the
other. -/
theorem rowKey_eq_rowKey_iff (a b : RowLock) :
    rowKey a.resourceId a.row = rowKey b.resourceId b.row ↔
      a.SameRow b ∨ a.MistakenFor b ∨ b.MistakenFor a := by
  rw [← String.toList_inj, toList_rowKey, toList_rowKey, join_eq_join_iff, Row.text, Row.text,
    join_eq_join_iff, String.toList_inj, String.toList_inj, String.toList_inj]
  constructor
  · rintro (⟨resource, ⟨table, key⟩ | early | early⟩ | early | early)
    · exact .inl ⟨resource, table, key⟩
    · exact .inr (.inl (.table resource early))
    · exact .inr (.inr (.table resource.symm early))
    · exact .inr (.inl (.resource early))
    · exact .inr (.inr (.resource early))
  · rintro (same | early | early)
    · exact .inl ⟨same.resourceId, .inl ⟨same.table, same.key⟩⟩
    · cases early with
      | resource early => exact .inr (.inl early)
      | table resource early => exact .inl ⟨resource, .inr (.inl early)⟩
    · cases early with
      | resource early => exact .inr (.inr early)
      | table resource early => exact .inl ⟨resource.symm, .inr (.inr early)⟩

/-- The row keys of two row locks tell their rows apart exactly if neither is mistaken for the
other. -/
theorem rowKey_identifies_iff (a b : RowLock) :
    (rowKey a.resourceId a.row = rowKey b.resourceId b.row ↔ a.SameRow b) ↔
      ¬ a.MistakenFor b ∧ ¬ b.MistakenFor a := by
  rw [rowKey_eq_rowKey_iff]
  constructor
  · intro identifies
    refine ⟨fun early => ?_, fun early => ?_⟩
    · exact early.not_sameRow (identifies.1 (.inr (.inl early)))
    · have same := identifies.1 (.inr (.inr early))
      exact early.not_sameRow ⟨same.resourceId.symm, same.table.symm, same.key.symm⟩
  · rintro ⟨first, second⟩
    simp [first, second]

end RowLock

end SessionRegistry
