import Mathlib.Data.List.DropRight
import SessionRegistry.Text.Basic

/-!
# Trimmed texts

Trimming takes away the blank characters at the ends of a text, all of them and nothing else. So a
text that is written with blank characters around it is found again.

## Main definitions

* `Text.IsTrimmed`: a text is not empty and has no blank character at either end.
* `Text.Padded`: a text is another one with blank characters around it.

## Main results

* `Text.trim_trim`: a trimmed text stays as it is.
* `Text.trim_eq_iff`: what a text is trimmed to.
-/

namespace SessionRegistry.Text

/-! ## Trimmed characters -/

theorem trimChars_eq_rdropWhile (cs : List Char) :
    trimChars cs = (cs.dropWhile isBlank).rdropWhile isBlank :=
  rfl

/-- Trimming takes characters away alone. -/
theorem trimChars_subset (cs : List Char) : trimChars cs ⊆ cs := by
  rw [trimChars_eq_rdropWhile]
  exact ((List.rdropWhile_prefix _ _).sublist.trans (List.dropWhile_sublist _)).subset

/-- A trimmed text stays as it is. -/
theorem trimChars_trimChars (cs : List Char) : trimChars (trimChars cs) = trimChars cs := by
  -- What is left in front after the first step is not blank, and the second step leaves the front.
  have front : (trimChars cs).dropWhile isBlank = trimChars cs := by
    rw [List.dropWhile_eq_self_iff, trimChars_eq_rdropWhile]
    intro nonempty
    obtain ⟨rest, split⟩ := List.rdropWhile_prefix isBlank (cs.dropWhile isBlank)
    have kept := List.dropWhile_eq_self_iff.1 (List.dropWhile_idempotent isBlank cs)
    have first := kept (by rw [← split, List.length_append]; omega)
    rwa [List.getElem_of_eq split.symm, List.getElem_append_left nonempty] at first
  rw [trimChars_eq_rdropWhile, front, trimChars_eq_rdropWhile, List.rdropWhile_idempotent]

/-- Characters stay as they are if the first and the last one are not blank. -/
theorem trimChars_eq_self {cs : List Char} (first : ∀ c ∈ cs.head?, isBlank c = false)
    (last : ∀ c ∈ cs.getLast?, isBlank c = false) : trimChars cs = cs := by
  have front : cs.dropWhile isBlank = cs := by
    cases cs with
    | nil => rfl
    | cons c rest => exact List.dropWhile_cons_of_neg (by simp [first c rfl])
  rw [trimChars_eq_rdropWhile, front, List.rdropWhile_eq_self_iff]
  intro nonempty
  simp [last _ (List.getLast?_eq_getLast_of_ne_nil nonempty)]

/-- What stays as it is does not begin with a blank character. -/
theorem isBlank_head?_of_trimChars_eq_self {cs : List Char} (h : trimChars cs = cs) :
    ∀ c ∈ cs.head?, isBlank c = false := by
  have shorter : cs.length ≤ (cs.dropWhile isBlank).length := by
    have kept := (List.rdropWhile_prefix isBlank (cs.dropWhile isBlank)).length_le
    rwa [← trimChars_eq_rdropWhile, h] at kept
  have front := (List.dropWhile_sublist isBlank).eq_of_length_le shorter
  intro c hc
  cases cs with
  | nil => cases hc
  | cons first rest =>
    obtain rfl := Option.some.inj hc
    simpa using List.dropWhile_eq_self_iff.1 front (Nat.zero_lt_succ _)

/-- What stays as it is does not end with a blank character. -/
theorem isBlank_getLast?_of_trimChars_eq_self {cs : List Char} (h : trimChars cs = cs) :
    ∀ c ∈ cs.getLast?, isBlank c = false := by
  intro c hc
  rw [← h, trimChars, List.getLast?_reverse] at hc
  simpa [Option.mem_def.1 hc] using
    List.head?_dropWhile_not isBlank (cs.dropWhile isBlank).reverse

/-- Blank characters at the ends are taken away. -/
theorem trimChars_append {front cs back : List Char} (inFront : ∀ c ∈ front, isBlank c = true)
    (behind : ∀ c ∈ back, isBlank c = true) : trimChars (front ++ cs ++ back) = trimChars cs := by
  have blankBack : back.dropWhile isBlank = [] := (dropWhile_isBlank_eq_nil_iff back).2 behind
  have reversed : ∀ c ∈ back.reverse, isBlank c = true := fun c hc =>
    behind c (List.mem_reverse.1 hc)
  rw [trimChars, List.append_assoc, List.dropWhile_append_of_pos inFront, List.dropWhile_append,
    trimChars]
  by_cases blank : (cs.dropWhile isBlank).isEmpty = true
  · rw [if_pos blank, blankBack, List.isEmpty_iff.1 blank]
  · rw [if_neg blank, List.reverse_append, List.dropWhile_append_of_pos reversed]

/-! ## Trimmed texts -/

theorem trim_eq_self_iff {s : String} : trim s = s ↔ trimChars s.toList = s.toList := by
  rw [trim, ← String.toList_inj, String.toList_ofList]

/-- A trimmed text stays as it is. -/
theorem trim_trim (s : String) : trim (trim s) = trim s := by
  rw [trim_eq_self_iff, trim, String.toList_ofList]
  exact trimChars_trimChars s.toList

/-- A text that is not empty and has no blank character at either end. -/
structure IsTrimmed (s : String) : Prop where
  ne_empty : s ≠ ""
  isBlank_head? : ∀ c ∈ s.toList.head?, isBlank c = false
  isBlank_getLast? : ∀ c ∈ s.toList.getLast?, isBlank c = false

/-- The second text is the first one with blank characters around it. -/
def Padded (core text : String) : Prop :=
  ∃ front back, (∀ c ∈ front, isBlank c = true) ∧ (∀ c ∈ back, isBlank c = true) ∧
    text.toList = front ++ core.toList ++ back

variable {core text : String}

/-- A text without blank characters is trimmed if it is not empty. -/
theorem IsTrimmed.of_any_eq_false (filled : core ≠ "") (h : core.toList.any isBlank = false) :
    IsTrimmed core := by
  have inked : ∀ c ∈ core.toList, isBlank c = false := fun c hc =>
    Bool.eq_false_iff.2 (List.any_eq_false.1 h c hc)
  exact {
    ne_empty := filled
    isBlank_head? := fun c hc => inked c (List.mem_of_mem_head? hc)
    isBlank_getLast? := fun c hc => inked c (List.mem_of_mem_getLast? hc) }

theorem IsTrimmed.trim_eq (h : IsTrimmed core) : trim core = core :=
  trim_eq_self_iff.2 (trimChars_eq_self h.isBlank_head? h.isBlank_getLast?)

theorem isTrimmed_iff : IsTrimmed core ↔ core ≠ "" ∧ trim core = core := by
  refine ⟨fun h => ⟨h.ne_empty, h.trim_eq⟩, fun ⟨filled, same⟩ => ⟨filled, ?_, ?_⟩⟩
  · exact isBlank_head?_of_trimChars_eq_self (trim_eq_self_iff.1 same)
  · exact isBlank_getLast?_of_trimChars_eq_self (trim_eq_self_iff.1 same)

theorem Padded.trim_eq (h : Padded core text) : trim text = trim core := by
  obtain ⟨front, back, inFront, behind, whole⟩ := h
  rw [trim, whole, trimChars_append inFront behind, trim]

/-- A text is the trimmed one with blank characters around it. -/
theorem padded_trim (text : String) : Padded (trim text) text := by
  let middle := text.toList.dropWhile isBlank
  refine ⟨text.toList.takeWhile isBlank, (middle.reverse.takeWhile isBlank).reverse, ?_, ?_, ?_⟩
  · exact fun c hc => List.mem_takeWhile_imp hc
  · exact fun c hc => List.mem_takeWhile_imp (List.mem_reverse.1 hc)
  · have split : middle = trimChars text.toList ++ (middle.reverse.takeWhile isBlank).reverse := by
      rw [trimChars, ← List.reverse_append, List.takeWhile_append_dropWhile, List.reverse_reverse]
    rw [trim, String.toList_ofList, List.append_assoc, ← split, List.takeWhile_append_dropWhile]

/-- What a text is trimmed to: that which it has between blank characters, up to its ends. -/
theorem trim_eq_iff (trimmed : IsTrimmed core) : trim text = core ↔ Padded core text :=
  ⟨fun same => same ▸ padded_trim text, fun padded => padded.trim_eq.trans trimmed.trim_eq⟩

/-- Nothing is left of a text exactly if it is blank. -/
theorem trim_eq_empty_iff : trim text = "" ↔ isBlankText text = true := by
  rw [trim, ← String.toList_inj, String.toList_ofList, String.toList_empty, trimChars_eq_nil_iff,
    isBlankText, List.all_eq_true]

/-- Trimming leaves something of a text exactly if it is not blank. -/
theorem trim_ne_empty_iff (s : String) : trim s ≠ "" ↔ ¬ isBlankText s = true :=
  not_congr trim_eq_empty_iff

end SessionRegistry.Text
