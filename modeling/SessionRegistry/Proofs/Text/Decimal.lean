import Mathlib.Data.List.Induction
import SessionRegistry.Proofs.Text.Trimming
import SessionRegistry.Text.Basic

/-!
# Spelled integers

Which texts spell an integer, said without reading them: a sign that may be missing, zeros, and the
decimal digits of the number. Reading accepts exactly these texts, with exactly these values.

## Main definitions

* `Text.IsNumeral`, `Text.SpellsNat`, `Text.SpellsInt`: characters spell a number without a sign,
  with a plus sign at most, and with any sign.

## Main results

* `Text.readUInt64_eq_some_iff`, `Text.readInt_eq_some_iff`: what is read is what is spelled, within
  the range of the type.
* `Text.readUInt64_toString`: a decimal number is read back.
-/

namespace SessionRegistry.Text

/-- Characters are the decimal digits of a number, perhaps with zeros before them. -/
def IsNumeral (cs : List Char) (n : Nat) : Prop :=
  ∃ zeros, cs = List.replicate zeros '0' ++ Nat.toDigits 10 n

/-- Characters spell a natural number: its digits, or a plus sign and its digits. -/
inductive SpellsNat : List Char → Nat → Prop
  | digits {cs : List Char} {n : Nat} : IsNumeral cs n → SpellsNat cs n
  | plus {cs : List Char} {n : Nat} : IsNumeral cs n → SpellsNat ('+' :: cs) n

/-- Characters spell an integer: a natural number, or a minus sign and the opposite's digits. -/
inductive SpellsInt : List Char → Int → Prop
  | nat {cs : List Char} {n : Nat} : SpellsNat cs n → SpellsInt cs n
  | minus {cs : List Char} {n : Nat} : IsNumeral cs n → SpellsInt ('-' :: cs) (-n)

variable {cs : List Char} {n : Nat}

/-! ## Numerals -/

theorem isNumeral_toDigits (n : Nat) : IsNumeral (Nat.toDigits 10 n) n :=
  ⟨0, rfl⟩

/-- A numeral consists of digits. -/
theorem IsNumeral.isDigit (h : IsNumeral cs n) {c : Char} (hc : c ∈ cs) : c.isDigit = true := by
  obtain ⟨zeros, rfl⟩ := h
  rcases List.mem_append.1 hc with zero | digit
  · rw [List.eq_of_mem_replicate zero]
    rfl
  · exact Nat.isDigit_of_mem_toDigits (by decide) (by decide) digit

/-- A numeral has a digit at least. -/
theorem IsNumeral.ne_nil (h : IsNumeral cs n) : cs ≠ [] := by
  obtain ⟨zeros, rfl⟩ := h
  simp [Nat.toDigits_ne_nil]

/-- The value of digits with zeros before them. -/
theorem IsNumeral.foldl_eq (h : IsNumeral cs n) :
    cs.foldl (fun n c => 10 * n + (c.toNat - '0'.toNat)) 0 = n := by
  obtain ⟨zeros, rfl⟩ := h
  have front : (List.replicate zeros '0').foldl
      (fun n c => 10 * n + (c.toNat - '0'.toNat)) 0 = 0 := by
    induction zeros with
    | zero => rfl
    | succ zeros ih => simpa [List.replicate_succ] using ih
  rw [List.foldl_append, front]
  exact Nat.ofDigitChars_ten_toDigits

/-- A digit is the numeral of its value. -/
theorem toDigits_of_isDigit {c : Char} (h : c.isDigit = true) :
    Nat.toDigits 10 (c.toNat - '0'.toNat) = [c] := by
  obtain ⟨low, high⟩ : 48 ≤ c.toNat ∧ c.toNat ≤ 57 := Char.isDigit_iff_toNat.1 h
  have zero : '0'.toNat = 48 := rfl
  rw [zero, Nat.toDigits_of_lt_base (by omega)]
  congr 1
  apply Char.toNat_inj.1
  rw [Nat.toNat_digitChar_of_lt_ten (by omega)]
  omega

/-- One more digit makes a numeral ten times as large, plus the digit. -/
theorem IsNumeral.append_digit (h : IsNumeral cs n) {c : Char} (digit : c.isDigit = true) :
    IsNumeral (cs ++ [c]) (10 * n + (c.toNat - '0'.toNat)) := by
  obtain ⟨zeros, rfl⟩ := h
  rcases Nat.eq_zero_or_pos n with rfl | positive
  · -- the only digit of zero is a zero that stands before the new digit
    refine ⟨zeros + 1, ?_⟩
    rw [Nat.mul_zero, Nat.zero_add, toDigits_of_isDigit digit, List.replicate_succ']
    rfl
  · refine ⟨zeros, ?_⟩
    have small : c.toNat - '0'.toNat < 10 := by
      have high : c.toNat ≤ 57 := (Char.isDigit_iff_toNat.1 digit).2
      have zero : '0'.toNat = 48 := rfl
      omega
    rw [List.append_assoc, ← toDigits_of_isDigit digit,
      Nat.toDigits_append_toDigits (by decide) positive small]

/-- Digits are the numeral of their value. -/
theorem isNumeral_foldl (some : cs ≠ []) (digits : ∀ c ∈ cs, c.isDigit = true) :
    IsNumeral cs (cs.foldl (fun n c => 10 * n + (c.toNat - '0'.toNat)) 0) := by
  -- by induction from the end, where the digits of least weight stand
  induction cs using List.reverseRecOn with
  | nil => exact absurd rfl some
  | append_singleton front c ih =>
    obtain ⟨earlier, last⟩ := List.forall_mem_append.1 digits
    have digit := last c (List.mem_singleton_self c)
    rw [List.foldl_append, List.foldl_cons, List.foldl_nil]
    rcases eq_or_ne front [] with rfl | more
    · rw [List.foldl_nil, Nat.mul_zero, Nat.zero_add, List.nil_append]
      exact ⟨0, (toDigits_of_isDigit digit).symm⟩
    · exact (ih more earlier).append_digit digit

/-- Exactly the numerals are read as digits. -/
theorem readDigits_eq_some_iff : readDigits cs = some n ↔ IsNumeral cs n := by
  rw [readDigits]
  constructor
  · intro h
    obtain ⟨⟨some, digits⟩, value⟩ := Option.ite_none_right_eq_some.1 h
    exact Option.some.inj value ▸ isNumeral_foldl some (List.all_eq_true.1 digits)
  · intro h
    rw [if_pos ⟨h.ne_nil, List.all_eq_true.2 fun _ => h.isDigit⟩, h.foldl_eq]

/-! ## Signs -/

/-- A numeral has no sign. -/
theorem IsNumeral.ne_of_not_isDigit {sign : Char} (h : IsNumeral (sign :: cs) n)
    (noDigit : sign.isDigit = false) : False :=
  Bool.false_ne_true (noDigit.symm.trans (h.isDigit List.mem_cons_self))

/-- Exactly the spelled natural numbers are read as unsigned ones. -/
theorem readUnsigned_eq_some_iff : readUnsigned cs = some n ↔ SpellsNat cs n := by
  rw [readUnsigned.eq_def]
  split
  · next rest =>
    rw [readDigits_eq_some_iff]
    refine ⟨.plus, fun h => ?_⟩
    cases h with
    | digits numeral => exact (numeral.ne_of_not_isDigit rfl).elim
    | plus numeral => exact numeral
  · next unsigned =>
    rw [readDigits_eq_some_iff]
    refine ⟨.digits, fun h => ?_⟩
    cases h with
    | digits numeral => exact numeral
    | plus numeral => exact absurd rfl (unsigned _)

/-- Exactly the spelled integers are read as signed ones. -/
theorem readSigned_eq_some_iff {i : Int} : readSigned cs = some i ↔ SpellsInt cs i := by
  rw [readSigned.eq_def]
  split
  · next rest =>
    simp only [Option.map_eq_some_iff, Option.bind_eq_bind, Option.bind_eq_some_iff,
      Option.pure_def, Option.some.injEq, readDigits_eq_some_iff]
    constructor
    · rintro ⟨_, ⟨n, numeral, rfl⟩, rfl⟩
      exact .minus numeral
    · intro h
      cases h with
      | nat spelled =>
        cases spelled with
        | digits numeral => exact (numeral.ne_of_not_isDigit rfl).elim
      | minus numeral => exact ⟨_, ⟨_, numeral, rfl⟩, rfl⟩
  · next unsigned =>
    simp only [Option.map_eq_some_iff, readUnsigned_eq_some_iff]
    constructor
    · rintro ⟨n, spelled, rfl⟩
      exact .nat spelled
    · intro h
      cases h with
      | nat spelled => exact ⟨_, spelled, rfl⟩
      | minus numeral => exact absurd rfl (unsigned _)

/-! ## Numbers of a type -/

/-- Exactly the spelled numbers of 64 bits are read as such. -/
theorem readUInt64_eq_some_iff {s : String} {n : UInt64} :
    readUInt64 s = some n ↔ SpellsNat s.toList n.toNat := by
  simp only [readUInt64, Option.bind_eq_some_iff, readUnsigned_eq_some_iff]
  constructor
  · rintro ⟨m, spelled, h⟩
    obtain ⟨small, value⟩ := Option.dite_none_right_eq_some.1 h
    simpa [← Option.some.inj value] using spelled
  · intro spelled
    exact ⟨n.toNat, spelled, by simp [n.toNat_lt]⟩

/-- Exactly the spelled integers within the range of a width are read in that width. -/
theorem readInt_eq_some_iff {bits : Nat} {s : String} {i : Int} :
    readInt bits s = some i ↔
      SpellsInt s.toList i ∧ -Int.pow 2 (bits - 1) ≤ i ∧ i < Int.pow 2 (bits - 1) := by
  simp only [readInt, Option.bind_eq_some_iff, readSigned_eq_some_iff]
  constructor
  · rintro ⟨j, spelled, h⟩
    obtain ⟨range, value⟩ := Option.ite_none_right_eq_some.1 h
    exact Option.some.inj value ▸ ⟨spelled, range⟩
  · rintro ⟨spelled, range⟩
    exact ⟨i, spelled, if_pos range⟩

/-! ## Spelled integers as texts -/

/-- The characters of a spelled integer are digits and signs, which come before all letters. -/
theorem SpellsInt.toNat_mem {i : Int} (h : SpellsInt cs i) {c : Char} (hc : c ∈ cs) :
    43 ≤ c.toNat ∧ c.toNat ≤ 57 := by
  have digit {rest : List Char} {n : Nat} (numeral : IsNumeral rest n) (mem : c ∈ rest) :
      43 ≤ c.toNat ∧ c.toNat ≤ 57 := by
    obtain ⟨low, high⟩ : 48 ≤ c.toNat ∧ c.toNat ≤ 57 :=
      Char.isDigit_iff_toNat.1 (numeral.isDigit mem)
    exact ⟨by omega, high⟩
  have signed {sign : Char} {rest : List Char} {n : Nat}
      (bounds : 43 ≤ sign.toNat ∧ sign.toNat ≤ 57) (numeral : IsNumeral rest n)
      (mem : c ∈ sign :: rest) : 43 ≤ c.toNat ∧ c.toNat ≤ 57 :=
    (List.mem_cons.1 mem).elim (fun same => same ▸ bounds) (digit numeral)
  cases h with
  | nat spelled =>
    cases spelled with
    | digits numeral => exact digit numeral hc
    | plus numeral => exact signed (by decide) numeral hc
  | minus numeral => exact signed (by decide) numeral hc

theorem SpellsInt.ne_nil {i : Int} (h : SpellsInt cs i) : cs ≠ [] := by
  cases h with
  | nat spelled =>
    cases spelled with
    | digits numeral => exact numeral.ne_nil
    | plus => exact List.cons_ne_nil _ _
  | minus => exact List.cons_ne_nil _ _

/-- A spelled integer has no blank characters. -/
theorem SpellsInt.isTrimmed {s : String} {i : Int} (h : SpellsInt s.toList i) : IsTrimmed s := by
  have filled : s ≠ "" := fun empty => h.ne_nil (by rw [empty]; rfl)
  refine .of_any_eq_false filled (List.any_eq_false.2 fun c hc => ?_)
  obtain ⟨low, high⟩ := h.toNat_mem hc
  simp [isBlank]
  omega

/-- What is spelled is one integer. -/
theorem SpellsInt.unique {i j : Int} (first : SpellsInt cs i) (second : SpellsInt cs j) : i = j :=
  Option.some.inj ((readSigned_eq_some_iff.2 first).symm.trans (readSigned_eq_some_iff.2 second))

theorem toList_toString (n : Nat) : (toString n).toList = Nat.toDigits 10 n := by
  simp [toString]

/-- The usual text of a number spells it. -/
theorem spellsNat_toString (n : Nat) : SpellsNat (toString n).toList n :=
  .digits (toList_toString n ▸ isNumeral_toDigits n)

theorem isTrimmed_toString (n : Nat) : IsTrimmed (toString n) :=
  (SpellsInt.nat (spellsNat_toString n)).isTrimmed

/-- A decimal number is read back. -/
theorem readUInt64_toString (n : UInt64) : readUInt64 (toString n.toNat) = some n :=
  readUInt64_eq_some_iff.2 (spellsNat_toString n.toNat)

end SessionRegistry.Text
