import Mathlib.Data.List.Nodup
import SessionRegistry.Proofs.Text.Decimal
import SessionRegistry.Status.Reading

/-!
# Which texts are statuses

A text without the blank characters at its ends denotes a status by the status's code in decimal
digits, perhaps behind zeros and a plus sign, or by its name in any case of the ASCII letters. The
statuses of sessions and those of branches are read in the same way, so what is read is worked out
once for any kind of statuses.

## Main definitions

* `Nomenclature.Spells`, `Nomenclature.Denotes`: a word spells a status, and a text denotes one.

## Main results

* `Nomenclature.read_eq_ok_iff`: a text is read as the status that it denotes.
* `status_texts_exact`: this is how the statuses of sessions and of branches are read, and every
  text that denotes none is refused.
-/

namespace SessionRegistry

namespace Text

variable {s t : String}

theorem sameUpToCase_iff : sameUpToCase s t = true ↔ lowerASCII s = lowerASCII t := by
  rw [sameUpToCase, beq_iff_eq, lowerASCII, lowerASCII, ← String.toList_inj, String.toList_ofList,
    String.toList_ofList]

theorem toNat_of_isLower {c : Char} (h : c.isLower = true) : 97 ≤ c.toNat ∧ c.toNat ≤ 122 := by
  have bounds := (Bool.and_eq_true _ _).mp h
  exact ⟨of_decide_eq_true bounds.1, of_decide_eq_true bounds.2⟩

/-- A character that is no capital letter has no other case. -/
theorem toLower_of_not_capital {c : Char} (h : c.toNat < 65 ∨ 90 < c.toNat) : c.toLower = c := by
  refine dif_neg fun capital => ?_
  have low : 65 ≤ c.toNat := capital.1
  have high : c.toNat ≤ 90 := capital.2
  omega

/-- A spelled integer is the same in any letter case. -/
theorem SpellsInt.lowerASCII_eq {i : Int} (h : SpellsInt s.toList i) : lowerASCII s = s := by
  have same : s.toList.map Char.toLower = s.toList.map id := by
    refine List.map_congr_left fun c hc => toLower_of_not_capital (.inl ?_)
    have sign := h.toNat_mem hc
    omega
  rw [lowerASCII, same, List.map_id, String.ofList_toList]

theorem eq_empty_of_lowerASCII_eq (h : lowerASCII s = lowerASCII "") : s = "" := by
  simpa [lowerASCII] using h

/-- A text that consists of letters has no blank characters. -/
theorem isTrimmed_of_letters (filled : s ≠ "")
    (letters : ∀ c ∈ (lowerASCII s).toList, c.isLower = true) : IsTrimmed s := by
  refine .of_any_eq_false filled (List.any_eq_false.2 fun c hc blank => ?_)
  simp only [isBlank, Bool.or_eq_true, Bool.and_eq_true, decide_eq_true_eq, beq_iff_eq] at blank
  have same : c.toLower = c := toLower_of_not_capital (by omega)
  have lower : c ∈ (lowerASCII s).toList := by
    rw [lowerASCII, String.toList_ofList]
    exact List.mem_map.2 ⟨c, hc, same⟩
  have letter := toNat_of_isLower (letters c lower)
  omega

end Text

/-- The element of a complete list that alone passes a test is found. -/
theorem find?_eq_some_iff_of_unique {α : Type} {test : α → Bool} {all : List α}
    (complete : ∀ a, a ∈ all) (unique : ∀ a b, test a = true → test b = true → a = b) {a : α} :
    all.find? test = some a ↔ test a = true := by
  refine ⟨List.find?_some, fun passes => ?_⟩
  cases found : all.find? test with
  | none => exact absurd passes (List.find?_eq_none.1 found a (complete a))
  | some b => rw [unique a b passes (List.find?_some found)]

/-! ## Kinds of statuses -/

namespace Nomenclature

variable {σ : Type} (kind : Nomenclature σ) (whenCode : Int → Unreadable)
  (whenName : String → Unreadable) {text : String} {status other : σ}

/-- A word spells a status: it is the code of the status in decimal digits, perhaps with zeros and a
plus sign before them, or its name in any letter case. -/
inductive Spells (word : String) (status : σ) : Prop
  | code : Text.SpellsNat word.toList (kind.code status) → Spells word status
  | name : Text.lowerASCII word = Text.lowerASCII (kind.name status) → Spells word status

/-- A text denotes a status: without the blank characters at its ends it spells the status. -/
def Denotes (text : String) (status : σ) : Prop :=
  kind.Spells (Text.trim text) status

theorem code_injective : Function.Injective kind.code := fun a b =>
  List.inj_on_of_nodup_map kind.nodup_codes (kind.mem_all a) (kind.mem_all b)

theorem lowerASCII_name_injective :
    Function.Injective fun status => Text.lowerASCII (kind.name status) := fun a b =>
  List.inj_on_of_nodup_map kind.nodup_names (kind.mem_all a) (kind.mem_all b)

/-- The status with a code is found. -/
theorem ofCode?_eq_some_iff {code : Int} :
    kind.ofCode? code = some status ↔ (kind.code status : Int) = code := by
  rw [ofCode?, find?_eq_some_iff_of_unique kind.mem_all, beq_iff_eq]
  intro a b ha hb
  exact kind.code_injective (Int.ofNat.inj ((beq_iff_eq.1 ha).trans (beq_iff_eq.1 hb).symm))

/-- The status with a name is found. -/
theorem ofName?_eq_some_iff :
    kind.ofName? text = some status ↔
      Text.lowerASCII text = Text.lowerASCII (kind.name status) := by
  rw [ofName?, find?_eq_some_iff_of_unique kind.mem_all, Text.sameUpToCase_iff, eq_comm]
  intro a b ha hb
  exact kind.lowerASCII_name_injective
    ((Text.sameUpToCase_iff.1 ha).trans (Text.sameUpToCase_iff.1 hb).symm)

/-- A text that is a name spells no integer. -/
theorem not_spellsInt_of_name (named : Text.lowerASCII text = Text.lowerASCII (kind.name status))
    (i : Int) : ¬ Text.SpellsInt text.toList i := by
  intro spelled
  have letters := kind.letters status
  rw [← named, spelled.lowerASCII_eq] at letters
  obtain ⟨c, rest, chars⟩ := List.exists_cons_of_ne_nil spelled.ne_nil
  have mem : c ∈ text.toList := chars ▸ List.mem_cons_self
  have letter := Text.toNat_of_isLower (letters c mem)
  have sign := spelled.toNat_mem mem
  omega

/-- What spells a code as an integer spells it without a minus sign. -/
theorem spellsNat_of_spellsInt {cs : List Char}
    (spelled : Text.SpellsInt cs (kind.code status)) : Text.SpellsNat cs (kind.code status) := by
  have positive := (kind.code_range status).1
  generalize value : (kind.code status : Int) = i at spelled
  cases spelled with
  | nat nat => exact Int.ofNat.inj value ▸ nat
  | minus => omega

/-- A text that is a code is read as an integer. -/
theorem readInt_of_code (spelled : Text.SpellsNat text.toList (kind.code status)) :
    Text.readInt 32 text = some (kind.code status : Int) := by
  refine Text.readInt_eq_some_iff.2 ⟨.nat spelled, ?_⟩
  have range := kind.code_range status
  have bound : Int.pow 2 (32 - 1) = Nat.pow 2 31 := rfl
  omega

/-- A text is read as a status exactly if it denotes the status. -/
theorem read_eq_ok_iff : kind.read whenCode whenName text = .ok status ↔
    kind.Denotes text status := by
  rw [read, Denotes]
  cases number : Text.readInt 32 (Text.trim text) with
  | some code =>
    have spelled := (Text.readInt_eq_some_iff.1 number).1
    have spells_iff : kind.Spells (Text.trim text) status ↔ (kind.code status : Int) = code := by
      constructor
      · rintro (coded | named)
        · exact (Text.SpellsInt.nat coded).unique spelled
        · exact absurd spelled (kind.not_spellsInt_of_name named code)
      · rintro rfl
        exact .code (kind.spellsNat_of_spellsInt spelled)
    rw [spells_iff, ← kind.ofCode?_eq_some_iff]
    dsimp only
    split
    · next found => simp [found]
    · next found => simp [found]
  | none =>
    have spells_iff : kind.Spells (Text.trim text) status ↔
        Text.lowerASCII (Text.trim text) = Text.lowerASCII (kind.name status) := by
      refine ⟨fun spells => ?_, .name⟩
      cases spells with
      | code coded => simp [kind.readInt_of_code coded] at number
      | name named => exact named
    rw [spells_iff, ← kind.ofName?_eq_some_iff]
    dsimp only
    split
    · next found => simp [found]
    · next found => simp [found]

/-- What is wrong with a text that denotes no status: an integer of 32 bits is an unknown code, and
any other text an unknown name. -/
def objection (text : String) : Unreadable :=
  match Text.readInt 32 (Text.trim text) with
  | some code => whenCode code
  | none => whenName (Text.trim text)

/-- A text that denotes no status is refused. -/
theorem read_eq_error (unknown : ∀ status, ¬ kind.Denotes text status) :
    kind.read whenCode whenName text =
      .error (.invalidArgument (.unreadable (objection whenCode whenName text))) := by
  have refused status : kind.read whenCode whenName text ≠ .ok status := fun h =>
    unknown status ((kind.read_eq_ok_iff whenCode whenName).1 h)
  cases number : Text.readInt 32 (Text.trim text) with
  | some code =>
    cases found : kind.ofCode? code with
    | some status => exact absurd (by simp [read, number, found]) (refused status)
    | none => simp [read, objection, number, found]
  | none =>
    cases found : kind.ofName? (Text.trim text) with
    | some status => exact absurd (by simp [read, number, found]) (refused status)
    | none => simp [read, objection, number, found]

/-- Texts are read as statuses exactly as they denote them. -/
structure ReadBy (kind : Nomenclature σ) (read : String → Except Error σ)
    (whenCode : Int → Unreadable) (whenName : String → Unreadable) : Prop where
  accepts : ∀ text status, read text = .ok status ↔ kind.Denotes text status
  /-- No text denotes two statuses. -/
  unambiguous : ∀ text status other,
    kind.Denotes text status → kind.Denotes text other → status = other
  /-- Every status is reached by its name. -/
  reads_name : ∀ status, read (kind.name status) = .ok status
  /-- Every status is reached by its code. -/
  reads_code : ∀ status, read (toString (kind.code status)) = .ok status
  /-- Every other text is refused. -/
  refuses : ∀ text, (∀ status, ¬ kind.Denotes text status) →
    read text = .error (.invalidArgument (.unreadable (objection whenCode whenName text)))

/-- A spelled status has no blank characters at its ends. -/
theorem Spells.isTrimmed {word : String} (h : kind.Spells word status) : Text.IsTrimmed word := by
  cases h with
  | code coded => exact (Text.SpellsInt.nat coded).isTrimmed
  | name named =>
    refine Text.isTrimmed_of_letters (fun empty => ?_) (named ▸ kind.letters status)
    subst empty
    exact kind.name_ne_empty status (Text.eq_empty_of_lowerASCII_eq named.symm)

theorem denotes_name (status : σ) : kind.Denotes (kind.name status) status := by
  have trimmed := Text.isTrimmed_of_letters (kind.name_ne_empty status) (kind.letters status)
  rw [Denotes, trimmed.trim_eq]
  exact .name rfl

theorem denotes_code (status : σ) : kind.Denotes (toString (kind.code status)) status := by
  rw [Denotes, (Text.isTrimmed_toString _).trim_eq]
  exact .code (Text.spellsNat_toString _)

/-- What is read by code and name is read in this way. -/
theorem readBy_read : kind.ReadBy (kind.read whenCode whenName) whenCode whenName where
  accepts _ _ := kind.read_eq_ok_iff whenCode whenName
  unambiguous text status other first second := by
    rw [← kind.read_eq_ok_iff whenCode whenName] at first second
    exact Except.ok.inj (first.symm.trans second)
  reads_name status := (kind.read_eq_ok_iff whenCode whenName).2 (kind.denotes_name status)
  reads_code status := (kind.read_eq_ok_iff whenCode whenName).2 (kind.denotes_code status)
  refuses _ := kind.read_eq_error whenCode whenName

end Nomenclature

/-! ## The statuses of sessions and of branches -/

/-- A text is read as a status of a session, and likewise of a branch, exactly if without the blank
characters at its ends it is the code of the status in decimal digits, perhaps with zeros and a plus
sign before them, or its name in any letter case. Every other text is refused as an argument. -/
theorem status_texts_exact :
    GlobalStatus.nomenclature.ReadBy GlobalStatus.ofText .globalCode .globalName ∧
      BranchStatus.nomenclature.ReadBy BranchStatus.ofText .branchCode .branchName :=
  ⟨GlobalStatus.nomenclature.readBy_read _ _, BranchStatus.nomenclature.readBy_read _ _⟩

end SessionRegistry
