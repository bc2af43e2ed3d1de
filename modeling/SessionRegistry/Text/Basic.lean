/-!
# Characters and numbers in texts

What the readers of parameters, statuses, lock keys and files share: comparison of texts up to the
case of letters, blank characters and trimming, hexadecimal digits, and integers written with ASCII
digits.

* `trimChars_eq_nil_iff`: trimming leaves nothing exactly of a blank text.
* `hexValue?_hexDigit`: every hexadecimal digit is read back.
* `valueIn_append_single`: one more digit multiplies by the base and adds the digit.
-/

namespace SessionRegistry.Text

/-! ## Letter case

Besides the small ASCII letters, the long s and the dotless i have an ASCII letter as their
capital. -/

/-- The text with its capital ASCII letters made small. -/
def lowerASCII (s : String) : String :=
  String.ofList (s.toList.map Char.toLower)

/-- Whether two texts agree up to the case of ASCII letters. -/
def sameUpToCase (s t : String) : Bool :=
  s.toList.map Char.toLower == t.toList.map Char.toLower

/-- The capital of a character, where that capital is an ASCII letter; any other character is left
as it is. -/
def capital (c : Char) : Char :=
  if c = 'ſ' then 'S' else if c = 'ı' then 'I' else c.toUpper

/-! ## Blank characters

Blank characters are those with the Unicode property `White_Space`. Every parameter, status text and
lock key is read after trimming. -/

/-- Whether a character has the Unicode property `White_Space`. -/
def isBlank (c : Char) : Bool :=
  let n := c.toNat
  (0x09 ≤ n && n ≤ 0x0D) || n == 0x20 || n == 0x85 || n == 0xA0 || n == 0x1680
    || (0x2000 ≤ n && n ≤ 0x200A) || n == 0x2028 || n == 0x2029 || n == 0x202F
    || n == 0x205F || n == 0x3000

/-- The characters without the blank ones at either end. -/
def trimChars (cs : List Char) : List Char :=
  ((cs.dropWhile isBlank).reverse.dropWhile isBlank).reverse

/-- The text without blank characters at either end. -/
def trim (s : String) : String :=
  String.ofList (trimChars s.toList)

/-- Whether a text holds nothing but blank characters. -/
def isBlankText (s : String) : Bool :=
  s.toList.all isBlank

/-- Dropping blank characters leaves nothing exactly of a list of blank characters. -/
theorem dropWhile_isBlank_eq_nil_iff (cs : List Char) :
    cs.dropWhile isBlank = [] ↔ ∀ c ∈ cs, isBlank c = true := by
  induction cs with
  | nil => simp
  | cons a t ih => cases h : isBlank a <;> simp [h, ih]

/-- Trimming leaves nothing exactly of a text of blank characters. -/
theorem trimChars_eq_nil_iff (cs : List Char) :
    trimChars cs = [] ↔ ∀ c ∈ cs, isBlank c = true := by
  have split : ∀ c, c ∈ cs ↔ c ∈ cs.takeWhile isBlank ∨ c ∈ cs.dropWhile isBlank := by
    intro c
    rw [← List.mem_append, List.takeWhile_append_dropWhile]
  have front : ∀ c ∈ cs.takeWhile isBlank, isBlank c = true := fun c hc =>
    List.all_eq_true.1 List.all_takeWhile c hc
  simp only [trimChars, List.reverse_eq_nil_iff, dropWhile_isBlank_eq_nil_iff, List.mem_reverse]
  exact ⟨fun h c hc => ((split c).1 hc).elim (front c) (h c),
    fun h c hc => h c ((split c).2 (.inr hc))⟩

/-! ## Digits -/

/-- The small hexadecimal digit of a number below sixteen. -/
def hexDigit (n : Nat) : Char :=
  if n < 10 then Char.ofNat (48 + n) else Char.ofNat (87 + n)

/-- The value of a hexadecimal digit. -/
def hexValue? (c : Char) : Option Nat :=
  if c.isDigit then some (c.toNat - 48)
  else if 'a' ≤ c ∧ c ≤ 'f' then some (c.toNat - 87)
  else if 'A' ≤ c ∧ c ≤ 'F' then some (c.toNat - 55)
  else none

/-- The number that digits spell in a base. -/
def valueIn (base : Nat) (digits : List Char) : Nat :=
  digits.foldl (fun n c => base * n + (hexValue? c).getD 0) 0

/-- Every hexadecimal digit is read back. -/
theorem hexValue?_hexDigit (n : Nat) (h : n < 16) : hexValue? (hexDigit n) = some n := by
  revert n
  decide

/-- One more digit multiplies by the base and adds the digit. -/
theorem valueIn_append_single (base : Nat) (digits : List Char) (c : Char) :
    valueIn base (digits ++ [c]) = base * valueIn base digits + (hexValue? c).getD 0 := by
  simp [valueIn]

/-! ## Decimal integers

An unsigned integer may carry a plus sign, a signed one a plus or a minus sign; leading zeros are
allowed, and a value outside the type's range is no integer of that type. -/

/-- The digits of a nonempty run of ASCII digits, read in base ten. -/
def readDigits (cs : List Char) : Option Nat :=
  if cs ≠ [] ∧ cs.all Char.isDigit then
    some (cs.foldl (fun n c => 10 * n + (c.toNat - '0'.toNat)) 0)
  else
    none

/-- An integer without a sign or with a plus sign. -/
def readUnsigned : List Char → Option Nat
  | '+' :: cs => readDigits cs
  | cs => readDigits cs

/-- An integer without a sign, with a plus sign or with a minus sign. -/
def readSigned : List Char → Option Int
  | '-' :: cs => (readDigits cs).map fun n => -(n : Int)
  | cs => (readUnsigned cs).map Int.ofNat

/-- A 64-bit unsigned integer. -/
def readUInt64 (s : String) : Option UInt64 :=
  (readUnsigned s.toList).bind fun n =>
    if h : n < UInt64.size then some (UInt64.ofNatLT n h) else none

/-- A signed integer of the given width in bits. -/
def readInt (bits : Nat) (s : String) : Option Int :=
  (readSigned s.toList).bind fun n =>
    if -Int.pow 2 (bits - 1) ≤ n ∧ n < Int.pow 2 (bits - 1) then some n else none

end SessionRegistry.Text
