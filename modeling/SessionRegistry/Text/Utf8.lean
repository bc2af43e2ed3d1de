/-!
# UTF-8

Texts as bytes, and two ways back. The strict one refuses bytes that are no UTF-8. The lenient one
always gives a text: bytes that cannot be continued to a character are replaced together by U+FFFD,
and reading resumes with the first byte that did not fit.

* `decode?_encode`: strict reading undoes writing.
* `lenient_ascii`: bytes below 0x80 are read as the characters with these numbers.
-/

namespace SessionRegistry

/-- A list of bytes, such as the content of a file. -/
abbrev Bytes := List UInt8

namespace Utf8

/-- The UTF-8 bytes of a text. -/
def encode (s : String) : Bytes :=
  s.toUTF8.data.toList

/-- The text of UTF-8 bytes. -/
def decode? (bytes : Bytes) : Option String :=
  String.fromUTF8? ⟨bytes.toArray⟩

/-- Strict reading undoes writing. -/
theorem decode?_encode (s : String) : decode? (encode s) = some s := by
  have h : (⟨s.toUTF8.data.toList.toArray⟩ : ByteArray) = s.toByteArray := by
    simp
  rw [decode?, encode, h, String.fromUTF8?, dif_pos s.isValidUTF8]
  rfl

/-- A character of which only the first bytes have been read. -/
structure Begun where
  /-- The bits of the character that are known. -/
  bits : Nat
  /-- How many bytes are missing, at least one. -/
  missing : Nat
  /-- The least byte that continues the character. -/
  low : Nat := 0x80
  /-- The greatest byte that continues the character. -/
  high : Nat := 0xBF
  deriving DecidableEq, Repr

/-- What stands for bytes that are no character. -/
def replacement : Char := '\uFFFD'

/-- Read a byte between two characters. It is a character, begins one, or is out of place. The
narrower bounds keep out overlong forms, surrogates and numbers beyond U+10FFFF. -/
def first (b : Nat) : List Char × Option Begun :=
  if b < 0x80 then ([Char.ofNat b], none)
  else if 0xC2 ≤ b ∧ b ≤ 0xDF then ([], some { bits := b - 0xC0, missing := 1 })
  else if b = 0xE0 then ([], some { bits := 0, missing := 2, low := 0xA0 })
  else if b = 0xED then ([], some { bits := 0xD, missing := 2, high := 0x9F })
  else if 0xE1 ≤ b ∧ b ≤ 0xEF then ([], some { bits := b - 0xE0, missing := 2 })
  else if b = 0xF0 then ([], some { bits := 0, missing := 3, low := 0x90 })
  else if 0xF1 ≤ b ∧ b ≤ 0xF3 then ([], some { bits := b - 0xF0, missing := 3 })
  else if b = 0xF4 then ([], some { bits := 4, missing := 3, high := 0x8F })
  else ([replacement], none)

/-- Read a byte. A byte that does not continue the character begun is read as if it came first. -/
def next : Option Begun → Nat → List Char × Option Begun
  | none, b => first b
  | some begun, b =>
    if begun.low ≤ b ∧ b ≤ begun.high then
      let bits := 64 * begun.bits + (b - 0x80)
      if begun.missing ≤ 1 then ([Char.ofNat bits], none)
      else ([], some { bits, missing := begun.missing - 1 })
    else
      -- the bytes so far are replaced as one, and this one starts afresh
      (replacement :: (first b).1, (first b).2)

/-- Read bytes that follow the begun character, if there is one. -/
def resume : Option Begun → Bytes → List Char
  | none, [] => []
  | some _, [] => [replacement]
  | begun, b :: rest => (next begun b.toNat).1 ++ resume (next begun b.toNat).2 rest

/-- Read bytes as text, whatever they are. -/
def lenient (bytes : Bytes) : String :=
  String.ofList (resume none bytes)

/-- Bytes below 0x80 are read as the characters with these numbers. -/
theorem lenient_ascii (bytes : Bytes) (h : ∀ b ∈ bytes, b.toNat < 0x80) :
    lenient bytes = String.ofList (bytes.map fun b => Char.ofNat b.toNat) := by
  rw [lenient]
  congr 1
  induction bytes with
  | nil => rfl
  | cons b rest ih =>
    have hb := h b List.mem_cons_self
    have hrest := ih fun c hc => h c (List.mem_cons_of_mem b hc)
    simp [resume, next, first, hb, hrest]

end Utf8

end SessionRegistry
