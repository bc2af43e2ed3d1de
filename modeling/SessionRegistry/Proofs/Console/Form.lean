import SessionRegistry.Console.Parameter
import SessionRegistry.Proofs.RowLock.Key

/-!
# Form data is read back

Every list of named texts can be sent as the query of a request: whatever characters the names and
the texts have, the query in which each of their bytes is escaped is read as these names and texts.

## Main definitions

* `Form.write`: named texts as form data.

## Main results

* `Utf8.lenient_encode`: lenient reading undoes writing.
* `Form.parse_write`: form data is read back.
-/

namespace SessionRegistry

/-! ## UTF-8 -/

namespace Utf8

/-- The bytes of a text are those of its characters. -/
theorem encode_eq_flatMap (s : String) : encode s = s.toList.flatMap String.utf8EncodeChar := by
  rw [encode, String.toUTF8_eq_toByteArray, ← String.utf8Encode_toList, List.utf8Encode,
    List.data_toByteArray]

/-- The bytes of a text of characters below 0x80 are their numbers. -/
theorem encode_ofList {cs : List Char} (ascii : ∀ c ∈ cs, c.toNat < 0x80) :
    encode (String.ofList cs) = cs.map fun c => UInt8.ofNat c.toNat := by
  rw [encode_eq_flatMap, String.toList_ofList, List.map_eq_flatMap]
  refine List.flatMap_congr fun c hc => ?_
  exact if_pos (Nat.le_of_lt_succ (ascii c hc))

/-! ### Characters -/

section Begun

variable {begun : Begun} {b : Nat} {rest : Bytes}

/-- A byte that begins a character is not read yet. -/
theorem resume_first (begins : first b = ([], some begun)) (byte : b < 256) :
    resume none (UInt8.ofNat b :: rest) = resume (some begun) rest := by
  have byte : (UInt8.ofNat b).toNat = b := UInt8.toNat_ofNat_of_lt' byte
  simp [resume, next, byte, begins]

/-- A byte that is neither the first nor the last one of a character adds six bits. -/
theorem resume_more (more : 1 < begun.missing) (low : begun.low ≤ b) (high : b ≤ begun.high)
    (byte : b < 256) :
    resume (some begun) (UInt8.ofNat b :: rest) =
      resume (some { bits := 64 * begun.bits + (b - 0x80), missing := begun.missing - 1 })
        rest := by
  have byte : (UInt8.ofNat b).toNat = b := UInt8.toNat_ofNat_of_lt' byte
  simp [resume, next, byte, low, high, Nat.not_le.2 more]

/-- The last byte ends the character. -/
theorem resume_last (one : begun.missing = 1) (low : begun.low ≤ b) (high : b ≤ begun.high)
    (byte : b < 256) :
    resume (some begun) (UInt8.ofNat b :: rest) =
      Char.ofNat (64 * begun.bits + (b - 0x80)) :: resume none rest := by
  have byte : (UInt8.ofNat b).toNat = b := UInt8.toNat_ofNat_of_lt' byte
  simp [resume, next, byte, low, high, one]

/-- The first of three bytes, and what it requires of the second one. -/
theorem first_of_three {k : Nat} (few : k < 16) (low : 0x80 ≤ b) (high : b ≤ 0xBF)
    (long : k = 0 → 0xA0 ≤ b) (whole : k = 13 → b ≤ 0x9F) :
    ∃ begun, first (224 + k) = ([], some begun) ∧ begun.bits = k ∧ begun.missing = 2
      ∧ begun.low ≤ b ∧ b ≤ begun.high := by
  by_cases zero : k = 0
  · subst zero
    exact ⟨_, rfl, rfl, rfl, long rfl, high⟩
  by_cases half : k = 13
  · subst half
    exact ⟨_, rfl, rfl, rfl, low, whole rfl⟩
  refine ⟨{ bits := 224 + k - 0xE0, missing := 2 }, ?_, Nat.add_sub_cancel_left .., rfl, low, high⟩
  unfold first
  rw [if_neg (by omega), if_neg (by omega), if_neg (by omega), if_neg (by omega),
    if_pos (by omega)]

/-- The first of four bytes, and what it requires of the second one. -/
theorem first_of_four {k : Nat} (few : k < 5) (low : 0x80 ≤ b) (high : b ≤ 0xBF)
    (long : k = 0 → 0x90 ≤ b) (bounded : k = 4 → b ≤ 0x8F) :
    ∃ begun, first (240 + k) = ([], some begun) ∧ begun.bits = k ∧ begun.missing = 3
      ∧ begun.low ≤ b ∧ b ≤ begun.high := by
  by_cases zero : k = 0
  · subst zero
    exact ⟨_, rfl, rfl, rfl, long rfl, high⟩
  by_cases last : k = 4
  · subst last
    exact ⟨_, rfl, rfl, rfl, low, bounded rfl⟩
  refine ⟨{ bits := 240 + k - 0xF0, missing := 3 }, ?_, Nat.add_sub_cancel_left .., rfl, low, high⟩
  unfold first
  rw [if_neg (by omega), if_neg (by omega), if_neg (by omega), if_neg (by omega),
    if_neg (by omega), if_neg (by omega), if_pos (by omega)]

end Begun

/-- The bytes of a character are read as the character. -/
theorem resume_utf8EncodeChar (c : Char) (rest : Bytes) :
    resume none (String.utf8EncodeChar c ++ rest) = c :: resume none rest := by
  have valid : c.toNat < 0xD800 ∨ 0xDFFF < c.toNat ∧ c.toNat < 0x110000 := c.valid
  have same (n : Nat) (h : n = c.toNat) : Char.ofNat n = c := h ▸ Char.ofNat_toNat c
  rw [String.utf8EncodeChar, show c.val.toNat = c.toNat from rfl]
  generalize c.toNat = n at valid same
  -- one case for each number of bytes that a character may have
  split
  · next ascii =>
    have byte : (UInt8.ofNat n).toNat = n :=
      UInt8.toNat_ofNat_of_lt' (Nat.lt_of_le_of_lt ascii (by decide))
    simp [resume, next, first, byte, Nat.lt_succ_of_le ascii, same n rfl]
  split
  · next two =>
    have begins : first (n / 64 % 32 + 192) =
        ([], some { bits := n / 64 % 32 + 192 - 0xC0, missing := 1 }) := by
      unfold first
      rw [if_neg (by omega), if_pos (by omega)]
    rw [List.cons_append, List.cons_append, List.nil_append, resume_first begins (by omega),
      resume_last rfl (by dsimp only; omega) (by dsimp only; omega) (by omega)]
    exact List.cons_eq_cons.2 ⟨same _ (by dsimp only; omega), rfl⟩
  split
  · next three =>
    obtain ⟨begun, begins, bits, missing, low, high⟩ :=
      @first_of_three (n / 64 % 64 + 128) (n / 4096 % 16) (by omega) (by omega) (by omega)
        (by omega) (by omega)
    rw [Nat.add_comm] at begins
    simp only [List.cons_append, List.nil_append]
    rw [resume_first begins (by omega), resume_more (by omega) low high (by omega),
      resume_last (by simp [missing]) (by dsimp only; omega) (by dsimp only; omega) (by omega)]
    exact List.cons_eq_cons.2 ⟨same _ (by dsimp only; omega), rfl⟩
  · next four =>
    obtain ⟨begun, begins, bits, missing, low, high⟩ :=
      @first_of_four (n / 4096 % 64 + 128) (n / 262144 % 8) (by omega) (by omega) (by omega)
        (by omega) (by omega)
    rw [Nat.add_comm] at begins
    simp only [List.cons_append, List.nil_append]
    rw [resume_first begins (by omega), resume_more (by omega) low high (by omega),
      resume_more (by simp [missing]) (by dsimp only; omega) (by dsimp only; omega) (by omega),
      resume_last (by simp [missing]) (by dsimp only; omega) (by dsimp only; omega) (by omega)]
    exact List.cons_eq_cons.2 ⟨same _ (by dsimp only; omega), rfl⟩

/-- Lenient reading undoes writing. -/
theorem lenient_encode (s : String) : lenient (encode s) = s := by
  rw [lenient, encode_eq_flatMap]
  suffices resume none (s.toList.flatMap String.utf8EncodeChar) = s.toList by
    rw [this, String.ofList_toList]
  induction s.toList with
  | nil => rfl
  | cons c rest ih => rw [List.flatMap_cons, resume_utf8EncodeChar, ih]

end Utf8

/-! ## Form data -/

namespace Form

variable {bytes rest : Bytes}

/-- A byte as an escape. -/
def escapeByte (b : UInt8) : List Char :=
  ['%', Text.hexDigit (b.toNat / 16), Text.hexDigit (b.toNat % 16)]

/-- A text in which every byte is escaped. -/
def escape (s : String) : List Char :=
  (Utf8.encode s).flatMap escapeByte

/-- A name and a text as one field. -/
def segment (field : String × String) : List Char :=
  escape field.1 ++ '=' :: escape field.2

/-- Named texts as form data. -/
def write (fields : List (String × String)) : String :=
  String.ofList (['&'].intercalate (fields.map segment))

/-- The bytes of ASCII characters. -/
def toBytes (cs : List Char) : Bytes :=
  cs.map fun c => UInt8.ofNat c.toNat

/-- A hexadecimal digit is an ASCII character, and none of those that end a text. -/
theorem of_hexDigit : ∀ n < 16, (Text.hexDigit n).toNat < 0x80 ∧ Text.hexDigit n ≠ '=' ∧
    Text.hexDigit n ≠ '&' ∧ Text.hexDigit n ≠ '#' := by
  decide

/-- So is every character of an escaped text. -/
theorem of_mem_escape {s : String} {c : Char} (h : c ∈ escape s) :
    c.toNat < 0x80 ∧ c ≠ '=' ∧ c ≠ '&' ∧ c ≠ '#' := by
  obtain ⟨b, -, h⟩ := List.mem_flatMap.1 h
  have byte : b.toNat < 256 := b.toNat_lt
  rcases List.mem_cons.1 h with rfl | h
  · decide
  rcases List.mem_cons.1 h with rfl | h
  · exact of_hexDigit _ (by omega)
  · rw [List.mem_singleton.1 h]
    exact of_hexDigit _ (by omega)

/-- An escaped byte is read back. -/
theorem unescape_escapeByte (b : UInt8) :
    unescape (toBytes (escapeByte b) ++ rest) = b :: unescape rest := by
  have byte : b.toNat < 256 := b.toNat_lt
  have digit (n : Nat) (h : n < 16) :
      Char.ofNat (UInt8.ofNat (Text.hexDigit n).toNat).toNat = Text.hexDigit n := by
    have small : (Text.hexDigit n).toNat < 256 := by
      have := (of_hexDigit n h).1
      omega
    rw [UInt8.toNat_ofNat_of_lt' small, Char.ofNat_toNat]
  have read : escaped? (UInt8.ofNat (Text.hexDigit (b.toNat / 16)).toNat)
      (UInt8.ofNat (Text.hexDigit (b.toNat % 16)).toNat) = some b := by
    rw [escaped?, digit _ (by omega), digit _ (by omega), Text.hexValue?_hexDigit _ (by omega),
      Text.hexValue?_hexDigit _ (by omega)]
    show some (UInt8.ofNat (16 * (b.toNat / 16) + b.toNat % 16)) = some b
    rw [Nat.div_add_mod, UInt8.ofNat_toNat]
  show unescape (0x25 :: _ :: _ :: rest) = _
  rw [unescape, read]

/-- An escaped text is read back. -/
theorem unquote_escape (s : String) : unquote (toBytes (escape s)) = s := by
  have bytes : ∀ bytes : Bytes, unescape (toBytes (bytes.flatMap escapeByte)) = bytes := by
    intro bytes
    induction bytes with
    | nil => rfl
    | cons b rest ih =>
      rw [List.flatMap_cons, toBytes, List.map_append, ← toBytes, ← toBytes, unescape_escapeByte,
        ih]
  rw [unquote, escape, bytes, Utf8.lenient_encode]

/-- Different ASCII characters are different bytes. -/
theorem not_mem_toBytes {cs : List Char} {c : Char} (ascii : c.toNat < 0x80)
    (within : ∀ d ∈ cs, d.toNat < 0x80) (free : c ∉ cs) :
    UInt8.ofNat c.toNat ∉ toBytes cs := by
  intro mem
  obtain ⟨d, hd, same⟩ := List.mem_map.1 mem
  have byte (n : Nat) (h : n < 0x80) : (UInt8.ofNat n).toNat = n :=
    UInt8.toNat_ofNat_of_lt' (Nat.lt_trans h (by decide))
  have toNat := congrArg UInt8.toNat same
  rw [byte _ ascii, byte _ (within d hd)] at toNat
  exact free (Char.toNat_inj.1 toNat ▸ hd)

/-- A field is read back. -/
theorem field_segment (given : String × String) : field (toBytes (segment given)) = given := by
  have split : toBytes (segment given) = toBytes (escape given.1) ++ 0x3D ::
      toBytes (escape given.2) := by
    rw [segment, toBytes, List.map_append, List.map_cons]
    rfl
  have passes : ∀ b ∈ toBytes (escape given.1), (b != 0x3D) = true := by
    intro b hb
    have free : (0x3D : UInt8) ∉ toBytes (escape given.1) :=
      not_mem_toBytes (c := '=') (by decide) (fun d hd => (of_mem_escape hd).1) fun h =>
        (of_mem_escape h).2.1 rfl
    exact bne_iff_ne.2 fun same => free (same ▸ hb)
  rw [field, split, List.takeWhile_append_of_pos passes, List.dropWhile_append_of_pos passes]
  simp [unquote_escape]

theorem of_mem_segment {given : String × String} {c : Char} (h : c ∈ segment given) :
    c.toNat < 0x80 ∧ c ≠ '&' ∧ c ≠ '#' := by
  rcases List.mem_append.1 h with h | h
  · exact (of_mem_escape h).imp_right And.right
  rcases List.mem_cons.1 h with rfl | h
  · decide
  · exact (of_mem_escape h).imp_right And.right

theorem toBytes_intercalate (pieces : List (List Char)) :
    toBytes (['&'].intercalate pieces) = [0x26].intercalate (pieces.map toBytes) := by
  induction pieces with
  | nil => rfl
  | cons piece rest ih =>
    cases rest with
    | nil => simp
    | cons next rest =>
      rw [List.intercalate_cons_cons, List.map_cons, List.map_cons, List.intercalate_cons_cons,
        ← List.map_cons, ← ih]
      simp [toBytes]

/-- Form data consists of ASCII characters. -/
theorem ascii_of_mem_write {fields : List (String × String)} {c : Char}
    (h : c ∈ ['&'].intercalate (fields.map segment)) : c.toNat < 0x80 := by
  by_contra beyond
  have other : c ≠ '&' := fun same => beyond (same ▸ (by decide))
  refine not_mem_intercalate other (List.forall_mem_map.2 fun field _ h => ?_) h
  exact beyond (of_mem_segment h).1

/-- Form data does not begin a fragment. -/
theorem hash_not_mem_write (fields : List (String × String)) : '#' ∉ (write fields).toList := by
  rw [write, String.toList_ofList]
  exact not_mem_intercalate (by decide) (List.forall_mem_map.2 fun field _ h =>
    (of_mem_segment h).2.2 rfl)

/-- Form data is read back. -/
theorem parse_write (fields : List (String × String)) : parse (write fields) = fields := by
  rcases eq_or_ne fields [] with rfl | nonempty
  · rfl
  have free : ∀ piece ∈ (fields.map segment).map toBytes, (0x26 : UInt8) ∉ piece := by
    refine List.forall_mem_map.2 (List.forall_mem_map.2 fun field _ => ?_)
    exact not_mem_toBytes (c := '&') (by decide) (fun d hd => (of_mem_segment hd).1) fun h =>
      (of_mem_segment h).2.1 rfl
  have pieces : (Utf8.encode (write fields)).splitOn 0x26 = (fields.map segment).map toBytes := by
    rw [write, Utf8.encode_ofList fun c => ascii_of_mem_write, ← toBytes, toBytes_intercalate]
    exact List.splitOn_intercalate _ free (by simpa using nonempty)
  -- Every piece has an equals sign, so none of them is skipped.
  have some : ∀ piece ∈ (fields.map segment).map toBytes, (!piece.isEmpty) = true := by
    refine List.forall_mem_map.2 (List.forall_mem_map.2 fun field _ => ?_)
    simp [toBytes, segment]
  rw [parse, pieces, List.filter_eq_self.2 some, List.map_map, List.map_map]
  exact (List.map_congr_left fun given _ => field_segment given).trans (List.map_id _)

end Form

end SessionRegistry
