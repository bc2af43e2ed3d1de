import SessionRegistry.Text.Utf8

/-!
# Binary codecs

A codec writes a value as bytes and reads it back from the front of a longer list of bytes. Codecs
of records are put together from those of their fields, and so are the proofs that reading undoes
writing.

* `RoundTrips`: reading what was written gives the value and leaves what follows it. Lengths are
  written with 64 bits, so this is asked of values with fewer than 2 ^ 64 bytes.
* `uint64_roundTrips`, `text_roundTrips`, `RoundTrips.option`, `RoundTrips.list`,
  `RoundTrips.pair`, `RoundTrips.iso`, `oneOf_roundTrips`: every codec here has that property.
-/

namespace SessionRegistry

/-- The bytes of a number, the least significant first. Only as many as fit are kept. -/
def littleEndian : Nat → Nat → Bytes
  | 0, _ => []
  | width + 1, n => UInt8.ofNat n :: littleEndian width (n / 256)

/-- Read a number of the given width from the front of a list of bytes. -/
def readLittleEndian : Nat → Bytes → Option (Nat × Bytes)
  | 0, bytes => some (0, bytes)
  | _ + 1, [] => none
  | width + 1, byte :: bytes =>
    (readLittleEndian width bytes).map fun (n, rest) => (byte.toNat + 256 * n, rest)

/-- A number has as many bytes as its width says. -/
@[simp]
theorem length_littleEndian (width n : Nat) : (littleEndian width n).length = width := by
  induction width generalizing n with
  | zero => rfl
  | succ width ih => simp [littleEndian, ih]

/-- Reading a number undoes writing one that fits. -/
theorem readLittleEndian_littleEndian (width n : Nat) (rest : Bytes) (h : n < Nat.pow 256 width) :
    readLittleEndian width (littleEndian width n ++ rest) = some (n, rest) := by
  induction width generalizing n with
  | zero => simp_all [littleEndian, readLittleEndian]
  | succ width ih =>
    have hdiv : n / 256 < Nat.pow 256 width := by
      rw [Nat.div_lt_iff_lt_mul (by decide)]
      exact h
    simp only [littleEndian, List.cons_append, readLittleEndian, ih _ hdiv, Option.map_some,
      Option.some.injEq, Prod.mk.injEq, and_true, UInt8.toNat_ofNat']
    omega

/-- How values of a type are written as bytes and read back. -/
structure Codec (α : Type) where
  encode : α → Bytes
  /-- The value at the front of a list of bytes, and the bytes after it. -/
  decode : Bytes → Option (α × Bytes)

namespace Codec

/-- Reading what was written gives the value and leaves what follows it. -/
def RoundTrips {α : Type} (codec : Codec α) : Prop :=
  ∀ a rest, (codec.encode a).length < UInt64.size →
    codec.decode (codec.encode a ++ rest) = some (a, rest)

/-- Numbers of 64 bits, in eight bytes. -/
def uint64 : Codec UInt64 where
  encode n := littleEndian 8 n.toNat
  decode bytes := (readLittleEndian 8 bytes).map fun (n, rest) => (UInt64.ofNat n, rest)

theorem uint64_roundTrips : uint64.RoundTrips := by
  intro n rest _
  have h : n.toNat < UInt64.size := n.toNat_lt
  simp [uint64, readLittleEndian_littleEndian 8 _ rest h]

/-- Texts, as the number of their UTF-8 bytes and these bytes. -/
def text : Codec String where
  encode s := littleEndian 8 (Utf8.encode s).length ++ Utf8.encode s
  decode bytes := do
    let (length, bytes) ← readLittleEndian 8 bytes
    if length ≤ bytes.length then
      return (← Utf8.decode? (bytes.take length), bytes.drop length)
    else none

theorem text_roundTrips : text.RoundTrips := by
  intro s rest h
  have hlen : (Utf8.encode s).length < UInt64.size := by
    simp only [text, List.length_append, length_littleEndian] at h
    omega
  simp [text, readLittleEndian_littleEndian 8 _ _ hlen, Utf8.decode?_encode]

/-- Values that may be absent, as a byte that tells and the value. -/
def option {α : Type} (codec : Codec α) : Codec (Option α) where
  encode
    | none => [0]
    | some a => 1 :: codec.encode a
  decode
    | [] => none
    | tag :: bytes =>
      if tag = 0 then some (none, bytes)
      else if tag = 1 then (codec.decode bytes).map fun (a, rest) => (some a, rest)
      else none

theorem RoundTrips.option {α : Type} {codec : Codec α} (h : codec.RoundTrips) :
    codec.option.RoundTrips := by
  intro value rest hlen
  cases value with
  | none => simp [Codec.option]
  | some a =>
    have := h a rest (by simp only [Codec.option, List.length_cons] at hlen; omega)
    simp [Codec.option, this]

/-- Read a number of values one after the other. -/
def decodeMany {α : Type} (codec : Codec α) : Nat → Bytes → Option (List α × Bytes)
  | 0, bytes => some ([], bytes)
  | count + 1, bytes => do
    let (a, bytes) ← codec.decode bytes
    let (more, bytes) ← decodeMany codec count bytes
    return (a :: more, bytes)

/-- Lists, as the number of their entries and the entries. -/
def list {α : Type} (codec : Codec α) : Codec (List α) where
  encode values := littleEndian 8 values.length ++ values.flatMap codec.encode
  decode bytes := do
    let (count, bytes) ← readLittleEndian 8 bytes
    decodeMany codec count bytes

theorem RoundTrips.decodeMany {α : Type} {codec : Codec α} (h : codec.RoundTrips)
    (values : List α) (rest : Bytes) (hlen : (values.flatMap codec.encode).length < UInt64.size) :
    Codec.decodeMany codec values.length (values.flatMap codec.encode ++ rest)
      = some (values, rest) := by
  induction values with
  | nil => rfl
  | cons a more ih =>
    simp only [List.flatMap_cons, List.length_append] at hlen
    have first := h a (more.flatMap codec.encode ++ rest) (by omega)
    have others := ih (by omega)
    simp [Codec.decodeMany, first, others]

/-- Values that take up at least a byte each are no more than their bytes. -/
theorem length_le_length_flatMap {α : Type} {codec : Codec α}
    (nonempty : ∀ a, codec.encode a ≠ []) (values : List α) :
    values.length ≤ (values.flatMap codec.encode).length := by
  induction values with
  | nil => simp
  | cons a more ih =>
    have := List.length_pos_iff.2 (nonempty a)
    simp only [List.flatMap_cons, List.length_append, List.length_cons]
    omega

theorem RoundTrips.list {α : Type} {codec : Codec α} (h : codec.RoundTrips)
    (nonempty : ∀ a, codec.encode a ≠ []) : codec.list.RoundTrips := by
  intro values rest hlen
  have hbytes : (values.flatMap codec.encode).length < UInt64.size := by
    simp only [Codec.list, List.length_append] at hlen
    omega
  have hcount : values.length < UInt64.size := by
    have := length_le_length_flatMap nonempty values
    omega
  simp [Codec.list, readLittleEndian_littleEndian 8 _ _ hcount, h.decodeMany values rest hbytes]

/-- A pair of values, one after the other. -/
def pair {α β : Type} (first : Codec α) (second : Codec β) : Codec (α × β) where
  encode value := first.encode value.1 ++ second.encode value.2
  decode bytes := do
    let (a, bytes) ← first.decode bytes
    let (b, bytes) ← second.decode bytes
    return ((a, b), bytes)

theorem RoundTrips.pair {α β : Type} {first : Codec α} {second : Codec β}
    (h1 : first.RoundTrips) (h2 : second.RoundTrips) : (first.pair second).RoundTrips := by
  rintro ⟨a, b⟩ rest hlen
  simp only [Codec.pair, List.length_append] at hlen
  have r1 := h1 a (second.encode b ++ rest) (by omega)
  have r2 := h2 b rest (by omega)
  simp [Codec.pair, r1, r2]

/-- The codec of a type whose values correspond to those of another one. -/
def iso {α β : Type} (codec : Codec α) (wrap : α → β) (unwrap : β → α) : Codec β where
  encode b := codec.encode (unwrap b)
  decode bytes := (codec.decode bytes).map fun (a, rest) => (wrap a, rest)

theorem RoundTrips.iso {α β : Type} {codec : Codec α} (h : codec.RoundTrips) {wrap : α → β}
    {unwrap : β → α} (inverse : ∀ b, wrap (unwrap b) = b) :
    (codec.iso wrap unwrap).RoundTrips := by
  intro b rest hlen
  simp [Codec.iso, h (unwrap b) rest hlen, inverse]

/-- One of a fixed list of values, as its position in four bytes. -/
def oneOf {α : Type} [DecidableEq α] (values : List α) : Codec α where
  encode a := littleEndian 4 (values.idxOf a)
  decode bytes := do
    let (index, bytes) ← readLittleEndian 4 bytes
    return (← values[index]?, bytes)

theorem oneOf_roundTrips {α : Type} [DecidableEq α] {values : List α}
    (complete : ∀ a, a ∈ values) (short : values.length < UInt32.size) :
    (oneOf values).RoundTrips := by
  intro a rest _
  have hidx := List.idxOf_lt_length_iff.2 (complete a)
  have hlt : values.idxOf a < UInt32.size := by omega
  simp [oneOf, readLittleEndian_littleEndian 4 _ rest hlt, List.getElem?_eq_getElem hidx]

end Codec

end SessionRegistry
