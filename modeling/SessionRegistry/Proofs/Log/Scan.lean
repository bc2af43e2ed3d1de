import SessionRegistry.Log.Frame

/-!
# Scanning a log file

A log file is a sequence of frames and what remains after the last whole one. What is appended to a
file is read as if it stood behind that remainder alone, so nothing is lost behind a file without a
remainder.

## Main definitions

* `remainder`: the bytes after the last whole frame.
* `Fits`: a record whose length can be written in front of its frame.

## Main results

* `payloads_append`, `remainder_append`: scanning a file to which bytes were appended.
* `records_append_ofRecord`: behind a file without a remainder, an appended record is read back.
-/

namespace SessionRegistry.Frame

/-- The bytes after the last frame that is there in full. -/
def remainder (bytes : Bytes) : Bytes :=
  match _h : next bytes with
  | none => bytes
  | some (_, rest) => remainder rest
termination_by bytes.length
decreasing_by exact length_lt_of_next _h

/-- The length of a record's bytes can be written in front of them. -/
def Fits (record : LogRecord) : Prop :=
  (Codec.record.encode record).length < UInt32.size

instance (record : LogRecord) : Decidable (Fits record) :=
  inferInstanceAs (Decidable (_ < _))

/-! ## One frame -/

/-- Reading a number does not depend on what follows it. -/
theorem readLittleEndian_append {width n : Nat} {bytes rest : Bytes} (more : Bytes)
    (h : readLittleEndian width bytes = some (n, rest)) :
    readLittleEndian width (bytes ++ more) = some (n, rest ++ more) := by
  induction width generalizing bytes n with
  | zero =>
    obtain ⟨rfl, rfl⟩ := Prod.mk.inj (Option.some.inj h)
    rfl
  | succ width ih =>
    cases bytes with
    | nil => simp [readLittleEndian] at h
    | cons byte bytes =>
      obtain ⟨⟨m, r⟩, hr, he⟩ := Option.map_eq_some_iff.1 h
      obtain ⟨rfl, rfl⟩ := Prod.mk.inj he
      rw [List.cons_append, readLittleEndian, ih hr, Option.map_some]

/-- A whole frame does not depend on what follows it. -/
theorem next_append {bytes payload rest : Bytes} (more : Bytes)
    (h : next bytes = some (payload, rest)) :
    next (bytes ++ more) = some (payload, rest ++ more) := by
  simp only [next, Option.bind_eq_bind, Option.bind_eq_some_iff] at h
  obtain ⟨⟨n, r⟩, hr, h⟩ := h
  split at h
  · next hle =>
    replace hle : n ≤ r.length := hle
    obtain ⟨rfl, rfl⟩ := Prod.mk.inj (Option.some.inj h)
    have longer : n ≤ r.length + more.length := by omega
    simp [next, readLittleEndian_append more hr, longer, List.take_append_of_le_length hle,
      List.drop_append_of_le_length hle]
  · simp at h

/-! ## All frames -/

theorem payloads_of_none {bytes : Bytes} (h : next bytes = none) : payloads bytes = [] := by
  rw [payloads]
  split
  · rfl
  · simp_all

theorem payloads_of_some {bytes payload rest : Bytes} (h : next bytes = some (payload, rest)) :
    payloads bytes = payload :: payloads rest := by
  rw [payloads]
  split
  · simp_all
  · next heq =>
    rw [h] at heq
    obtain ⟨rfl, rfl⟩ := Prod.mk.inj (Option.some.inj heq)
    rfl

theorem remainder_of_none {bytes : Bytes} (h : next bytes = none) : remainder bytes = bytes := by
  rw [remainder]
  split
  · rfl
  · simp_all

theorem remainder_of_some {bytes payload rest : Bytes} (h : next bytes = some (payload, rest)) :
    remainder bytes = remainder rest := by
  rw [remainder]
  split
  · simp_all
  · next heq =>
    rw [h] at heq
    obtain ⟨rfl, rfl⟩ := Prod.mk.inj (Option.some.inj heq)
    rfl

/-- An empty file has no frames. -/
@[simp]
theorem payloads_nil : payloads [] = [] :=
  payloads_of_none rfl

@[simp]
theorem remainder_nil : remainder [] = [] :=
  remainder_of_none rfl

@[simp]
theorem records_nil : records [] = [] := by
  simp [records]

/-- What remains does not start with a whole frame. -/
theorem next_remainder (bytes : Bytes) : next (remainder bytes) = none := by
  fun_induction remainder bytes with
  | case1 bytes h => exact h
  | case2 bytes payload rest h ih => exact ih

/-- What is appended to a file is read behind what remains of the file. -/
theorem payloads_append (bytes more : Bytes) :
    payloads (bytes ++ more) = payloads bytes ++ payloads (remainder bytes ++ more) := by
  fun_induction remainder bytes with
  | case1 bytes h => rw [payloads_of_none h, List.nil_append]
  | case2 bytes payload rest h ih =>
    rw [payloads_of_some (next_append more h), payloads_of_some h, ih, List.cons_append]

/-- What remains of a file to which bytes were appended. -/
theorem remainder_append (bytes more : Bytes) :
    remainder (bytes ++ more) = remainder (remainder bytes ++ more) := by
  fun_induction remainder bytes with
  | case1 bytes h => rfl
  | case2 bytes payload rest h ih => rw [remainder_of_some (next_append more h), ih]

/-- The records of a file to which bytes were appended. -/
theorem records_append (bytes more : Bytes) :
    records (bytes ++ more) = records bytes ++ records (remainder bytes ++ more) := by
  rw [records, payloads_append, List.filterMap_append]
  rfl

/-! ## Appended records -/

/-- A record that fits is read back from its bytes. -/
theorem record?_encode {record : LogRecord} (h : Fits record) :
    record? (Codec.record.encode record) = some record := by
  have hlen : (Codec.record.encode record).length < UInt64.size := Nat.lt_trans h (by decide)
  have back := Codec.record_roundTrips record [] hlen
  rw [List.append_nil] at back
  rw [record?, back, Option.map_some]

/-- The frame of a record that fits is a whole frame, whatever follows it. -/
theorem next_ofRecord_append {record : LogRecord} (h : Fits record) (rest : Bytes) :
    next (ofRecord record ++ rest) = some (Codec.record.encode record, rest) :=
  next_wrap_append _ _ h

/-- A file that is the frame of a record that fits holds that record, and nothing remains. -/
theorem records_ofRecord {record : LogRecord} (h : Fits record) :
    records (ofRecord record) = [record] ∧ remainder (ofRecord record) = [] := by
  have first := next_ofRecord_append h []
  rw [List.append_nil] at first
  constructor
  · rw [records, payloads_of_some first, payloads_nil, List.filterMap_cons, record?_encode h]
    rfl
  · rw [remainder_of_some first, remainder_nil]

/-- Behind a file without a remainder, an appended record that fits is read back. -/
theorem records_append_ofRecord {bytes : Bytes} {record : LogRecord} (hbytes : remainder bytes = [])
    (h : Fits record) : records (bytes ++ ofRecord record) = records bytes ++ [record] := by
  rw [records_append, hbytes, List.nil_append, (records_ofRecord h).1]

/-- An appended record that fits leaves no remainder where there was none. -/
theorem remainder_append_ofRecord {bytes : Bytes} {record : LogRecord}
    (hbytes : remainder bytes = []) (h : Fits record) :
    remainder (bytes ++ ofRecord record) = [] := by
  rw [remainder_append, hbytes, List.nil_append, (records_ofRecord h).2]

end SessionRegistry.Frame
