import SessionRegistry.Log.Record

/-!
# Frames of the log file

Each record stands in a frame: the number of its bytes in four bytes, and its bytes. Reading a log
file stops at the first frame that is not there in full, which is what a crash in the middle of a
write leaves behind. A frame that is there in full and holds no record is passed over.

* `length_lt_of_next`: reading a frame leaves fewer bytes.
* `next_wrap_append`: a frame is read back, whatever follows it.
-/

namespace SessionRegistry.Frame

/-- The frame around a record's bytes. -/
def wrap (payload : Bytes) : Bytes :=
  littleEndian 4 payload.length ++ payload

/-- The content of the first frame and the bytes after it, where that frame is there in full. -/
def next (bytes : Bytes) : Option (Bytes × Bytes) := do
  let (length, bytes) ← readLittleEndian 4 bytes
  -- a length beyond the end of the file is a torn frame
  if length ≤ bytes.length then
    return (bytes.take length, bytes.drop length)
  else none

/-- Reading a number leaves the bytes after it. -/
theorem length_of_readLittleEndian {width n : Nat} {bytes rest : Bytes}
    (h : readLittleEndian width bytes = some (n, rest)) : bytes.length = width + rest.length := by
  induction width generalizing bytes n with
  | zero => simp_all [readLittleEndian]
  | succ width ih =>
    cases bytes with
    | nil => simp [readLittleEndian] at h
    | cons byte bytes =>
      obtain ⟨⟨m, r⟩, hr, he⟩ := Option.map_eq_some_iff.1 h
      simp only [Prod.mk.injEq] at he
      obtain ⟨-, rfl⟩ := he
      have := ih hr
      simp only [List.length_cons]
      omega

/-- Reading a frame leaves fewer bytes. -/
theorem length_lt_of_next {bytes payload rest : Bytes} (h : next bytes = some (payload, rest)) :
    rest.length < bytes.length := by
  simp only [next, Option.bind_eq_bind, Option.bind_eq_some_iff] at h
  obtain ⟨⟨n, r⟩, hr, h⟩ := h
  have := length_of_readLittleEndian hr
  split at h
  · simp only [Option.pure_def, Option.some.injEq, Prod.mk.injEq] at h
    rw [← h.2, List.length_drop]
    omega
  · simp at h

/-- A frame is read back, whatever follows it. -/
theorem next_wrap_append (payload rest : Bytes) (h : payload.length < UInt32.size) :
    next (wrap payload ++ rest) = some (payload, rest) := by
  simp [next, wrap, readLittleEndian_littleEndian 4 _ _ h]

/-- The contents of the frames of a file, up to the first one that is not there in full. -/
def payloads (bytes : Bytes) : List Bytes :=
  match _h : next bytes with
  | none => []
  | some (payload, rest) => payload :: payloads rest
termination_by bytes.length
decreasing_by exact length_lt_of_next _h

/-- The record that the content of a frame starts with. -/
def record? (payload : Bytes) : Option LogRecord :=
  (Codec.record.decode payload).map Prod.fst

/-- The frame of a record. -/
def ofRecord (record : LogRecord) : Bytes :=
  wrap (Codec.record.encode record)

/-- The records of a log file. -/
def records (bytes : Bytes) : List LogRecord :=
  (payloads bytes).filterMap record?

end SessionRegistry.Frame
