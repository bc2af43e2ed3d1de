import SessionRegistry.Proofs.Log.Torn
import SessionRegistry.Proofs.Store.Step

/-!
# Reading a cut log

A crash can cut the log file at any byte. What is read from the bytes that are left is what stands
in the frames that end in front of the cut, whatever else stands in the file: a frame that holds no
record is passed over, and the frame that is cut ends the reading.

## Main definitions

* `Content`: what a frame of a log file can hold, a record or bytes that are not read as one.
* `placed`: the contents of a file, each with the place where its frame ends.

## Main results

* `next_take_wrap_append`: a cut frame is not read.
* `records_take_frames`: the records of a file that was cut, and of a file that was written.
-/

namespace SessionRegistry.Frame

/-- What a frame of a log file holds. -/
inductive Content where
  /-- A record whose length can be written in front of it. -/
  | entry (record : LogRecord) (fits : Fits record)
  /-- Bytes that are not read as a record. -/
  | noise (payload : Bytes) (short : payload.length < UInt32.size)
      (unreadable : Frame.record? payload = none)

namespace Content

/-- The bytes inside the frame. -/
def payload : Content → Bytes
  | entry record _ => Codec.record.encode record
  | noise payload _ _ => payload

/-- The record that was written, if it was one. -/
def record? : Content → Option LogRecord
  | entry record _ => some record
  | noise .. => none

/-- The whole frame. -/
def frame (content : Content) : Bytes :=
  wrap content.payload

theorem length_payload_lt (content : Content) : content.payload.length < UInt32.size := by
  cases content with
  | entry record fits => exact fits
  | noise payload short unreadable => exact short

/-- What is read from the bytes inside the frame is the record that was written, if it was one. -/
theorem record?_payload (content : Content) : Frame.record? content.payload = content.record? := by
  cases content with
  | entry record fits => exact record?_encode fits
  | noise payload short unreadable => exact unreadable

end Content

/-- A log file with the given contents. -/
def frames (contents : List Content) : Bytes :=
  contents.flatMap Content.frame

/-- The contents of a file that begins at `start`, each with the place where its frame ends. -/
def placed (start : Nat) : List Content → List (Content × Nat)
  | [] => []
  | content :: contents =>
    let stop := start + content.frame.length
    (content, stop) :: placed stop contents

theorem frames_cons (content : Content) (contents : List Content) :
    frames (content :: contents) = content.frame ++ frames contents :=
  List.flatMap_cons

theorem frames_append (contents more : List Content) :
    frames (contents ++ more) = frames contents ++ frames more :=
  List.flatMap_append

/-- No frame ends in front of the end of the first one. -/
theorem length_le_of_mem_placed_cons {start : Nat} {content : Content} {contents : List Content}
    {place : Content × Nat} (h : place ∈ placed start (content :: contents)) :
    start + content.frame.length ≤ place.2 := by
  induction contents generalizing start content with
  | nil =>
    obtain rfl := List.mem_singleton.1 h
    exact Nat.le_refl _
  | cons next contents ih =>
    rcases List.mem_cons.1 h with rfl | later
    · exact Nat.le_refl _
    · exact Nat.le_trans (Nat.le_add_right ..) (ih later)

/-! ## The frame that is cut -/

theorem length_wrap (payload : Bytes) : (wrap payload).length = 4 + payload.length := by
  rw [wrap, List.length_append, length_littleEndian]

/-- A frame that is cut before its end is not read. -/
theorem next_take_wrap_append {payload : Bytes} (rest : Bytes) {k : Nat}
    (hshort : payload.length < UInt32.size) (hcut : k < (wrap payload).length) :
    next ((wrap payload ++ rest).take k) = none := by
  rcases hnext : next ((wrap payload ++ rest).take k) with _ | ⟨found, behind⟩
  · rfl
  -- what is found in front of the cut is found without the cut, and takes more than was left
  have whole := next_append ((wrap payload ++ rest).drop k) hnext
  rw [List.take_append_drop, next_wrap_append payload rest hshort] at whole
  obtain ⟨rfl, -⟩ := Prod.mk.inj (Option.some.inj whole)
  obtain ⟨header, width, split⟩ := append_of_next hnext
  have lengths := congrArg List.length split
  simp only [List.length_take, List.length_append, width] at lengths
  rw [length_wrap] at hcut
  omega

/-! ## All contents -/

/-- Behind a whole frame the reading goes on. -/
theorem records_frame_append (content : Content) (rest : Bytes) :
    records (content.frame ++ rest) = content.record?.toList ++ records rest := by
  have first := next_wrap_append content.payload rest content.length_payload_lt
  rw [records, Content.frame, payloads_of_some first, List.filterMap_cons, content.record?_payload]
  cases content.record? <;> rfl

/-- The records of a file that was cut are the records whose frames end in front of the cut. -/
theorem records_take (contents : List Content) (start k : Nat) :
    records ((frames contents).take k)
      = ((placed start contents).filter (·.2 ≤ start + k)).filterMap (·.1.record?) := by
  induction contents generalizing start k with
  | nil => simp [frames, placed]
  | cons content contents ih =>
    by_cases hwhole : content.frame.length ≤ k
    · -- the cut is in what follows the first frame
      have rest := ih (start + content.frame.length) (k - content.frame.length)
      have cut : start + content.frame.length + (k - content.frame.length) = start + k := by omega
      have kept : start + content.frame.length ≤ start + k := by omega
      rw [cut] at rest
      rw [frames_cons, List.take_append, List.take_of_length_le hwhole, records_frame_append, rest,
        placed, List.filter_cons_of_pos (by simpa using kept), List.filterMap_cons]
      cases content.record? <;> rfl
    · -- the cut is in the first frame
      have nothing := next_take_wrap_append (frames contents) content.length_payload_lt
        (Nat.lt_of_not_le hwhole)
      have beyond : (placed start (content :: contents)).filter (·.2 ≤ start + k) = [] := by
        rw [List.filter_eq_nil_iff]
        intro place mem
        have := length_le_of_mem_placed_cons mem
        simp only [decide_eq_true_eq]
        omega
      rw [frames_cons, Content.frame, records, payloads_of_none nothing, beyond]
      rfl

/-- Without a cut, all the records are read. -/
theorem records_frames (contents : List Content) :
    records (frames contents) = contents.filterMap Content.record? := by
  induction contents with
  | nil => simp [frames]
  | cons content contents ih =>
    rw [frames_cons, records_frame_append, ih, List.filterMap_cons]
    cases content.record? <;> rfl

/-! ## What was written -/

/-- Writing records puts their frames at the end of the file. -/
theorem file_foldl_write (writer : LogWriter)
    (written : List { record : LogRecord // Fits record }) :
    ((written.map (·.1)).foldl LogWriter.write writer).file
      = writer.file ++ frames (written.map fun record => .entry record.1 record.2) := by
  induction written generalizing writer with
  | nil => simp [frames]
  | cons record written ih =>
    rw [List.map_cons, List.foldl_cons, ih, writer.file_write, List.map_cons, frames_cons,
      List.append_assoc]
    rfl

/-- From a file that was cut, exactly the records are read whose frames end in front of the cut, in
their order and as they were written, whatever stands between them. From the whole file all of them
are read, and behind them the records that a writer has added. -/
theorem records_take_frames (contents : List Content) :
    (∀ k, records ((frames contents).take k)
      = ((placed 0 contents).filter (·.2 ≤ k)).filterMap (·.1.record?))
    ∧ records (frames contents) = contents.filterMap Content.record?
    ∧ ∀ (writer : LogWriter) (written : List { record : LogRecord // Fits record }),
      records ((written.map (·.1)).foldl LogWriter.write
          { writer with file := frames contents }).file
        = contents.filterMap Content.record? ++ written.map (·.1) := by
  refine ⟨fun k => ?_, records_frames contents, fun writer written => ?_⟩
  · rw [records_take contents 0 k, Nat.zero_add]
  · have entries : (written.map fun record => Content.entry record.1 record.2).filterMap
        Content.record? = written.map (·.1) := by
      rw [List.filterMap_map]
      exact congrFun List.filterMap_eq_map written
    rw [file_foldl_write, ← frames_append, records_frames, List.filterMap_append, entries]

end SessionRegistry.Frame
