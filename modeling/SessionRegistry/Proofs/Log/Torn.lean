import SessionRegistry.Proofs.Log.Scan

/-!
# Frames behind a torn one

What is appended behind the remains of a torn frame is not read as it was written: the frames that
are found there never begin where the appended bytes begin. So a record that was appended there is
lost, however the bytes fall, if its bytes can be told from all others.

## Main results

* `append_of_mem_payloads_torn`: no frame begins where bytes were appended behind a torn frame.
* `upsert_of_record?`: where the bytes of a frame have the name of the session that they write.
* `length_eq_of_run`: a long run of one byte is found only where it is.
-/

namespace SessionRegistry

/-- The UTF-8 bytes of a text that was read are the bytes that were read. -/
theorem Utf8.encode_of_decode? {bytes : Bytes} {s : String} (h : decode? bytes = some s) :
    encode s = bytes := by
  rw [decode?, String.fromUTF8?] at h
  split at h
  · cases h
    rfl
  · cases h

/-- The bytes of a text of one repeated letter. -/
theorem Utf8.encode_replicate (m : Nat) :
    encode (String.ofList (List.replicate m 'a')) = List.replicate m 97 := by
  have bytes : encode (String.ofList (List.replicate m 'a'))
      = (List.replicate m 'a').flatMap String.utf8EncodeChar :=
    List.toList_data_toByteArray
  rw [bytes]
  clear bytes
  induction m with
  | zero => rfl
  | succ m ih =>
    rw [List.replicate_succ, List.flatMap_cons, ih, List.replicate_succ]
    rfl

/-- A number that was read stands in front of what is left. -/
theorem append_of_readLittleEndian {width n : Nat} {bytes rest : Bytes}
    (h : readLittleEndian width bytes = some (n, rest)) :
    ∃ front : Bytes, front.length = width ∧ bytes = front ++ rest := by
  induction width generalizing bytes n with
  | zero =>
    obtain ⟨rfl, rfl⟩ := Prod.mk.inj (Option.some.inj h)
    exact ⟨[], rfl, rfl⟩
  | succ width ih =>
    cases bytes with
    | nil => simp [readLittleEndian] at h
    | cons byte bytes =>
      obtain ⟨⟨m, r⟩, hr, he⟩ := Option.map_eq_some_iff.1 h
      obtain ⟨rfl, rfl⟩ := Prod.mk.inj he
      obtain ⟨front, width, rfl⟩ := ih hr
      exact ⟨byte :: front, congrArg (· + 1) width, rfl⟩

/-- There is a number to read wherever there are enough bytes. -/
theorem exists_readLittleEndian {width : Nat} {bytes : Bytes} (h : width ≤ bytes.length) :
    ∃ n rest, readLittleEndian width bytes = some (n, rest) := by
  induction width generalizing bytes with
  | zero => exact ⟨0, bytes, rfl⟩
  | succ width ih =>
    cases bytes with
    | nil => simp at h
    | cons byte bytes =>
      obtain ⟨n, rest, hr⟩ := ih (Nat.le_of_succ_le_succ h)
      exact ⟨byte.toNat + 256 * n, rest, by rw [readLittleEndian, hr, Option.map_some]⟩

namespace Codec

/-- A pair is read one part after the other. -/
theorem of_decode_pair {α β : Type} {first : Codec α} {second : Codec β} {bytes rest : Bytes}
    {value : α × β} (h : (first.pair second).decode bytes = some (value, rest)) :
    ∃ middle, first.decode bytes = some (value.1, middle)
      ∧ second.decode middle = some (value.2, rest) := by
  simp only [pair, Option.bind_eq_bind, Option.bind_eq_some_iff] at h
  obtain ⟨⟨a, middle⟩, ha, ⟨b, last⟩, hb, h⟩ := h
  cases h
  exact ⟨middle, ha, hb⟩

/-- A value of a corresponding type is read as the value that it corresponds to. -/
theorem of_decode_iso {α β : Type} {codec : Codec α} {wrap : α → β} {unwrap : β → α}
    {bytes rest : Bytes} {b : β} (h : (codec.iso wrap unwrap).decode bytes = some (b, rest)) :
    ∃ a, codec.decode bytes = some (a, rest) ∧ wrap a = b := by
  obtain ⟨⟨a, last⟩, ha, he⟩ := Option.map_eq_some_iff.1 h
  cases he
  exact ⟨a, ha, rfl⟩

/-- A text that was read stands behind its length. -/
theorem of_decode_text {bytes rest : Bytes} {s : String}
    (h : text.decode bytes = some (s, rest)) :
    readLittleEndian 8 bytes = some ((Utf8.encode s).length, Utf8.encode s ++ rest) := by
  simp only [text, Option.bind_eq_bind, Option.bind_eq_some_iff] at h
  obtain ⟨⟨n, r⟩, hr, h⟩ := h
  split at h
  · next hle =>
    obtain ⟨s', hs, he⟩ := Option.bind_eq_some_iff.1 h
    cases he
    rw [hr, Utf8.encode_of_decode? hs, List.take_append_drop, List.length_take,
      Nat.min_eq_left hle]
  · cases h

/-- A number that was read stands in eight bytes. -/
theorem append_of_decode_uint64 {bytes rest : Bytes} {n : UInt64}
    (h : uint64.decode bytes = some (n, rest)) :
    ∃ front : Bytes, front.length = 8 ∧ bytes = front ++ rest := by
  obtain ⟨⟨m, r⟩, hr, he⟩ := Option.map_eq_some_iff.1 h
  cases he
  exact append_of_readLittleEndian hr

/-- A session begins with the length of its name and its name. -/
theorem of_decode_session {bytes rest : Bytes} {s : Session}
    (h : session.decode bytes = some (s, rest)) :
    ∃ back : Bytes, readLittleEndian 8 bytes
      = some ((Utf8.encode s.xid).length, Utf8.encode s.xid ++ back) := by
  obtain ⟨⟨xid, _⟩, hparts, rfl⟩ := of_decode_iso h
  obtain ⟨back, htext, -⟩ := of_decode_pair hparts
  exact ⟨back, of_decode_text htext⟩

/-- The writing of a session is told by four bytes. -/
theorem append_of_decode_upsert {bytes rest : Bytes} {s : Session}
    (h : operation.decode bytes = some (.upsert s, rest)) :
    ∃ tag middle : Bytes, tag.length = 4 ∧ bytes = tag ++ middle
      ∧ session.decode middle = some (s, rest) := by
  simp only [operation, Option.bind_eq_bind, Option.bind_eq_some_iff] at h
  obtain ⟨⟨n, middle⟩, hr, h⟩ := h
  obtain ⟨tag, width, rfl⟩ := append_of_readLittleEndian hr
  refine ⟨tag, middle, width, rfl, ?_⟩
  dsimp only at h
  split at h
  · obtain ⟨⟨s', r'⟩, hs, he⟩ := Option.map_eq_some_iff.1 h
    cases he
    exact hs
  · obtain ⟨_, -, he⟩ := Option.map_eq_some_iff.1 h
    cases he
  · obtain ⟨_, -, he⟩ := Option.map_eq_some_iff.1 h
    cases he
  · cases h

end Codec

namespace Frame

/-! ## Where frames begin -/

/-- A whole frame is a header of four bytes and its content. -/
theorem append_of_next {bytes payload rest : Bytes} (h : next bytes = some (payload, rest)) :
    ∃ header : Bytes, header.length = 4 ∧ bytes = header ++ (payload ++ rest) := by
  simp only [next, Option.bind_eq_bind, Option.bind_eq_some_iff] at h
  obtain ⟨⟨n, r⟩, hr, h⟩ := h
  obtain ⟨header, width, rfl⟩ := append_of_readLittleEndian hr
  split at h
  · obtain ⟨rfl, rfl⟩ := Prod.mk.inj (Option.some.inj h)
    exact ⟨header, width, by rw [List.take_append_drop]⟩
  · simp at h

/-- The content of every frame stands behind a header of four bytes, and only the first header
stands at the front. -/
theorem append_of_mem_payloads {bytes payload : Bytes} (h : payload ∈ payloads bytes) :
    ∃ front header back : Bytes, bytes = front ++ (header ++ (payload ++ back))
      ∧ header.length = 4
      ∧ (front = [] ∨ ∃ first rest, next bytes = some (first, rest)
        ∧ bytes.length ≤ front.length + rest.length) := by
  fun_induction payloads bytes with
  | case1 bytes hnext => simp at h
  | case2 bytes first rest hnext ih =>
    obtain ⟨header, width, whole⟩ := append_of_next hnext
    rcases List.mem_cons.1 h with rfl | h
    · exact ⟨[], header, rest, whole, width, .inl rfl⟩
    · obtain ⟨front, header', back, split, width', -⟩ := ih h
      refine ⟨header ++ (first ++ front), header', back, ?_, width', .inr ⟨first, rest, hnext, ?_⟩⟩
      · rw [whole, split]
        simp only [List.append_assoc]
      · rw [whole]
        simp only [List.length_append]
        omega

/-- A torn frame that is completed by appended bytes takes some of them. -/
theorem length_lt_of_torn {torn more payload rest : Bytes} (htorn : next torn = none)
    (h : next (torn ++ more) = some (payload, rest)) : rest.length < more.length := by
  by_cases header : 4 ≤ torn.length
  · obtain ⟨n, r, hr⟩ := exists_readLittleEndian header
    have missing : r.length < n := by
      simpa [next, hr] using htorn
    have longer := readLittleEndian_append more hr
    simp only [next, longer, Option.bind_eq_bind, Option.bind_some] at h
    split at h
    · next hle =>
      obtain ⟨-, rfl⟩ := Prod.mk.inj (Option.some.inj h)
      rw [List.length_append] at hle
      rw [List.length_drop, List.length_append]
      omega
    · simp at h
  · obtain ⟨front, width, whole⟩ := append_of_next h
    have lengths := congrArg List.length whole
    simp only [List.length_append, width] at lengths
    omega

/-- The frames of a torn frame and of bytes that were appended to it begin at the front or beyond
the place where the appended bytes begin. -/
theorem append_of_mem_payloads_torn {torn more payload : Bytes} (htorn : next torn = none)
    (h : payload ∈ payloads (torn ++ more)) :
    ∃ front header back : Bytes, torn ++ more = front ++ (header ++ (payload ++ back))
      ∧ header.length = 4 ∧ (front = [] ∨ torn.length < front.length) := by
  obtain ⟨front, header, back, split, width, rfl | ⟨first, rest, hnext, far⟩⟩ :=
    append_of_mem_payloads h
  · exact ⟨[], header, back, split, width, .inl rfl⟩
  · have shorter := length_lt_of_torn htorn hnext
    rw [List.length_append] at far
    exact ⟨front, header, back, split, width, .inr (by omega)⟩

/-! ## Where a record has the name of its session -/

/-- In the content of a frame that writes a session, the length of its name and its name stand
behind the position and the number of the operation. -/
theorem upsert_of_record? {payload : Bytes} {record : LogRecord} {session : Session}
    (h : record? payload = some record) (hop : record.op = .upsert session) :
    ∃ front middle back : Bytes, front.length = 12 ∧ payload = front ++ middle
      ∧ readLittleEndian 8 middle
        = some ((Utf8.encode session.xid).length, Utf8.encode session.xid ++ back) := by
  obtain ⟨⟨record', rest⟩, hdecode, rfl⟩ := Option.map_eq_some_iff.1 h
  obtain ⟨⟨lsn, op, timestamp⟩, hparts, hrecord⟩ := Codec.of_decode_iso hdecode
  subst hrecord
  obtain ⟨behindLsn, hlsn, hrest⟩ := Codec.of_decode_pair hparts
  obtain ⟨behindOp, hoperation, -⟩ := Codec.of_decode_pair hrest
  obtain rfl : op = .upsert session := hop
  obtain ⟨position, width, rfl⟩ := Codec.append_of_decode_uint64 hlsn
  obtain ⟨tag, middle, width', rfl, hsession⟩ := Codec.append_of_decode_upsert hoperation
  obtain ⟨back, hname⟩ := Codec.of_decode_session hsession
  refine ⟨position ++ tag, middle, back, ?_, ?_, hname⟩
  · rw [List.length_append, width, width']
  · rw [List.append_assoc]

end Frame

/-- A run of one byte between two other bytes is found only where it is, unless it is found well
before or it is shorter than what follows. -/
theorem length_eq_of_run {before after front back : Bytes} {m : Nat} {a x y : UInt8} (hx : x ≠ a)
    (hy : y ≠ a) (hbefore : before.length < front.length + m) (hafter : after.length < m)
    (h : before ++ x :: (List.replicate m a ++ y :: after)
      = front ++ (List.replicate m a ++ back)) : front.length = before.length + 1 := by
  have lengths := congrArg List.length h
  simp only [List.length_append, List.length_cons, List.length_replicate] at lengths
  -- what the run covers on the right
  have run : ∀ i, front.length ≤ i → i < front.length + m →
      (before ++ x :: (List.replicate m a ++ y :: after))[i]? = some a := by
    intro i hlow hhigh
    rw [h, List.getElem?_append_right hlow, List.getElem?_append_left (by simp; omega),
      List.getElem?_replicate, if_pos (by omega)]
  have left : (before ++ x :: (List.replicate m a ++ y :: after))[before.length]? = some x := by
    rw [List.getElem?_append_right (Nat.le_refl _), Nat.sub_self, List.getElem?_cons_zero]
  have right : (before ++ x :: (List.replicate m a ++ y :: after))[before.length + 1 + m]?
      = some y := by
    rw [Nat.add_assoc, List.getElem?_append_right (Nat.le_add_right ..), Nat.add_sub_cancel_left,
      Nat.add_comm 1 m, List.getElem?_cons_succ,
      List.getElem?_append_right (Nat.le_of_eq List.length_replicate), List.length_replicate,
      Nat.sub_self, List.getElem?_cons_zero]
  by_cases early : front.length ≤ before.length
  · have same := run before.length early (by omega)
    rw [left] at same
    exact absurd (Option.some.inj same) hx
  · by_cases late : before.length + 1 < front.length
    · have same := run (before.length + 1 + m) (by omega) (by omega)
      rw [right] at same
      exact absurd (Option.some.inj same) hy
    · omega

end SessionRegistry
