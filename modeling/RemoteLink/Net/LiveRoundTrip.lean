import RemoteLink.Library.Hex
import RemoteLink.Net.Live

set_option autoImplicit false

/-!
# What the reader makes of the frames of the sender

The sender turns a Hello, media and data into frames, and the reader at the other end turns the
bytes into messages again, however they are split on the way. A presentation time is carried in
whole milliseconds of 64 bits, one timestamp stands for none, and the length of a frame is cut to
32 bits, so not every frame arrives as it was sent.

## Main definitions

* `PeerFrame`, `WrittenFrame` — what the sender writes as one frame, and one that it has written.
* `PeerFrame.message`, `PeerFrame.received` — the message sent, and the one that is read.
* `Inbound.run` — the receiving side, with bytes that arrive between the turns of the reader.
* `Emits` — the reader emits exactly a sequence of messages for a stream, however it is split.
* `WrittenFrame.Exact` — the frames that arrive as they were sent.

## Main results

* `readMsg_encode` — the reader's message for a payload of the sender.
* `run_stream` — the frames of a stream are read as they come, whatever the parts.
* `live_round_trip` — the messages are emitted as sent if and only if every frame is exact.
* `live_round_trip_fails` — a sample with the largest timestamp arrives without one.
-/

namespace RemoteLink.Net

open Library Protocol

/-! ## What is written -/

/-- Something that the sender writes as one frame. -/
inductive PeerFrame where
  | hello (fp : DtlsFingerprint) (role : PeerRole)
  | sent (m : Sent)

namespace PeerFrame

/-- The byte for the kind. -/
def kind : PeerFrame → UInt8
  | .hello _ _ => kindControl
  | .sent (.video _) => kindVideo
  | .sent (.audio _) => kindAudio
  | .sent (.data _) => kindData

/-- The payload, unless the sender refuses it. -/
def encode : PeerFrame → Except NetError Bytes
  | .hello fp role => encodeHello fp role
  | .sent (.video n) => .ok (encodeVideo n)
  | .sent (.audio a) => .ok (encodeAudio a)
  | .sent (.data m) => encodeData m

/-- The message that is meant: of a Hello the digits of the fingerprint. -/
def message : PeerFrame → WireMsg
  | .hello fp _ => .hello (bytesToHex (fp.digestBytes.toOption.getD []))
  | .sent (.video n) => .video n
  | .sent (.audio a) => .audio a
  | .sent (.data m) => .data m

end PeerFrame

/-- A frame that the sender has written. -/
structure WrittenFrame where
  source : PeerFrame
  body : Bytes
  encoded : source.encode = .ok body
  written : (writeFrame source.kind body none).1 = .ok ()

namespace WrittenFrame

/-- The bytes of the frame on the stream. -/
def bytes (f : WrittenFrame) : Bytes := (writeFrame f.source.kind f.body none).2

/-- The message of the frame. -/
def message (f : WrittenFrame) : WireMsg := f.source.message

/-- The bytes of frames in sequence. -/
def stream (fs : List WrittenFrame) : Bytes := fs.flatMap bytes

end WrittenFrame

/-! ## What is read -/

/-- Something that happens on the receiving side. -/
inductive ReaderEvent where
  | arrive (chunk : Bytes)
  | read

/-- The receiving side after one event. -/
def Inbound.next (i : Inbound) : ReaderEvent → Inbound
  | .arrive chunk => i.arrive chunk
  | .read => i.read

/-- The receiving side after events in sequence. -/
def Inbound.run (i : Inbound) (es : List ReaderEvent) : Inbound := es.foldl Inbound.next i

/-- The bytes that arrive in a sequence of events. -/
def arrivals (es : List ReaderEvent) : Bytes :=
  es.flatMap fun
    | .arrive chunk => chunk
    | .read => []

/-- However a stream is split, and whenever the reader gets its turns in between, it has emitted
exactly these messages once it has had a turn for each of them at the end. -/
def Emits (stream : Bytes) (messages : List WireMsg) : Prop :=
  ∀ es, arrivals es = stream → ∀ turns, messages.length ≤ turns →
    (Inbound.fresh.run (es ++ List.replicate turns .read)).queue = messages

/-- A sample time that the wire carries: whole milliseconds that fit in 64 bits, and a timestamp
other than the one that stands for none. -/
def ExactTimes (pts : Nat) (rtpTs : Option UInt32) : Prop :=
  pts % nanosPerMilli = 0 ∧ pts / nanosPerMilli < 18446744073709551616 ∧
    rtpTs ≠ some noTimestamp

/-- The times of a frame, if it has any, are carried. -/
def PeerFrame.ExactTimes : PeerFrame → Prop
  | .sent (.video n) => Net.ExactTimes n.ptsHostMono n.rtpTs
  | .sent (.audio a) => Net.ExactTimes a.ptsHostMono a.rtpTs
  | .hello _ _ | .sent (.data _) => True

/-- A frame that arrives as it was sent: its times are carried, and its length is not cut. -/
def WrittenFrame.Exact (f : WrittenFrame) : Prop :=
  f.source.ExactTimes ∧ f.body.length < u32Size

/-! ## Fields -/

/-- The presentation time that is read: whole milliseconds of 64 bits. -/
def carriedPts (pts : Nat) : Nat := pts / nanosPerMilli % byteValues 8 * nanosPerMilli

/-- The timestamp that is read. -/
def carriedTimestamp (rtpTs : Option UInt32) : Option UInt32 :=
  if rtpTs = some noTimestamp then none else rtpTs

@[simp] theorem decodePts_encodePts (pts : Nat) : decodePts (encodePts pts) = carriedPts pts := by
  simp only [decodePts, encodePts, ofBe_be, carriedPts]

@[simp] theorem decodeTimestamp_encodeTimestamp (rtpTs : Option UInt32) :
    decodeTimestamp (encodeTimestamp rtpTs) = carriedTimestamp rtpTs := by
  have hread : UInt32.ofNat (ofBe (encodeTimestamp rtpTs)) = rtpTs.getD noTimestamp := by
    have hlt : (rtpTs.getD noTimestamp).toNat < byteValues 4 := UInt32.toNat_lt _
    rw [encodeTimestamp, ofBe_be, Nat.mod_eq_of_lt hlt, UInt32.ofNat_toNat]
  simp only [decodeTimestamp, hread, carriedTimestamp]
  cases rtpTs with
  | none => simp
  | some ts => simp only [Option.getD_some, Option.some.injEq]

@[simp] theorem length_encodePts (pts : Nat) : (encodePts pts).length = 8 := length_be 8 _

@[simp] theorem length_encodeTimestamp (rtpTs : Option UInt32) :
    (encodeTimestamp rtpTs).length = 4 := length_be 4 _

theorem flag_ne_zero (b : Bool) : decide (flag b ≠ 0) = b := by
  cases b <;> rfl

theorem format_of_formatByte (f : NaluFormat) :
    (if formatByte f = 0 then NaluFormat.annexB else .avcc) = f := by
  cases f <;> rfl

/-- A presentation time is read as it was sent if and only if it is carried. -/
theorem carriedPts_eq_iff {pts : Nat} :
    carriedPts pts = pts ↔
      pts % nanosPerMilli = 0 ∧ pts / nanosPerMilli < 18446744073709551616 := by
  have hvalues : byteValues 8 = 18446744073709551616 := rfl
  unfold carriedPts
  rw [hvalues]
  unfold nanosPerMilli
  omega

theorem carriedTimestamp_eq_iff {rtpTs : Option UInt32} :
    carriedTimestamp rtpTs = rtpTs ↔ rtpTs ≠ some noTimestamp := by
  unfold carriedTimestamp
  split_ifs with h
  · simp [h]
  · simp [h]

/-! ## Payloads -/

/-- The message that is read from a payload of the sender. -/
def PeerFrame.received : PeerFrame → WireMsg
  | .sent (.video n) => .video { n with
      ptsHostMono := carriedPts n.ptsHostMono, rtpTs := carriedTimestamp n.rtpTs }
  | .sent (.audio a) => .audio { a with
      ptsHostMono := carriedPts a.ptsHostMono, rtpTs := carriedTimestamp a.rtpTs }
  | f => f.message

/-- A byte of a payload is the first one behind those before it. -/
theorem getD_of_drop {p rest : Bytes} {b : UInt8} {i : Nat} (h : p.drop i = b :: rest) :
    p.getD i 0 = b := by
  have hget : p[i]? = (b :: rest)[0]? := by
    rw [← h, List.getElem?_drop, Nat.add_zero]
  rw [List.getD_eq_getElem?_getD, hget]
  rfl

/-- **Video**: the decoder reads back what the wire carries. -/
theorem decodeVideo_encodeVideo (n : VideoNalu) :
    decodeVideo (encodeVideo n) = .ok { n with
      ptsHostMono := carriedPts n.ptsHostMono, rtpTs := carriedTimestamp n.rtpTs } := by
  have hlen : ¬(encodeVideo n).length < 14 := by
    simp only [encodeVideo, List.length_append, length_encodePts, length_encodeTimestamp,
      List.length_cons, List.length_nil]
    omega
  have hpts : (encodeVideo n).take 8 = encodePts n.ptsHostMono := by simp [encodeVideo]
  have hts : ((encodeVideo n).drop 8).take 4 = encodeTimestamp n.rtpTs := by simp [encodeVideo]
  have hflag : (encodeVideo n).drop 12 = flag n.keyframe :: formatByte n.format :: n.data := by
    simp [encodeVideo, List.drop_append]
  have hformat : (encodeVideo n).drop 13 = formatByte n.format :: n.data := by
    rw [← List.drop_drop (i := 1) (j := 12), hflag]
    rfl
  have hdata : (encodeVideo n).drop 14 = n.data := by
    rw [← List.drop_drop (i := 2) (j := 12), hflag]
    rfl
  rw [decodeVideo, if_neg hlen, hpts, hts, hdata, getD_of_drop hflag, getD_of_drop hformat,
    decodePts_encodePts, decodeTimestamp_encodeTimestamp, flag_ne_zero, format_of_formatByte]

/-- **Audio**: the decoder reads back what the wire carries. -/
theorem decodeAudio_encodeAudio (a : AudioPacket) :
    decodeAudio (encodeAudio a) = .ok { a with
      ptsHostMono := carriedPts a.ptsHostMono, rtpTs := carriedTimestamp a.rtpTs } := by
  have hlen : ¬(encodeAudio a).length < 18 := by
    simp only [encodeAudio, List.length_append, length_encodePts, length_encodeTimestamp,
      length_be]
    omega
  have hpts : (encodeAudio a).take 8 = encodePts a.ptsHostMono := by simp [encodeAudio]
  have hts : ((encodeAudio a).drop 8).take 4 = encodeTimestamp a.rtpTs := by simp [encodeAudio]
  have htail : (encodeAudio a).drop 12 =
      be 4 a.sampleRate.toNat ++ (be 2 a.channels.toNat ++ a.data) := by
    simp [encodeAudio, List.drop_append, List.drop_of_length_le]
  have hrate : ((encodeAudio a).drop 12).take 4 = be 4 a.sampleRate.toNat := by simp [htail]
  have hchannels : ((encodeAudio a).drop 16).take 2 = be 2 a.channels.toNat := by
    rw [← List.drop_drop (i := 4) (j := 12), htail]
    simp
  have hdata : (encodeAudio a).drop 18 = a.data := by
    rw [← List.drop_drop (i := 6) (j := 12), htail]
    simp [List.drop_append, List.drop_of_length_le]
  have hrateValue : UInt32.ofNat (ofBe (be 4 a.sampleRate.toNat)) = a.sampleRate := by
    have hlt : a.sampleRate.toNat < byteValues 4 := UInt32.toNat_lt _
    rw [ofBe_be, Nat.mod_eq_of_lt hlt, UInt32.ofNat_toNat]
  have hchannelsValue : UInt16.ofNat (ofBe (be 2 a.channels.toNat)) = a.channels := by
    have hlt : a.channels.toNat < byteValues 2 := UInt16.toNat_lt _
    rw [ofBe_be, Nat.mod_eq_of_lt hlt, UInt16.ofNat_toNat]
  rw [decodeAudio, if_neg hlen, hpts, hts, hrate, hchannels, hdata, hrateValue, hchannelsValue,
    decodePts_encodePts, decodeTimestamp_encodeTimestamp]

/-- **Data**: the decoder reads back what was sent. -/
theorem decodeData_encodeData {m : DataMessage} {body : Bytes} (h : encodeData m = .ok body) :
    decodeData body = .ok m := by
  simp only [encodeData] at h
  split_ifs at h with hlabel
  obtain rfl := Except.ok.inj h
  have hlen : ofBe (be 2 (utf8 m.label).length) = (utf8 m.label).length := by
    rw [ofBe_be]
    exact Nat.mod_eq_of_lt (by show _ < 65536; omega)
  set body := flag m.unordered :: be 2 (utf8 m.label).length ++ utf8 m.label ++ m.data with hbody
  have hsize : body.length = 3 + (utf8 m.label).length + m.data.length := by
    simp only [hbody, List.cons_append, List.length_cons, List.length_append, length_be]
    omega
  have hfield : (body.drop 1).take 2 = be 2 (utf8 m.label).length := by simp [hbody]
  have htail : body.drop 3 = utf8 m.label ++ m.data := by simp [hbody]
  have htext : (body.drop 3).take (utf8 m.label).length = utf8 m.label := by
    rw [htail, List.take_left' rfl]
  have hdata : body.drop (3 + (utf8 m.label).length) = m.data := by
    rw [← List.drop_drop, htail, List.drop_left' rfl]
  have hflag : body.getD 0 0 = flag m.unordered := rfl
  have hlossy : fromUtf8Lossy (utf8 m.label) = m.label := by simp [fromUtf8Lossy]
  rw [decodeData, if_neg (by omega), hfield, hlen]
  simp only [htext, hdata, hflag, hlossy, flag_ne_zero]
  rw [if_neg (by omega)]

/-- The digits of a text are digits. -/
theorem isHexChar_of_mem_filter (value : String) :
    ∀ c ∈ value.toList.filter isHexDigit, isHexChar c = true :=
  fun _ hc => (List.mem_filter.mp hc).2

/-- The digest of a fingerprint has 32 bytes. -/
theorem length_digestBytes {fp : DtlsFingerprint} {digest : Bytes}
    (h : fp.digestBytes = .ok digest) : digest.length = 32 := by
  have hhex := isHexChar_of_mem_filter fp.value
  simp only [DtlsFingerprint.digestBytes, hexPairs_ofList hhex, Except.mapError] at h
  split_ifs at h with hcount
  rw [← Except.ok.inj h, length_pairBytes]
  omega

/-- **A payload of the sender** is read as its message, up to the times. -/
theorem readMsg_encode {f : PeerFrame} {body : Bytes} (h : f.encode = .ok body) :
    readMsg (f.kind :: body) = some f.received := by
  rcases f with ⟨fp, role⟩ | n | a | m
  · rcases hdigest : fp.digestBytes with e | digest
    · simp [PeerFrame.encode, encodeHello, hdigest, Except.map] at h
    have hlen : digest.length = 32 := length_digestBytes hdigest
    obtain rfl : ctrlHello :: digest ++ [roleByte role] = body := by
      simpa [PeerFrame.encode, encodeHello, hdigest, Except.map] using h
    have hread : decodeHello (digest ++ [roleByte role]) = .ok (bytesToHex digest) := by
      rw [decodeHello, if_neg (by rw [List.length_append]; omega), List.take_left' hlen]
    show (decodeHello (digest ++ [roleByte role])).toOption.map WireMsg.hello = _
    rw [hread]
    simp [PeerFrame.received, PeerFrame.message, hdigest, Except.toOption]
  · obtain rfl := Except.ok.inj h
    show (decodeVideo (encodeVideo n)).toOption.map WireMsg.video = _
    rw [decodeVideo_encodeVideo]
    rfl
  · obtain rfl := Except.ok.inj h
    show (decodeAudio (encodeAudio a)).toOption.map WireMsg.audio = _
    rw [decodeAudio_encodeAudio]
    rfl
  · show (decodeData body).toOption.map WireMsg.data = _
    rw [decodeData_encodeData h]
    rfl

/-- A message arrives as it was sent if and only if its times are carried. -/
theorem received_eq_message_iff {f : PeerFrame} : f.received = f.message ↔ f.ExactTimes := by
  rcases f with ⟨fp, role⟩ | ⟨pts, ts, key, format, data⟩ | ⟨pts, ts, rate, channels, data⟩ | m
  · simp [PeerFrame.received, PeerFrame.ExactTimes]
  · simp only [PeerFrame.received, PeerFrame.message, PeerFrame.ExactTimes, WireMsg.video.injEq,
      VideoNalu.mk.injEq, carriedPts_eq_iff, carriedTimestamp_eq_iff, Net.ExactTimes, and_true,
      and_assoc]
  · simp only [PeerFrame.received, PeerFrame.message, PeerFrame.ExactTimes, WireMsg.audio.injEq,
      AudioPacket.mk.injEq, carriedPts_eq_iff, carriedTimestamp_eq_iff, Net.ExactTimes, and_true,
      and_assoc]
  · simp [PeerFrame.received, PeerFrame.ExactTimes]

/-! ## Frames -/

namespace WrittenFrame

variable {f : WrittenFrame}

/-- The declared length of a written frame. -/
theorem declared_le (f : WrittenFrame) : 1 + f.body.length % u32Size ≤ maxFrameBody := by
  have h := f.written
  simp only [writeFrame] at h
  split_ifs at h with hsum hmax
  omega

/-- A written frame is on the stream as a whole. -/
theorem bytes_eq (f : WrittenFrame) : f.bytes = frame f.source.kind f.body := by
  have h := f.declared_le
  have hsmall : ¬1 + f.body.length % u32Size ≥ u32Size := by
    simp only [maxFrameBody] at h
    simp only [u32Size] at h ⊢
    omega
  simp only [bytes, writeFrame, if_neg hsmall, if_neg (Nat.not_lt.mpr h)]

/-- A frame whose length is not cut declares it. -/
theorem readFrame_bytes (h : f.body.length < u32Size) (rest : Bytes) :
    readFrame (f.bytes ++ rest) = .frame (f.source.kind :: f.body) rest := by
  have hle : 1 + f.body.length ≤ maxFrameBody := by
    have := f.declared_le
    rwa [Nat.mod_eq_of_lt h] at this
  have hlt : 1 + f.body.length < byteValues 4 := Nat.lt_of_le_of_lt hle (by decide)
  have hbytes : f.bytes ++ rest = be 4 (1 + f.body.length) ++
      ((f.source.kind :: f.body) ++ rest) := by
    rw [bytes_eq, frame, Nat.mod_eq_of_lt h, List.append_assoc]
  have hprefix : (f.bytes ++ rest).take 4 = be 4 (1 + f.body.length) := by
    rw [hbytes, List.take_left' (length_be 4 _)]
  have htail : (f.bytes ++ rest).drop 4 = (f.source.kind :: f.body) ++ rest := by
    rw [hbytes, List.drop_left' (length_be 4 _)]
  have hlen : (f.bytes ++ rest).length = 4 + (1 + f.body.length) + rest.length := by
    rw [hbytes]
    simp only [List.length_append, length_be, List.length_cons]
    omega
  have hbody : ((f.bytes ++ rest).drop 4).take (1 + f.body.length) = f.source.kind :: f.body := by
    rw [htail, List.take_left' (by rw [List.length_cons]; omega)]
  have hrest : (f.bytes ++ rest).drop (4 + (1 + f.body.length)) = rest := by
    rw [← List.drop_drop, htail, List.drop_left' (by rw [List.length_cons]; omega)]
  have hfits : ¬(1 + f.body.length = 0 ∨ 1 + f.body.length > maxFrameBody) := by omega
  have hthere : ¬(f.bytes ++ rest).length < 4 := by omega
  have hwhole : ¬(f.bytes ++ rest).length < 4 + (1 + f.body.length) := by omega
  simp only [readFrame, if_neg hthere, hprefix, ofBe_be, Nat.mod_eq_of_lt hlt, if_neg hfits,
    if_neg hwhole, hbody, hrest]

/-- A part of a frame is not read. -/
theorem readFrame_short (h : f.body.length < u32Size) {part more : Bytes}
    (hpart : part ++ more = f.bytes) (hmore : more ≠ []) : readFrame part = .short := by
  have hle : 1 + f.body.length ≤ maxFrameBody := by
    have := f.declared_le
    rwa [Nat.mod_eq_of_lt h] at this
  have hlt : 1 + f.body.length < byteValues 4 := Nat.lt_of_le_of_lt hle (by decide)
  have hbytes : part ++ more = be 4 (1 + f.body.length) ++ f.source.kind :: f.body := by
    rw [hpart, bytes_eq, frame, Nat.mod_eq_of_lt h]
  have hlen : part.length + more.length = 4 + (1 + f.body.length) := by
    have := congrArg List.length hbytes
    simp only [List.length_append, length_be, List.length_cons] at this
    omega
  have hpos : 0 < more.length := List.length_pos_iff.mpr hmore
  unfold readFrame
  by_cases hfour : part.length < 4
  · rw [if_pos hfour]
  · have hprefix : part.take 4 = be 4 (1 + f.body.length) := by
      have := congrArg (List.take 4) hbytes
      rwa [List.take_append_of_le_length (by omega), List.take_left' (length_be 4 _)] at this
    have hfits : ¬(1 + f.body.length = 0 ∨ 1 + f.body.length > maxFrameBody) := by omega
    have hpartial : part.length < 4 + (1 + f.body.length) := by omega
    simp only [if_neg hfour, hprefix, ofBe_be, Nat.mod_eq_of_lt hlt, if_neg hfits,
      if_pos hpartial]

end WrittenFrame

/-! ## The sender -/

/-- A write that succeeds has put the whole frame onto the stream. -/
theorem writeFrame_ok {kind : UInt8} {body bytes : Bytes} {broken : Option (Nat × String)}
    (h : writeFrame kind body broken = (.ok (), bytes)) :
    writeFrame kind body none = (.ok (), bytes) := by
  cases broken with
  | none => exact h
  | some failure =>
    simp only [writeFrame] at h
    split_ifs at h
    all_goals cases h

/-- A frame of the sender that is written as `bytes`. -/
theorem exists_writtenFrame {source : PeerFrame} {body bytes : Bytes}
    (hencoded : source.encode = .ok body)
    (hwritten : writeFrame source.kind body none = (.ok (), bytes)) :
    ∃ f : WrittenFrame, f.source = source ∧ f.bytes = bytes :=
  ⟨⟨source, body, hencoded, by rw [hwritten]⟩, rfl, by rw [WrittenFrame.bytes, hwritten]⟩

namespace LivePeer

open WrittenFrame (stream)

variable {p p' : LivePeer} {io : LiveIo}

/-- A stream that is attached begins with the frame of the Hello. -/
theorem attachStream_ok (h : attachStream io p = .ok () p') :
    ∃ f : WrittenFrame, f.source = .hello p.localFp p.role ∧ p'.writer = some (stream [f]) := by
  unfold attachStream at h
  obtain ⟨_, p₁, hdelay, h₁⟩ := bind_ok.mp h
  obtain ⟨-, rfl⟩ := ofExcept_ok hdelay
  obtain ⟨_, p₂, hclone, h₂⟩ := bind_ok.mp h₁
  obtain ⟨-, rfl⟩ := ofExcept_ok hclone
  obtain ⟨q, p₃, hget, h₃⟩ := bind_ok.mp h₂
  obtain ⟨rfl, rfl⟩ := EStateM.Result.ok.inj hget
  obtain ⟨hello, p₄, hencode, h₄⟩ := bind_ok.mp h₃
  obtain ⟨hencoded, rfl⟩ := ofExcept_ok hencode
  rcases hwrite : writeFrame kindControl hello io.broken with ⟨sent, written⟩
  rw [hwrite] at h₄
  obtain ⟨_, p₅, hsent, h₅⟩ := bind_ok.mp h₄
  obtain ⟨rfl, rfl⟩ := ofExcept_ok hsent
  obtain ⟨_, p₆, hspawn, h₆⟩ := bind_ok.mp h₅
  obtain ⟨-, rfl⟩ := ofExcept_ok hspawn
  obtain ⟨-, rfl⟩ := EStateM.Result.ok.inj h₆
  have hframe : (PeerFrame.hello p₆.localFp p₆.role).encode = .ok hello := hencoded
  obtain ⟨f, hsource, hbytes⟩ := exists_writtenFrame hframe (writeFrame_ok hwrite)
  exact ⟨f, hsource, by simp [stream, hbytes]⟩

/-- A frame that is sent is on the stream as a whole, behind the others. -/
theorem sendFrame_ok {kind : UInt8} {body : Bytes} (h : sendFrame kind body io p = .ok () p') :
    ∃ bytes written, writeFrame kind body none = (.ok (), bytes) ∧ p.writer = some written ∧
      p'.writer = some (written ++ bytes) := by
  unfold sendFrame at h
  obtain ⟨_, p₁, hopen, h₁⟩ := bind_ok.mp h
  have hsame : p₁ = p := by
    unfold ensureOpen at hopen
    split_ifs at hopen
    exact (EStateM.Result.ok.inj hopen).2.symm
  rw [hsame] at h₁
  obtain ⟨q, p₂, hget, h₂⟩ := bind_ok.mp h₁
  obtain ⟨rfl, rfl⟩ := EStateM.Result.ok.inj hget
  split_ifs at h₂ with hstate hwriter
  · cases h₂
  · cases h₂
  rcases hwrite : writeFrame kind body io.broken with ⟨sent, bytes⟩
  rw [hwrite] at h₂
  obtain ⟨_, p₃, hmodify, h₃⟩ := bind_ok.mp h₂
  obtain ⟨-, rfl⟩ := EStateM.Result.ok.inj hmodify
  obtain ⟨rfl, rfl⟩ := ofExcept_ok h₃
  rcases hwritten : p.writer with _ | written
  · simp [hwritten] at hwriter
  · exact ⟨bytes, written, writeFrame_ok hwrite, rfl, by simp [wrote, hwritten]⟩

/-- **What is sent is written** as one frame behind the others. -/
theorem send_ok {m : Sent} (h : send m io p = .ok () p') :
    ∃ (f : WrittenFrame) (written : Bytes), f.source = .sent m ∧ p.writer = some written ∧
      p'.writer = some (written ++ f.bytes) := by
  have hframe : ∃ body bytes written, (PeerFrame.sent m).encode = .ok body ∧
      writeFrame (PeerFrame.sent m).kind body none = (.ok (), bytes) ∧
      p.writer = some written ∧ p'.writer = some (written ++ bytes) := by
    cases m with
    | video n =>
      have hsend : sendFrame kindVideo (encodeVideo n) io p = .ok () p' := h
      obtain ⟨bytes, written, hwrite, hwriter⟩ := sendFrame_ok hsend
      exact ⟨encodeVideo n, bytes, written, rfl, hwrite, hwriter⟩
    | audio a =>
      have hsend : sendFrame kindAudio (encodeAudio a) io p = .ok () p' := h
      obtain ⟨bytes, written, hwrite, hwriter⟩ := sendFrame_ok hsend
      exact ⟨encodeAudio a, bytes, written, rfl, hwrite, hwriter⟩
    | data m =>
      obtain ⟨body, p₁, hencode, hsend⟩ := bind_ok.mp h
      obtain ⟨hbody, rfl⟩ := ofExcept_ok hencode
      obtain ⟨bytes, written, hwrite, hwriter⟩ := sendFrame_ok hsend
      exact ⟨body, bytes, written, hbody, hwrite, hwriter⟩
  obtain ⟨body, bytes, written, hbody, hwrite, hwriter, hwriter'⟩ := hframe
  obtain ⟨f, hsource, hbytes⟩ := exists_writtenFrame hbody hwrite
  exact ⟨f, written, hsource, hwriter, by rw [hwriter', hbytes]⟩

/-- **A stream is made of written frames**: sends in sequence put their frames onto it in their
order. -/
theorem sends_ok {ms : List (Sent × LiveIo)} {fs : List WrittenFrame}
    (hp : p.writer = some (stream fs))
    (h : ms.forM (fun m => send m.1 m.2) p = .ok () p') :
    ∃ gs : List WrittenFrame, p'.writer = some (stream (fs ++ gs)) ∧
      gs.map (·.source) = ms.map fun m => .sent m.1 := by
  induction ms generalizing p fs with
  | nil =>
    obtain ⟨-, rfl⟩ := EStateM.Result.ok.inj h
    exact ⟨[], by rw [List.append_nil]; exact hp, rfl⟩
  | cons m ms ih =>
    obtain ⟨_, p₁, hsend, hrest⟩ := bind_ok.mp h
    obtain ⟨f, written, hsource, hwritten, hwriter⟩ := send_ok hsend
    have hstream : p₁.writer = some (stream (fs ++ [f])) := by
      rw [hwriter, ← Option.some.inj (hp.symm.trans hwritten)]
      simp [stream]
    obtain ⟨gs, hgs, hsources⟩ := ih hstream hrest
    refine ⟨f :: gs, ?_, by rw [List.map_cons, List.map_cons, hsource, hsources]⟩
    rw [hgs, List.append_assoc]
    rfl

end LivePeer

/-! ## The reader on a stream of frames -/

namespace Inbound

open WrittenFrame (stream)

variable {fs : List WrittenFrame} {i : Inbound}

theorem run_cons (i : Inbound) (e : ReaderEvent) (es : List ReaderEvent) :
    i.run (e :: es) = (i.next e).run es := rfl

theorem run_append (i : Inbound) (es es' : List ReaderEvent) :
    i.run (es ++ es') = (i.run es).run es' := List.foldl_append

/-- A whole frame is read as its message. -/
theorem read_bytes {f : WrittenFrame} (hcut : f.body.length < u32Size) {rest : Bytes}
    (hreading : i.reading = true) (harrived : i.arrived = f.bytes ++ rest) :
    i.read = { i with queue := i.queue ++ [f.source.received], arrived := rest } := by
  have hmsg : readMsg (f.source.kind :: f.body) = some f.source.received := readMsg_encode f.encoded
  simp only [read, hreading, not_true_eq_false, if_false, harrived,
    WrittenFrame.readFrame_bytes hcut, hmsg, Option.toList_some]

/-- Part of a frame keeps the reader waiting. -/
theorem read_part {f : WrittenFrame} (hcut : f.body.length < u32Size) {more : Bytes}
    (hopen : i.ended = false) (hpart : i.arrived ++ more = f.bytes) (hmore : more ≠ []) :
    i.read = i := by
  simp only [read, WrittenFrame.readFrame_short hcut hpart hmore, hopen, Bool.false_eq_true,
    if_false, ite_self]

/-- Nothing keeps the reader waiting. -/
theorem read_nothing (hopen : i.ended = false) (hnone : i.arrived = []) : i.read = i := by
  simp [read, hnone, readFrame, hopen]

/-- Of the bytes that have arrived a frame is a beginning, or they are a part of it. -/
theorem part_or_whole {arrived coming frame rest : Bytes}
    (h : arrived ++ coming = frame ++ rest) :
    (∃ more, more ≠ [] ∧ arrived ++ more = frame) ∨
      ∃ left, arrived = frame ++ left ∧ left ++ coming = rest := by
  rcases List.append_eq_append_iff.mp h with ⟨more, hmore, hcoming⟩ | ⟨left, hleft, hrest⟩
  · by_cases hnil : more = []
    · subst hnil
      exact .inr ⟨[], by simpa using hmore.symm, hcoming⟩
    · exact .inl ⟨more, hnil, hmore.symm⟩
  · exact .inr ⟨left, hleft, hrest.symm⟩

/-- **The frames of a stream are read as they come**: when all of its bytes have arrived, in any
parts and with turns of the reader at any times, some of the frames have been read and the bytes of
the others wait.

**Proof sketch.** Induction on the events. A turn finds nothing, a part of the next frame, or all
of it: the bytes that have arrived are a prefix of the frames that are left. -/
theorem run_stream (es : List ReaderEvent) (hcut : ∀ f ∈ fs, f.body.length < u32Size)
    (hreading : i.reading = true) (hopen : i.ended = false)
    (hbytes : i.arrived ++ arrivals es = stream fs) :
    ∃ done rest, fs = done ++ rest ∧
      i.run es = ⟨i.queue ++ done.map (·.source.received), stream rest, false, true⟩ := by
  induction es generalizing i fs with
  | nil =>
    refine ⟨[], fs, rfl, ?_⟩
    obtain ⟨queue, arrived, ended, reading⟩ := i
    simp only [arrivals, List.flatMap_nil, List.append_nil] at hreading hopen hbytes
    simp only [hreading, hopen, hbytes, run, List.foldl_nil, List.map_nil, List.append_nil]
  | cons e es ih =>
    cases e with
    | arrive chunk =>
      have harrive : i.arrive chunk = { i with arrived := i.arrived ++ chunk } := by
        simp [arrive, hopen]
      obtain ⟨done, rest, hsplit, hrun⟩ := ih (i := i.arrive chunk) hcut
        (by rw [harrive]; exact hreading) (by rw [harrive]; exact hopen)
        (by rw [harrive, ← hbytes]; simp [arrivals])
      refine ⟨done, rest, hsplit, ?_⟩
      rw [run_cons]
      show (i.arrive chunk).run es = _
      rw [hrun, harrive]
    | read =>
      rw [run_cons]
      show ∃ done rest, _ ∧ i.read.run es = _
      have hbytes' : i.arrived ++ arrivals es = stream fs := hbytes
      cases fs with
      | nil =>
        have hnone : i.arrived = [] := (List.append_eq_nil_iff.mp hbytes').1
        rw [read_nothing hopen hnone]
        exact ih hcut hreading hopen hbytes'
      | cons f fs =>
        have hf : f.body.length < u32Size := hcut f (by simp)
        have hnext : i.arrived ++ arrivals es = f.bytes ++ stream fs := hbytes'
        rcases part_or_whole hnext with ⟨more, hmore, hpart⟩ | ⟨rest, hrest, hleft⟩
        · rw [read_part hf hopen hpart hmore]
          exact ih hcut hreading hopen hbytes'
        · have hread := read_bytes hf hreading hrest
          obtain ⟨done, rest', hsplit, hrun⟩ := @ih fs i.read
            (fun g hg => hcut g (by simp [hg])) (by rw [hread]; exact hreading)
            (by rw [hread]; exact hopen) (by rw [hread]; exact hleft)
          exact ⟨f :: done, rest', by rw [hsplit]; rfl, by rw [hrun, hread]; simp⟩

/-- With a turn for each frame that waits, all of them are read. -/
theorem run_turns (hcut : ∀ f ∈ fs, f.body.length < u32Size) (hreading : i.reading = true)
    (hopen : i.ended = false) (harrived : i.arrived = stream fs) {turns : Nat}
    (hturns : fs.length ≤ turns) :
    (i.run (List.replicate turns .read)).queue = i.queue ++ fs.map (·.source.received) := by
  induction turns generalizing i fs with
  | zero =>
    obtain rfl : fs = [] := List.length_eq_zero_iff.mp (by omega)
    simp [run]
  | succ turns ih =>
    rw [List.replicate_succ, run_cons]
    show (i.read.run _).queue = _
    cases fs with
    | nil =>
      rw [read_nothing hopen harrived]
      exact ih hcut hreading hopen harrived (by simp)
    | cons f fs =>
      have hread := read_bytes (hcut f (by simp)) hreading harrived
      have hrest : fs.length ≤ turns := by
        simp only [List.length_cons] at hturns
        omega
      rw [ih (fun g hg => hcut g (by simp [hg])) (by rw [hread]; exact hreading)
        (by rw [hread]; exact hopen) (by rw [hread]; rfl) hrest, hread]
      simp

end Inbound

/-! ## The size of what is read -/

/-- The number of bytes of media or data in a message. -/
def WireMsg.size : WireMsg → Nat
  | .video n => n.data.length
  | .audio a => a.data.length
  | .data m => m.data.length
  | .peerClose | .hello _ => 0

/-- A message is not longer than its frame. -/
theorem size_readMsg {body : Bytes} {m : WireMsg} (h : readMsg body = some m) :
    m.size ≤ body.length := by
  obtain _ | ⟨kind, p⟩ := body
  · cases h
  have hle : p.length ≤ (kind :: p).length := by simp
  simp only [readMsg] at h
  split_ifs at h
  · rcases hdecode : decodeVideo p with e | n
    · simp [hdecode, Except.toOption] at h
    obtain rfl : WireMsg.video n = m := by simpa [hdecode, Except.toOption] using h
    rw [decodeVideo] at hdecode
    by_cases hshort : p.length < 14
    · simp [hshort] at hdecode
    rw [if_neg hshort] at hdecode
    obtain rfl := Except.ok.inj hdecode
    simp only [WireMsg.size, List.length_drop]
    omega
  · rcases hdecode : decodeAudio p with e | a
    · simp [hdecode, Except.toOption] at h
    obtain rfl : WireMsg.audio a = m := by simpa [hdecode, Except.toOption] using h
    simp only [decodeAudio] at hdecode
    split_ifs at hdecode
    obtain rfl := Except.ok.inj hdecode
    simp only [WireMsg.size, List.length_drop]
    omega
  · rcases hdecode : decodeData p with e | d
    · simp [hdecode, Except.toOption] at h
    obtain rfl : WireMsg.data d = m := by simpa [hdecode, Except.toOption] using h
    simp only [decodeData] at hdecode
    split_ifs at hdecode
    obtain rfl := Except.ok.inj hdecode
    simp only [WireMsg.size, List.length_drop]
    omega
  · have hcontrol : m.size = 0 := by
      obtain _ | ⟨op, payload⟩ := p
      · cases h
      simp only [readControl] at h
      split_ifs at h
      · obtain ⟨hex, -, rfl⟩ := Option.map_eq_some_iff.mp h
        rfl
      · obtain rfl := Option.some.inj h
        rfl
    omega

namespace Inbound

variable {i : Inbound}

/-- The reader takes no message that is longer than the longest frame. -/
theorem size_next (h : ∀ m ∈ i.queue, m.size ≤ maxFrameBody) (e : ReaderEvent) :
    ∀ m ∈ (i.next e).queue, m.size ≤ maxFrameBody := by
  have hstop : ∀ m ∈ i.stop.queue, m.size ≤ maxFrameBody := by
    intro m hm
    rcases List.mem_append.mp hm with hm | hm
    · exact h m hm
    · obtain rfl : m = .peerClose := by simpa using hm
      exact Nat.zero_le _
  cases e with
  | arrive chunk =>
    show ∀ m ∈ (i.arrive chunk).queue, _
    unfold arrive
    split_ifs
    · exact h
    · exact h
  | read =>
    show ∀ m ∈ i.read.queue, _
    unfold read
    by_cases hreading : i.reading = true
    · rw [if_neg (not_not.mpr hreading)]
      rcases hread : readFrame i.arrived with ⟨body, rest⟩ | _ | _
      · have hbody : body.length ≤ maxFrameBody := by
          simp only [readFrame] at hread
          split_ifs at hread with hfour hfits hwhole
          obtain ⟨rfl, -⟩ := FrameRead.frame.inj hread
          rw [List.length_take]
          omega
        intro m hm
        rcases List.mem_append.mp hm with hm | hm
        · exact h m hm
        · have hsize := size_readMsg (Option.mem_toList.mp hm)
          omega
      · exact hstop
      · by_cases hended : i.ended = true
        · simpa only [hended, if_true] using hstop
        · simpa only [hended, Bool.false_eq_true, if_false] using h
    · rw [if_pos hreading]
      exact h

/-- **No long message is ever read**, whatever arrives. -/
theorem size_run (es : List ReaderEvent) (h : ∀ m ∈ i.queue, m.size ≤ maxFrameBody) :
    ∀ m ∈ (i.run es).queue, m.size ≤ maxFrameBody := by
  induction es generalizing i with
  | nil => exact h
  | cons e es ih => exact ih (size_next h e)

end Inbound

namespace WrittenFrame

/-- A frame whose length is cut has a message that is too long to be read. -/
theorem size_of_cut {f : WrittenFrame} (h : ¬f.body.length < u32Size) :
    maxFrameBody < f.message.size := by
  obtain ⟨source, body, hencoded, hwritten⟩ := f
  simp only [u32Size] at h
  simp only [maxFrameBody, message]
  rcases source with ⟨fp, role⟩ | n | a | m
  · rcases hdigest : fp.digestBytes with e | digest
    · simp [PeerFrame.encode, encodeHello, hdigest, Except.map] at hencoded
    have hlen : digest.length = 32 := length_digestBytes hdigest
    obtain rfl : ctrlHello :: digest ++ [roleByte role] = body := by
      simpa [PeerFrame.encode, encodeHello, hdigest, Except.map] using hencoded
    simp only [List.length_append, List.length_cons, List.length_nil] at h
    omega
  · obtain rfl := Except.ok.inj hencoded
    simp only [encodeVideo, List.length_append, length_encodePts, length_encodeTimestamp,
      List.length_cons, List.length_nil] at h
    simp only [PeerFrame.message, WireMsg.size]
    omega
  · obtain rfl := Except.ok.inj hencoded
    simp only [encodeAudio, List.length_append, length_encodePts, length_encodeTimestamp,
      length_be] at h
    simp only [PeerFrame.message, WireMsg.size]
    omega
  · simp only [PeerFrame.encode, encodeData] at hencoded
    split_ifs at hencoded with hlabel
    obtain rfl := Except.ok.inj hencoded
    simp only [List.length_append, List.length_cons, length_be] at h
    simp only [PeerFrame.message, WireMsg.size]
    omega

end WrittenFrame

/-! ## The round trip -/

open WrittenFrame (stream)

/-- What the reader has emitted for frames whose lengths are not cut. -/
theorem queue_received {fs : List WrittenFrame} (hcut : ∀ f ∈ fs, f.body.length < u32Size)
    {es : List ReaderEvent} (hes : arrivals es = stream fs) {turns : Nat}
    (hturns : fs.length ≤ turns) :
    (Inbound.fresh.run (es ++ List.replicate turns .read)).queue =
      fs.map (·.source.received) := by
  obtain ⟨done, rest, rfl, hrun⟩ :=
    Inbound.run_stream (i := .fresh) es hcut rfl rfl (by rw [hes]; rfl)
  have hrest : rest.length ≤ turns := by
    rw [List.length_append] at hturns
    omega
  rw [Inbound.run_append, hrun,
    Inbound.run_turns (fun f hf => hcut f (by simp [hf])) rfl rfl rfl hrest]
  simp [Inbound.fresh]

/-- **The peer wire**: the reader emits exactly the messages that were sent, in their order and
however the stream is split, if and only if every frame is exact: the times of every sample are
carried, and no payload is so long that its length is cut.

**Proof sketch.** While no length is cut, the reader emits what each frame carries, and that is the
message sent exactly when the times are carried. A frame whose length is cut has a message longer
than any that the reader can emit. -/
theorem live_round_trip (fs : List WrittenFrame) :
    Emits (stream fs) (fs.map WrittenFrame.message) ↔ ∀ f ∈ fs, f.Exact := by
  by_cases hcut : ∀ f ∈ fs, f.body.length < u32Size
  · have hmessages : fs.map (·.source.received) = fs.map WrittenFrame.message ↔
        ∀ f ∈ fs, f.Exact := by
      rw [List.map_inj_left]
      constructor
      · intro h f hf
        exact ⟨received_eq_message_iff.mp (h f hf), hcut f hf⟩
      · intro h f hf
        exact received_eq_message_iff.mpr (h f hf).1
    rw [← hmessages]
    constructor
    · intro h
      have hall := h [.arrive (stream fs)] (by simp [arrivals]) fs.length (by simp)
      rw [← hall]
      exact (queue_received hcut (by simp [arrivals]) (Nat.le_refl _)).symm
    · intro h es hes turns hturns
      rw [List.length_map] at hturns
      rw [queue_received hcut hes hturns, h]
  · have hlong : ∃ f ∈ fs, ¬f.body.length < u32Size := by
      simpa only [not_forall, exists_prop] using hcut
    obtain ⟨f, hf, hcutf⟩ := hlong
    constructor
    · intro h
      exfalso
      have hall := h [.arrive (stream fs)] (by simp [arrivals]) _ (Nat.le_refl _)
      have hmem : f.message ∈ fs.map WrittenFrame.message := List.mem_map.mpr ⟨f, hf, rfl⟩
      rw [← hall] at hmem
      have hsmall := Inbound.size_run (i := .fresh) _ (by simp [Inbound.fresh]) _ hmem
      have hbig := WrittenFrame.size_of_cut hcutf
      omega
    · intro h
      exact absurd (h f hf).2 hcutf

/-- A video sample with the largest timestamp. -/
def demoLastTimestamp : WrittenFrame where
  source := .sent (.video ⟨0, some 4294967295, true, .annexB, [7]⟩)
  body := encodeVideo ⟨0, some 4294967295, true, .annexB, [7]⟩
  encoded := rfl
  written := by decide

/-- **The round trip fails** for a sample with the largest timestamp: it is read without one. -/
theorem live_round_trip_fails :
    ¬∀ fs : List WrittenFrame, Emits (stream fs) (fs.map WrittenFrame.message) := by
  intro h
  have hall := h [demoLastTimestamp] [.arrive (stream [demoLastTimestamp])] (by simp [arrivals]) 1
    (Nat.le_refl _)
  revert hall
  decide

end RemoteLink.Net
