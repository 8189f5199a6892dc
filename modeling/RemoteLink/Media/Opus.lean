import RemoteLink.Library.LittleEndian
import RemoteLink.Media.RtpClock
import RemoteLink.Viewer.Decode

set_option autoImplicit false

/-!
# Mock Opus

The mock Opus encoder packs the samples of an audio frame behind a header of 14 bytes: a magic, the
sample rate, the channels and the number of frames. The decoder checks the magic and the size, and
takes the rest of the header as it is.

A step that can panic is an `Option`: `none` is a panic.

## Main definitions

* `MockOpusEncoder.encode`, `MockOpusDecoder.decode` — the two ends.
* `Degenerate` — the packets whose size is right but whose rate or channels are zero.
* `OpusFormat` — what the packet format promises.

## Main results

* `decode_encode` — the decoder gives back what the encoder packs.
* `decode_ok_iff` — the packets that the decoder accepts, and the frame of each.
* `opus_format_iff` — the format keeps its promises, except for degenerate packets.
-/

namespace RemoteLink.Media

open Library

/-! ## Audio frames -/

/-- The samples that a frame declares. -/
inductive SampleFormat where
  | s16Le
  | f32Le
  deriving Repr, DecidableEq

/-- Samples with the time of the first. -/
structure AudioFrame where
  ptsHostMono : Duration
  sampleRate : UInt32
  channels : UInt16
  format : SampleFormat
  pcmS16 : List Int16
  deriving DecidableEq

namespace AudioFrame

/-- The samples of each channel. -/
def frameCount (f : AudioFrame) : ℕ :=
  if f.channels = 0 then 0 else f.pcmS16.length / f.channels.toNat

/-- The time that the samples take. -/
def duration (f : AudioFrame) : Duration :=
  if f.sampleRate = 0 then .zero
  else .fromNanos (.ofNat
    (min (f.frameCount * 1000000000) 18446744073709551615 / f.sampleRate.toNat))

/-- A frame of 16-bit samples. -/
def fromS16 (ptsHostMono : Duration) (sampleRate : UInt32) (channels : UInt16)
    (pcmS16 : List Int16) : AudioFrame :=
  ⟨ptsHostMono, sampleRate, channels, .s16Le, pcmS16⟩

end AudioFrame

/-! ## Packets -/

/-- Why a frame or a packet is refused. -/
inductive OpusError where
  | invalidPcm (reason : String)
  | invalidPacket (reason : String)
  | unsupported (reason : String)
  deriving Repr, DecidableEq

/-- The text of an error. -/
def OpusError.text : OpusError → String
  | .invalidPcm m => "invalid PCM: " ++ m
  | .invalidPacket m => "invalid packet: " ++ m
  | .unsupported m => "unsupported: " ++ m

/-- A packet. -/
structure OpusFrame where
  ptsHostMono : Duration
  rtpTs : UInt32
  duration : Duration
  channels : UInt16
  data : Bytes
  deriving DecidableEq

/-- The magic of a packet: `MOPU`. -/
def mockMagic : Bytes := [0x4D, 0x4F, 0x50, 0x55]

/-- The bytes of samples. -/
def pcmBytes (pcm : List Int16) : Bytes := pcm.flatMap fun s => le 2 s.toUInt16.toNat

/-- The bytes of a packet. -/
def packetBytes (sampleRate : UInt32) (channels : UInt16) (frameCount : UInt32)
    (pcm : List Int16) : Bytes :=
  mockMagic ++ (le 4 sampleRate.toNat ++ (le 2 channels.toNat ++
    (le 4 frameCount.toNat ++ pcmBytes pcm)))

/-! ## The encoder -/

/-- The encoder: the timestamp of the next packet without an epoch, and the epoch. -/
structure MockOpusEncoder where
  nextRtpTs : UInt32
  epoch : Option RtpEpoch

namespace MockOpusEncoder

/-- An encoder without an epoch. -/
def new : MockOpusEncoder := ⟨0, none⟩

/-- An encoder of a session. -/
def withEpoch (epoch : RtpEpoch) : MockOpusEncoder := ⟨0, some epoch⟩

/-- Bind another epoch. -/
def setEpoch (_ : MockOpusEncoder) (epoch : RtpEpoch) : MockOpusEncoder := ⟨0, some epoch⟩

/-- Leave the epoch. -/
def clearEpoch (e : MockOpusEncoder) : MockOpusEncoder := { e with epoch := none }

/-- Set the next timestamp. -/
def resetRtpTs (e : MockOpusEncoder) (ts : UInt32) : MockOpusEncoder := { e with nextRtpTs := ts }

/-- The timestamp of a frame, and by how much the next one is later. `floatTicks` are the ticks of
the audio clock in a duration, computed in floating point and rounded. -/
def stamp (floatTicks : Duration → UInt32) (e : MockOpusEncoder) (f : AudioFrame) :
    Option (UInt32 × UInt32) :=
  match e.epoch with
  | some epoch =>
    let ts := epoch.audioTs f.ptsHostMono
    -- The sum of durations panics when it is too long.
    (f.ptsHostMono.checkedAdd f.duration).map fun nextPts => (ts, epoch.audioTs nextPts - ts)
  | none =>
    let advance :=
      if f.sampleRate = 48000 then .ofNat f.frameCount else floatTicks f.duration
    some (e.nextRtpTs, advance)

/-- Encode a frame. -/
def encode (floatTicks : Duration → UInt32) (e : MockOpusEncoder) (f : AudioFrame) :
    Option (Except OpusError OpusFrame × MockOpusEncoder) :=
  if f.channels = 0 then some (.error (.invalidPcm "channels == 0"), e)
  else if ¬f.channels.toNat ∣ f.pcmS16.length then
    some (.error (.invalidPcm "pcm length not divisible by channels"), e)
  else if f.sampleRate = 0 then some (.error (.invalidPcm "sample_rate == 0"), e)
  else
    (e.stamp floatTicks f).map fun (rtpTs, advance) =>
      (.ok {
        ptsHostMono := f.ptsHostMono
        rtpTs
        duration := f.duration
        channels := f.channels
        data := packetBytes f.sampleRate f.channels (.ofNat f.frameCount) f.pcmS16 },
      { e with nextRtpTs := rtpTs + advance })

end MockOpusEncoder

/-! ## The decoder -/

/-- A slice of bytes; one that does not fit panics. -/
def slice (data : Bytes) (first last : ℕ) : Option Bytes :=
  if first ≤ last ∧ last ≤ data.length then some (bytesAt data first (last - first)) else none

/-- The number of exactly so many bytes; another number of bytes panics. -/
def fromLeBytes (width : ℕ) (bytes : Bytes) : Option ℕ :=
  if bytes.length = width then some (ofLe bytes) else none

/-- A number in a slice of bytes. -/
def numberAt (data : Bytes) (first last : ℕ) : Option ℕ :=
  (slice data first last).bind (fromLeBytes (last - first))

/-- A word of memory size; one that is too large panics. -/
def usize (n : ℕ) : Option ℕ := if n < 18446744073709551616 then some n else none

/-- The samples from an offset on, behind those read so far. -/
def readPcm (data : Bytes) : ℕ → ℕ → List Int16 → Option (List Int16)
  | 0, _, _ => none
  | fuel + 1, off, pcm =>
    if off + 2 ≤ data.length then do
      let low ← data[off]?
      let high ← data[off + 1]?
      readPcm data fuel (off + 2) (pcm ++ [(UInt16.ofNat (ofLe [low, high])).toInt16])
    else some pcm

/-- Decode a packet. -/
def MockOpusDecoder.decode (p : OpusFrame) : Option (Except OpusError AudioFrame) :=
  if p.data.length < 14 then some (.error (.invalidPacket "too short"))
  else do
    let magic ← slice p.data 0 4
    if magic ≠ mockMagic then
      return .error (.invalidPacket "not a mock Opus packet (real Opus TODO)")
    let sampleRate ← numberAt p.data 4 8
    let channels ← numberAt p.data 8 10
    let frameCount ← numberAt p.data 10 14
    let samples ← usize (frameCount * channels)
    let bytes ← usize (samples * 2)
    let expected ← usize (14 + bytes)
    if p.data.length ≠ expected then return .error (.invalidPacket "pcm size mismatch")
    let pcm ← readPcm p.data p.data.length 14 []
    return .ok (.fromS16 p.ptsHostMono (.ofNat sampleRate) (.ofNat channels) pcm)

/-! ## Samples -/

/-- The samples of bytes; an odd byte at the end is left. -/
def samples : Bytes → List Int16
  | low :: high :: rest => (UInt16.ofNat (ofLe [low, high])).toInt16 :: samples rest
  | _ => []

theorem ofLe_pair_lt (low high : UInt8) : ofLe [low, high] < 65536 := ofLe_lt [low, high]

theorem length_pcmBytes (pcm : List Int16) : (pcmBytes pcm).length = 2 * pcm.length := by
  induction pcm with
  | nil => rfl
  | cons s pcm ih =>
    rw [pcmBytes, List.flatMap_cons, List.length_append, length_le, List.length_cons, ← pcmBytes,
      ih]
    omega

/-- Samples are read back from their bytes. -/
theorem samples_pcmBytes (pcm : List Int16) : samples (pcmBytes pcm) = pcm := by
  induction pcm with
  | nil => rfl
  | cons s pcm ih =>
    have hlt := s.toUInt16.toNat_lt
    have hpair : ofLe (le 2 s.toUInt16.toNat) = s.toUInt16.toNat := by
      rw [ofLe_le]
      exact Nat.mod_eq_of_lt hlt
    have hle : le 2 s.toUInt16.toNat =
        [.ofNat s.toUInt16.toNat, .ofNat (s.toUInt16.toNat / 256)] := rfl
    rw [hle] at hpair
    rw [pcmBytes, List.flatMap_cons, ← pcmBytes, hle, List.cons_append, List.cons_append,
      List.nil_append, samples, hpair, UInt16.ofNat_toNat, Int16.toInt16_toUInt16, ih]

/-- An even number of bytes are the bytes of their samples, of which there are half as many. -/
theorem pcmBytes_samples (n : ℕ) (bytes : Bytes) (h : bytes.length = 2 * n) :
    pcmBytes (samples bytes) = bytes ∧ (samples bytes).length = n := by
  induction n generalizing bytes with
  | zero =>
    obtain rfl : bytes = [] := List.eq_nil_of_length_eq_zero h
    exact ⟨rfl, rfl⟩
  | succ n ih =>
    obtain ⟨low, high, rest, rfl⟩ : ∃ low high rest, bytes = low :: high :: rest := by
      match bytes, h with
      | low :: high :: rest, _ => exact ⟨low, high, rest, rfl⟩
    rw [List.length_cons, List.length_cons] at h
    obtain ⟨hbytes, hlength⟩ := ih rest (by omega)
    refine ⟨?_, by rw [samples, List.length_cons, hlength]⟩
    have hpair : le 2 (ofLe [low, high]) = [low, high] := le_ofLe [low, high]
    have hword : (UInt16.ofNat (ofLe [low, high])).toInt16.toUInt16.toNat = ofLe [low, high] := by
      rw [UInt16.toUInt16_toInt16, UInt16.toNat_ofNat']
      exact Nat.mod_eq_of_lt (ofLe_pair_lt low high)
    rw [samples, pcmBytes, List.flatMap_cons, ← pcmBytes, hword, hpair, hbytes]
    rfl

/-- **The loop reads the samples behind its offset**, and stops. -/
theorem readPcm_eq (data : Bytes) (fuel off : ℕ) (pcm : List Int16)
    (h : data.length - off < 2 * fuel) :
    readPcm data fuel off pcm = some (pcm ++ samples (data.drop off)) := by
  induction fuel generalizing off pcm with
  | zero => omega
  | succ fuel ih =>
    unfold readPcm
    split_ifs with hoff
    · have hlow : off < data.length := by omega
      have hhigh : off + 1 < data.length := by omega
      have hdrop : data.drop off = data[off] :: data[off + 1] :: data.drop (off + 2) := by
        rw [List.drop_eq_getElem_cons hlow, List.drop_eq_getElem_cons hhigh]
      rw [List.getElem?_eq_getElem hlow, List.getElem?_eq_getElem hhigh, hdrop, samples]
      simp only [Option.bind_eq_bind, Option.bind_some]
      rw [ih _ _ (by omega), List.append_assoc]
      rfl
    · have hshort : (data.drop off).length < 2 := by
        rw [List.length_drop]
        omega
      have hnone : samples (data.drop off) = [] := by
        match data.drop off, hshort with
        | [], _ => rfl
        | [_], _ => rfl
      rw [hnone, List.append_nil]

/-! ## What the decoder accepts -/

/-- The rate in the header of a packet. -/
def headerRate (data : Bytes) : ℕ := ofLe (bytesAt data 4 4)

/-- The channels in the header of a packet. -/
def headerChannels (data : Bytes) : ℕ := ofLe (bytesAt data 8 2)

/-- The number of frames in the header of a packet. -/
def headerFrames (data : Bytes) : ℕ := ofLe (bytesAt data 10 4)

/-- Bytes with the magic, and of the size that their header says. -/
structure WellSized (data : Bytes) : Prop where
  header : 14 ≤ data.length
  magic : bytesAt data 0 4 = mockMagic
  size : data.length = 14 + headerFrames data * headerChannels data * 2

/-- **Bytes of the right size whose header has no rate or no channels.** -/
structure Degenerate (data : Bytes) : Prop where
  wellSized : WellSized data
  zero : headerRate data = 0 ∨ headerChannels data = 0

theorem numberAt_eq {data : Bytes} {first last : ℕ} (h : first ≤ last)
    (hlast : last ≤ data.length) :
    numberAt data first last = some (ofLe (bytesAt data first (last - first))) := by
  have hlength : (bytesAt data first (last - first)).length = last - first := by
    rw [length_bytesAt]
    omega
  unfold numberAt slice fromLeBytes
  rw [if_pos ⟨h, hlast⟩, Option.bind_some, if_pos hlength]

section

variable {p : OpusFrame} {f : AudioFrame}

theorem headerRate_lt (h : 14 ≤ p.data.length) : headerRate p.data < 4294967296 :=
  ofLe_bytesAt_lt (by omega)

theorem headerChannels_lt (h : 14 ≤ p.data.length) : headerChannels p.data < 65536 :=
  ofLe_bytesAt_lt (by omega)

theorem headerFrames_lt (h : 14 ≤ p.data.length) : headerFrames p.data < 4294967296 :=
  ofLe_bytesAt_lt (by omega)

/-- The frame of a packet that is accepted. -/
def unpacked (p : OpusFrame) : AudioFrame :=
  .fromS16 p.ptsHostMono (.ofNat (headerRate p.data)) (.ofNat (headerChannels p.data))
    (samples (p.data.drop 14))

/-- **The decoder never panics**, and this is its result. -/
theorem decode_eq (p : OpusFrame) :
    MockOpusDecoder.decode p = some (
      if p.data.length < 14 then .error (.invalidPacket "too short")
      else if bytesAt p.data 0 4 ≠ mockMagic then
        .error (.invalidPacket "not a mock Opus packet (real Opus TODO)")
      else if p.data.length ≠ 14 + headerFrames p.data * headerChannels p.data * 2 then
        .error (.invalidPacket "pcm size mismatch")
      else .ok (unpacked p)) := by
  unfold MockOpusDecoder.decode
  split_ifs with hshort hmagic hsize
  · rfl
  · have hslice : slice p.data 0 4 = some (bytesAt p.data 0 4) := if_pos (by omega)
    simp only [hslice, Option.bind_eq_bind, Option.bind_some, if_pos hmagic]
    rfl
  all_goals
    have hheader : 14 ≤ p.data.length := by omega
    have hframes := headerFrames_lt hheader
    have hchannels := headerChannels_lt hheader
    have hproduct : headerFrames p.data * headerChannels p.data ≤ 4294967296 * 65536 :=
      Nat.mul_le_mul hframes.le hchannels.le
    have hslice : slice p.data 0 4 = some (bytesAt p.data 0 4) := if_pos (by omega)
    have husize {n : ℕ} (h : n < 18446744073709551616) : usize n = some n := if_pos h
    have hrate : numberAt p.data 4 8 = some (headerRate p.data) :=
      numberAt_eq (by omega) (by omega)
    have hchan : numberAt p.data 8 10 = some (headerChannels p.data) :=
      numberAt_eq (by omega) (by omega)
    have hcount : numberAt p.data 10 14 = some (headerFrames p.data) :=
      numberAt_eq (by omega) (by omega)
    have hread : readPcm p.data p.data.length 14 [] = some (samples (p.data.drop 14)) :=
      readPcm_eq _ _ _ _ (by omega)
    have h₁ := husize (show headerFrames p.data * headerChannels p.data < _ by omega)
    have h₂ := husize (show headerFrames p.data * headerChannels p.data * 2 < _ by omega)
    have h₃ := husize (show 14 + headerFrames p.data * headerChannels p.data * 2 < _ by omega)
    simp only [hslice, hrate, hchan, hcount, h₁, h₂, h₃, hread, Option.bind_eq_bind,
      Option.bind_some, if_neg hmagic]
  · rw [if_pos hsize]
    rfl
  · rw [if_neg hsize]
    rfl

/-- **The packets that the decoder accepts**, and the frame of each. -/
theorem decode_ok_iff :
    MockOpusDecoder.decode p = some (.ok f) ↔ WellSized p.data ∧ f = unpacked p := by
  rw [decode_eq, Option.some.injEq]
  constructor
  · intro h
    split_ifs at h with hshort hmagic hsize
    exact ⟨⟨by omega, not_not.mp hmagic, not_not.mp hsize⟩, (Except.ok.inj h).symm⟩
  · rintro ⟨⟨hheader, hmagic, hsize⟩, rfl⟩
    rw [if_neg (by omega), if_neg (not_not.mpr hmagic), if_neg (not_not.mpr hsize)]

end

/-! ## The decoder of a viewer -/

/-- The number of a sample. -/
theorem toInt_sample (low high : UInt8) :
    (UInt16.ofNat (ofLe [low, high])).toInt16.toInt =
      if ((low.toNat : Int) + 256 * high.toNat) < 32768 then (low.toNat : Int) + 256 * high.toNat
      else (low.toNat : Int) + 256 * high.toNat - 65536 := by
  have hvalue : ofLe [low, high] = low.toNat + 256 * high.toNat := by
    rw [ofLe_cons, ofLe_cons, ofLe_nil]
    rfl
  have hlt := ofLe_pair_lt low high
  have hword : (UInt16.ofNat (ofLe [low, high])).toInt16.toBitVec.toNat = ofLe [low, high] :=
    (UInt16.toNat_ofNat').trans (Nat.mod_eq_of_lt hlt)
  rw [Int16.toInt, BitVec.toInt_eq_toNat_cond, hword, hvalue]
  split_ifs <;> omega

/-- The numbers that a viewer reads are those of the samples. -/
theorem samplesLe_eq (bytes : Bytes) :
    Viewer.samplesLe bytes = (samples bytes).map Int16.toInt := by
  induction bytes using samples.induct with
  | case1 low high rest ih =>
    rw [Viewer.samplesLe, samples, List.map_cons, ih, toInt_sample]
  | case2 bytes hshort =>
    rw [samples.eq_2 _ hshort, Viewer.samplesLe.eq_2 _ hshort]
    rfl

/-- **A viewer decodes its audio packets with this decoder.** -/
theorem decodeMockOpus_eq {packet : Net.AudioPacket} {p : OpusFrame}
    (hdata : p.data = packet.data) :
    (∀ f, MockOpusDecoder.decode p = some (.ok f) →
      Viewer.decodeMockOpus packet = .ok ⟨packet.ptsHostMono, f.sampleRate.toNat,
        f.channels.toNat, f.pcmS16.map Int16.toInt⟩) ∧
    ∀ reason, MockOpusDecoder.decode p = some (.error (.invalidPacket reason)) →
      Viewer.decodeMockOpus packet = .error reason := by
  have hmagic : bytesAt p.data 0 4 = p.data.take 4 := by
    unfold bytesAt
    rw [List.drop_zero]
  have hviewer : Viewer.mockOpusMagic = mockMagic := rfl
  have hnumber (offset width : ℕ) :
      Viewer.leAt p.data offset width = ofLe (bytesAt p.data offset width) := rfl
  unfold Viewer.decodeMockOpus
  rw [decode_eq, ← hdata, hmagic, hviewer]
  simp only [hnumber]
  rw [← headerRate, ← headerChannels, ← headerFrames]
  by_cases hshort : p.data.length < 14
  · rw [if_pos hshort, if_pos hshort]
    simp
  rw [if_neg hshort, if_neg hshort]
  by_cases hother : p.data.take 4 ≠ mockMagic
  · rw [if_pos hother, if_pos hother]
    simp
  rw [if_neg hother, if_neg hother]
  by_cases hsize : p.data.length ≠ 14 + headerFrames p.data * headerChannels p.data * 2
  · rw [if_pos hsize, if_pos hsize]
    simp
  rw [if_neg hsize, if_neg hsize]
  refine ⟨fun f hf => ?_, fun reason hreason => by simp at hreason⟩
  obtain rfl : unpacked p = f := by simpa using hf
  have hrate : (unpacked p).sampleRate.toNat = headerRate p.data :=
    toNat_ofNat_u32 (headerRate_lt (by omega))
  have hchannels : (unpacked p).channels.toNat = headerChannels p.data := by
    have hlt : headerChannels p.data < 65536 := headerChannels_lt (by omega)
    exact (UInt16.toNat_ofNat').trans (Nat.mod_eq_of_lt hlt)
  rw [hrate, hchannels, samplesLe_eq]
  rfl

/-! ## What the encoder packs -/

section

variable (sampleRate : UInt32) (channels : UInt16) (frameCount : UInt32) (pcm : List Int16)

theorem length_packetBytes :
    (packetBytes sampleRate channels frameCount pcm).length = 14 + 2 * pcm.length := by
  unfold packetBytes mockMagic
  simp only [List.length_append, length_le, length_pcmBytes, List.length_cons, List.length_nil]
  omega

/-- The magic of a packet. -/
theorem bytesAt_packetBytes_magic :
    bytesAt (packetBytes sampleRate channels frameCount pcm) 0 4 = mockMagic := rfl

/-- The rate of a packet. -/
theorem headerRate_packetBytes :
    headerRate (packetBytes sampleRate channels frameCount pcm) = sampleRate.toNat := by
  unfold headerRate packetBytes
  rw [bytesAt_middle (by rfl) (length_le _ _), ofLe_le]
  exact Nat.mod_eq_of_lt sampleRate.toNat_lt

/-- The channels of a packet. -/
theorem headerChannels_packetBytes :
    headerChannels (packetBytes sampleRate channels frameCount pcm) = channels.toNat := by
  unfold headerChannels packetBytes
  rw [← List.append_assoc, bytesAt_middle (by simp [mockMagic]) (length_le _ _), ofLe_le]
  exact Nat.mod_eq_of_lt channels.toNat_lt

/-- The number of frames of a packet. -/
theorem headerFrames_packetBytes :
    headerFrames (packetBytes sampleRate channels frameCount pcm) = frameCount.toNat := by
  unfold headerFrames packetBytes
  rw [← List.append_assoc, ← List.append_assoc,
    bytesAt_middle (by simp [mockMagic]) (length_le _ _), ofLe_le]
  exact Nat.mod_eq_of_lt frameCount.toNat_lt

/-- The samples of a packet. -/
theorem drop_packetBytes :
    (packetBytes sampleRate channels frameCount pcm).drop 14 = pcmBytes pcm := by
  unfold packetBytes
  rw [← List.append_assoc, ← List.append_assoc, ← List.append_assoc]
  exact List.drop_left' (by simp [mockMagic])

end

/-- **Bytes with the magic are a packet again**, of what their header says. -/
theorem packetBytes_header {data : Bytes} (hwell : WellSized data) :
    packetBytes (.ofNat (headerRate data)) (.ofNat (headerChannels data))
      (.ofNat (headerFrames data)) (samples (data.drop 14)) = data := by
  obtain ⟨hheader, hmagic, hsize⟩ := hwell
  have hpcm : (data.drop 14).length = 2 * (headerFrames data * headerChannels data) := by
    rw [List.length_drop]
    omega
  have hrate : (UInt32.ofNat (headerRate data)).toNat = headerRate data := by
    rw [UInt32.toNat_ofNat']
    exact Nat.mod_eq_of_lt (ofLe_bytesAt_lt (by omega))
  have hchannels : (UInt16.ofNat (headerChannels data)).toNat = headerChannels data := by
    rw [UInt16.toNat_ofNat']
    exact Nat.mod_eq_of_lt (ofLe_bytesAt_lt (by omega))
  have hframes : (UInt32.ofNat (headerFrames data)).toNat = headerFrames data := by
    rw [UInt32.toNat_ofNat']
    exact Nat.mod_eq_of_lt (ofLe_bytesAt_lt (by omega))
  unfold packetBytes
  rw [hrate, hchannels, hframes, (pcmBytes_samples _ _ hpcm).1, ← hmagic]
  unfold headerRate headerChannels headerFrames
  rw [le_ofLe_bytesAt (by omega), le_ofLe_bytesAt (by omega), le_ofLe_bytesAt (by omega),
    bytesAt_append_drop data 10 4, bytesAt_append_drop data 8 2, bytesAt_append_drop data 4 4,
    bytesAt_append_drop data 0 4, List.drop_zero]

/-- **The frames that an encoder accepts.** With an epoch, the end of the frame is a duration. -/
structure Accepted (e : MockOpusEncoder) (f : AudioFrame) : Prop where
  channels : f.channels ≠ 0
  sampleRate : f.sampleRate ≠ 0
  dvd : f.channels.toNat ∣ f.pcmS16.length
  fits : e.epoch.isSome → (f.ptsHostMono.checkedAdd f.duration).isSome

section

variable {floatTicks : Duration → UInt32} {e e' : MockOpusEncoder} {f : AudioFrame} {p : OpusFrame}

/-- The timestamp of a frame, and when there is one. -/
theorem stamp_isSome_iff :
    (e.stamp floatTicks f).isSome ↔
      (e.epoch.isSome → (f.ptsHostMono.checkedAdd f.duration).isSome) := by
  unfold MockOpusEncoder.stamp
  cases e.epoch with
  | none => simp
  | some epoch => simp

theorem stamp_epoch {epoch : RtpEpoch} {ts advance : UInt32} (hepoch : e.epoch = some epoch)
    (h : e.stamp floatTicks f = some (ts, advance)) : ts = epoch.audioTs f.ptsHostMono := by
  simp only [MockOpusEncoder.stamp, hepoch, Option.map_eq_some_iff, Prod.mk.injEq] at h
  obtain ⟨_, _, hts, _⟩ := h
  exact hts.symm

/-- **What the encoder packs**, and for which frames. -/
theorem encode_ok (h : e.encode floatTicks f = some (.ok p, e')) :
    Accepted e f ∧ p.ptsHostMono = f.ptsHostMono ∧
      p.data = packetBytes f.sampleRate f.channels (.ofNat f.frameCount) f.pcmS16 ∧
      ∀ epoch, e.epoch = some epoch → p.rtpTs = epoch.audioTs f.ptsHostMono := by
  unfold MockOpusEncoder.encode at h
  by_cases hchannels : f.channels = 0
  · rw [if_pos hchannels] at h
    simp at h
  by_cases hdvd : ¬f.channels.toNat ∣ f.pcmS16.length
  · rw [if_neg hchannels, if_pos hdvd] at h
    simp at h
  by_cases hrate : f.sampleRate = 0
  · rw [if_neg hchannels, if_neg hdvd, if_pos hrate] at h
    simp at h
  rw [if_neg hchannels, if_neg hdvd, if_neg hrate] at h
  obtain ⟨⟨ts, advance⟩, hstamp, hpacket⟩ := Option.map_eq_some_iff.mp h
  simp only [Prod.mk.injEq, Except.ok.injEq] at hpacket
  obtain ⟨rfl, -⟩ := hpacket
  have hsome : (e.stamp floatTicks f).isSome := by rw [hstamp]; rfl
  exact ⟨⟨hchannels, hrate, not_not.mp hdvd, stamp_isSome_iff.mp hsome⟩, rfl, rfl,
    fun epoch hepoch => stamp_epoch hepoch hstamp⟩

theorem encode_accepted (h : Accepted e f) : ∃ p e', e.encode floatTicks f = some (.ok p, e') := by
  obtain ⟨⟨ts, advance⟩, hstamp⟩ :=
    Option.isSome_iff_exists.mp
      (show (e.stamp floatTicks f).isSome from stamp_isSome_iff.mpr h.fits)
  unfold MockOpusEncoder.encode
  rw [if_neg h.channels, if_neg (not_not.mpr h.dvd), if_neg h.sampleRate, hstamp]
  exact ⟨_, _, rfl⟩

/-- The samples of an accepted frame are its frames times its channels. -/
theorem frameCount_mul (h : Accepted e f) :
    f.frameCount * f.channels.toNat = f.pcmS16.length := by
  unfold AudioFrame.frameCount
  rw [if_neg h.channels]
  exact Nat.div_mul_cancel h.dvd

/-- **The decoder gives back what the encoder packs.** -/
theorem decode_encode (h : e.encode floatTicks f = some (.ok p, e'))
    (hcount : f.frameCount < 4294967296) :
    MockOpusDecoder.decode p =
      some (.ok (.fromS16 f.ptsHostMono f.sampleRate f.channels f.pcmS16)) := by
  obtain ⟨haccepted, hpts, hdata, -⟩ := encode_ok h
  have hmul := frameCount_mul haccepted
  have hword : (UInt32.ofNat f.frameCount).toNat = f.frameCount := toNat_ofNat_u32 hcount
  rw [decode_ok_iff]
  refine ⟨⟨?_, ?_, ?_⟩, ?_⟩
  · rw [hdata, length_packetBytes]
    omega
  · rw [hdata, bytesAt_packetBytes_magic]
  · rw [hdata, length_packetBytes, headerFrames_packetBytes, headerChannels_packetBytes, hword,
      hmul]
    omega
  · unfold unpacked
    rw [hdata, headerRate_packetBytes, headerChannels_packetBytes, drop_packetBytes,
      samples_pcmBytes, UInt32.ofNat_toNat, UInt16.ofNat_toNat, hpts]

end

/-! ## What the format promises -/

/-- **A frame is encoded to some bytes**, by every encoder with or without an epoch, as long as the
end of the frame is a duration. -/
def Reencodes (floatTicks : Duration → UInt32) (f : AudioFrame) (data : Bytes) : Prop :=
  ∀ e : MockOpusEncoder, (e.epoch.isSome → (f.ptsHostMono.checkedAdd f.duration).isSome) →
    ∃ p e', e.encode floatTicks f = some (.ok p, e') ∧ p.data = data

/-- **What the packet format promises** about a frame and about a packet. -/
structure OpusFormat (floatTicks : Duration → UInt32) (e : MockOpusEncoder) (f : AudioFrame)
    (packet : OpusFrame) : Prop where
  /-- Which frames the encoder accepts. -/
  accepts : (∃ p e', e.encode floatTicks f = some (.ok p, e')) ↔ Accepted e f
  /-- An accepted frame is decoded as it was. -/
  roundTrip : ∀ p e', e.encode floatTicks f = some (.ok p, e') → f.frameCount < 4294967296 →
    ∃ g, MockOpusDecoder.decode p = some (.ok g) ∧ g.ptsHostMono = f.ptsHostMono ∧
      g.sampleRate = f.sampleRate ∧ g.channels = f.channels ∧ g.pcmS16 = f.pcmS16
  /-- With an epoch, the timestamp is that of the epoch. -/
  stamped : ∀ p e' epoch, e.encode floatTicks f = some (.ok p, e') → e.epoch = some epoch →
    p.rtpTs = epoch.audioTs f.ptsHostMono
  /-- The decoder never panics. -/
  total : MockOpusDecoder.decode packet ≠ none
  /-- A packet that the decoder accepts is the encoding of its frame. -/
  canonical : ∀ g, MockOpusDecoder.decode packet = some (.ok g) →
    Reencodes floatTicks g packet.data

section

variable {floatTicks : Duration → UInt32} {p : OpusFrame}

/-- A packet of the right size with a rate and with channels is the encoding of its frame. -/
theorem reencodes_unpacked (hwell : WellSized p.data) (hzero : ¬Degenerate p.data) :
    Reencodes floatTicks (unpacked p) p.data := by
  intro e hfits
  have hrate : headerRate p.data ≠ 0 := fun h => hzero ⟨hwell, .inl h⟩
  have hchannels : headerChannels p.data ≠ 0 := fun h => hzero ⟨hwell, .inr h⟩
  have hrate_eq : (unpacked p).sampleRate.toNat = headerRate p.data :=
    toNat_ofNat_u32 (headerRate_lt hwell.header)
  have hchannels_eq : (unpacked p).channels.toNat = headerChannels p.data := by
    have hlt : headerChannels p.data < 65536 := headerChannels_lt hwell.header
    exact (UInt16.toNat_ofNat').trans (Nat.mod_eq_of_lt hlt)
  have hpcm : (p.data.drop 14).length = 2 * (headerFrames p.data * headerChannels p.data) := by
    rw [List.length_drop, hwell.size]
    omega
  have hlength : (unpacked p).pcmS16.length = headerFrames p.data * headerChannels p.data :=
    (pcmBytes_samples _ _ hpcm).2
  have haccepted : Accepted e (unpacked p) := by
    refine ⟨fun h => hchannels ?_, fun h => hrate ?_, ?_, hfits⟩
    · rw [← hchannels_eq, h]
      rfl
    · rw [← hrate_eq, h]
      rfl
    · rw [hlength, hchannels_eq]
      exact Nat.dvd_mul_left _ _
  have hcount : (unpacked p).frameCount = headerFrames p.data := by
    have hmul := frameCount_mul haccepted
    rw [hlength, hchannels_eq] at hmul
    exact Nat.eq_of_mul_eq_mul_right (Nat.pos_of_ne_zero hchannels) hmul
  obtain ⟨packet, e', hencode⟩ := encode_accepted haccepted
  refine ⟨packet, e', hencode, ?_⟩
  rw [(encode_ok hencode).2.2.1, hcount]
  exact packetBytes_header hwell

/-- No encoder accepts the frame of a degenerate packet. -/
theorem not_reencodes_unpacked (h : Degenerate p.data) :
    ¬Reencodes floatTicks (unpacked p) p.data := by
  intro hreencodes
  obtain ⟨packet, e', hencode, -⟩ := hreencodes .new (fun hsome => by cases hsome)
  have haccepted := (encode_ok hencode).1
  rcases h.zero with hrate | hchannels
  · exact haccepted.sampleRate (congrArg UInt32.ofNat hrate)
  · exact haccepted.channels (congrArg UInt16.ofNat hchannels)

end

/-- **The format keeps its promises, except for degenerate packets**: the decoder accepts these and
no encoder makes them. -/
theorem opus_format_iff (floatTicks : Duration → UInt32) (e : MockOpusEncoder) (f : AudioFrame)
    (packet : OpusFrame) :
    OpusFormat floatTicks e f packet ↔ ¬Degenerate packet.data := by
  constructor
  · intro hformat hdegenerate
    have hdecode : MockOpusDecoder.decode packet = some (.ok (unpacked packet)) :=
      decode_ok_iff.mpr ⟨hdegenerate.wellSized, rfl⟩
    exact not_reencodes_unpacked hdegenerate (hformat.canonical _ hdecode)
  · intro hdegenerate
    refine ⟨⟨?_, encode_accepted⟩, ?_, ?_, ?_, ?_⟩
    · rintro ⟨p, e', hencode⟩
      exact (encode_ok hencode).1
    · intro p e' hencode hcount
      exact ⟨_, decode_encode hencode hcount, rfl, rfl, rfl, rfl⟩
    · intro p e' epoch hencode
      exact (encode_ok hencode).2.2.2 epoch
    · rw [decode_eq]
      exact Option.some_ne_none _
    · intro g hdecode
      obtain ⟨hwell, rfl⟩ := decode_ok_iff.mp hdecode
      exact reencodes_unpacked hwell hdegenerate

/-- A packet of 48 kHz that has no channels, and seven frames. -/
def channelless : OpusFrame :=
  ⟨.zero, 0, .zero, 0, packetBytes 48000 0 7 []⟩

/-- The packet is accepted, and its frame is refused. -/
theorem opus_channelless :
    ¬∀ floatTicks e f packet, OpusFormat floatTicks e f packet := by
  intro hall
  have hformat := hall (fun _ => 0) .new (unpacked channelless) channelless
  have hdecode : MockOpusDecoder.decode channelless = some (.ok (unpacked channelless)) := by
    decide
  obtain ⟨p, e', hencode, -⟩ := hformat.canonical _ hdecode .new (fun hsome => by cases hsome)
  have hrefused : MockOpusEncoder.encode (fun _ => 0) .new (unpacked channelless) =
      some (.error (.invalidPcm "channels == 0"), .new) := rfl
  rw [hrefused] at hencode
  simp at hencode

end RemoteLink.Media
