import RemoteLink.Library.Bytes
import RemoteLink.Net.Transport

set_option autoImplicit false

/-!
# Decoding received media

The default decoders of the viewer. Video units of the mock encoder carry their geometry and a
sample of pixels behind a magic; any other unit gets a synthetic frame. Both decoders record the
units they see. Audio packets are mock Opus or plain samples.

## Main definitions

* `MockH264Decoder.decode` — the frame of a mock unit.
* `MockOrSyntheticDecoder.decode` — the default decoder of a session.
* `decodeAudioPacket` — the samples of a packet.

## Main results

* `MockOrSyntheticDecoder.decode_recorded` — every unit with data is decoded, and recorded once or
  twice.
-/

namespace RemoteLink.Viewer

open Library Net
open Protocol (saturatingSucc)

/-! ## Frames -/

/-- The layout of a pixel. -/
inductive PixelFormat where
  | rgb24
  | rgba8
  | bgra8
  | gray8
  deriving Repr, DecidableEq

/-- The bytes of a pixel. -/
def PixelFormat.bytesPerPixel : PixelFormat → Nat
  | .rgb24 => 3
  | .rgba8 | .bgra8 => 4
  | .gray8 => 1

/-- A frame of packed pixels. -/
structure VideoFrame where
  ptsHostMono : Nat
  width : Nat
  height : Nat
  format : PixelFormat
  data : Bytes
  deriving Repr, DecidableEq

/-- A decoded frame. -/
structure DecodedVideoFrame where
  ptsHostMono : Nat
  keyframe : Bool
  frame : VideoFrame
  encodedLen : Nat
  fromMockH264 : Bool
  deriving Repr, DecidableEq

/-! ## The mock bitstream -/

/-- The magic of a mock unit: `MH264`. -/
def mockH264Magic : Bytes := [0x4D, 0x48, 0x32, 0x36, 0x34]

/-- The offsets behind the start codes in what follows an offset. -/
def nalHeaderOffsets (i : Nat) : Bytes → List Nat
  | 0 :: 0 :: 0 :: 1 :: rest => (i + 4) :: nalHeaderOffsets (i + 4) rest
  | 0 :: 0 :: 1 :: b :: rest => (i + 3) :: nalHeaderOffsets (i + 3) (b :: rest)
  | _ :: rest => nalHeaderOffsets (i + 1) rest
  | [] => []

/-- The offsets of the NAL headers of a unit. -/
def findNalHeaderOffsets (data : Bytes) : List Nat := nalHeaderOffsets 0 data

/-- Whether some bytes stand at an offset. -/
def standsAt (pattern data : Bytes) (offset : Nat) : Bool :=
  decide (offset + pattern.length ≤ data.length) &&
    (data.drop offset).take pattern.length == pattern

/-- Whether a unit is one of the mock encoder: the magic is behind a header, or anywhere. -/
def isMockBitstream (data : Bytes) : Bool :=
  (findNalHeaderOffsets data).any (fun hdr => standsAt mockH264Magic data (hdr + 1)) ||
    (List.range (data.length + 1)).any fun i => standsAt mockH264Magic data i

/-- A little-endian number of some bytes at an offset. -/
def leAt (data : Bytes) (offset width : Nat) : Nat := ofBe ((data.drop offset).take width).reverse

/-- The type of a NAL. -/
def nalType (data : Bytes) (hdr : Nat) : Nat := (data.getD hdr 0).toNat % 32

/-- The geometry and rate of the first parameter set. -/
def findMockSps (data : Bytes) : Option (Nat × Nat × Nat) :=
  ((findNalHeaderOffsets data).find? fun hdr =>
    decide (hdr < data.length) && nalType data hdr == 7 &&
      decide (hdr + 1 + 21 ≤ data.length) && standsAt mockH264Magic data (hdr + 1)).map fun hdr =>
    (leAt data (hdr + 6) 4, leAt data (hdr + 10) 4, leAt data (hdr + 14) 4)

/-- What a slice says. -/
structure MockSliceMeta where
  index : Nat
  width : Nat
  height : Nat
  bpp : Nat
  targetBitrateBps : Nat
  sample : Bytes
  keyframe : Bool
  deriving Repr, DecidableEq

/-- The first slice of a unit. -/
def parseMockSlice (data : Bytes) : Except String MockSliceMeta :=
  match (findNalHeaderOffsets data).find? fun hdr =>
    decide (hdr < data.length) && (nalType data hdr == 5 || nalType data hdr == 1) &&
      decide (hdr + 1 + 30 ≤ data.length) && standsAt mockH264Magic data (hdr + 1) with
  | none => .error "no MH264 slice NAL in access unit"
  | some hdr =>
    let sampleLen := leAt data (hdr + 27) 4
    let sampleOff := hdr + 1 + 30
    if data.length < sampleOff + sampleLen then .error "sample truncated"
    else .ok {
      index := leAt data (hdr + 6) 8
      width := leAt data (hdr + 14) 4
      height := leAt data (hdr + 18) 4
      bpp := (data.getD (hdr + 22) 0).toNat
      targetBitrateBps := leAt data (hdr + 23) 4
      sample := (data.drop sampleOff).take sampleLen
      keyframe := nalType data hdr == 5 }

/-- The mock decoder. -/
structure MockH264Decoder where
  framesDecoded : UInt64
  lastSps : Option (Nat × Nat)
  lastFps : Option Nat
  deriving Repr, DecidableEq

namespace MockH264Decoder

def new : MockH264Decoder := ⟨0, none, none⟩

/-- The pixels of a slice: its sample, repeated over the frame. -/
def reconstructFrame (slice : MockSliceMeta) (pts : Nat) (sps : Option (Nat × Nat)) :
    Except String VideoFrame :=
  match if 0 < slice.width ∧ 0 < slice.height then some (slice.width, slice.height) else sps with
  | none => .error "missing geometry"
  | some (width, height) =>
    if width = 0 ∨ height = 0 then .error "zero geometry"
    else
      let format := if slice.bpp = 4 then PixelFormat.bgra8 else .rgb24
      let total := width * height * format.bytesPerPixel
      .ok { ptsHostMono := pts, width, height, format
            data := (List.range total).map fun i => slice.sample.getD (i % slice.sample.length) 0 }

/-- Decode a unit. -/
def decode (s : MockH264Decoder) (data : Bytes) (pts : Nat) :
    Except String (Option VideoFrame) × MockH264Decoder :=
  if data.isEmpty then (.ok none, s)
  else
    let s := match findMockSps data with
      | some (w, h, fps) => { s with lastSps := some (w, h), lastFps := some fps }
      | none => s
    match parseMockSlice data with
    | .error e => (.error e, s)
    | .ok slice =>
      match reconstructFrame slice pts s.lastSps with
      | .error e => (.error e, s)
      | .ok frame => (.ok (some frame), { s with framesDecoded := saturatingSucc s.framesDecoded })

end MockH264Decoder

/-! ## The decoders of a session -/

/-- Records every unit, and makes up a frame for it. -/
structure SyntheticVideoDecoder where
  width : Nat
  height : Nat
  framesDecoded : UInt64
  recordedNalus : List VideoNalu

namespace SyntheticVideoDecoder

/-- A plain frame with the index of the unit in its first bytes. -/
def synthesize (s : SyntheticVideoDecoder) (nalu : VideoNalu) (index : UInt64) : VideoFrame :=
  let pixel : Bytes := if nalu.keyframe then [32, 200, 64] else [32, 64, 180]
  let data := (List.replicate (s.width * s.height) pixel).flatten
  { ptsHostMono := nalu.ptsHostMono
    width := s.width
    height := s.height
    format := .rgb24
    data := if 8 ≤ data.length then (be 8 index.toNat).reverse ++ data.drop 8 else data }

/-- Decode a unit. -/
def decode (s : SyntheticVideoDecoder) (nalu : VideoNalu) :
    Option DecodedVideoFrame × SyntheticVideoDecoder :=
  if nalu.data.isEmpty then (none, s)
  else
    (some ⟨nalu.ptsHostMono, nalu.keyframe, s.synthesize nalu s.framesDecoded, nalu.data.length,
        false⟩,
      { s with
        recordedNalus := s.recordedNalus ++ [nalu]
        framesDecoded := saturatingSucc s.framesDecoded })

end SyntheticVideoDecoder

/-- Records and decodes the units of the mock encoder. -/
structure MockH264VideoDecoder where
  inner : MockH264Decoder
  recordedNalus : List VideoNalu

/-- Decode a unit. -/
def MockH264VideoDecoder.decode (s : MockH264VideoDecoder) (nalu : VideoNalu) :
    Option DecodedVideoFrame × MockH264VideoDecoder :=
  if nalu.data.isEmpty then (none, s)
  else if !isMockBitstream nalu.data then (none, s)
  else
    let (result, inner) := s.inner.decode nalu.data nalu.ptsHostMono
    let s := { s with recordedNalus := s.recordedNalus ++ [nalu], inner }
    match result with
    | .ok (some frame) =>
      (some ⟨nalu.ptsHostMono, nalu.keyframe, frame, nalu.data.length, true⟩, s)
    | .ok none | .error _ => (none, s)

/-- Prefers the mock decoder, and falls back to the synthetic one. -/
structure MockOrSyntheticDecoder where
  mock : MockH264VideoDecoder
  synthetic : SyntheticVideoDecoder
  mockOnly : Bool

namespace MockOrSyntheticDecoder

/-- The default decoder. -/
def new : MockOrSyntheticDecoder := ⟨⟨.new, []⟩, ⟨64, 36, 0, []⟩, false⟩

/-- Decode a unit. -/
def decode (s : MockOrSyntheticDecoder) (nalu : VideoNalu) :
    Option DecodedVideoFrame × MockOrSyntheticDecoder :=
  let (decoded, mock) := s.mock.decode nalu
  let s := { s with mock }
  match decoded with
  | some decoded => (some decoded, s)
  | none =>
    if s.mockOnly then (none, s)
    else
      let (decoded, synthetic) := s.synthetic.decode nalu
      (decoded, { s with synthetic })

/-- The units that the decoder has recorded. -/
def recorded (s : MockOrSyntheticDecoder) : Nat :=
  s.mock.recordedNalus.length + s.synthetic.recordedNalus.length

end MockOrSyntheticDecoder

/-! ## Audio -/

/-- Decoded samples. -/
structure AudioFrame where
  ptsHostMono : Nat
  sampleRate : Nat
  channels : Nat
  pcmS16 : List Int
  deriving Repr, DecidableEq

/-- The 16-bit samples of little-endian bytes; an odd byte at the end is left. -/
def samplesLe : Bytes → List Int
  | low :: high :: rest =>
    let n : Int := low.toNat + 256 * high.toNat
    (if n < 32768 then n else n - 65536) :: samplesLe rest
  | _ => []

/-- The magic of a mock Opus packet: `MOPU`. -/
def mockOpusMagic : Bytes := [0x4D, 0x4F, 0x50, 0x55]

/-- Decode a mock Opus packet. -/
def decodeMockOpus (packet : AudioPacket) : Except String AudioFrame :=
  if packet.data.length < 14 then .error "too short"
  else if packet.data.take 4 ≠ mockOpusMagic then
    .error "not a mock Opus packet (real Opus TODO)"
  else
    let channels := leAt packet.data 8 2
    let frameCount := leAt packet.data 10 4
    if packet.data.length ≠ 14 + frameCount * channels * 2 then .error "pcm size mismatch"
    else .ok ⟨packet.ptsHostMono, leAt packet.data 4 4, channels, samplesLe (packet.data.drop 14)⟩

/-- Decode a packet, and tell whether it was mock Opus. -/
def decodeAudioPacket (packet : AudioPacket) : Except String (AudioFrame × Bool) :=
  if packet.data.take 4 = mockOpusMagic then
    match decodeMockOpus packet with
    | .error e => .error e
    | .ok frame => .ok (frame, true)
  else if packet.data.length % 2 ≠ 0 then .error "raw audio payload length not multiple of 2"
  else if packet.channels = 0 then .error "audio channels == 0"
  else .ok (⟨packet.ptsHostMono, if packet.sampleRate = 0 then 48000 else packet.sampleRate.toNat,
    packet.channels.toNat, samplesLe packet.data⟩, false)

/-! ## What the default decoder records -/

namespace MockOrSyntheticDecoder

variable {s : MockOrSyntheticDecoder} {nalu : VideoNalu}

/-- A unit without data is neither decoded nor recorded. -/
theorem decode_empty (h : nalu.data = []) : s.decode nalu = (none, s) := by
  have hempty : nalu.data.isEmpty = true := by rw [h]; rfl
  have hmock : s.mock.decode nalu = (none, s.mock) := if_pos hempty
  have hsynthetic : s.synthetic.decode nalu = (none, s.synthetic) := if_pos hempty
  unfold decode
  rw [hmock]
  dsimp only
  rw [hsynthetic]
  exact ite_self _

/-- The mock decoder records a unit of the mock encoder once, and no other. -/
theorem mock_decode (m : MockH264VideoDecoder) (h : nalu.data ≠ []) :
    (m.decode nalu).2.recordedNalus =
        m.recordedNalus ++ (if isMockBitstream nalu.data then [nalu] else []) ∧
      ((m.decode nalu).1 ≠ none → isMockBitstream nalu.data = true) := by
  have hempty : ¬ nalu.data.isEmpty = true := by
    rw [List.isEmpty_iff]
    exact h
  unfold MockH264VideoDecoder.decode
  rw [if_neg hempty]
  cases hmock : isMockBitstream nalu.data with
  | false => simp
  | true =>
    simp only [Bool.not_true, Bool.false_eq_true, ↓reduceIte]
    split
    · exact ⟨rfl, fun _ => trivial⟩
    · exact ⟨rfl, fun _ => trivial⟩
    · exact ⟨rfl, fun _ => trivial⟩

/-- **Every unit with data is decoded, and recorded once or twice.** -/
theorem decode_recorded (hfallback : s.mockOnly = false) (h : nalu.data ≠ []) :
    (s.decode nalu).1 ≠ none ∧ (s.decode nalu).2.mockOnly = false ∧
      s.recorded + 1 ≤ (s.decode nalu).2.recorded ∧
      (s.decode nalu).2.recorded ≤ s.recorded + 2 := by
  have hempty : ¬ nalu.data.isEmpty = true := by
    rw [List.isEmpty_iff]
    exact h
  obtain ⟨hmock, hdecoded⟩ := mock_decode s.mock h
  unfold decode recorded
  cases hresult : (s.mock.decode nalu).1 with
  | some decoded =>
    rw [hdecoded (by rw [hresult]; exact Option.some_ne_none _)] at hmock
    dsimp only
    rw [hresult]
    refine ⟨Option.some_ne_none _, hfallback, ?_, ?_⟩
    · simp only [hmock, if_true, List.length_append, List.length_singleton]
      omega
    · simp only [hmock, if_true, List.length_append, List.length_singleton]
      omega
  | none =>
    dsimp only
    rw [hresult, hfallback]
    have hsynthetic : (s.synthetic.decode nalu).2.recordedNalus =
        s.synthetic.recordedNalus ++ [nalu] := by
      rw [SyntheticVideoDecoder.decode, if_neg hempty]
    have hsome : (s.synthetic.decode nalu).1 ≠ none := by
      rw [SyntheticVideoDecoder.decode, if_neg hempty]
      exact Option.some_ne_none _
    have hone : (if isMockBitstream nalu.data then [nalu] else []).length ≤ 1 := by
      split_ifs
      · exact Nat.le_refl 1
      · exact Nat.zero_le _
    refine ⟨hsome, rfl, ?_, ?_⟩
    · simp only [Bool.false_eq_true, if_false, hmock, hsynthetic, List.length_append,
        List.length_singleton]
      omega
    · simp only [Bool.false_eq_true, if_false, hmock, hsynthetic, List.length_append,
        List.length_singleton]
      omega

end MockOrSyntheticDecoder

end RemoteLink.Viewer
