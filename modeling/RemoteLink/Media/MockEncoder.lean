import RemoteLink.Media.MockBitstream
import RemoteLink.Platform.BoxDownscale
import RemoteLink.Signaling.Client

set_option autoImplicit false

/-!
# The mock encoder of the media package

A frame of at most 1280 columns and 720 rows goes into its unit as it is, a larger one downscaled.
The sizes of a downscaled frame are computed in floating point and are a parameter here.

A step that can panic is an `Option`: `none` is a panic.

## Main definitions

* `MockSoftwareEncoder.encode` — the unit of a frame.
* `encodeAll`, `decodeAll` — the units of a run, and the frames of units.

## Main results

* `encode_small` — what the encoder makes of a small frame.
* `mock_h264_round_trip` — one decoder shows the frames of a run as they were.
-/

namespace RemoteLink.Media

open Library
open Platform (Rgb BoxSum byteAt writePixel)
open Protocol (saturatingSucc)
open Viewer (PixelFormat VideoFrame MockSliceMeta MockH264Decoder parseMockSlice)

/-! ## Frames -/

/-- Why a frame is refused. -/
inductive H264Error where
  | invalidFrame (reason : String)
  | invalidBitstream (reason : String)
  | unsupported (reason : String)
  deriving Repr, DecidableEq

/-- The text of an error. -/
def H264Error.text : H264Error → String
  | .invalidFrame m => "invalid frame: " ++ m
  | .invalidBitstream m => "invalid bitstream: " ++ m
  | .unsupported m => "unsupported: " ++ m

/-- The largest number of 64 bits. -/
def maxUsize : ℕ := 18446744073709551615

/-- The length of the data of a frame, in arithmetic that saturates. -/
def expectedLen (frame : VideoFrame) : ℕ :=
  min (min (frame.width * frame.height) maxUsize * frame.format.bytesPerPixel) maxUsize

/-- Whether data and dimensions are consistent. -/
def isWellFormed (frame : VideoFrame) : Bool :=
  decide (0 < frame.width) && decide (0 < frame.height) && frame.data.length == expectedLen frame

/-- The frames that the encoder accepts. -/
def validateFrame (frame : VideoFrame) : Except H264Error Unit :=
  if !isWellFormed frame then .error (.invalidFrame "frame buffer does not match dimensions")
  else
    match frame.format with
    | .bgra8 | .rgba8 | .rgb24 => .ok ()
    | .gray8 => .error (.unsupported "Gray8 not supported by mock H.264")

/-! ## Previews -/

/-- Columns of a preview. -/
def maxPreviewWidth : ℕ := 1280

/-- Rows of a preview. -/
def maxPreviewHeight : ℕ := 720

/-- The colour of a pixel of the frame; black outside its data. -/
def pixelRgb (frame : VideoFrame) (sx sy srcBpp : ℕ) : Option Rgb :=
  let si := (sy * frame.width + sx) * srcBpp
  if frame.data.length < si + srcBpp then some ![0, 0, 0]
  else
    match frame.format with
    | .rgb24 | .rgba8 => do
      some ![← byteAt frame.data si, ← byteAt frame.data (si + 1), ← byteAt frame.data (si + 2)]
    | .bgra8 => do
      some ![← byteAt frame.data (si + 2), ← byteAt frame.data (si + 1), ← byteAt frame.data si]
    | .gray8 => do
      let g ← byteAt frame.data si
      some ![g, g, g]

/-- The pixels that are averaged for a pixel of the preview. -/
def box (frame : VideoFrame) (dw dh x y : ℕ) : List (ℕ × ℕ) :=
  let sw := max frame.width 1
  let sh := max frame.height 1
  let sy0 := y * sh / dh
  let sy1 := max ((y + 1) * sh / dh) (sy0 + 1)
  let sx0 := x * sw / dw
  let sx1 := max ((x + 1) * sw / dw) (sx0 + 1)
  raster sx0 (min sx1 sw) sy0 (min sy1 sh)

/-- Average the box of a pixel of the preview. -/
def writeBox (frame : VideoFrame) (dw dh srcBpp : ℕ) (pixels : Bytes) (p : ℕ × ℕ) :
    Option Bytes := do
  let sum ← (box frame dw dh p.1 p.2).foldlM
    (fun s q => do s.add (← pixelRgb frame q.1 q.2 srcBpp)) ⟨![0, 0, 0], 0⟩
  writePixel pixels ((p.2 * dw + p.1) * 3) sum

/-- The preview of a frame, in `dw` columns and `dh` rows. -/
def boxDownscaleRgb (frame : VideoFrame) (dw dh srcBpp : ℕ) : Option Bytes :=
  (raster 0 dw 0 dh).foldlM (writeBox frame dw dh srcBpp) (List.replicate (dw * dh * 3) 0)

/-- What a unit carries of a frame. `previewSize` are the columns and rows of the preview of a
larger frame. -/
def previewPixels (previewSize : ℕ → ℕ → ℕ × ℕ) (frame : VideoFrame) : Option PreviewSample :=
  let srcBpp := frame.format.bytesPerPixel
  if frame.width ≤ maxPreviewWidth ∧ frame.height ≤ maxPreviewHeight ∧ frame.data ≠ [] then
    some ⟨frame.width, frame.height, .ofNat srcBpp, frame.data⟩
  else
    let (dw, dh) := previewSize frame.width frame.height
    (boxDownscaleRgb frame dw dh srcBpp).map fun pixels => ⟨dw, dh, 3, pixels⟩

/-! ## The encoder -/

/-- How the parts of a unit are told apart. -/
inductive H264NaluFormat where
  | annexB
  | avcc
  deriving Repr, DecidableEq

/-- A unit. -/
structure EncodedAccessUnit where
  ptsHostMono : ℕ
  keyframe : Bool
  format : H264NaluFormat
  data : Bytes
  targetBitrateBps : UInt32
  deriving DecidableEq

/-- What an encoder is opened with. -/
structure H264EncoderConfig where
  width : ℕ
  height : ℕ
  fps : UInt32
  targetBitrateBps : UInt32

/-- Bits in a second when nothing else is said. -/
def defaultTargetBitrateBps : UInt32 := 4000000

namespace MockSoftwareEncoder

/-- An encoder. -/
def new (config : H264EncoderConfig) : MockSoftwareEncoder where
  width := config.width
  height := config.height
  fps := max config.fps 1
  targetBitrateBps :=
    if config.targetBitrateBps = 0 then defaultTargetBitrateBps else config.targetBitrateBps
  framesEncoded := 0
  keyframePending := true
  keyframeInterval := 30

/-- An encoder with another interval. -/
def withKeyframeInterval (e : MockSoftwareEncoder) (interval : UInt64) : MockSoftwareEncoder :=
  { e with keyframeInterval := interval }

/-- Change the bitrate. -/
def setTargetBitrateBps (e : MockSoftwareEncoder) (bps : UInt32) : MockSoftwareEncoder :=
  { e with targetBitrateBps := if bps = 0 then defaultTargetBitrateBps else bps }

/-- Ask for a keyframe. -/
def requestKeyframe (e : MockSoftwareEncoder) : MockSoftwareEncoder :=
  { e with keyframePending := true }

/-- Encode a frame. -/
def encode (previewSize : ℕ → ℕ → ℕ × ℕ) (e : MockSoftwareEncoder) (frame : VideoFrame)
    (forceKeyframe : Bool) :
    Option (Except H264Error EncodedAccessUnit × MockSoftwareEncoder) :=
  match validateFrame frame with
  | .error reason => some (.error reason, e)
  | .ok () =>
    let e := { e with
      width := if e.width = 0 then frame.width else e.width
      height := if e.height = 0 then frame.height else e.height }
    let keyframe := e.shouldKeyframe forceKeyframe
    (previewPixels previewSize frame).map fun preview =>
      (.ok {
        ptsHostMono := frame.ptsHostMono
        keyframe
        format := .annexB
        data := e.accessUnit preview keyframe
        targetBitrateBps := e.targetBitrateBps },
      { e with
        framesEncoded := saturatingSucc e.framesEncoded
        keyframePending := if keyframe then false else e.keyframePending })

end MockSoftwareEncoder

/-! ## Runs -/

/-- What is done with an encoder. -/
inductive EncoderOp where
  | encode (frame : VideoFrame) (forceKeyframe : Bool)
  | requestKeyframe
  | setTargetBitrateBps (bps : UInt32)

/-- The results of a run, frame by frame. -/
def encodeAll (previewSize : ℕ → ℕ → ℕ × ℕ) :
    MockSoftwareEncoder → List EncoderOp → Option (List (Except H264Error EncodedAccessUnit))
  | _, [] => some []
  | e, .encode frame force :: ops => do
    let (result, e) ← e.encode previewSize frame force
    let results ← encodeAll previewSize e ops
    some (result :: results)
  | e, .requestKeyframe :: ops => encodeAll previewSize e.requestKeyframe ops
  | e, .setTargetBitrateBps bps :: ops => encodeAll previewSize (e.setTargetBitrateBps bps) ops

/-- The frames of a run. -/
def framesOf (ops : List EncoderOp) : List VideoFrame :=
  ops.filterMap fun
    | .encode frame _ => some frame
    | .requestKeyframe | .setTargetBitrateBps _ => none

/-- What a decoder shows for some units. -/
def decodeAll : MockH264Decoder → List EncodedAccessUnit → List (Except String (Option VideoFrame))
  | _, [] => []
  | d, unit :: units =>
    let next := d.decode unit.data unit.ptsHostMono
    next.1 :: decodeAll next.2 units

/-! ## Small frames -/

/-- **A frame that fits a unit as it is**, in a format that the decoder gives back. -/
structure Small (frame : VideoFrame) : Prop where
  wellFormed : isWellFormed frame = true
  format : frame.format = .bgra8 ∨ frame.format = .rgb24
  width : frame.width ≤ 1280
  height : frame.height ≤ 720

section

variable {frame : VideoFrame}

/-- The size of a small frame is that of its data. -/
theorem Small.size (h : Small frame) :
    0 < frame.width ∧ 0 < frame.height ∧
      frame.data.length = frame.width * frame.height * frame.format.bytesPerPixel ∧
      frame.width * frame.height * frame.format.bytesPerPixel ≤ 1280 * 720 * 4 := by
  obtain ⟨⟨hwidth, hheight⟩, hlength⟩ : (0 < frame.width ∧ 0 < frame.height) ∧
      frame.data.length = expectedLen frame := by
    simpa [isWellFormed] using h.wellFormed
  have hbpp : frame.format.bytesPerPixel ≤ 4 := by
    rcases h.format with hformat | hformat
    · rw [hformat]
      exact Nat.le_refl 4
    · rw [hformat]
      exact Nat.le_succ 3
  have harea : frame.width * frame.height ≤ 1280 * 720 := Nat.mul_le_mul h.width h.height
  have hbytes : frame.width * frame.height * frame.format.bytesPerPixel ≤ 1280 * 720 * 4 :=
    Nat.mul_le_mul harea hbpp
  refine ⟨hwidth, hheight, ?_, hbytes⟩
  rw [hlength]
  unfold expectedLen maxUsize
  have harea' : min (frame.width * frame.height) 18446744073709551615 =
      frame.width * frame.height := min_eq_left (by omega)
  rw [harea', min_eq_left (by omega)]

/-- The preview of a small frame is the frame. -/
theorem previewPixels_small (h : Small frame) (previewSize : ℕ → ℕ → ℕ × ℕ) :
    previewPixels previewSize frame =
      some ⟨frame.width, frame.height, .ofNat frame.format.bytesPerPixel, frame.data⟩ := by
  obtain ⟨hwidth, hheight, hlength, -⟩ := h.size
  have hdata : frame.data ≠ [] := by
    intro hempty
    have hbpp : 0 < frame.format.bytesPerPixel := by
      cases frame.format <;> decide
    have hpos := Nat.mul_pos (Nat.mul_pos hwidth hheight) hbpp
    rw [← hlength, hempty] at hpos
    exact Nat.lt_irrefl 0 hpos
  exact if_pos ⟨h.width, h.height, hdata⟩

theorem validateFrame_small (h : Small frame) : validateFrame frame = .ok () := by
  unfold validateFrame
  rw [h.wellFormed]
  rcases h.format with hformat | hformat
  · rw [hformat]
    rfl
  · rw [hformat]
    rfl

/-- **The picture of a slice with the data of a small frame is the frame.** -/
theorem picture_small (h : Small frame) {slice : MockSliceMeta}
    (hwidth : slice.width = frame.width) (hheight : slice.height = frame.height)
    (hbpp : slice.bpp = frame.format.bytesPerPixel) (hsample : slice.sample = frame.data) :
    picture slice frame.ptsHostMono = frame := by
  obtain ⟨-, -, hlength, -⟩ := h.size
  have hformat : (if slice.bpp = 4 then PixelFormat.bgra8 else .rgb24) = frame.format := by
    rw [hbpp]
    rcases h.format with hformat | hformat
    · rw [hformat]
      rfl
    · rw [hformat]
      rfl
  unfold picture
  rw [hformat, hwidth, hheight, hsample]
  dsimp only
  rw [range_map_self frame.data hlength.symm]

end

/-- **A unit carries a frame**: any decoder shows the frame, and the slice says which one it is. -/
structure Carries (unit : EncodedAccessUnit) (frame : VideoFrame) (index : ℕ) : Prop where
  pts : unit.ptsHostMono = frame.ptsHostMono
  shown : ∀ d : MockH264Decoder,
    (d.decode unit.data unit.ptsHostMono).1 = .ok (some frame)
  slice : ∃ slice, parseMockSlice unit.data = .ok slice ∧ slice.index = index ∧
    slice.keyframe = unit.keyframe

section

variable (previewSize : ℕ → ℕ → ℕ × ℕ) {e : MockSoftwareEncoder}

/-- **The unit of a small frame carries it**, whatever its pixels spell. -/
theorem encode_small {frame : VideoFrame} (h : Small frame) (hfps : e.fps.toNat < 65536)
    (force : Bool) :
    ∃ unit e', e.encode previewSize frame force = some (.ok unit, e') ∧ e'.fps = e.fps ∧
      e'.framesEncoded = saturatingSucc e.framesEncoded ∧
      Carries unit frame e.framesEncoded.toNat := by
  obtain ⟨hwidth, hheight, hlength, hbytes⟩ := h.size
  unfold MockSoftwareEncoder.encode
  rw [validateFrame_small h, previewPixels_small h]
  refine ⟨_, _, rfl, rfl, rfl, ?_⟩
  dsimp only
  generalize hstate : MockSoftwareEncoder.mk _ _ _ _ _ _ _ = e₁
  have hfps₁ : e₁.fps.toNat < 65536 := by
    rw [← hstate]
    exact hfps
  have hindex : e₁.framesEncoded = e.framesEncoded := by
    rw [← hstate]
  have hparse := parseMockSlice_accessUnit e₁
    ⟨frame.width, frame.height, .ofNat frame.format.bytesPerPixel, frame.data⟩
    (e₁.shouldKeyframe force)
    (show frame.width < 65536 by have := h.width; omega)
    (show frame.height < 65536 by have := h.height; omega) fun _ => not_spellsSlice hfps₁
  have hbpp : (UInt8.ofNat frame.format.bytesPerPixel).toNat = frame.format.bytesPerPixel := by
    cases frame.format <;> rfl
  have hsample : frame.data.take (frame.data.length % 4294967296) = frame.data := by
    rw [Nat.mod_eq_of_lt (by omega), List.take_length]
  refine ⟨rfl, fun d => ?_, _, hparse, ?_, rfl⟩
  · rw [decode_eq_picture hparse hwidth hheight]
    exact congrArg (fun f => Except.ok (some f)) (picture_small h rfl rfl hbpp hsample)
  · rw [← hindex]
    rfl

end

/-! ## The frames of a run -/

/-- A small frame, or a request. -/
def EncoderOp.Small : EncoderOp → Prop
  | .encode frame _ => Media.Small frame
  | .requestKeyframe | .setTargetBitrateBps _ => True

/-- A count that saturates. -/
theorem toNat_saturatingSucc {n : UInt64} {k : ℕ} (h : n.toNat = min k 18446744073709551615) :
    (saturatingSucc n).toNat = min (k + 1) 18446744073709551615 := by
  rw [Signaling.saturatingSucc_toNat, h]
  omega

/-- **The units of a run carry its frames**, in their order. -/
theorem encodeAll_small (previewSize : ℕ → ℕ → ℕ × ℕ) {ops : List EncoderOp}
    (hops : ∀ op ∈ ops, op.Small) {e : MockSoftwareEncoder} {k : ℕ} (hfps : e.fps.toNat < 65536)
    (hk : e.framesEncoded.toNat = min k 18446744073709551615) :
    ∃ units : List EncodedAccessUnit, encodeAll previewSize e ops = some (units.map Except.ok) ∧
      units.length = (framesOf ops).length ∧
      ∀ j unit frame, units[j]? = some unit → (framesOf ops)[j]? = some frame →
        Carries unit frame (min (k + j) 18446744073709551615) := by
  induction ops generalizing e k with
  | nil => exact ⟨[], rfl, rfl, fun j unit frame h => by simp at h⟩
  | cons op ops ih =>
    obtain ⟨hop, hrest⟩ := List.forall_mem_cons.mp hops
    cases op with
    | requestKeyframe => exact ih hrest (e := e.requestKeyframe) hfps hk
    | setTargetBitrateBps bps => exact ih hrest (e := e.setTargetBitrateBps bps) hfps hk
    | encode frame force =>
      obtain ⟨unit, e', hencode, hfps', hcount, hcarries⟩ :=
        encode_small previewSize hop hfps force
      obtain ⟨units, hall, hlength, hunits⟩ := ih hrest (hfps' ▸ hfps)
        (hcount ▸ toNat_saturatingSucc hk)
      refine ⟨unit :: units, ?_, by rw [List.length_cons, hlength]; rfl, ?_⟩
      · rw [encodeAll, hencode]
        simp only [Option.bind_eq_bind, Option.bind_some, hall]
        rfl
      · intro j unit' frame' hunit hframe
        cases j with
        | zero =>
          cases hunit
          cases hframe
          rw [hk] at hcarries
          exact hcarries
        | succ j =>
          have h := hunits j unit' frame' hunit hframe
          rwa [show k + 1 + j = k + (j + 1) by omega] at h

/-- **One decoder shows the frames that units carry**, whatever it has decoded before. -/
theorem decodeAll_carries {units : List EncodedAccessUnit} {frames : List VideoFrame}
    (hlength : units.length = frames.length) {index : ℕ → ℕ}
    (h : ∀ j unit frame, units[j]? = some unit → frames[j]? = some frame →
      Carries unit frame (index j)) (d : MockH264Decoder) :
    decodeAll d units = frames.map fun frame => .ok (some frame) := by
  induction units generalizing frames d index with
  | nil =>
    obtain rfl : frames = [] := List.eq_nil_of_length_eq_zero hlength.symm
    rfl
  | cons unit units ih =>
    cases frames with
    | nil => cases hlength
    | cons frame frames =>
      have hfirst := (h 0 unit frame rfl rfl).shown d
      have hrest := ih (Nat.succ.inj hlength) (fun j => h (j + 1))
      rw [decodeAll, hfirst, hrest, List.map_cons]

/-- **One decoder shows the frames of a run as they were**, whatever their pixels spell, and the
slices number them. A number saturates at 64 bits. -/
theorem mock_h264_round_trip (previewSize : ℕ → ℕ → ℕ × ℕ) (config : H264EncoderConfig)
    (interval : UInt64) {ops : List EncoderOp} (hfps : config.fps.toNat < 65536)
    (hops : ∀ op ∈ ops, op.Small) (d : MockH264Decoder) :
    ∃ units : List EncodedAccessUnit,
      encodeAll previewSize ((MockSoftwareEncoder.new config).withKeyframeInterval interval)
        ops = some (units.map Except.ok) ∧
      decodeAll d units = (framesOf ops).map (fun frame => .ok (some frame)) ∧
      ∀ k unit, units[k]? = some unit → ∃ slice, parseMockSlice unit.data = .ok slice ∧
        slice.index = min k 18446744073709551615 ∧ slice.keyframe = unit.keyframe := by
  have hfps' : (MockSoftwareEncoder.new config).fps.toNat < 65536 := by
    show (if config.fps ≤ 1 then 1 else config.fps).toNat < 65536
    split_ifs
    · decide
    · exact hfps
  obtain ⟨units, hall, hlength, hcarries⟩ := encodeAll_small previewSize (k := 0)
    (e := (MockSoftwareEncoder.new config).withKeyframeInterval interval) hops hfps' rfl
  refine ⟨units, hall, decodeAll_carries hlength hcarries d, fun k unit hunit => ?_⟩
  have hk : k < (framesOf ops).length := by
    rw [← hlength]
    exact (List.getElem?_eq_some_iff.mp hunit).1
  have hslice := (hcarries k unit _ hunit (List.getElem?_eq_getElem hk)).slice
  rwa [Nat.zero_add] at hslice

/-- A frame whose pixels spell a start code, a type and the magic. -/
def spellingFrame : VideoFrame where
  ptsHostMono := 33
  width := 2
  height := 2
  format := .rgb24
  data := [0, 0, 0, 1, 0x65, 0x4D, 0x48, 0x32, 0x36, 0x34, 0, 0]

theorem small_spellingFrame : Small spellingFrame :=
  ⟨by decide, .inr rfl, by decide, by decide⟩

/-- A keyframe, a requested one at another bitrate, and a frame that is none. -/
theorem mock_h264_round_trip_spelling :
    ∃ units : List EncodedAccessUnit,
      encodeAll (fun w h => (w, h))
          ((MockSoftwareEncoder.new ⟨0, 0, 30, 0x01000001⟩).withKeyframeInterval 0)
          [.encode spellingFrame false, .requestKeyframe, .setTargetBitrateBps 0x34363248,
            .encode spellingFrame false, .encode spellingFrame false] =
        some (units.map Except.ok) ∧
      decodeAll .new units = List.replicate 3 (.ok (some spellingFrame)) ∧
      ∀ k unit, units[k]? = some unit → ∃ slice, parseMockSlice unit.data = .ok slice ∧
        slice.index = min k 18446744073709551615 ∧ slice.keyframe = unit.keyframe :=
  mock_h264_round_trip _ _ _ (by decide)
    (by simp [EncoderOp.Small, small_spellingFrame]) _

end RemoteLink.Media
