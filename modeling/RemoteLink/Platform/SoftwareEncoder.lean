import RemoteLink.Media.MockEncoder

set_option autoImplicit false

/-!
# The mock encoder of the host

The host captures frames with padded rows in one of three formats. Its encoder puts the data of a
small frame into a unit as it is, and the viewer takes it for packed rows of Bgra8 or Rgb24.

## Main definitions

* `MockSoftwareEncoder.encode` — the unit of a captured frame.
* `Faithful` — every decoder shows the colours of the frame.
* `PackedAlike` — the bytes of the frame are those that a packed reading expects.

## Main results

* `faithful_iff` — when a unit shows the picture of its frame.
* `picture_fidelity` — the formats and strides for which it always does.
-/

namespace RemoteLink.Platform

open Library
open Media (PreviewSample SpellsSlice EncodedAccessUnit picture)
open Protocol (saturatingSucc)
open Viewer (MockH264Decoder)

/-! ## The encoder -/

/-- A captured frame with the time of its capture. -/
structure CapturedFrame extends VideoFrame where
  ptsHostMono : ℕ

/-- What a unit carries of a frame. `previewSize` are the columns and rows of the preview of a
larger frame, computed in floating point. -/
def previewPixels (previewSize : ℕ → ℕ → ℕ × ℕ) (frame : VideoFrame) : Option PreviewSample :=
  let srcBpp := frame.format.bytesPerPixel
  if frame.width.toNat ≤ 1280 ∧ frame.height.toNat ≤ 720 ∧ frame.data ≠ [] then
    some ⟨frame.width.toNat, frame.height.toNat, .ofNat srcBpp, frame.data⟩
  else
    let (dw, dh) := previewSize frame.width.toNat frame.height.toNat
    (boxDownscaleRgb frame dw dh srcBpp).map fun pixels => ⟨dw, dh, 3, pixels⟩

/-- Encode a frame. The state and the bytes of a unit are those of the encoder of the media
package; a panic is `none`. -/
def MockSoftwareEncoder.encode (previewSize : ℕ → ℕ → ℕ × ℕ) (e : Media.MockSoftwareEncoder)
    (frame : CapturedFrame) (forceKeyframe : Bool) :
    Option (Except String EncodedAccessUnit × Media.MockSoftwareEncoder) :=
  match validateFrame frame.toVideoFrame with
  | .error reason => some (.error reason, e)
  | .ok () =>
    let e := { e with
      width := if e.width = 0 then frame.width.toNat else e.width
      height := if e.height = 0 then frame.height.toNat else e.height }
    let keyframe := e.shouldKeyframe forceKeyframe
    (previewPixels previewSize frame.toVideoFrame).map fun preview =>
      (.ok {
        ptsHostMono := frame.ptsHostMono
        keyframe
        format := .annexB
        data := e.accessUnit preview keyframe
        targetBitrateBps := e.targetBitrateBps },
      { e with
        framesEncoded := saturatingSucc e.framesEncoded
        keyframePending := if keyframe then false else e.keyframePending })

/-! ## Fidelity -/

/-- Where a channel is in a pixel that a viewer shows. -/
def shownOffset : Viewer.PixelFormat → Fin 3 → ℕ
  | .bgra8, c => 2 - c
  | .rgb24, c | .rgba8, c => c
  | .gray8, _ => 0

/-- The colour of a pixel that a viewer shows. -/
def shownColour (shown : Viewer.VideoFrame) (p : ℕ × ℕ) (c : Fin 3) : ℕ :=
  (shown.data.getD ((p.2 * shown.width + p.1) * shown.format.bytesPerPixel +
    shownOffset shown.format c) 0).toNat

/-- **A unit shows a frame**: every decoder reconstructs its columns, its rows and the colours of
its pixels. -/
def Faithful (unit : EncodedAccessUnit) (frame : VideoFrame) : Prop :=
  ∀ d : MockH264Decoder, ∃ shown, (d.decode unit.data unit.ptsHostMono).1 = .ok (some shown) ∧
    shown.width = frame.width.toNat ∧ shown.height = frame.height.toNat ∧
    ∀ x < frame.width.toNat, ∀ y < frame.height.toNat, ∀ c,
      shownColour shown (x, y) c = colour frame (x, y) c

/-- The format that a viewer takes the bytes of a frame for. -/
def PixelFormat.shown : PixelFormat → Viewer.PixelFormat
  | .bgra8 | .rgba8 => .bgra8
  | .rgb24 => .rgb24

/-- The byte at an index of a frame that is read without its stride. The length of the data counts
in 32 bits, and shorter data are repeated. -/
def packedByte (frame : VideoFrame) (i : ℕ) : UInt8 :=
  let sample := frame.data.take (frame.data.length % 4294967296)
  sample.getD (i % sample.length) 0

/-- **The visible bytes of a frame stand where a packed reading finds them**, or equal ones do. -/
def PackedAlike (frame : VideoFrame) : Prop :=
  ∀ x < frame.width.toNat, ∀ y < frame.height.toNat, ∀ c : Fin 3,
    (packedByte frame ((y * frame.width.toNat + x) * frame.format.bytesPerPixel +
      shownOffset frame.format.shown c)).toNat = colour frame (x, y) c

/-- The shapes whose rows are packed, in a format that a viewer knows. -/
def PackedShape (frame : VideoFrame) : Prop :=
  frame.format ≠ .rgba8 ∧
    (frame.stride.toNat = frame.width.toNat * frame.format.bytesPerPixel ∨ frame.height = 1)

section

variable {frame : VideoFrame}

theorem PixelFormat.bytesPerPixel_shown (f : PixelFormat) :
    f.shown.bytesPerPixel = f.bytesPerPixel := by
  cases f <;> rfl

/-- A channel is inside of its pixel. -/
theorem PixelFormat.shownOffset_lt (f : PixelFormat) (c : Fin 3) :
    shownOffset f.shown c < f.bytesPerPixel := by
  have hc := c.isLt
  cases f with
  | bgra8 | rgba8 =>
    show 2 - (c : ℕ) < 4
    omega
  | rgb24 => exact hc

/-- The index of a channel of a pixel in packed rows. -/
theorem packed_index_lt {w h bpp x y o : ℕ} (hx : x < w) (hy : y < h) (ho : o < bpp) :
    (y * w + x) * bpp + o < w * h * bpp := by
  calc (y * w + x) * bpp + o
    _ < (y * w + x + 1) * bpp := by
      rw [Nat.succ_mul]
      omega
    _ ≤ ((y + 1) * w) * bpp := by
      refine Nat.mul_le_mul_right bpp ?_
      rw [Nat.succ_mul]
      omega
    _ ≤ (h * w) * bpp := Nat.mul_le_mul_right bpp (Nat.mul_le_mul_right w hy)
    _ = w * h * bpp := by rw [Nat.mul_comm h w]

/-- The preview of a small frame is its data. -/
def wholePreview (frame : VideoFrame) : PreviewSample :=
  ⟨frame.width.toNat, frame.height.toNat, .ofNat frame.format.bytesPerPixel, frame.data⟩

theorem previewPixels_small (hframe : frame.isWellFormed = true) (hw : frame.width.toNat ≤ 1280)
    (hh : frame.height.toNat ≤ 720) (previewSize : ℕ → ℕ → ℕ × ℕ) :
    previewPixels previewSize frame = some (wholePreview frame) := by
  have hinside := pixel_inside hframe
    (isWellFormed_iff.mp hframe).1 (isWellFormed_iff.mp hframe).2.1
  have hdata : frame.data ≠ [] := by
    intro hempty
    have hbpp : 0 < frame.format.bytesPerPixel := by
      cases frame.format <;> decide
    rw [hempty, List.length_nil] at hinside
    omega
  exact if_pos ⟨hw, hh, hdata⟩

/-- **What the encoder makes of a small frame.** -/
theorem encode_small {captured : CapturedFrame}
    (hframe : validateFrame captured.toVideoFrame = .ok ())
    (hw : captured.width.toNat ≤ 1280) (hh : captured.height.toNat ≤ 720)
    (previewSize : ℕ → ℕ → ℕ × ℕ) (e : Media.MockSoftwareEncoder) (force : Bool) :
    ∃ unit e', MockSoftwareEncoder.encode previewSize e captured force = some (.ok unit, e') ∧
      ∃ e₁ : Media.MockSoftwareEncoder, e₁.fps = e.fps ∧
        e₁.targetBitrateBps = e.targetBitrateBps ∧
        unit.data = e₁.accessUnit (wholePreview captured.toVideoFrame)
          (e.shouldKeyframe force) := by
  unfold MockSoftwareEncoder.encode
  rw [hframe, previewPixels_small (validateFrame_ok hframe) hw hh]
  exact ⟨_, _, rfl, _, rfl, rfl, rfl⟩

/-- The colours of a picture are bytes of the sample. -/
theorem shownColour_picture {slice : Viewer.MockSliceMeta} {pts : ℕ}
    (hwidth : slice.width = frame.width.toNat)
    (hheight : slice.height = frame.height.toNat)
    (hbpp : slice.bpp = frame.format.bytesPerPixel)
    (hsample : slice.sample = frame.data.take (frame.data.length % 4294967296)) {x y : ℕ}
    (hx : x < frame.width.toNat) (hy : y < frame.height.toNat) (c : Fin 3) :
    shownColour (picture slice pts) (x, y) c =
      (packedByte frame ((y * frame.width.toNat + x) * frame.format.bytesPerPixel +
        shownOffset frame.format.shown c)).toNat := by
  have hformat : (if slice.bpp = 4 then Viewer.PixelFormat.bgra8 else .rgb24) =
      frame.format.shown := by
    rw [hbpp]
    cases frame.format <;> rfl
  have hindex := packed_index_lt hx hy (frame.format.shownOffset_lt c)
  unfold shownColour picture packedByte
  dsimp only
  rw [hformat, hwidth, hheight, hsample, PixelFormat.bytesPerPixel_shown,
    List.getD_eq_getElem _ _ (by rwa [List.length_map, List.length_range]), List.getElem_map,
    List.getElem_range]

/-- **When a unit shows the picture of its frame**: exactly if the bytes of the frame are alike in
packed rows, and no keyframe spells a slice. -/
theorem faithful_iff (hframe : frame.isWellFormed = true) (hw : frame.width.toNat ≤ 1280)
    (hh : frame.height.toNat ≤ 720) {unit : EncodedAccessUnit} {e : Media.MockSoftwareEncoder}
    {keyframe : Bool} (hunit : unit.data = e.accessUnit (wholePreview frame) keyframe) :
    Faithful unit frame ↔ PackedAlike frame ∧
      ¬(keyframe = true ∧ SpellsSlice e.fps e.targetBitrateBps) := by
  obtain ⟨hw0, hh0, -, -⟩ := isWellFormed_iff.mp hframe
  have hwidth : (wholePreview frame).width < 65536 := by
    show frame.width.toNat < 65536
    omega
  have hheight : (wholePreview frame).height < 65536 := by
    show frame.height.toNat < 65536
    omega
  have hbpp : (UInt8.ofNat frame.format.bytesPerPixel).toNat = frame.format.bytesPerPixel := by
    cases frame.format <;> rfl
  by_cases hspells : keyframe = true ∧ SpellsSlice e.fps e.targetBitrateBps
  · -- The slice that the parameters spell is too wide.
    refine iff_of_false (fun hfaithful => ?_) (fun h => h.2 hspells)
    obtain ⟨shown, hdecode, hshown, -⟩ := hfaithful .new
    obtain ⟨slice, hparse, hpicture⟩ := Media.decode_ok hdecode
    rw [hunit, hspells.1] at hparse
    obtain ⟨hdr, hfirst, hwide, htall⟩ :=
      Media.firstSlice_spelled e (wholePreview frame) hwidth hheight hspells.2
    rw [Media.parseMockSlice_eq hfirst] at hparse
    split_ifs at hparse
    cases hparse
    rw [hpicture (Nat.lt_of_lt_of_le (by decide) hwide) htall] at hshown
    have hwide' : 65536 ≤ frame.width.toNat := hshown ▸ hwide
    omega
  · have hparse := Media.parseMockSlice_accessUnit e (wholePreview frame) keyframe hwidth hheight
      fun hkeyframe hspelled => hspells ⟨hkeyframe, hspelled⟩
    rw [← hunit] at hparse
    have hcolour {x y : ℕ} (hx : x < frame.width.toNat) (hy : y < frame.height.toNat) (c : Fin 3) :
        shownColour (picture (Media.sliceMeta e (wholePreview frame) keyframe) unit.ptsHostMono)
          (x, y) c = (packedByte frame ((y * frame.width.toNat + x) * frame.format.bytesPerPixel +
            shownOffset frame.format.shown c)).toNat :=
      shownColour_picture rfl rfl hbpp rfl hx hy c
    have hdecode := Media.decode_eq_picture hparse hw0 hh0
    rw [and_iff_left hspells]
    constructor
    · intro hfaithful x hx y hy c
      obtain ⟨shown, hshown, -, -, hsame⟩ := hfaithful .new
      rw [hdecode] at hshown
      cases hshown
      rw [← hcolour hx hy c, hsame x hx y hy c]
    · intro halike d
      refine ⟨_, hdecode d _, rfl, rfl, fun x hx y hy c => ?_⟩
      rw [hcolour hx hy c, halike x hx y hy c]

/-- A viewer knows the order of the channels, but for Rgba8. -/
theorem shownOffset_shown {f : PixelFormat} (hf : f ≠ .rgba8) (c : Fin 3) :
    shownOffset f.shown c = f.channelOffset c := by
  cases f with
  | bgra8 | rgb24 => rfl
  | rgba8 => exact absurd rfl hf

/-- **Packed rows in a format that a viewer knows are alike.** -/
theorem packedAlike_of_shape (hframe : frame.isWellFormed = true) (hw : frame.width.toNat ≤ 1280)
    (hh : frame.height.toNat ≤ 720) (hshape : PackedShape frame) : PackedAlike frame := by
  obtain ⟨hw0, hh0, hstride, hlength⟩ := isWellFormed_iff.mp hframe
  obtain ⟨hformat, hrows⟩ := hshape
  intro x hx y hy c
  have hoffset := shownOffset_shown hformat c
  have hlt := frame.format.shownOffset_lt c
  have hinside := pixel_inside hframe hx hy
  have hindex : (y * frame.width.toNat + x) * frame.format.bytesPerPixel =
      y * frame.stride.toNat + x * frame.format.bytesPerPixel := by
    rcases hrows with htight | hone
    · rw [htight, Nat.add_mul, Nat.mul_assoc]
    · obtain rfl : y = 0 := by
        rw [hone, show (1 : UInt32).toNat = 1 from rfl] at hy
        omega
      rw [Nat.zero_mul, Nat.zero_mul, Nat.zero_add, Nat.zero_add]
  have hsmall : frame.data.length < 4294967296 := by
    rw [hlength]
    rcases hrows with htight | hone
    · have hbpp : frame.format.bytesPerPixel ≤ 4 := by
        cases frame.format <;> decide
      calc frame.stride.toNat * frame.height.toNat
        _ ≤ (1280 * 4) * 720 := by
          rw [htight]
          exact Nat.mul_le_mul (Nat.mul_le_mul hw hbpp) hh
        _ < 4294967296 := by decide
    · rw [hone, show (1 : UInt32).toNat = 1 from rfl, Nat.mul_one]
      exact frame.stride.toNat_lt
  unfold packedByte colour
  dsimp only
  rw [Nat.mod_eq_of_lt hsmall, List.take_length, hoffset, hindex,
    Nat.mod_eq_of_lt (by rw [← hoffset]; omega)]

/-- A frame with other data. -/
def VideoFrame.withData (frame : VideoFrame) (data : Bytes) : VideoFrame := { frame with data }

/-- Zeros but for one byte. -/
def oneAt (n k : ℕ) : Bytes := (List.replicate n 0).set k 1

theorem getD_oneAt {n k : ℕ} (hk : k < n) (i : ℕ) :
    (oneAt n k).getD i 0 = if i = k then 1 else 0 := by
  unfold oneAt
  by_cases h : i = k
  · subst h
    simp [hk]
  · rw [if_neg h, List.getD, List.getElem?_set_ne (Ne.symm h), List.getElem?_replicate]
    split_ifs <;> rfl

/-- Before the one byte, a packed reading finds zeros, also where it repeats them. -/
theorem packedByte_oneAt {n k i : ℕ} (hk : k < n) (hi : i < k) :
    packedByte (frame.withData (oneAt n k)) i = 0 := by
  have hdata : (frame.withData (oneAt n k)).data = oneAt n k := rfl
  unfold packedByte
  rw [hdata]
  dsimp only
  generalize (oneAt n k).length % 4294967296 = m
  have hle : i % ((oneAt n k).take m).length ≤ i := Nat.mod_le _ _
  have hzero : (oneAt n k).getD (i % ((oneAt n k).take m).length) 0 = 0 := by
    rw [getD_oneAt hk, if_neg (by omega)]
  rw [List.getD, List.getElem?_take]
  split_ifs
  · exact hzero
  · rfl

/-- **A pixel behind its place in packed rows is missed.** -/
theorem not_packedAlike_oneAt (hframe : frame.isWellFormed = true) {x y : ℕ} {c : Fin 3}
    (hx : x < frame.width.toNat) (hy : y < frame.height.toNat)
    (hbehind : (y * frame.width.toNat + x) * frame.format.bytesPerPixel +
        shownOffset frame.format.shown c <
      y * frame.stride.toNat + x * frame.format.bytesPerPixel + frame.format.channelOffset c) :
    ∃ data, (frame.withData data).isWellFormed = true ∧ ¬PackedAlike (frame.withData data) := by
  obtain ⟨hw0, hh0, hstride, hlength⟩ := isWellFormed_iff.mp hframe
  have hinside := pixel_inside hframe hx hy
  have hchannel : frame.format.channelOffset c < frame.format.bytesPerPixel := by
    have hc := c.isLt
    cases frame.format with
    | bgra8 =>
      show 2 - (c : ℕ) < 4
      omega
    | rgba8 =>
      show (c : ℕ) < 4
      omega
    | rgb24 => exact hc
  have hk : y * frame.stride.toNat + x * frame.format.bytesPerPixel +
      frame.format.channelOffset c < frame.data.length := by omega
  refine ⟨oneAt frame.data.length (y * frame.stride.toNat + x * frame.format.bytesPerPixel +
    frame.format.channelOffset c), ?_, fun halike => ?_⟩
  · refine isWellFormed_iff.mpr ⟨hw0, hh0, hstride, ?_⟩
    exact ((List.length_set ..).trans List.length_replicate).trans hlength
  · have hbyte := halike x hx y hy c
    have hcolour : colour (frame.withData (oneAt frame.data.length (y * frame.stride.toNat +
        x * frame.format.bytesPerPixel + frame.format.channelOffset c))) (x, y) c = 1 := by
      show ((oneAt _ _).getD _ 0).toNat = 1
      rw [getD_oneAt hk]
      simp [VideoFrame.withData]
    rw [hcolour] at hbyte
    have hzero := @packedByte_oneAt frame _ _ _ hk hbehind
    simp only [VideoFrame.withData] at hbyte hzero
    rw [hzero] at hbyte
    exact absurd hbyte (by decide)

/-- **Any other shape has a picture that a packed reading spoils.** -/
theorem exists_not_packedAlike (hframe : frame.isWellFormed = true)
    (hshape : ¬PackedShape frame) :
    ∃ data, (frame.withData data).isWellFormed = true ∧ ¬PackedAlike (frame.withData data) := by
  obtain ⟨hw0, hh0, hstride, -⟩ := isWellFormed_iff.mp hframe
  by_cases hformat : frame.format = .rgba8
  · -- The blue of the first pixel is read as red.
    have hbehind : (0 * frame.width.toNat + 0) * frame.format.bytesPerPixel +
        shownOffset frame.format.shown 2 <
        0 * frame.stride.toNat + 0 * frame.format.bytesPerPixel +
          frame.format.channelOffset 2 := by
      rw [hformat]
      simp only [Nat.zero_mul, Nat.zero_add]
      decide
    exact not_packedAlike_oneAt hframe hw0 hh0 hbehind
  · -- The second row begins behind the padding of the first.
    have hoffset := shownOffset_shown hformat 1
    have hpadded : frame.width.toNat * frame.format.bytesPerPixel < frame.stride.toNat := by
      refine Nat.lt_of_le_of_ne hstride fun htight => hshape ⟨hformat, .inl htight.symm⟩
    have hrows : 1 < frame.height.toNat := by
      refine Nat.lt_of_le_of_ne hh0 fun hone => hshape ⟨hformat, .inr ?_⟩
      exact UInt32.toNat_inj.mp hone.symm
    refine not_packedAlike_oneAt (x := 0) (c := 1) hframe hw0 hrows ?_
    rw [hoffset, Nat.one_mul, Nat.one_mul, Nat.add_zero, Nat.zero_mul]
    omega

end

/-! ## Which pictures arrive -/

/-- A captured frame with other data. -/
def CapturedFrame.withData (captured : CapturedFrame) (data : Bytes) : CapturedFrame where
  toVideoFrame := captured.toVideoFrame.withData data
  ptsHostMono := captured.ptsHostMono

/-- **The encoder makes a unit of a frame that shows it.** -/
def Delivers (previewSize : ℕ → ℕ → ℕ × ℕ) (e : Media.MockSoftwareEncoder)
    (captured : CapturedFrame) (force : Bool) : Prop :=
  ∃ unit e', MockSoftwareEncoder.encode previewSize e captured force = some (.ok unit, e') ∧
    Faithful unit captured.toVideoFrame

/-- **A keyframe whose parameters spell a slice.** -/
def SpelledKeyframe (e : Media.MockSoftwareEncoder) (force : Bool) : Prop :=
  e.shouldKeyframe force = true ∧ SpellsSlice e.fps e.targetBitrateBps

theorem delivers_iff {captured : CapturedFrame}
    (hframe : validateFrame captured.toVideoFrame = .ok ())
    (hw : captured.width.toNat ≤ 1280) (hh : captured.height.toNat ≤ 720)
    (previewSize : ℕ → ℕ → ℕ × ℕ) (e : Media.MockSoftwareEncoder) (force : Bool) :
    Delivers previewSize e captured force ↔
      PackedAlike captured.toVideoFrame ∧ ¬SpelledKeyframe e force := by
  obtain ⟨unit, e', hencode, e₁, hfps, hbitrate, hunit⟩ :=
    encode_small hframe hw hh previewSize e force
  have hfaithful := faithful_iff (validateFrame_ok hframe) hw hh hunit
  rw [hfps, hbitrate] at hfaithful
  unfold SpelledKeyframe
  rw [← hfaithful]
  constructor
  · rintro ⟨unit', e'', hencode', h⟩
    rw [hencode] at hencode'
    cases hencode'
    exact h
  · intro h
    exact ⟨unit, e', hencode, h⟩

theorem validateFrame_eq_ok {frame : VideoFrame} (h : frame.isWellFormed = true) :
    validateFrame frame = .ok () := by
  unfold validateFrame
  rw [h]
  cases frame.format <;> rfl

/-- **Which pictures arrive as they were captured.** A frame arrives exactly if its visible bytes
are alike in packed rows and no keyframe spells a slice; and every picture of a shape arrives
exactly if its rows are packed, in a format that the viewer knows, and no keyframe spells one. -/
theorem picture_fidelity {captured : CapturedFrame}
    (hframe : validateFrame captured.toVideoFrame = .ok ())
    (hw : captured.width.toNat ≤ 1280) (hh : captured.height.toNat ≤ 720)
    (previewSize : ℕ → ℕ → ℕ × ℕ) (e : Media.MockSoftwareEncoder) (force : Bool) :
    (Delivers previewSize e captured force ↔
      PackedAlike captured.toVideoFrame ∧ ¬SpelledKeyframe e force) ∧
    ((∀ data, validateFrame (captured.withData data).toVideoFrame = .ok () →
        Delivers previewSize e (captured.withData data) force) ↔
      PackedShape captured.toVideoFrame ∧ ¬SpelledKeyframe e force) := by
  refine ⟨delivers_iff hframe hw hh previewSize e force, ?_, ?_⟩
  · intro hall
    have hspelled : ¬SpelledKeyframe e force :=
      ((delivers_iff hframe hw hh previewSize e force).mp (hall captured.data hframe)).2
    refine ⟨?_, hspelled⟩
    by_contra hshape
    obtain ⟨data, hwell, hspoilt⟩ := exists_not_packedAlike (validateFrame_ok hframe) hshape
    have haccepted : validateFrame (captured.withData data).toVideoFrame = .ok () :=
      validateFrame_eq_ok hwell
    exact hspoilt ((delivers_iff haccepted hw hh previewSize e force).mp
      (hall data haccepted)).1
  · rintro ⟨hshape, hspelled⟩ data haccepted
    refine (delivers_iff haccepted hw hh previewSize e force).mpr ⟨?_, hspelled⟩
    exact packedAlike_of_shape (validateFrame_ok haccepted) hw hh hshape

/-- Two rows of one pixel in Bgra8, without padding. -/
def tightCapture : CapturedFrame where
  width := 1
  height := 2
  stride := 4
  format := .bgra8
  data := [1, 2, 3, 255, 4, 5, 6, 255]
  ptsHostMono := 33

/-- An encoder at 30 frames a second. -/
def demoEncoder : Media.MockSoftwareEncoder := .new ⟨0, 0, 30, 2000000⟩

/-- A frame with packed rows arrives. -/
theorem picture_fidelity_tight :
    Delivers (fun w h => (w, h)) demoEncoder tightCapture false := by
  have hframe : validateFrame tightCapture.toVideoFrame = .ok () := by decide
  have hspelled : ¬SpelledKeyframe demoEncoder false :=
    fun h => Media.not_spellsSlice (by decide) h.2
  have hshape : PackedShape tightCapture.toVideoFrame := ⟨by decide, .inl (by decide)⟩
  have hfidelity := picture_fidelity hframe (by decide) (by decide) (fun w h => (w, h))
    demoEncoder false
  exact hfidelity.1.mpr
    ⟨packedAlike_of_shape (validateFrame_ok hframe) (by decide) (by decide) hshape, hspelled⟩

/-- A red pixel in Rgba8. -/
def redCapture : CapturedFrame where
  width := 1
  height := 1
  stride := 4
  format := .rgba8
  data := [255, 0, 0, 255]
  ptsHostMono := 33

/-- Two rows of one pixel in Bgra8, each padded by four bytes. -/
def paddedCapture : CapturedFrame where
  width := 1
  height := 2
  stride := 8
  format := .bgra8
  data := [1, 2, 3, 255, 0, 0, 0, 0, 4, 5, 6, 255, 0, 0, 0, 0]
  ptsHostMono := 33

/-- **Accepted frames do not arrive as they were captured**: red arrives as blue, and the padding of
a row as the next one. -/
theorem pictures_spoilt :
    (validateFrame redCapture.toVideoFrame = .ok () ∧
      ¬Delivers (fun w h => (w, h)) demoEncoder redCapture false) ∧
    (validateFrame paddedCapture.toVideoFrame = .ok () ∧
      ¬Delivers (fun w h => (w, h)) demoEncoder paddedCapture false) := by
  have hred : validateFrame redCapture.toVideoFrame = .ok () := by decide
  have hpadded : validateFrame paddedCapture.toVideoFrame = .ok () := by decide
  refine ⟨⟨hred, fun hdelivers => ?_⟩, hpadded, fun hdelivers => ?_⟩
  · have halike := ((delivers_iff hred (by decide) (by decide) _ _ _).mp hdelivers).1
    exact absurd (halike 0 (by decide) 0 (by decide) 0) (by decide)
  · have halike := ((delivers_iff hpadded (by decide) (by decide) _ _ _).mp hdelivers).1
    exact absurd (halike 0 (by decide) 1 (by decide) 0) (by decide)

end RemoteLink.Platform
