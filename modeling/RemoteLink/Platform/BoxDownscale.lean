import Mathlib.Algebra.Order.BigOperators.Group.List
import Mathlib.Algebra.Group.Action.Defs
import Mathlib.Data.Fin.VecNotation
import Mathlib.Data.List.GetD
import RemoteLink.Library.Raster

set_option autoImplicit false

/-!
# Box downscaling

The preview that the software encoder embeds in its units: every pixel of it is the mean of a box
of the captured frame. The frame's rows may be padded and its pixels are in one of three formats,
the preview's are packed and in the order red, green, blue. Sums are in 32 bits.

## Main definitions

* `VideoFrame`, `VideoFrame.isWellFormed` — a captured frame, and what the encoder accepts.
* `boxDownscaleRgb` — the preview of a frame, `none` where a sum overflows.
* `colour` — the colour of a pixel, whatever the format.
* `SumsFit` — the sums of a box are of 32 bits.

## Main results

* `pixel_inside`, `pixelRgb_eq` — every pixel of a well-formed frame is in its buffer and is read
  as its colour.
* `sumBox_eq` — the sums of a box, and when they overflow.
* `box_eq_cellPoints` — the boxes are the rectangles of cells.
* `boxDownscaleRgb_eq_some_iff` — the loop writes the means, or stops.
* `box_downscale` — the boxes partition the frame; the preview has their means exactly if the sums
  of every box fit.
* `box_overflow` — a box whose sums do not.
-/

namespace RemoteLink.Platform

open RemoteLink.Library

/-! ## Frames -/

/-- The layout of a pixel. -/
inductive PixelFormat where
  | bgra8
  | rgba8
  | rgb24
  deriving Repr, DecidableEq

/-- The bytes of a pixel. -/
def PixelFormat.bytesPerPixel : PixelFormat → ℕ
  | .bgra8 | .rgba8 => 4
  | .rgb24 => 3

/-- A captured frame: rows of `stride` bytes. -/
structure VideoFrame where
  width : UInt32
  height : UInt32
  stride : UInt32
  format : PixelFormat
  data : List UInt8

/-- The length of the buffer, in arithmetic that saturates. -/
def VideoFrame.expectedLen (frame : VideoFrame) : ℕ :=
  min (frame.stride.toNat * frame.height.toNat) 18446744073709551615

/-- Whether dimensions, stride and buffer are consistent. -/
def VideoFrame.isWellFormed (frame : VideoFrame) : Bool :=
  if frame.width = 0 || frame.height = 0 then false
  else
    let minStride := frame.width.toNat * frame.format.bytesPerPixel
    if frame.stride.toNat < minStride then false
    else frame.data.length == frame.expectedLen

/-- The frames that the encoder accepts. -/
def validateFrame (frame : VideoFrame) : Except String Unit :=
  if !frame.isWellFormed then .error "frame buffer does not match dimensions/stride"
  else
    match frame.format with
    | .bgra8 | .rgba8 | .rgb24 => .ok ()

/-! ## Arithmetic in 32 bits -/

/-- A number of 32 bits; a larger one is a panic. -/
def fitU32 (n : ℕ) : Option ℕ := if n < 4294967296 then some n else none

/-- Three channels: red, green, blue. -/
abbrev Rgb := Fin 3 → ℕ

/-- The sums of the channels of a box, and how many pixels they are of. -/
structure BoxSum where
  acc : Rgb
  n : ℕ

/-- Add a pixel. -/
def BoxSum.add (s : BoxSum) (p : Rgb) : Option BoxSum := do
  let r ← fitU32 (s.acc 0 + p 0)
  let g ← fitU32 (s.acc 1 + p 1)
  let b ← fitU32 (s.acc 2 + p 2)
  let n ← fitU32 (s.n + 1)
  some ⟨![r, g, b], n⟩

/-- The mean of a channel, as a byte; of no pixels it is zero. -/
def BoxSum.mean (s : BoxSum) (c : Fin 3) : UInt8 :=
  UInt8.ofNat (if s.n = 0 then 0 else s.acc c / s.n)

/-! ## Downscaling -/

/-- The byte at an index; one outside the buffer is a panic. -/
def byteAt (data : List UInt8) (i : ℕ) : Option ℕ := data[i]?.map UInt8.toNat

/-- The colour of a pixel of the frame; black outside its buffer. -/
def pixelRgb (frame : VideoFrame) (sx sy srcBpp : ℕ) : Option Rgb := do
  let rowLen ← fitU32 (frame.width.toNat * srcBpp)
  let stride := max frame.stride.toNat rowLen
  let si := sy * stride + sx * srcBpp
  if frame.data.length < si + srcBpp then some ![0, 0, 0]
  else
    match frame.format with
    | .rgb24 | .rgba8 => do
      let r ← byteAt frame.data si
      let g ← byteAt frame.data (si + 1)
      let b ← byteAt frame.data (si + 2)
      some ![r, g, b]
    | .bgra8 => do
      let r ← byteAt frame.data (si + 2)
      let g ← byteAt frame.data (si + 1)
      let b ← byteAt frame.data si
      some ![r, g, b]

/-- The pixels of the frame that are averaged for a pixel of the preview. -/
def box (frame : VideoFrame) (dw dh x y : ℕ) : List (ℕ × ℕ) :=
  let sw := max frame.width.toNat 1
  let sh := max frame.height.toNat 1
  let sy0 := y * sh / dh
  let sy1 := max ((y + 1) * sh / dh) (sy0 + 1)
  let sx0 := x * sw / dw
  let sx1 := max ((x + 1) * sw / dw) (sx0 + 1)
  raster sx0 (min sx1 sw) sy0 (min sy1 sh)

/-- The sums over the pixels of a box. -/
def sumBox (frame : VideoFrame) (srcBpp : ℕ) (pixels : List (ℕ × ℕ)) : Option BoxSum :=
  pixels.foldlM (fun s p => do s.add (← pixelRgb frame p.1 p.2 srcBpp)) ⟨![0, 0, 0], 0⟩

/-- Write the three bytes of a pixel; an index outside the buffer is a panic. -/
def writePixel (pixels : List UInt8) (di : ℕ) (s : BoxSum) : Option (List UInt8) :=
  if di + 2 < pixels.length then
    some (((pixels.set di (s.mean 0)).set (di + 1) (s.mean 1)).set (di + 2) (s.mean 2))
  else none

/-- Average the box of a pixel of the preview. -/
def writeBox (frame : VideoFrame) (dw dh srcBpp : ℕ) (pixels : List UInt8) (p : ℕ × ℕ) :
    Option (List UInt8) := do
  let s ← sumBox frame srcBpp (box frame dw dh p.1 p.2)
  writePixel pixels ((p.2 * dw + p.1) * 3) s

/-- The preview of a frame, in `dw` columns and `dh` rows. -/
def boxDownscaleRgb (frame : VideoFrame) (dw dh srcBpp : ℕ) : Option (List UInt8) :=
  (raster 0 dw 0 dh).foldlM (writeBox frame dw dh srcBpp) (List.replicate (dw * dh * 3) 0)

/-! ## What the preview should be -/

/-- Where a channel is in a pixel. -/
def PixelFormat.channelOffset : PixelFormat → Fin 3 → ℕ
  | .bgra8, c => 2 - c
  | .rgba8, c | .rgb24, c => c

/-- The colour of a pixel of a frame. -/
def colour (frame : VideoFrame) (p : ℕ × ℕ) (c : Fin 3) : ℕ :=
  (frame.data.getD (p.2 * frame.stride.toNat + p.1 * frame.format.bytesPerPixel +
    frame.format.channelOffset c) 0).toNat

/-- The sum of a channel over some pixels. -/
def colourSum (frame : VideoFrame) (pixels : List (ℕ × ℕ)) (c : Fin 3) : ℕ :=
  (pixels.map fun p => colour frame p c).sum

/-- The sums over some pixels are of 32 bits. -/
def SumsFit (frame : VideoFrame) (pixels : List (ℕ × ℕ)) : Prop :=
  pixels.length < 4294967296 ∧ ∀ c, colourSum frame pixels c < 4294967296

instance (frame : VideoFrame) (pixels : List (ℕ × ℕ)) : Decidable (SumsFit frame pixels) := by
  unfold SumsFit
  infer_instance

/-- The bytes of a pixel of the preview: the floor of the mean of each channel. -/
def meanBytes (frame : VideoFrame) (pixels : List (ℕ × ℕ)) : List UInt8 :=
  List.ofFn fun c => UInt8.ofNat (colourSum frame pixels c / pixels.length)

/-! ## Reading the frame -/

/-- Three channels are told apart one by one. -/
theorem Rgb.eq_of_channels {f g : Rgb} (h0 : f 0 = g 0) (h1 : f 1 = g 1) (h2 : f 2 = g 2) :
    f = g := by
  funext c
  match c with
  | 0 => exact h0
  | 1 => exact h1
  | 2 => exact h2

section

variable {frame : VideoFrame}

/-- What a well-formed frame is. -/
theorem isWellFormed_iff : frame.isWellFormed = true ↔
    1 ≤ frame.width.toNat ∧ 1 ≤ frame.height.toNat ∧
      frame.width.toNat * frame.format.bytesPerPixel ≤ frame.stride.toNat ∧
      frame.data.length = frame.stride.toNat * frame.height.toNat := by
  have hpos : ∀ n : UInt32, 1 ≤ n.toNat ↔ n ≠ 0 := by
    intro n
    rw [Nat.one_le_iff_ne_zero, ne_eq, ne_eq, ← UInt32.toNat_inj]
    rfl
  have hlen : frame.expectedLen = frame.stride.toNat * frame.height.toNat := by
    have hmul : frame.stride.toNat * frame.height.toNat ≤ 4294967295 * 4294967295 :=
      Nat.mul_le_mul (Nat.le_of_lt_succ frame.stride.toNat_lt)
        (Nat.le_of_lt_succ frame.height.toNat_lt)
    exact min_eq_left (hmul.trans (by decide))
  unfold VideoFrame.isWellFormed
  rw [hpos, hpos, hlen]
  by_cases hw : frame.width = 0
  · simp [hw]
  · by_cases hh : frame.height = 0
    · simp [hh]
    · by_cases hstride : frame.stride.toNat < frame.width.toNat * frame.format.bytesPerPixel
      · simp [hw, hh, hstride]
      · simp [hw, hh, hstride, Nat.not_lt.mp hstride]

/-- **No pixel of a well-formed frame leaves its buffer.** -/
theorem pixel_inside (hframe : frame.isWellFormed = true) {sx sy : ℕ}
    (hx : sx < frame.width.toNat) (hy : sy < frame.height.toNat) :
    sy * frame.stride.toNat + sx * frame.format.bytesPerPixel + frame.format.bytesPerPixel ≤
      frame.data.length := by
  obtain ⟨-, -, hstride, hlength⟩ := isWellFormed_iff.mp hframe
  rw [hlength]
  calc sy * frame.stride.toNat + sx * frame.format.bytesPerPixel + frame.format.bytesPerPixel
    _ = sy * frame.stride.toNat + (sx + 1) * frame.format.bytesPerPixel := by
      rw [Nat.succ_mul, Nat.add_assoc]
    _ ≤ sy * frame.stride.toNat + frame.width.toNat * frame.format.bytesPerPixel :=
      Nat.add_le_add_left (Nat.mul_le_mul_right _ hx) _
    _ ≤ sy * frame.stride.toNat + frame.stride.toNat := Nat.add_le_add_left hstride _
    _ = (sy + 1) * frame.stride.toNat := (Nat.succ_mul _ _).symm
    _ ≤ frame.height.toNat * frame.stride.toNat := Nat.mul_le_mul_right _ hy
    _ = frame.stride.toNat * frame.height.toNat := Nat.mul_comm _ _

theorem byteAt_eq {data : List UInt8} {i : ℕ} (h : i < data.length) :
    byteAt data i = some (data.getD i 0).toNat := by
  simp [byteAt, h]

/-- **A pixel is read as its colour**, whatever the format. -/
theorem pixelRgb_eq (hframe : frame.isWellFormed = true) {p : ℕ × ℕ}
    (hx : p.1 < frame.width.toNat) (hy : p.2 < frame.height.toNat) :
    pixelRgb frame p.1 p.2 frame.format.bytesPerPixel = some (colour frame p) := by
  obtain ⟨-, -, hstride, -⟩ := isWellFormed_iff.mp hframe
  have hinside := pixel_inside hframe hx hy
  have hrow : fitU32 (frame.width.toNat * frame.format.bytesPerPixel) =
      some (frame.width.toNat * frame.format.bytesPerPixel) :=
    if_pos (hstride.trans_lt frame.stride.toNat_lt)
  unfold pixelRgb
  rw [hrow]
  dsimp only [Option.bind_eq_bind, Option.bind_some]
  rw [max_eq_left hstride, if_neg (Nat.not_lt.mpr hinside)]
  unfold colour
  generalize p.2 * frame.stride.toNat + p.1 * frame.format.bytesPerPixel = si at hinside ⊢
  cases hformat : frame.format with
  | rgb24 | rgba8 =>
    rw [hformat] at hinside
    simp only [PixelFormat.bytesPerPixel] at hinside
    dsimp only
    rw [byteAt_eq (by omega), byteAt_eq (by omega), byteAt_eq (by omega)]
    exact congrArg some (Rgb.eq_of_channels rfl rfl rfl)
  | bgra8 =>
    rw [hformat] at hinside
    simp only [PixelFormat.bytesPerPixel] at hinside
    dsimp only
    rw [byteAt_eq (by omega), byteAt_eq (by omega), byteAt_eq (by omega)]
    exact congrArg some (Rgb.eq_of_channels rfl rfl rfl)

end

/-! ## Sums -/

/-- The sums, if they are of 32 bits. -/
def BoxSum.fit (s : BoxSum) : Option BoxSum :=
  if s.n < 4294967296 ∧ ∀ c, s.acc c < 4294967296 then some s else none

/-- The sums with those of some more pixels. -/
def BoxSum.plus (s : BoxSum) (frame : VideoFrame) (pixels : List (ℕ × ℕ)) : BoxSum :=
  ⟨fun c => s.acc c + colourSum frame pixels c, s.n + pixels.length⟩

theorem BoxSum.add_eq (s : BoxSum) (p : Rgb) :
    s.add p = BoxSum.fit ⟨fun c => s.acc c + p c, s.n + 1⟩ := by
  have hacc : (![s.acc 0 + p 0, s.acc 1 + p 1, s.acc 2 + p 2] : Rgb) = fun c => s.acc c + p c :=
    Rgb.eq_of_channels rfl rfl rfl
  unfold add fit fitU32
  simp only [Fin.forall_fin_succ, Fin.isValue]
  by_cases hr : s.acc 0 + p 0 < 4294967296
  · by_cases hg : s.acc 1 + p 1 < 4294967296
    · by_cases hb : s.acc 2 + p 2 < 4294967296
      · by_cases hn : s.n + 1 < 4294967296
        · simp [hr, hg, hb, hn, hacc]
        · simp [hr, hg, hb, hn]
      · simp [hr, hg, hb]
    · simp [hr, hg]
  · simp [hr]

theorem BoxSum.fit_eq_none {s : BoxSum} (h : s.fit = none) {frame : VideoFrame}
    {pixels : List (ℕ × ℕ)} : (s.plus frame pixels).fit = none := by
  unfold fit at h ⊢
  refine if_neg fun hfits => ?_
  have hsmaller : s.n < 4294967296 ∧ ∀ c, s.acc c < 4294967296 :=
    ⟨(Nat.le_add_right _ _).trans_lt hfits.1, fun c => (Nat.le_add_right _ _).trans_lt (hfits.2 c)⟩
  rw [if_pos hsmaller] at h
  cases h

section

variable {frame : VideoFrame}

theorem BoxSum.plus_cons (s : BoxSum) (p : ℕ × ℕ) (pixels : List (ℕ × ℕ)) :
    s.plus frame (p :: pixels) =
      BoxSum.plus ⟨fun c => s.acc c + colour frame p c, s.n + 1⟩ frame pixels := by
  unfold plus colourSum
  simp only [List.map_cons, List.sum_cons, List.length_cons, BoxSum.mk.injEq]
  exact ⟨funext fun c => (Nat.add_assoc _ _ _).symm, by omega⟩

/-- Adding pixels one by one is adding them all, and an overflow on the way is one at the end. -/
theorem foldlM_add (hframe : frame.isWellFormed = true) {pixels : List (ℕ × ℕ)}
    (hpixels : ∀ p ∈ pixels, p.1 < frame.width.toNat ∧ p.2 < frame.height.toNat) {s : BoxSum}
    (hs : s.fit = some s) :
    pixels.foldlM (fun s p => do
      s.add (← pixelRgb frame p.1 p.2 frame.format.bytesPerPixel)) s =
        (s.plus frame pixels).fit := by
  induction pixels generalizing s with
  | nil => exact hs.symm
  | cons p pixels ih =>
    obtain ⟨hx, hy⟩ := hpixels p List.mem_cons_self
    rw [List.foldlM_cons, pixelRgb_eq hframe hx hy, BoxSum.plus_cons]
    show (s.add (colour frame p) >>= fun s => _) = _
    rw [BoxSum.add_eq]
    by_cases hfits : s.n + 1 < 4294967296 ∧ ∀ c, s.acc c + colour frame p c < 4294967296
    · have hadd : BoxSum.fit ⟨fun c => s.acc c + colour frame p c, s.n + 1⟩ =
          some ⟨fun c => s.acc c + colour frame p c, s.n + 1⟩ := if_pos hfits
      rw [hadd]
      exact ih (fun q hq => hpixels q (List.mem_cons_of_mem _ hq)) hadd
    · have hadd : BoxSum.fit ⟨fun c => s.acc c + colour frame p c, s.n + 1⟩ = none :=
        if_neg hfits
      rw [hadd, BoxSum.fit_eq_none hadd]
      rfl

/-- **The sums of a box are those of its colours, as long as they fit.** -/
theorem sumBox_eq (hframe : frame.isWellFormed = true) {pixels : List (ℕ × ℕ)}
    (hpixels : ∀ p ∈ pixels, p.1 < frame.width.toNat ∧ p.2 < frame.height.toNat) :
    sumBox frame frame.format.bytesPerPixel pixels =
      BoxSum.fit ⟨colourSum frame pixels, pixels.length⟩ := by
  have hzero : BoxSum.fit ⟨![0, 0, 0], 0⟩ = some ⟨![0, 0, 0], 0⟩ := by
    refine if_pos ⟨by decide, ?_⟩
    decide
  have hplus : BoxSum.plus ⟨![0, 0, 0], 0⟩ frame pixels =
      ⟨colourSum frame pixels, pixels.length⟩ := by
    unfold BoxSum.plus
    rw [Nat.zero_add]
    refine congrArg (fun acc => BoxSum.mk acc pixels.length) (Rgb.eq_of_channels ?_ ?_ ?_)
    · exact Nat.zero_add _
    · exact Nat.zero_add _
    · exact Nat.zero_add _
  exact (foldlM_add hframe hpixels hzero).trans (congrArg BoxSum.fit hplus)

theorem sumBox_of_fit (hframe : frame.isWellFormed = true) {pixels : List (ℕ × ℕ)}
    (hpixels : ∀ p ∈ pixels, p.1 < frame.width.toNat ∧ p.2 < frame.height.toNat)
    (hfits : SumsFit frame pixels) :
    sumBox frame frame.format.bytesPerPixel pixels =
      some ⟨colourSum frame pixels, pixels.length⟩ :=
  (sumBox_eq hframe hpixels).trans (if_pos hfits)

theorem sumBox_of_not_fit (hframe : frame.isWellFormed = true) {pixels : List (ℕ × ℕ)}
    (hpixels : ∀ p ∈ pixels, p.1 < frame.width.toNat ∧ p.2 < frame.height.toNat)
    (hfits : ¬ SumsFit frame pixels) :
    sumBox frame frame.format.bytesPerPixel pixels = none :=
  (sumBox_eq hframe hpixels).trans (if_neg hfits)

/-- Each channel of a pixel is a byte. -/
theorem colourSum_le (pixels : List (ℕ × ℕ)) (c : Fin 3) :
    colourSum frame pixels c ≤ pixels.length * 255 := by
  have hbyte : ∀ v ∈ pixels.map fun p => colour frame p c, v ≤ 255 := by
    intro v hv
    obtain ⟨p, -, rfl⟩ := List.mem_map.mp hv
    exact Nat.le_of_lt_succ (UInt8.toNat_lt _)
  have hsum := List.sum_le_card_nsmul _ 255 hbyte
  rwa [List.length_map, smul_eq_mul] at hsum

/-- Boxes of up to so many pixels always fit. -/
theorem sumsFit_of_length_le {pixels : List (ℕ × ℕ)} (h : pixels.length ≤ 16843009) :
    SumsFit frame pixels := by
  refine ⟨by omega, fun c => ?_⟩
  have hsum : colourSum frame pixels c ≤ pixels.length * 255 := colourSum_le pixels c
  omega

/-! ## The preview -/

/-- **The boxes of a frame are the rectangles of cells**: the least width of a box makes no
difference as long as the preview is not larger than the frame. -/
theorem box_eq_cellPoints {dw dh : ℕ} (hdw : 1 ≤ dw) (hw : dw ≤ frame.width.toNat)
    (hdh : 1 ≤ dh) (hh : dh ≤ frame.height.toNat) {p : ℕ × ℕ} (hp : p ∈ raster 0 dw 0 dh) :
    box frame dw dh p.1 p.2 = cellPoints frame.width.toNat frame.height.toNat dw dh p := by
  obtain ⟨⟨-, hx⟩, -, hy⟩ := mem_raster.mp hp
  have hx1 := @cellStart_lt frame.width.toNat dw p.1 hdw hw
  have hy1 := @cellStart_lt frame.height.toNat dh p.2 hdh hh
  have hxw := @cellStart_mono frame.width.toNat dw _ dw (Nat.succ_le_of_lt hx)
  have hyh := @cellStart_mono frame.height.toNat dh _ dh (Nat.succ_le_of_lt hy)
  rw [cellStart_self hdw] at hxw
  rw [cellStart_self hdh] at hyh
  unfold box cellPoints
  unfold cellStart at *
  dsimp only
  rw [max_eq_left (hdw.trans hw), max_eq_left (hdh.trans hh),
    max_eq_left (Nat.succ_le_of_lt hx1), max_eq_left (Nat.succ_le_of_lt hy1), min_eq_left hxw,
    min_eq_left hyh]

/-- The pixels of a box are in the frame. -/
theorem box_inside {dw dh x y : ℕ} (hframe : frame.isWellFormed = true) {p : ℕ × ℕ}
    (hp : p ∈ box frame dw dh x y) :
    p.1 < frame.width.toNat ∧ p.2 < frame.height.toNat := by
  obtain ⟨hw, hh, -, -⟩ := isWellFormed_iff.mp hframe
  obtain ⟨⟨-, hx⟩, -, hy⟩ := mem_raster.mp hp
  rw [max_eq_left hw] at hx
  rw [max_eq_left hh] at hy
  exact ⟨hx.trans_le (min_le_right _ _), hy.trans_le (min_le_right _ _)⟩

/-- A pixel is written over the three bytes at its index. -/
theorem writePixel_append (written rest : List UInt8) (a b c : UInt8) (s : BoxSum) :
    writePixel (written ++ a :: b :: c :: rest) written.length s =
      some (written ++ s.mean 0 :: s.mean 1 :: s.mean 2 :: rest) := by
  have hlt : written.length + 2 < (written ++ a :: b :: c :: rest).length := by
    rw [List.length_append, List.length_cons, List.length_cons, List.length_cons]
    omega
  have hset : ∀ (l : List UInt8) (k : ℕ) (v : UInt8),
      (written ++ l).set (written.length + k) v = written ++ l.set k v := by
    intro l k v
    rw [List.set_append_right _ _ (Nat.le_add_right _ _), Nat.add_sub_cancel_left]
  unfold writePixel
  rw [if_pos hlt]
  have h0 := hset (a :: b :: c :: rest) 0 (s.mean 0)
  rw [Nat.add_zero] at h0
  rw [h0, List.set_cons_zero, hset, hset]
  rfl

/-- The bytes of a mean are those of the sums. -/
theorem mean_eq (pixels : List (ℕ × ℕ)) :
    [BoxSum.mean ⟨colourSum frame pixels, pixels.length⟩ 0,
      BoxSum.mean ⟨colourSum frame pixels, pixels.length⟩ 1,
      BoxSum.mean ⟨colourSum frame pixels, pixels.length⟩ 2] = meanBytes frame pixels := by
  have hmean : ∀ c, BoxSum.mean ⟨colourSum frame pixels, pixels.length⟩ c =
      UInt8.ofNat (colourSum frame pixels c / pixels.length) := by
    intro c
    unfold BoxSum.mean
    by_cases hempty : pixels.length = 0
    · simp [hempty]
    · rw [if_neg hempty]
  rw [hmean, hmean, hmean]
  rfl

theorem length_meanBytes (pixels : List (ℕ × ℕ)) : (meanBytes frame pixels).length = 3 :=
  List.length_ofFn

/-- What has been written of the preview when the loop has come to some point. -/
def written (frame : VideoFrame) (dw dh : ℕ) (before after : List (ℕ × ℕ)) : List UInt8 :=
  before.flatMap (fun p => meanBytes frame (box frame dw dh p.1 p.2)) ++
    List.replicate (after.length * 3) 0

/-- **A pixel of the preview is the mean of its box, as long as the sums fit.** -/
theorem writeBox_of_fit {dw dh : ℕ} (hframe : frame.isWellFormed = true)
    {before after : List (ℕ × ℕ)} {p : ℕ × ℕ} (hsplit : raster 0 dw 0 dh = before ++ p :: after)
    (hfits : SumsFit frame (box frame dw dh p.1 p.2)) :
    writeBox frame dw dh frame.format.bytesPerPixel (written frame dw dh before (p :: after)) p =
      some (written frame dw dh (before ++ [p]) after) := by
  have hindex : (p.2 * dw + p.1) * 3 =
      (before.flatMap fun p => meanBytes frame (box frame dw dh p.1 p.2)).length := by
    rw [index_of_raster_eq hsplit, List.length_flatMap]
    simp [length_meanBytes]
  have hrest : List.replicate ((p :: after).length * 3) (0 : UInt8) =
      0 :: 0 :: 0 :: List.replicate (after.length * 3) 0 := by
    rw [List.length_cons, Nat.succ_mul]
    rfl
  unfold writeBox written
  rw [sumBox_of_fit hframe (fun q hq => box_inside hframe hq) hfits]
  dsimp only [Option.bind_eq_bind, Option.bind_some]
  rw [hrest, hindex, writePixel_append, List.flatMap_append, List.flatMap_singleton, ← mean_eq,
    List.append_assoc]
  rfl

theorem writeBox_of_not_fit {dw dh : ℕ} (hframe : frame.isWellFormed = true) {p : ℕ × ℕ}
    (hfits : ¬ SumsFit frame (box frame dw dh p.1 p.2)) (pixels : List UInt8) :
    writeBox frame dw dh frame.format.bytesPerPixel pixels p = none := by
  unfold writeBox
  rw [sumBox_of_not_fit hframe (fun q hq => box_inside hframe hq) hfits]
  rfl

/-- The loop over the preview, from some point on, writes the means of the boxes it comes to. -/
theorem foldlM_of_fit {dw dh : ℕ} (hframe : frame.isWellFormed = true)
    {before after : List (ℕ × ℕ)} (hsplit : raster 0 dw 0 dh = before ++ after)
    (hfits : ∀ p ∈ after, SumsFit frame (box frame dw dh p.1 p.2)) :
    after.foldlM (writeBox frame dw dh frame.format.bytesPerPixel)
      (written frame dw dh before after) = some (written frame dw dh (before ++ after) []) := by
  induction after generalizing before with
  | nil =>
    rw [List.append_nil]
    rfl
  | cons p after ih =>
    rw [List.foldlM_cons, writeBox_of_fit hframe hsplit (hfits p List.mem_cons_self)]
    have hrest := @ih (before ++ [p]) (by rw [hsplit, List.append_assoc]; rfl)
      fun q hq => hfits q (List.mem_cons_of_mem _ hq)
    rw [List.append_assoc] at hrest
    exact hrest

/-- It stops at a box whose sums do not fit. -/
theorem foldlM_of_not_fit {dw dh : ℕ} (hframe : frame.isWellFormed = true)
    {before after : List (ℕ × ℕ)} (hsplit : raster 0 dw 0 dh = before ++ after)
    (hfits : ∃ p ∈ after, ¬ SumsFit frame (box frame dw dh p.1 p.2)) :
    after.foldlM (writeBox frame dw dh frame.format.bytesPerPixel)
      (written frame dw dh before after) = none := by
  induction after generalizing before with
  | nil =>
    obtain ⟨p, hp, -⟩ := hfits
    cases hp
  | cons p after ih =>
    rw [List.foldlM_cons]
    by_cases hp : SumsFit frame (box frame dw dh p.1 p.2)
    · rw [writeBox_of_fit hframe hsplit hp]
      obtain ⟨q, hq, hnot⟩ := hfits
      obtain rfl | hq := List.mem_cons.mp hq
      · exact absurd hp hnot
      · exact @ih (before ++ [p]) (by rw [hsplit, List.append_assoc]; rfl) ⟨q, hq, hnot⟩
    · rw [writeBox_of_not_fit hframe hp]
      rfl

/-- **A preview has the means of the boxes if all sums fit**, and there is none otherwise. -/
theorem boxDownscaleRgb_eq_some_iff {dw dh : ℕ} (hframe : frame.isWellFormed = true)
    {pixels : List UInt8} :
    boxDownscaleRgb frame dw dh frame.format.bytesPerPixel = some pixels ↔
      (∀ p ∈ raster 0 dw 0 dh, SumsFit frame (box frame dw dh p.1 p.2)) ∧
      pixels = (raster 0 dw 0 dh).flatMap fun p => meanBytes frame (box frame dw dh p.1 p.2) := by
  have hblank : List.replicate (dw * dh * 3) 0 = written frame dw dh [] (raster 0 dw 0 dh) := by
    unfold written
    rw [length_raster, Nat.sub_zero, Nat.sub_zero]
    rfl
  unfold boxDownscaleRgb
  rw [hblank]
  by_cases hfits : ∀ p ∈ raster 0 dw 0 dh, SumsFit frame (box frame dw dh p.1 p.2)
  · have hdone : written frame dw dh (raster 0 dw 0 dh) [] =
        (raster 0 dw 0 dh).flatMap fun p => meanBytes frame (box frame dw dh p.1 p.2) :=
      List.append_nil _
    rw [foldlM_of_fit hframe (List.nil_append _).symm hfits, List.nil_append, hdone,
      Option.some.injEq, eq_comm]
    exact (and_iff_right hfits).symm
  · have hexists : ∃ p ∈ raster 0 dw 0 dh, ¬ SumsFit frame (box frame dw dh p.1 p.2) := by
      by_contra hnone
      exact hfits fun p hp => by_contra fun hnot => hnone ⟨p, hp, hnot⟩
    rw [foldlM_of_not_fit hframe (List.nil_append _).symm hexists]
    constructor
    · intro h
      cases h
    · intro h
      exact absurd h.1 hfits

/-- A mean is a byte. -/
theorem mean_le (pixels : List (ℕ × ℕ)) (c : Fin 3) :
    colourSum frame pixels c / pixels.length ≤ 255 :=
  Nat.div_le_of_le_mul (colourSum_le pixels c)

/-- The bytes of a pixel of the preview are at its index. -/
theorem getD_flatMap_means {dw dh : ℕ} {p : ℕ × ℕ} (hp : p ∈ raster 0 dw 0 dh) (c : Fin 3) :
    (((raster 0 dw 0 dh).flatMap fun p => meanBytes frame (box frame dw dh p.1 p.2)).getD
      ((p.2 * dw + p.1) * 3 + c) 0).toNat =
      colourSum frame (box frame dw dh p.1 p.2) c / (box frame dw dh p.1 p.2).length := by
  obtain ⟨before, after, hsplit⟩ := List.append_of_mem hp
  have hindex : (p.2 * dw + p.1) * 3 =
      (before.flatMap fun p => meanBytes frame (box frame dw dh p.1 p.2)).length := by
    rw [index_of_raster_eq hsplit, List.length_flatMap]
    simp [length_meanBytes]
  have hlt : (c : ℕ) < (meanBytes frame (box frame dw dh p.1 p.2)).length := by
    rw [length_meanBytes]
    exact c.isLt
  rw [hsplit, List.flatMap_append, List.flatMap_cons, hindex, List.getD_append_right _ _ _ _
    (Nat.le_add_right _ _), Nat.add_sub_cancel_left, List.getD_append _ _ _ _ hlt,
    List.getD_eq_getElem _ _ hlt]
  simp only [meanBytes, List.getElem_ofFn]
  exact Nat.mod_eq_of_lt (Nat.lt_succ_of_le (mean_le _ c))

theorem length_flatMap_means {dw dh : ℕ} :
    ((raster 0 dw 0 dh).flatMap fun p => meanBytes frame (box frame dw dh p.1 p.2)).length =
      dw * dh * 3 := by
  rw [List.length_flatMap]
  simp [length_meanBytes, length_raster]

end

theorem validateFrame_ok {frame : VideoFrame} (h : validateFrame frame = .ok ()) :
    frame.isWellFormed = true := by
  unfold validateFrame at h
  by_contra hnot
  rw [if_pos (by simp [hnot])] at h
  cases h

/-- **The preview of an accepted frame.** For every size up to that of the frame, the boxes are not
empty, have no pixel in common and have all pixels of the frame, each of them once; no pixel is
read outside the buffer; and the preview has in every channel of every pixel, in the order red,
green, blue, the floor of the mean of its box, exactly if the sums over each box are of 32 bits. -/
theorem box_downscale {frame : VideoFrame} {dw dh : ℕ} (hframe : validateFrame frame = .ok ())
    (hdw : 1 ≤ dw) (hw : dw ≤ frame.width.toNat) (hdh : 1 ≤ dh)
    (hh : dh ≤ frame.height.toNat) :
    (∀ x < dw, ∀ y < dh, box frame dw dh x y ≠ []) ∧
    (∀ p ∈ raster 0 dw 0 dh, ∀ q ∈ raster 0 dw 0 dh, p ≠ q →
      List.Disjoint (box frame dw dh p.1 p.2) (box frame dw dh q.1 q.2)) ∧
    ((raster 0 dw 0 dh).flatMap fun p => box frame dw dh p.1 p.2).Perm
      (raster 0 frame.width.toNat 0 frame.height.toNat) ∧
    (∀ sx < frame.width.toNat, ∀ sy < frame.height.toNat,
      sy * frame.stride.toNat + sx * frame.format.bytesPerPixel + frame.format.bytesPerPixel ≤
        frame.data.length) ∧
    ((∃ pixels, boxDownscaleRgb frame dw dh frame.format.bytesPerPixel = some pixels ∧
      pixels.length = dw * dh * 3 ∧
      ∀ x < dw, ∀ y < dh, ∀ c : Fin 3, (pixels.getD ((y * dw + x) * 3 + c) 0).toNat =
        colourSum frame (box frame dw dh x y) c / (box frame dw dh x y).length) ↔
      ∀ x < dw, ∀ y < dh, SumsFit frame (box frame dw dh x y)) := by
  have hwell := validateFrame_ok hframe
  have hw0 : 0 < frame.width.toNat := hdw.trans hw
  have hh0 : 0 < frame.height.toNat := hdh.trans hh
  have hpoint : ∀ {x y : ℕ}, x < dw → y < dh → (x, y) ∈ raster 0 dw 0 dh := by
    intro x y hx hy
    exact mem_raster.mpr ⟨⟨Nat.zero_le _, hx⟩, Nat.zero_le _, hy⟩
  refine ⟨?_, ?_, ?_, ?_, ?_⟩
  · intro x hx y hy
    rw [box_eq_cellPoints hdw hw hdh hh (hpoint hx hy)]
    exact cellPoints_ne_nil hdw hw hdh hh (x, y)
  · intro p hp q hq hne
    rw [box_eq_cellPoints hdw hw hdh hh hp, box_eq_cellPoints hdw hw hdh hh hq]
    exact cellPoints_disjoint hdw hw0 hdh hh0 hne
  · have hboxes : ((raster 0 dw 0 dh).flatMap fun p => box frame dw dh p.1 p.2) =
        (raster 0 dw 0 dh).flatMap
          (cellPoints frame.width.toNat frame.height.toNat dw dh) := by
      rw [List.flatMap_def, List.flatMap_def]
      exact congrArg List.flatten (List.map_congr_left fun p hp =>
        box_eq_cellPoints hdw hw hdh hh hp)
    rw [hboxes]
    exact flatMap_cells_perm hdw hw0 hdh hh0
  · intro sx hsx sy hsy
    exact pixel_inside hwell hsx hsy
  · constructor
    · rintro ⟨pixels, hpixels, -, -⟩ x hx y hy
      exact ((boxDownscaleRgb_eq_some_iff hwell).mp hpixels).1 (x, y) (hpoint hx hy)
    · intro hfits
      refine ⟨_, (boxDownscaleRgb_eq_some_iff hwell).mpr ⟨?_, rfl⟩, length_flatMap_means, ?_⟩
      · intro p hp
        obtain ⟨⟨-, hx⟩, -, hy⟩ := mem_raster.mp hp
        exact hfits p.1 hx p.2 hy
      · intro x hx y hy c
        exact getD_flatMap_means (hpoint hx hy) c

/-- A frame of two columns and three rows, padded by a byte, brought to one column and two rows. -/
def demoCapture : VideoFrame where
  width := 2
  height := 3
  stride := 9
  format := .bgra8
  data := [10, 20, 30, 255, 12, 22, 32, 255, 0, 1, 2, 3, 255, 2, 4, 5, 255, 0, 5, 6, 7, 255, 9,
    8, 7, 255, 0]

/-- Its preview has the means, in the order red, green, blue. -/
theorem box_downscale_demo : ∃ pixels,
    boxDownscaleRgb demoCapture 1 2 4 = some pixels ∧ pixels.length = 6 ∧
      (pixels.getD 0 0).toNat = 31 := by
  have hpreview := @box_downscale demoCapture 1 2 (by decide) (by decide) (by decide) (by decide)
    (by decide)
  obtain ⟨pixels, hpixels, hlength, hmean⟩ := hpreview.2.2.2.2.mpr (by decide)
  exact ⟨pixels, hpixels, hlength, hmean 0 (by decide) 0 (by decide) 0⟩

/-- A white frame of 38 gigabytes, tall enough that its preview is a column. -/
def whiteCapture : VideoFrame where
  width := 5100
  height := 2500000
  stride := 15300
  format := .rgb24
  data := List.replicate (15300 * 2500000) 255

/-- **The sums of a box can overflow**: the boxes of this frame have more than seventeen million
pixels each. -/
theorem box_overflow : ¬ ∀ (frame : VideoFrame) (dw dh : ℕ), validateFrame frame = .ok () →
    1 ≤ dw → dw ≤ frame.width.toNat → 1 ≤ dh → dh ≤ frame.height.toNat →
    boxDownscaleRgb frame dw dh frame.format.bytesPerPixel ≠ none := by
  intro h
  have hwell : whiteCapture.isWellFormed = true := by
    refine isWellFormed_iff.mpr ⟨by decide, by decide, by decide, ?_⟩
    exact List.length_replicate
  have haccepted : validateFrame whiteCapture = .ok () := by
    unfold validateFrame
    rw [hwell]
    rfl
  have hsome := h whiteCapture 1 720 haccepted (by decide) (by decide) (by decide) (by decide)
  obtain ⟨pixels, hpixels⟩ := Option.ne_none_iff_exists'.mp hsome
  have hfits := ((boxDownscaleRgb_eq_some_iff hwell).mp hpixels).1 (0, 0)
    (mem_raster.mpr (by decide))
  have hbox : box whiteCapture 1 720 0 0 = raster 0 5100 0 3472 := by
    unfold box
    rfl
  rw [hbox] at hfits
  have hwhite : ∀ p ∈ raster 0 5100 0 3472, colour whiteCapture p 0 = 255 := by
    intro p hp
    obtain ⟨⟨-, hx⟩, -, hy⟩ := mem_raster.mp hp
    have hlt : p.2 * 15300 + p.1 * 3 + 0 < 15300 * 2500000 := by omega
    show ((List.replicate (15300 * 2500000) (255 : UInt8)).getD (p.2 * 15300 + p.1 * 3 + 0)
      0).toNat = 255
    rw [List.getD_eq_getElem _ _ (by rwa [List.length_replicate]), List.getElem_replicate]
    rfl
  have hsum : colourSum whiteCapture (raster 0 5100 0 3472) 0 = 17707200 * 255 := by
    unfold colourSum
    rw [List.map_congr_left hwhite, List.map_const', List.sum_replicate, length_raster]
    rfl
  have hlt := hfits.2 0
  rw [hsum] at hlt
  exact absurd hlt (by decide)

end RemoteLink.Platform
