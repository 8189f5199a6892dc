import RemoteLink.Library.LittleEndian
import RemoteLink.Platform.SoftwareEncoder

set_option autoImplicit false

/-!
# The input picture of Media Foundation

The encoder of the system takes pictures of a fixed, even size with four bytes for a pixel: blue,
green, red and one that is not used. A captured frame is copied into a buffer of zeros row by row,
as far as both have rows and columns.

A step that can panic is an `Option`: `none` is a panic.

## Main definitions

* `MediaFoundationEncoder.buildSample` — the buffer that is filled from a frame.
* `SampleFaithful` — what the buffer should hold.

## Main results

* `buildSample_eq` — every byte of the buffer.
* `build_sample_faithful_iff` — when the buffer holds the picture of the frame.
-/

namespace RemoteLink.Platform

open Library

/-! ## The encoder -/

/-- An encoder, as far as its input goes. -/
structure MediaFoundationEncoder where
  width : UInt32
  height : UInt32

/-- Columns or rows of an encoder: at least sixteen, and even. -/
def evenSize (n : UInt32) : UInt32 := max n 16 &&& ~~~1

/-- The encoder that is opened for a configured size. -/
def MediaFoundationEncoder.tryOpen (width height : UInt32) : MediaFoundationEncoder :=
  ⟨evenSize width, evenSize height⟩

/-- A number of 64 bits; a larger one is a panic. -/
def fitUsize (n : ℕ) : Option ℕ := if n < 18446744073709551616 then some n else none

/-- A product that saturates at 64 bits. -/
def saturatingMul (a b : ℕ) : ℕ := min (a * b) 18446744073709551615

namespace MediaFoundationEncoder

/-- Bytes of a row of the buffer. -/
def stride (e : MediaFoundationEncoder) : ℕ := saturatingMul e.width.toNat 4

/-- Bytes of the buffer. -/
def byteLen (e : MediaFoundationEncoder) : ℕ := saturatingMul e.stride e.height.toNat

/-- Copy a row, if both sides have it. -/
def copyRow (e : MediaFoundationEncoder) (frame : VideoFrame) (dst : Bytes) (y : ℕ) :
    Option Bytes := do
  let copyW := min frame.width.toNat e.width.toNat * 4
  let srcStride := frame.width.toNat * 4
  let srcOff ← fitUsize (y * srcStride)
  let dstOff ← fitUsize (y * e.stride)
  let srcEnd ← fitUsize (srcOff + copyW)
  let dstEnd ← fitUsize (dstOff + copyW)
  if srcEnd ≤ frame.data.length ∧ dstEnd ≤ dst.length then
    some (writeAt dst dstOff (bytesAt frame.data srcOff copyW))
  else some dst

/-- The buffer that is filled from a frame. The system is assumed to provide all of its bytes. -/
def buildSample (e : MediaFoundationEncoder) (frame : VideoFrame) :
    Option (Except String Bytes) :=
  if frame.format ≠ .bgra8 ∧ frame.format ≠ .rgba8 then
    some (.error "Media Foundation path expects BGRA8/RGBA8")
  else if frame.width = 0 ∨ frame.height = 0 then some (.error "zero dimensions")
  else
    let copyH := min frame.height.toNat e.height.toNat
    ((List.range copyH).foldlM (e.copyRow frame) (List.replicate e.byteLen 0)).map .ok

end MediaFoundationEncoder

/-! ## Sizes -/

/-- **An encoder has at least sixteen columns and rows.** -/
theorem le_evenSize (n : UInt32) : 16 ≤ (evenSize n).toNat := by
  have hmax : 16 ≤ (max n 16).toNat := by
    show 16 ≤ (if n ≤ 16 then (16 : UInt32) else n).toNat
    split_ifs with h
    · decide
    · rw [UInt32.le_iff_toNat_le] at h
      exact Nat.le_of_lt (Nat.lt_of_not_le h)
  have hlt := (max n 16).toNat_lt
  have hhalf : (evenSize n).toNat / 2 = (max n 16).toNat / 2 := by
    unfold evenSize
    rw [UInt32.toNat_and, show (~~~1 : UInt32).toNat = 4294967294 from rfl]
    calc ((max n 16).toNat &&& 4294967294) / 2
      _ = ((max n 16).toNat &&& 4294967294) >>> 1 := rfl
      _ = (max n 16).toNat >>> 1 &&& 4294967294 >>> 1 := Nat.shiftRight_and_distrib
      _ = (max n 16).toNat / 2 &&& (2 ^ 31 - 1) := rfl
      _ = (max n 16).toNat / 2 % 2 ^ 31 := Nat.and_two_pow_sub_one_eq_mod _ _
      _ = (max n 16).toNat / 2 := Nat.mod_eq_of_lt (by omega)
  omega

/-! ## The copy -/

/-- Where a row of a buffer begins, and how far some of its bytes go. -/
theorem row_iff {stride copied y i : ℕ} (hcopied : copied ≤ stride) :
    y * stride ≤ i ∧ i < y * stride + copied ↔ i / stride = y ∧ i % stride < copied := by
  have hsplit := Nat.div_add_mod i stride
  constructor
  · rintro ⟨hlow, hhigh⟩
    have hdiv : i / stride = y := by
      refine Nat.div_eq_of_lt_le hlow ?_
      rw [Nat.succ_mul]
      omega
    rw [hdiv, Nat.mul_comm] at hsplit
    exact ⟨hdiv, by omega⟩
  · rintro ⟨rfl, hmod⟩
    rw [Nat.mul_comm] at hsplit
    omega

section

variable {e : MediaFoundationEncoder} {frame : VideoFrame}

/-- Bytes that are copied of a row. -/
def copiedBytes (e : MediaFoundationEncoder) (frame : VideoFrame) : ℕ :=
  min frame.width.toNat e.width.toNat * 4

/-- Rows that are copied. -/
def copiedRows (e : MediaFoundationEncoder) (frame : VideoFrame) : ℕ :=
  min frame.height.toNat e.height.toNat

/-- The length of the buffer, as long as it is a number of 64 bits. -/
theorem byteLen_eq (hbuffer : e.width.toNat * 4 * e.height.toNat < 18446744073709551616) :
    e.stride = e.width.toNat * 4 ∧ e.byteLen = e.width.toNat * 4 * e.height.toNat := by
  have hlt := e.width.toNat_lt
  have hstride : e.stride = e.width.toNat * 4 := min_eq_left (by omega)
  refine ⟨hstride, ?_⟩
  unfold MediaFoundationEncoder.byteLen
  rw [hstride]
  exact min_eq_left (by omega)

/-- The formats that the encoder accepts have four bytes per pixel. -/
theorem bytesPerPixel_of_accepted (hformat : frame.format = .bgra8 ∨ frame.format = .rgba8) :
    frame.format.bytesPerPixel = 4 := by
  rcases hformat with h | h
  · rw [h]
    rfl
  · rw [h]
    rfl

/-- **Every copied row is there on both sides.** -/
theorem row_inside (hframe : frame.isWellFormed = true) (hbpp : frame.format.bytesPerPixel = 4)
    {y : ℕ} (hy : y < copiedRows e frame) :
    y * (frame.width.toNat * 4) + copiedBytes e frame ≤ frame.data.length ∧
      y * (e.width.toNat * 4) + copiedBytes e frame ≤ e.width.toNat * 4 * e.height.toNat := by
  obtain ⟨hw0, hh0, hstride, hlength⟩ := isWellFormed_iff.mp hframe
  rw [hbpp] at hstride
  unfold copiedRows at hy
  unfold copiedBytes
  constructor
  · calc y * (frame.width.toNat * 4) + min frame.width.toNat e.width.toNat * 4
      _ ≤ y * (frame.width.toNat * 4) + frame.width.toNat * 4 := by omega
      _ = (y + 1) * (frame.width.toNat * 4) := (Nat.succ_mul _ _).symm
      _ ≤ frame.height.toNat * frame.stride.toNat := Nat.mul_le_mul (by omega) hstride
      _ = frame.data.length := by rw [hlength, Nat.mul_comm]
  · calc y * (e.width.toNat * 4) + min frame.width.toNat e.width.toNat * 4
      _ ≤ y * (e.width.toNat * 4) + e.width.toNat * 4 := by omega
      _ = (y + 1) * (e.width.toNat * 4) := (Nat.succ_mul _ _).symm
      _ ≤ e.height.toNat * (e.width.toNat * 4) := Nat.mul_le_mul_right _ (by omega)
      _ = e.width.toNat * 4 * e.height.toNat := Nat.mul_comm _ _

/-- **A row is copied to its place**, and nothing overflows. -/
theorem copyRow_eq (hframe : frame.isWellFormed = true) (hbpp : frame.format.bytesPerPixel = 4)
    (hbuffer : e.width.toNat * 4 * e.height.toNat < 18446744073709551616) {dst : Bytes}
    (hdst : dst.length = e.width.toNat * 4 * e.height.toNat) {y : ℕ}
    (hy : y < copiedRows e frame) :
    e.copyRow frame dst y = some (writeAt dst (y * (e.width.toNat * 4))
      (bytesAt frame.data (y * (frame.width.toNat * 4)) (copiedBytes e frame))) := by
  obtain ⟨hsrc, hdst'⟩ := row_inside hframe hbpp hy
  have hdata : frame.data.length < 18446744073709551616 := by
    rw [(isWellFormed_iff.mp hframe).2.2.2]
    calc frame.stride.toNat * frame.height.toNat
      _ ≤ 4294967295 * 4294967295 := Nat.mul_le_mul (Nat.le_of_lt_succ frame.stride.toNat_lt)
        (Nat.le_of_lt_succ frame.height.toNat_lt)
      _ < 18446744073709551616 := by decide
  have hfit {n : ℕ} (h : n < 18446744073709551616) : fitUsize n = some n := if_pos h
  unfold copiedBytes at hsrc hdst'
  unfold MediaFoundationEncoder.copyRow
  rw [(byteLen_eq hbuffer).1]
  dsimp only
  rw [hfit (show y * (frame.width.toNat * 4) < _ by omega),
    hfit (show y * (e.width.toNat * 4) < _ by omega)]
  simp only [Option.bind_eq_bind, Option.bind_some]
  rw [hfit (show y * (frame.width.toNat * 4) + _ < _ by omega),
    hfit (show y * (e.width.toNat * 4) + _ < _ by omega)]
  simp only [Option.bind_some]
  rw [if_pos ⟨hsrc, by rw [hdst]; exact hdst'⟩]
  rfl

/-- A byte of the buffer after some rows: that of the frame in what has been copied, else zero. -/
def filledByte (e : MediaFoundationEncoder) (frame : VideoFrame) (rows i : ℕ) : UInt8 :=
  let y := i / (e.width.toNat * 4)
  let j := i % (e.width.toNat * 4)
  if y < rows ∧ j < copiedBytes e frame then frame.data.getD (y * (frame.width.toNat * 4) + j) 0
  else 0

/-- **The buffer after some rows.** -/
theorem fill_rows (hframe : frame.isWellFormed = true) (hbpp : frame.format.bytesPerPixel = 4)
    (hbuffer : e.width.toNat * 4 * e.height.toNat < 18446744073709551616) {rows : ℕ}
    (hrows : rows ≤ copiedRows e frame) :
    ∃ dst, (List.range rows).foldlM (e.copyRow frame) (List.replicate e.byteLen 0) = some dst ∧
      dst.length = e.width.toNat * 4 * e.height.toNat ∧
      ∀ i, dst.getD i 0 = filledByte e frame rows i := by
  induction rows with
  | zero =>
    refine ⟨_, rfl, ?_, fun i => ?_⟩
    · rw [List.length_replicate, (byteLen_eq hbuffer).2]
    · unfold filledByte
      dsimp only
      rw [if_neg fun h => Nat.not_lt_zero _ h.1, List.getD, List.getElem?_replicate]
      split_ifs <;> rfl
  | succ y ih =>
    obtain ⟨dst, hfill, hlength, hbytes⟩ := ih (by omega)
    obtain ⟨hsrc, hdst⟩ := row_inside hframe hbpp (show y < copiedRows e frame by omega)
    have hcopied : copiedBytes e frame ≤ e.width.toNat * 4 :=
      Nat.mul_le_mul_right 4 (Nat.min_le_right _ _)
    have hrow : (bytesAt frame.data (y * (frame.width.toNat * 4)) (copiedBytes e frame)).length =
        copiedBytes e frame := by
      rw [length_bytesAt]
      omega
    refine ⟨writeAt dst (y * (e.width.toNat * 4))
      (bytesAt frame.data (y * (frame.width.toNat * 4)) (copiedBytes e frame)), ?_, ?_, fun i => ?_⟩
    · rw [List.range_succ, List.foldlM_append, hfill]
      simp only [List.foldlM_cons, List.foldlM_nil, Option.bind_eq_bind, Option.bind_some]
      rw [copyRow_eq hframe hbpp hbuffer hlength (by omega)]
      rfl
    · rw [length_writeAt (by rw [hrow, hlength]; exact hdst), hlength]
    · rw [getD_writeAt (by rw [hrow, hlength]; exact hdst), hrow, hbytes]
      unfold filledByte
      dsimp only
      by_cases hnew : y * (e.width.toNat * 4) ≤ i ∧
          i < y * (e.width.toNat * 4) + copiedBytes e frame
      · obtain ⟨hdiv, hmod⟩ := (row_iff hcopied).mp hnew
        have hsplit := Nat.div_add_mod i (e.width.toNat * 4)
        rw [hdiv, Nat.mul_comm] at hsplit
        rw [if_pos hnew, getD_bytesAt (by omega), hdiv, if_pos ⟨Nat.lt_succ_self y, hmod⟩,
          show i - y * (e.width.toNat * 4) = i % (e.width.toNat * 4) by omega]
      · rw [if_neg hnew]
        rw [row_iff hcopied] at hnew
        refine if_congr ?_ rfl rfl
        omega

/-- **Every byte of the buffer**: a byte of the frame in the rows and columns that both have, read
as if the frame had no padding, and zero elsewhere. -/
theorem buildSample_eq (hframe : frame.isWellFormed = true)
    (hformat : frame.format = .bgra8 ∨ frame.format = .rgba8)
    (hbuffer : e.width.toNat * 4 * e.height.toNat < 18446744073709551616) :
    ∃ buffer, e.buildSample frame = some (.ok buffer) ∧
      buffer.length = e.width.toNat * 4 * e.height.toNat ∧
      ∀ x < e.width.toNat, ∀ y k, k < 4 → buffer.getD ((y * e.width.toNat + x) * 4 + k) 0 =
        if x < frame.width.toNat ∧ y < copiedRows e frame then
          frame.data.getD (y * (frame.width.toNat * 4) + (x * 4 + k)) 0
        else 0 := by
  obtain ⟨hw0, hh0, -, -⟩ := isWellFormed_iff.mp hframe
  have hbpp := bytesPerPixel_of_accepted hformat
  have haccepted : ¬(frame.format ≠ .bgra8 ∧ frame.format ≠ .rgba8) := by
    rintro ⟨hbgra, hrgba⟩
    exact hformat.elim hbgra hrgba
  have hsize : ¬(frame.width = 0 ∨ frame.height = 0) := by
    rintro (h | h)
    · rw [h] at hw0
      exact absurd hw0 (by decide)
    · rw [h] at hh0
      exact absurd hh0 (by decide)
  obtain ⟨buffer, hfill, hlength, hbytes⟩ :=
    fill_rows hframe hbpp hbuffer (Nat.le_refl (copiedRows e frame))
  refine ⟨buffer, ?_, hlength, fun x hx y k hk => ?_⟩
  · unfold MediaFoundationEncoder.buildSample
    rw [if_neg haccepted, if_neg hsize]
    unfold copiedRows at hfill
    dsimp only
    rw [hfill]
    rfl
  · have hindex : (y * e.width.toNat + x) * 4 + k = y * (e.width.toNat * 4) + (x * 4 + k) := by
      rw [Nat.add_mul, Nat.mul_assoc, Nat.add_assoc]
    have hcolumn : x * 4 + k < e.width.toNat * 4 := by omega
    have hdiv : (y * (e.width.toNat * 4) + (x * 4 + k)) / (e.width.toNat * 4) = y := by
      rw [Nat.add_comm, Nat.add_mul_div_right _ _ (by omega), Nat.div_eq_of_lt hcolumn,
        Nat.zero_add]
    have hmod : (y * (e.width.toNat * 4) + (x * 4 + k)) % (e.width.toNat * 4) = x * 4 + k := by
      rw [Nat.add_comm, Nat.add_mul_mod_self_right, Nat.mod_eq_of_lt hcolumn]
    rw [hindex, hbytes]
    unfold filledByte copiedBytes
    dsimp only
    rw [hdiv, hmod]
    refine if_congr ?_ rfl rfl
    omega

end

/-! ## What the buffer should hold -/

/-- **The buffer holds the picture of the frame**, as far as both have columns and rows: blue, green
and red in this order, and zeros elsewhere. No copied row is skipped, and no padding of the frame
has an effect. -/
structure SampleFaithful (e : MediaFoundationEncoder) (frame : VideoFrame) (buffer : Bytes) :
    Prop where
  length : buffer.length = e.width.toNat * 4 * e.height.toNat
  rows : ∀ y < copiedRows e frame,
    y * (frame.width.toNat * 4) + copiedBytes e frame ≤ frame.data.length ∧
      y * (e.width.toNat * 4) + copiedBytes e frame ≤ buffer.length
  pixels : ∀ x < min frame.width.toNat e.width.toNat,
    ∀ y < min frame.height.toNat e.height.toNat, ∀ c : Fin 3,
      (buffer.getD ((y * e.width.toNat + x) * 4 + (2 - c)) 0).toNat = colour frame (x, y) c
  zeros : ∀ x < e.width.toNat, ∀ y < e.height.toNat,
    ¬(x < frame.width.toNat ∧ y < frame.height.toNat) →
      ∀ k < 4, buffer.getD ((y * e.width.toNat + x) * 4 + k) 0 = 0
  padding : ∀ data, (frame.withData data).isWellFormed = true →
    (∀ x < frame.width.toNat, ∀ y < frame.height.toNat, ∀ k < 4,
      data.getD (y * frame.stride.toNat + x * 4 + k) 0 =
        frame.data.getD (y * frame.stride.toNat + x * 4 + k) 0) →
    e.buildSample (frame.withData data) = some (.ok buffer)

/-- The rows of a frame follow one another, or it has only one. -/
def TightRows (frame : VideoFrame) : Prop :=
  frame.stride.toNat = frame.width.toNat * 4 ∨ frame.height = 1

/-- The pixels that are copied have as much red as blue, so that exchanging the two changes
nothing, or they are in the right order. -/
def RedAsBlue (e : MediaFoundationEncoder) (frame : VideoFrame) : Prop :=
  frame.format = .bgra8 ∨
    ∀ x < min frame.width.toNat e.width.toNat, ∀ y < min frame.height.toNat e.height.toNat,
      ∀ c, colour frame (x, y) c = colour frame (x, y) c.rev

section

variable {e : MediaFoundationEncoder} {frame : VideoFrame}

/-- Tight rows are where the copy expects them. -/
theorem TightRows.index (h : TightRows frame) {y : ℕ} (hy : y < frame.height.toNat) :
    y * (frame.width.toNat * 4) = y * frame.stride.toNat := by
  rcases h with htight | hone
  · rw [htight]
  · rw [hone, show (1 : UInt32).toNat = 1 from rfl] at hy
    obtain rfl : y = 0 := by omega
    rw [Nat.zero_mul, Nat.zero_mul]

/-- In the place where a colour of `Bgra8` stands, `Rgba8` has the colour opposite to it. -/
theorem colour_rev (hrgba : frame.format = .rgba8) (x y : ℕ) (c : Fin 3) :
    colour frame (x, y) c.rev =
      (frame.data.getD (y * frame.stride.toNat + x * 4 + (2 - c)) 0).toNat := by
  have hoffset : (c.rev : ℕ) = 2 - c := by
    rw [Fin.val_rev]
    omega
  unfold colour
  rw [hrgba, ← hoffset]
  rfl

/-- **Padding between rows has an effect.** -/
theorem tightRows_of_padding (hframe : frame.isWellFormed = true)
    (hformat : frame.format = .bgra8 ∨ frame.format = .rgba8)
    (hbuffer : e.width.toNat * 4 * e.height.toNat < 18446744073709551616)
    (hsize : 1 ≤ e.width.toNat ∧ 2 ≤ e.height.toNat) {buffer : Bytes}
    (h : SampleFaithful e frame buffer) : TightRows frame := by
  obtain ⟨hw0, hh0, hstride, hlength⟩ := isWellFormed_iff.mp hframe
  have hbpp := bytesPerPixel_of_accepted hformat
  rw [hbpp] at hstride
  by_contra hloose
  have hpadded : frame.width.toNat * 4 < frame.stride.toNat :=
    Nat.lt_of_le_of_ne hstride fun htight => hloose (.inl htight.symm)
  have htall : 1 < frame.height.toNat := by
    refine Nat.lt_of_le_of_ne hh0 fun hone => hloose (.inr ?_)
    exact UInt32.toNat_inj.mp hone.symm
  -- Another byte in the padding of the first row is copied to the second one.
  let other :=
    frame.data.set (frame.width.toNat * 4) (frame.data.getD (frame.width.toNat * 4) 0 + 1)
  have hother : (frame.withData other).isWellFormed = true := by
    refine isWellFormed_iff.mpr ⟨hw0, hh0, ?_, ?_⟩
    · exact hbpp ▸ hstride
    · exact (List.length_set ..).trans hlength
  have hvisible : ∀ x < frame.width.toNat, ∀ y < frame.height.toNat, ∀ k < 4,
      other.getD (y * frame.stride.toNat + x * 4 + k) 0 =
        frame.data.getD (y * frame.stride.toNat + x * 4 + k) 0 := by
    intro x hx y hy k hk
    have hne : frame.width.toNat * 4 ≠ y * frame.stride.toNat + x * 4 + k := by
      cases y with
      | zero => omega
      | succ y =>
        rw [Nat.succ_mul]
        omega
    rw [List.getD, List.getElem?_set_ne hne, List.getD]
  have hinside : frame.width.toNat * 4 < frame.data.length := by
    have hsecond : frame.stride.toNat * 2 ≤ frame.stride.toNat * frame.height.toNat :=
      Nat.mul_le_mul_left _ htall
    omega
  have hrows : 1 < copiedRows e frame := by
    unfold copiedRows
    omega
  obtain ⟨buffer₁, hbuild₁, -, hbytes₁⟩ := buildSample_eq hframe hformat hbuffer
  obtain ⟨buffer₂, hbuild₂, -, hbytes₂⟩ :=
    @buildSample_eq e (frame.withData other) hother hformat hbuffer
  have hsame : buffer₁ = buffer₂ := by
    have h₁ := h.padding frame.data hframe fun _ _ _ _ _ _ => rfl
    have h₂ := h.padding other hother hvisible
    rw [hbuild₂] at h₂
    have h₁' : e.buildSample frame = some (.ok buffer) := h₁
    rw [hbuild₁] at h₁'
    cases h₁'
    cases h₂
    rfl
  have hindex : 1 * (frame.width.toNat * 4) + (0 * 4 + 0) = frame.width.toNat * 4 := by omega
  have hfirst := (hbytes₁ 0 hsize.1 1 0 (by decide)).trans (if_pos ⟨hw0, hrows⟩)
  have hsecond : buffer₂.getD ((1 * e.width.toNat + 0) * 4 + 0) 0 =
      other.getD (1 * (frame.width.toNat * 4) + (0 * 4 + 0)) 0 :=
    (hbytes₂ 0 hsize.1 1 0 (by decide)).trans (if_pos ⟨hw0, hrows⟩)
  rw [hindex] at hfirst hsecond
  rw [hsame, hsecond] at hfirst
  have hother_eq : other.getD (frame.width.toNat * 4) 0 =
      frame.data.getD (frame.width.toNat * 4) 0 + 1 := by
    rw [List.getD, List.getElem?_set_self hinside, Option.getD_some]
  rw [hother_eq] at hfirst
  have hbyte := (frame.data.getD (frame.width.toNat * 4) 0).toNat_lt
  have hvalue := congrArg UInt8.toNat hfirst
  rw [UInt8.toNat_add, show (1 : UInt8).toNat = 1 from rfl] at hvalue
  omega

/-- Buffers with the same pixels are the same. -/
theorem buffer_ext {w h : ℕ} {a b : Bytes} (ha : a.length = w * 4 * h) (hb : b.length = w * 4 * h)
    (hpixels : ∀ x < w, ∀ y < h, ∀ k < 4,
      a.getD ((y * w + x) * 4 + k) 0 = b.getD ((y * w + x) * 4 + k) 0) : a = b := by
  apply List.ext_getElem (ha.trans hb.symm)
  intro i hia hib
  have hpos : 0 < w := by
    rcases Nat.eq_zero_or_pos w with rfl | hpos
    · rw [show 0 * 4 * h = 0 by omega] at ha
      omega
    · exact hpos
  have hrow : i / 4 / w < h := by
    rw [Nat.div_div_eq_div_mul, Nat.div_lt_iff_lt_mul (by omega)]
    calc i
      _ < w * 4 * h := ha ▸ hia
      _ = h * (4 * w) := by rw [Nat.mul_comm w 4, Nat.mul_comm]
  have hpixel := hpixels (i / 4 % w) (Nat.mod_lt _ hpos) (i / 4 / w) hrow (i % 4)
    (Nat.mod_lt _ (by decide))
  have hindex : (i / 4 / w * w + i / 4 % w) * 4 + i % 4 = i := by
    rw [Nat.mul_comm (i / 4 / w), Nat.div_add_mod, Nat.mul_comm, Nat.div_add_mod]
  rwa [hindex, List.getD_eq_getElem _ _ hia, List.getD_eq_getElem _ _ hib] at hpixel

/-- **When the buffer holds the picture of the frame**: exactly if the rows have no padding between
them, and red and blue are in the right order or equal. -/
theorem sampleFaithful_iff (hframe : frame.isWellFormed = true)
    (hformat : frame.format = .bgra8 ∨ frame.format = .rgba8)
    (hbuffer : e.width.toNat * 4 * e.height.toNat < 18446744073709551616)
    (hsize : 1 ≤ e.width.toNat ∧ 2 ≤ e.height.toNat) :
    ∃ buffer, e.buildSample frame = some (.ok buffer) ∧
      (SampleFaithful e frame buffer ↔ TightRows frame ∧ RedAsBlue e frame) := by
  have hbpp := bytesPerPixel_of_accepted hformat
  obtain ⟨buffer, hbuild, hlength, hbytes⟩ := buildSample_eq hframe hformat hbuffer
  have hcopied (htight : TightRows frame) {x y : ℕ}
      (hx : x < min frame.width.toNat e.width.toNat)
      (hy : y < min frame.height.toNat e.height.toNat) {k : ℕ} (hk : k < 4) :
      buffer.getD ((y * e.width.toNat + x) * 4 + k) 0 =
        frame.data.getD (y * frame.stride.toNat + x * 4 + k) 0 := by
    rw [hbytes x (by omega) y k hk, if_pos ⟨by omega, hy⟩, htight.index (by omega),
      Nat.add_assoc]
  refine ⟨buffer, hbuild, ?_, ?_⟩
  · intro h
    have htight := tightRows_of_padding hframe hformat hbuffer hsize h
    refine ⟨htight, hformat.imp_right fun hrgba x hx y hy c => ?_⟩
    -- the byte in the place of red is the blue of the frame
    rw [← h.pixels x hx y hy c, hcopied htight hx hy (by omega), colour_rev hrgba]
  · rintro ⟨htight, hred⟩
    refine ⟨hlength, fun y hy => hlength ▸ row_inside hframe hbpp hy, ?_, ?_, ?_⟩
    · intro x hx y hy c
      have hc := c.isLt
      rw [hcopied htight hx hy (show 2 - (c : ℕ) < 4 by omega)]
      rcases hred with hbgra | hequal
      · unfold colour
        rw [hbpp, hbgra]
        rfl
      · rcases hformat with hbgra | hrgba
        · unfold colour
          rw [hbpp, hbgra]
          rfl
        · rw [hequal x hx y hy c, colour_rev hrgba]
    · intro x hx y hy hout k hk
      rw [hbytes x hx y k hk, if_neg]
      unfold copiedRows
      omega
    · intro data hdata hvisible
      obtain ⟨other, hother, hlength', hbytes'⟩ :=
        @buildSample_eq e (frame.withData data) hdata hformat hbuffer
      rw [hother]
      refine congrArg (fun b => some (Except.ok b)) (buffer_ext hlength' hlength ?_)
      intro x hx y hy k hk
      have hother_byte : other.getD ((y * e.width.toNat + x) * 4 + k) 0 =
          if x < frame.width.toNat ∧ y < copiedRows e frame then
            data.getD (y * (frame.width.toNat * 4) + (x * 4 + k)) 0
          else 0 := hbytes' x hx y k hk
      rw [hbytes x hx y k hk, hother_byte]
      split_ifs with hboth
      · have hrow : y < frame.height.toNat := lt_of_lt_of_le hboth.2 (Nat.min_le_left _ _)
        rw [htight.index hrow, ← Nat.add_assoc]
        exact hvisible x hboth.1 y hrow k hk
      · rfl

end

/-- **The input picture of an encoder that has been opened** is that of the frame exactly if the
frame has no padding between its rows, and red and blue are in the right order or equal. -/
theorem build_sample_faithful_iff {frame : VideoFrame} (hframe : frame.isWellFormed = true)
    (hformat : frame.format = .bgra8 ∨ frame.format = .rgba8) {width height : UInt32}
    (hbuffer : (evenSize width).toNat * 4 * (evenSize height).toNat < 18446744073709551616) :
    ∃ buffer, (MediaFoundationEncoder.tryOpen width height).buildSample frame =
        some (.ok buffer) ∧
      (SampleFaithful (.tryOpen width height) frame buffer ↔
        TightRows frame ∧ RedAsBlue (.tryOpen width height) frame) := by
  have hwidth : 16 ≤ (evenSize width).toNat := le_evenSize width
  have hheight : 16 ≤ (evenSize height).toNat := le_evenSize height
  exact sampleFaithful_iff hframe hformat hbuffer
    ⟨Nat.le_trans (by decide) hwidth, Nat.le_trans (by decide) hheight⟩

/-- The picture of a frame with tight rows. -/
theorem build_sample_faithful_tight : ∃ buffer,
    (MediaFoundationEncoder.tryOpen 16 16).buildSample tightCapture.toVideoFrame =
      some (.ok buffer) ∧
    SampleFaithful (.tryOpen 16 16) tightCapture.toVideoFrame buffer := by
  obtain ⟨buffer, hbuild, hfaithful⟩ := @build_sample_faithful_iff tightCapture.toVideoFrame
    (by decide) (.inl rfl) 16 16 (by decide)
  exact ⟨buffer, hbuild, hfaithful.mpr ⟨.inl (by decide), .inl rfl⟩⟩

/-- **The padding of a row becomes the next one, and red becomes blue.** -/
theorem samples_spoilt :
    (∃ buffer, (MediaFoundationEncoder.tryOpen 16 16).buildSample paddedCapture.toVideoFrame =
        some (.ok buffer) ∧
      ¬SampleFaithful (.tryOpen 16 16) paddedCapture.toVideoFrame buffer) ∧
    ∃ buffer, (MediaFoundationEncoder.tryOpen 16 16).buildSample redCapture.toVideoFrame =
        some (.ok buffer) ∧
      ¬SampleFaithful (.tryOpen 16 16) redCapture.toVideoFrame buffer := by
  constructor
  · obtain ⟨buffer, hbuild, hfaithful⟩ := @sampleFaithful_iff (.tryOpen 16 16)
      paddedCapture.toVideoFrame (by decide) (.inl rfl) (by decide) (by decide)
    refine ⟨buffer, hbuild, fun h => ?_⟩
    rcases (hfaithful.mp h).1 with htight | hone
    · exact absurd htight (by decide)
    · exact absurd hone (by decide)
  · obtain ⟨buffer, hbuild, hfaithful⟩ := @sampleFaithful_iff (.tryOpen 16 16)
      redCapture.toVideoFrame (by decide) (.inr rfl) (by decide) (by decide)
    refine ⟨buffer, hbuild, fun h => ?_⟩
    rcases (hfaithful.mp h).2 with hbgra | hequal
    · exact absurd hbgra (by decide)
    · exact absurd (hequal 0 (by decide) 0 (by decide) 0) (by decide)

end RemoteLink.Platform
