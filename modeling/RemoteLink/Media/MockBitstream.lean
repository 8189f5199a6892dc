import RemoteLink.Library.LittleEndian
import RemoteLink.Viewer.Decode

set_option autoImplicit false

/-!
# The mock bitstream

The units of the mock encoders, which the host and the media package write out alike: a slice with
the geometry and the pixels of a frame, behind two parameter sets if it is a keyframe. Nothing is
escaped, so the bytes of a parameter or of a pixel can spell a start code. The decoder scans a unit
for start codes and takes the first slice behind one that has the magic.

## Main definitions

* `PreviewSample` — the pixels that a unit carries.
* `MockSoftwareEncoder` — the state of a mock encoder.
* `MockSoftwareEncoder.accessUnit` — the bytes of a unit.
* `SpellsSlice` — the parameters of an encoder that spell a slice of their own.

## Main results

* `mem_nalHeaderOffsets` — the scan finds every start code that another byte follows, whatever
  stands before it.
* `firstSlice_delta`, `firstSlice_keyframe` — the first slice of a unit is the real one, unless its
  parameters spell one.
-/

namespace RemoteLink.Media

open Library
open Viewer (nalHeaderOffsets findNalHeaderOffsets standsAt nalType leAt mockH264Magic
  parseMockSlice MockSliceMeta MockH264Decoder VideoFrame PixelFormat)

/-! ## Units -/

/-- The pixels that a unit carries. -/
structure PreviewSample where
  width : ℕ
  height : ℕ
  bpp : UInt8
  pixels : Bytes

/-- A NAL behind its start code. -/
def annexbNal (nal : Bytes) : Bytes := [0, 0, 0, 1] ++ nal

/-- The state of a mock encoder. -/
structure MockSoftwareEncoder where
  width : ℕ
  height : ℕ
  fps : UInt32
  targetBitrateBps : UInt32
  framesEncoded : UInt64
  keyframePending : Bool
  /-- A keyframe comes every so many frames; at zero only the first is one. -/
  keyframeInterval : UInt64

namespace MockSoftwareEncoder

/-- Whether the next unit is a keyframe. -/
def shouldKeyframe (e : MockSoftwareEncoder) (force : Bool) : Bool :=
  if force || e.keyframePending then true
  else if e.framesEncoded = 0 then true
  else decide (0 < e.keyframeInterval) && decide (e.framesEncoded % e.keyframeInterval = 0)

/-- The first parameter set. -/
def buildSps (e : MockSoftwareEncoder) (width height : ℕ) : Bytes :=
  annexbNal ([0x67] ++ mockH264Magic ++ le 4 width ++ le 4 height ++ le 4 e.fps.toNat ++
    le 4 e.targetBitrateBps.toNat)

/-- The second parameter set. -/
def buildPps : Bytes := annexbNal [0x68, 0x00]

/-- The slice of a unit. -/
def buildSlice (e : MockSoftwareEncoder) (preview : PreviewSample) (keyframe : Bool)
    (index : UInt64) : Bytes :=
  annexbNal ([if keyframe then 0x65 else 0x41] ++ mockH264Magic ++ le 8 index.toNat ++
    le 4 preview.width ++ le 4 preview.height ++ [preview.bpp] ++ le 4 e.targetBitrateBps.toNat ++
    le 4 preview.pixels.length ++ preview.pixels)

/-- The bytes of a unit. -/
def accessUnit (e : MockSoftwareEncoder) (preview : PreviewSample) (keyframe : Bool) : Bytes :=
  (if keyframe then e.buildSps preview.width preview.height ++ buildPps else []) ++
    e.buildSlice preview keyframe e.framesEncoded

end MockSoftwareEncoder

/-! ## Start codes -/

/-- **The scan finds every start code that another byte follows**, whatever stands before it: no
start code ends within the zeros of another one. -/
theorem mem_nalHeaderOffsets {data before after : Bytes} {b : UInt8} {i : ℕ}
    (h : data = before ++ 0 :: 0 :: 1 :: b :: after) :
    i + before.length + 3 ∈ nalHeaderOffsets i data := by
  induction i, data using Viewer.nalHeaderOffsets.induct generalizing before with
  | case1 i rest ih =>
    rw [nalHeaderOffsets]
    match before, h with
    | [_], _ => exact List.mem_cons_self
    | _ :: _ :: _ :: _ :: before, h =>
      simp only [List.cons_append, List.cons.injEq] at h
      have hmem := ih h.2.2.2.2
      rw [show i + 4 + before.length + 3 = i + (before.length + 4) + 3 by omega] at hmem
      exact List.mem_cons_of_mem _ hmem
  | case2 i c rest ih =>
    rw [nalHeaderOffsets]
    match before, h with
    | [], _ => exact List.mem_cons_self
    | [_, _, _], h =>
      simp only [List.cons_append, List.cons.injEq] at h
      exact List.mem_cons_of_mem _ (ih h.2.2.2)
    | _ :: _ :: _ :: d :: before, h =>
      simp only [List.cons_append, List.cons.injEq] at h
      have hmem := @ih (d :: before) (by rw [h.2.2.2.1, h.2.2.2.2]; rfl)
      rw [List.length_cons,
        show i + 3 + (before.length + 1) + 3 = i + (before.length + 4) + 3 by omega] at hmem
      exact List.mem_cons_of_mem _ hmem
  | case3 i x rest hfour hthree ih =>
    rw [Viewer.nalHeaderOffsets.eq_3 i x rest hfour hthree]
    match before, h with
    | [], h =>
      simp only [List.nil_append, List.cons.injEq] at h
      exact (hthree b after h.1 h.2).elim
    | _ :: before, h =>
      simp only [List.cons_append, List.cons.injEq] at h
      have hmem := ih h.2
      rwa [show i + 1 + before.length + 3 = i + (before.length + 1) + 3 by omega] at hmem
  | case4 i => simp at h

/-- **What the scan finds stands behind a start code.** -/
theorem of_mem_nalHeaderOffsets {data : Bytes} {i hdr : ℕ} (h : hdr ∈ nalHeaderOffsets i data) :
    ∃ before after, data = before ++ 0 :: 0 :: 1 :: after ∧ hdr = i + before.length + 3 := by
  induction i, data using Viewer.nalHeaderOffsets.induct with
  | case1 i rest ih =>
    rw [nalHeaderOffsets] at h
    rcases List.mem_cons.mp h with rfl | h
    · exact ⟨[0], rest, rfl, rfl⟩
    · obtain ⟨before, after, rfl, rfl⟩ := ih h
      exact ⟨0 :: 0 :: 0 :: 1 :: before, after, rfl, by simp only [List.length_cons]; omega⟩
  | case2 i c rest ih =>
    rw [nalHeaderOffsets] at h
    rcases List.mem_cons.mp h with rfl | h
    · exact ⟨[], c :: rest, rfl, rfl⟩
    · obtain ⟨before, after, hrest, rfl⟩ := ih h
      rw [hrest]
      exact ⟨0 :: 0 :: 1 :: before, after, rfl, by simp only [List.length_cons]; omega⟩
  | case3 i x rest hfour hthree ih =>
    rw [Viewer.nalHeaderOffsets.eq_3 i x rest hfour hthree] at h
    obtain ⟨before, after, rfl, rfl⟩ := ih h
    exact ⟨x :: before, after, rfl, by simp only [List.length_cons]; omega⟩
  | case4 i => simp [nalHeaderOffsets] at h

/-- The scan finds headers in their order. -/
theorem pairwise_nalHeaderOffsets (i : ℕ) (data : Bytes) :
    (nalHeaderOffsets i data).Pairwise (· < ·) := by
  have hbehind {i : ℕ} {data : Bytes} : ∀ hdr ∈ nalHeaderOffsets i data, i < hdr := by
    intro hdr hmem
    obtain ⟨before, after, -, rfl⟩ := of_mem_nalHeaderOffsets hmem
    omega
  induction i, data using Viewer.nalHeaderOffsets.induct with
  | case1 i rest ih =>
    rw [nalHeaderOffsets]
    exact List.pairwise_cons.mpr ⟨hbehind, ih⟩
  | case2 i c rest ih =>
    rw [nalHeaderOffsets]
    exact List.pairwise_cons.mpr ⟨hbehind, ih⟩
  | case3 i x rest hfour hthree ih =>
    rw [Viewer.nalHeaderOffsets.eq_3 i x rest hfour hthree]
    exact ih
  | case4 i => exact List.Pairwise.nil

/-- The first element with a property, in a list that is in order. -/
theorem find?_eq_of_first {l : List ℕ} (hl : l.Pairwise (· < ·)) {p : ℕ → Bool} {a : ℕ}
    (hmem : a ∈ l) (ha : p a = true) (hbefore : ∀ b ∈ l, b < a → p b = false) :
    l.find? p = some a := by
  induction l with
  | nil => cases hmem
  | cons b l ih =>
    obtain ⟨hb, hl⟩ := List.pairwise_cons.mp hl
    rcases List.mem_cons.mp hmem with rfl | hmem
    · exact List.find?_cons_of_pos ha
    · have hskip : p b = false := hbefore b List.mem_cons_self (hb a hmem)
      rw [List.find?_cons_of_neg (by rw [hskip]; exact Bool.false_ne_true)]
      exact ih hl hmem fun c hc => hbefore c (List.mem_cons_of_mem _ hc)

/-! ## The slice of a unit -/

/-- Whether a slice with the magic stands at a header. -/
def isSliceAt (data : Bytes) (hdr : ℕ) : Bool :=
  decide (hdr < data.length) && (nalType data hdr == 5 || nalType data hdr == 1) &&
    decide (hdr + 1 + 30 ≤ data.length) && standsAt mockH264Magic data (hdr + 1)

/-- The header of the first slice. -/
def firstSlice (data : Bytes) : Option ℕ := (findNalHeaderOffsets data).find? (isSliceAt data)

theorem isSliceAt_of {data : Bytes} {hdr : ℕ} (hlength : hdr + 31 ≤ data.length)
    (htype : nalType data hdr = 5 ∨ nalType data hdr = 1)
    (hmagic : bytesAt data (hdr + 1) 5 = mockH264Magic) : isSliceAt data hdr = true := by
  have hstands : standsAt mockH264Magic data (hdr + 1) = true := by
    unfold standsAt
    rw [Bool.and_eq_true, decide_eq_true_eq, beq_iff_eq]
    exact ⟨by rw [show mockH264Magic.length = 5 from rfl]; omega, hmagic⟩
  unfold isSliceAt
  rw [hstands]
  simp only [Bool.and_true, Bool.and_eq_true, Bool.or_eq_true, decide_eq_true_eq, beq_iff_eq]
  omega

/-- The slice at a header. -/
def sliceAt (data : Bytes) (hdr : ℕ) : MockSliceMeta where
  index := leAt data (hdr + 6) 8
  width := leAt data (hdr + 14) 4
  height := leAt data (hdr + 18) 4
  bpp := (data.getD (hdr + 22) 0).toNat
  targetBitrateBps := leAt data (hdr + 23) 4
  sample := (data.drop (hdr + 1 + 30)).take (leAt data (hdr + 27) 4)
  keyframe := nalType data hdr == 5

/-- The decoder takes the first slice, if its pixels are all there. -/
theorem parseMockSlice_eq {data : Bytes} {hdr : ℕ} (h : firstSlice data = some hdr) :
    parseMockSlice data =
      if data.length < hdr + 1 + 30 + leAt data (hdr + 27) 4 then .error "sample truncated"
      else .ok (sliceAt data hdr) := by
  have hfind : (findNalHeaderOffsets data).find? (fun hdr =>
      decide (hdr < data.length) && (nalType data hdr == 5 || nalType data hdr == 1) &&
        decide (hdr + 1 + 30 ≤ data.length) && standsAt mockH264Magic data (hdr + 1)) =
      some hdr := h
  unfold parseMockSlice
  rw [hfind]
  rfl

/-- A number that stands behind some bytes. -/
theorem leAt_middle {data : Bytes} (before after : Bytes) {offset width n : ℕ}
    (hdata : data = before ++ (le width n ++ after)) (hoffset : before.length = offset) :
    leAt data offset width = n % byteValues width := by
  have hbytes : bytesAt data offset width = le width n := by
    rw [hdata]
    exact bytesAt_middle hoffset (length_le _ _)
  calc leAt data offset width
    _ = ofLe (bytesAt data offset width) := rfl
    _ = n % byteValues width := by rw [hbytes, ofLe_le]

/-- A byte that stands behind some bytes. -/
theorem getD_middle {data : Bytes} (before after : Bytes) {offset : ℕ} {b : UInt8}
    (hdata : data = before ++ b :: after) (hoffset : before.length = offset) :
    data.getD offset 0 = b := by
  subst hdata hoffset
  simp

section

variable (e : MockSoftwareEncoder) (preview : PreviewSample) (keyframe : Bool) (index : UInt64)

/-- The parts of a slice behind some bytes. -/
theorem append_buildSlice (before : Bytes) :
    before ++ e.buildSlice preview keyframe index =
      before ++ ([0, 0, 0, 1] ++ ([if keyframe then 0x65 else 0x41] ++ (mockH264Magic ++
        (le 8 index.toNat ++ (le 4 preview.width ++ (le 4 preview.height ++ ([preview.bpp] ++
          (le 4 e.targetBitrateBps.toNat ++ (le 4 preview.pixels.length ++ preview.pixels)))))))))
    := by
  unfold MockSoftwareEncoder.buildSlice annexbNal
  simp only [List.append_assoc]

theorem length_buildSlice :
    (e.buildSlice preview keyframe index).length = 35 + preview.pixels.length := by
  have h := congrArg List.length (append_buildSlice e preview keyframe index [])
  simp only [List.nil_append, List.length_append, length_le, List.length_cons, List.length_nil,
    mockH264Magic] at h
  omega

/-- The type of a slice tells whether it is a keyframe. -/
theorem nalType_buildSlice (before : Bytes) :
    nalType (before ++ e.buildSlice preview keyframe index) (before.length + 4) =
      if keyframe then 5 else 1 := by
  have htype : (before ++ e.buildSlice preview keyframe index).getD (before.length + 4) 0 =
      if keyframe then 0x65 else 0x41 :=
    getD_middle (before ++ [0, 0, 0, 1]) _
      (by rw [append_buildSlice, ← List.append_assoc]; rfl) (by simp)
  unfold nalType
  rw [htype]
  cases keyframe <;> rfl

/-- **The slice of a unit is one**, wherever it stands. -/
theorem isSliceAt_buildSlice (before : Bytes) :
    isSliceAt (before ++ e.buildSlice preview keyframe index) (before.length + 4) = true := by
  have hlength := length_buildSlice e preview keyframe index
  refine isSliceAt_of ?_ ?_ ?_
  · rw [List.length_append, hlength]
    omega
  · rw [nalType_buildSlice]
    cases keyframe with
    | false => exact .inr rfl
    | true => exact .inl rfl
  · rw [append_buildSlice, ← List.append_assoc, ← List.append_assoc]
    exact bytesAt_middle (by simp) rfl

/-- The number of pixels' bytes that a slice declares has 32 bits. -/
theorem sampleLen_buildSlice (before : Bytes) :
    leAt (before ++ e.buildSlice preview keyframe index) (before.length + 4 + 27) 4 =
      preview.pixels.length % 4294967296 :=
  leAt_middle (before ++ [0, 0, 0, 1] ++ [if keyframe then 0x65 else 0x41] ++ mockH264Magic ++
    le 8 index.toNat ++ le 4 preview.width ++ le 4 preview.height ++ [preview.bpp] ++
    le 4 e.targetBitrateBps.toNat) _
    (by rw [append_buildSlice]; simp only [List.append_assoc]; rfl) (by simp [mockH264Magic])

/-- **What a slice says is what the encoder wrote.** -/
theorem sliceAt_buildSlice (before : Bytes) :
    sliceAt (before ++ e.buildSlice preview keyframe index) (before.length + 4) = {
      index := index.toNat
      width := preview.width % 4294967296
      height := preview.height % 4294967296
      bpp := preview.bpp.toNat
      targetBitrateBps := e.targetBitrateBps.toNat
      sample := preview.pixels.take (preview.pixels.length % 4294967296)
      keyframe } := by
  have htype := nalType_buildSlice e preview keyframe index before
  have hlength := sampleLen_buildSlice e preview keyframe index before
  have hdata := append_buildSlice e preview keyframe index before
  generalize before ++ e.buildSlice preview keyframe index = data at htype hlength hdata ⊢
  have hindex : leAt data (before.length + 4 + 6) 8 = index.toNat % byteValues 8 :=
    leAt_middle (before ++ [0, 0, 0, 1] ++ [if keyframe then 0x65 else 0x41] ++ mockH264Magic) _
      (by rw [hdata]; simp only [List.append_assoc]; rfl) (by simp [mockH264Magic])
  have hwidth : leAt data (before.length + 4 + 14) 4 = preview.width % byteValues 4 :=
    leAt_middle (before ++ [0, 0, 0, 1] ++ [if keyframe then 0x65 else 0x41] ++ mockH264Magic ++
      le 8 index.toNat) _
      (by rw [hdata]; simp only [List.append_assoc]; rfl) (by simp [mockH264Magic])
  have hheight : leAt data (before.length + 4 + 18) 4 = preview.height % byteValues 4 :=
    leAt_middle (before ++ [0, 0, 0, 1] ++ [if keyframe then 0x65 else 0x41] ++ mockH264Magic ++
      le 8 index.toNat ++ le 4 preview.width) _
      (by rw [hdata]; simp only [List.append_assoc]; rfl) (by simp [mockH264Magic])
  have hbpp : data.getD (before.length + 4 + 22) 0 = preview.bpp :=
    getD_middle (before ++ [0, 0, 0, 1] ++ [if keyframe then 0x65 else 0x41] ++ mockH264Magic ++
      le 8 index.toNat ++ le 4 preview.width ++ le 4 preview.height) _
      (by rw [hdata]; simp only [List.append_assoc]; rfl) (by simp [mockH264Magic])
  have hbitrate : leAt data (before.length + 4 + 23) 4 = e.targetBitrateBps.toNat % byteValues 4 :=
    leAt_middle (before ++ [0, 0, 0, 1] ++ [if keyframe then 0x65 else 0x41] ++ mockH264Magic ++
      le 8 index.toNat ++ le 4 preview.width ++ le 4 preview.height ++ [preview.bpp]) _
      (by rw [hdata]; simp only [List.append_assoc]; rfl) (by simp [mockH264Magic])
  have hpixels : data.drop (before.length + 4 + 1 + 30) = preview.pixels := by
    rw [hdata]
    simp only [← List.append_assoc]
    exact List.drop_left' (by simp [mockH264Magic])
  unfold sliceAt
  rw [htype, hindex, hwidth, hheight, hbpp, hbitrate, hlength, hpixels]
  rw [Nat.mod_eq_of_lt (show index.toNat < byteValues 8 from index.toNat_lt),
    Nat.mod_eq_of_lt
      (show e.targetBitrateBps.toNat < byteValues 4 from e.targetBitrateBps.toNat_lt)]
  cases keyframe <;> rfl

/-- **A slice that is the first of its unit is read as the encoder wrote it.** -/
theorem parseMockSlice_buildSlice (before : Bytes)
    (hfirst : firstSlice (before ++ e.buildSlice preview keyframe index) =
      some (before.length + 4)) :
    parseMockSlice (before ++ e.buildSlice preview keyframe index) = .ok {
      index := index.toNat
      width := preview.width % 4294967296
      height := preview.height % 4294967296
      bpp := preview.bpp.toNat
      targetBitrateBps := e.targetBitrateBps.toNat
      sample := preview.pixels.take (preview.pixels.length % 4294967296)
      keyframe } := by
  rw [parseMockSlice_eq hfirst, sliceAt_buildSlice, if_neg]
  rw [List.length_append, length_buildSlice, sampleLen_buildSlice]
  omega

end

/-! ## Slices that are not there -/

/-- **The parameters of an encoder spell a slice of their own**: the frame rate ends a start code,
which the height of a small frame begins, and it and the bitrate go on with a type and the magic. -/
def SpellsSlice (fps bitrate : UInt32) : Prop :=
  (∃ header last, (header.toNat % 32 = 5 ∨ header.toNat % 32 = 1) ∧
    le 4 fps.toNat = [1, header, 0x4D, 0x48] ∧ le 4 bitrate.toNat = [0x32, 0x36, 0x34, last]) ∨
  ∃ header, (header.toNat % 32 = 5 ∨ header.toNat % 32 = 1) ∧
    le 4 fps.toNat = [0, 1, header, 0x4D] ∧ le 4 bitrate.toNat = [0x48, 0x32, 0x36, 0x34]

/-- The frame rates in use do not spell a slice. -/
theorem not_spellsSlice {fps bitrate : UInt32} (h : fps.toNat < 65536) :
    ¬SpellsSlice fps bitrate := by
  have hlast : le 4 fps.toNat = [.ofNat fps.toNat, .ofNat (fps.toNat / 256), 0, 0] := by
    have hthird : fps.toNat / 256 / 256 = 0 := by omega
    simp only [le_succ, le_zero, hthird]
    rfl
  rintro (⟨header, last, -, hfps, -⟩ | ⟨header, -, hfps, -⟩)
  · rw [hlast] at hfps
    simp at hfps
  · rw [hlast] at hfps
    simp at hfps

/-- What a header in a unit stands behind, and before. -/
theorem around_slice {data : Bytes} {hdr : ℕ} (hmem : hdr ∈ findNalHeaderOffsets data)
    (hslice : isSliceAt data hdr = true) :
    3 ≤ hdr ∧ data.getD (hdr - 3) 0 = 0 ∧ data.getD (hdr - 2) 0 = 0 ∧ data.getD (hdr - 1) 0 = 1 ∧
      (nalType data hdr = 5 ∨ nalType data hdr = 1) ∧
      ∀ j, j < 5 → data.getD (hdr + 1 + j) 0 = mockH264Magic.getD j 0 := by
  obtain ⟨before, after, hdata, hhdr⟩ := of_mem_nalHeaderOffsets hmem
  rw [Nat.zero_add] at hhdr
  simp only [isSliceAt, standsAt, Bool.and_eq_true, Bool.or_eq_true, decide_eq_true_eq,
    beq_iff_eq] at hslice
  obtain ⟨⟨⟨-, htype⟩, -⟩, -, hmagic⟩ := hslice
  refine ⟨by omega, ?_, ?_, ?_, htype, fun j hj => ?_⟩
  · exact getD_middle before _ hdata (by omega)
  · exact getD_middle (before ++ [0]) (1 :: after) (by rw [hdata]; simp) (by simp; omega)
  · exact getD_middle (before ++ [0, 0]) after (by rw [hdata]; simp) (by simp; omega)
  · have hj' : j < mockH264Magic.length := hj
    rw [← hmagic]
    simp [List.getD, List.getElem?_drop, hj']

section

variable {data tail : Bytes} {w₀ w₁ h₀ h₁ f₀ f₁ f₂ f₃ b₀ b₁ b₂ b₃ : UInt8}

/-- The start of a keyframe unit with a width and a height of two bytes each. -/
def keyframeHead (w₀ w₁ h₀ h₁ f₀ f₁ f₂ f₃ b₀ b₁ b₂ b₃ : UInt8) : Bytes :=
  [0, 0, 0, 1, 0x67, 0x4D, 0x48, 0x32, 0x36, 0x34, w₀, w₁, 0, 0, h₀, h₁, 0, 0, f₀, f₁, f₂, f₃,
    b₀, b₁, b₂, b₃, 0, 0, 0, 1, 0x68, 0, 0, 0, 0, 1, 0x65, 0x4D, 0x48, 0x32, 0x36, 0x34]

/-- **A slice before the real one is spelled by the frame rate and the bitrate**: elsewhere a zero
is in the way of the magic. -/
theorem spelled_of_isSliceAt
    (hdata : data = keyframeHead w₀ w₁ h₀ h₁ f₀ f₁ f₂ f₃ b₀ b₁ b₂ b₃ ++ tail) {hdr : ℕ}
    (hmem : hdr ∈ findNalHeaderOffsets data) (hlt : hdr < 36) (hslice : isSliceAt data hdr = true) :
    (hdr = 19 ∧ (f₁.toNat % 32 = 5 ∨ f₁.toNat % 32 = 1) ∧ f₀ = 1 ∧ f₂ = 0x4D ∧ f₃ = 0x48 ∧
      b₀ = 0x32 ∧ b₁ = 0x36 ∧ b₂ = 0x34) ∨
    (hdr = 20 ∧ (f₂.toNat % 32 = 5 ∨ f₂.toNat % 32 = 1) ∧ f₀ = 0 ∧ f₁ = 1 ∧ f₃ = 0x4D ∧
      b₀ = 0x48 ∧ b₁ = 0x32 ∧ b₂ = 0x36 ∧ b₃ = 0x34) := by
  obtain ⟨hpos, hzero₀, hzero₁, hone, htype, hmagic⟩ := around_slice hmem hslice
  have hgetD {k : ℕ} (hk : k < 42) :
      data.getD k 0 = (keyframeHead w₀ w₁ h₀ h₁ f₀ f₁ f₂ f₃ b₀ b₁ b₂ b₃).getD k 0 := by
    rw [hdata, List.getD, List.getElem?_append_left hk, List.getD]
  -- No byte of the magic is zero, so it stands between two zeros of the unit.
  have hwindow {k : ℕ} (hk : k < 42) (hzero : (keyframeHead w₀ w₁ h₀ h₁ f₀ f₁ f₂ f₃ b₀ b₁ b₂
      b₃).getD k 0 = 0) : ¬(hdr + 1 ≤ k ∧ k < hdr + 6) := by
    rintro ⟨hle, hlt⟩
    have hbyte := hmagic (k - (hdr + 1)) (by omega)
    rw [show hdr + 1 + (k - (hdr + 1)) = k by omega, hgetD hk, hzero] at hbyte
    have hnonzero : ∀ j < 5, mockH264Magic.getD j 0 ≠ 0 := by decide
    exact hnonzero _ (by omega) hbyte.symm
  have h₁₂ := hwindow (show 12 < 42 by decide) rfl
  have h₁₃ := hwindow (show 13 < 42 by decide) rfl
  have h₁₇ := hwindow (show 17 < 42 by decide) rfl
  have h₂₆ := hwindow (show 26 < 42 by decide) rfl
  have h₃₁ := hwindow (show 31 < 42 by decide) rfl
  have h₃₄ := hwindow (show 34 < 42 by decide) rfl
  have hbyte {j : ℕ} (hj : j < 5) (hk : hdr + 1 + j < 42) :
      (keyframeHead w₀ w₁ h₀ h₁ f₀ f₁ f₂ f₃ b₀ b₁ b₂ b₃).getD (hdr + 1 + j) 0 =
        mockH264Magic.getD j 0 := by
    rw [← hgetD hk, hmagic j hj]
  have hnear : hdr = 3 ∨ hdr = 4 ∨ hdr = 5 ∨ hdr = 6 ∨ hdr = 17 ∨ hdr = 18 ∨ hdr = 19 ∨ hdr = 20 ∨
      hdr = 34 ∨ hdr = 35 := by omega
  have hfirst := hbyte (show 0 < 5 by decide) (by omega)
  have hsecond := hbyte (show 1 < 5 by decide) (by omega)
  have hthird := hbyte (show 2 < 5 by decide) (by omega)
  have hfourth := hbyte (show 3 < 5 by decide) (by omega)
  have hfifth := hbyte (show 4 < 5 by decide) (by omega)
  unfold nalType at htype
  rw [hgetD (by omega)] at hone hzero₀ hzero₁ htype
  rcases hnear with rfl | rfl | rfl | rfl | rfl | rfl | rfl | rfl | rfl | rfl
  · simp [keyframeHead, mockH264Magic] at hfirst
  · simp [keyframeHead] at htype
  · simp [keyframeHead, mockH264Magic] at hfirst
  · simp [keyframeHead, mockH264Magic] at hfirst
  · simp [keyframeHead] at htype
  · simp [keyframeHead] at hone
  · exact .inl ⟨rfl, htype, hone, hfirst, hsecond, hthird, hfourth, hfifth⟩
  · exact .inr ⟨rfl, htype, hzero₁, hone, hfirst, hsecond, hthird, hfourth, hfifth⟩
  · simp [keyframeHead, mockH264Magic] at hfirst
  · simp [keyframeHead, mockH264Magic] at hfirst

end

/-! ## The first slice of a unit -/

/-- The bytes of a number of two bytes, in four. -/
theorem le_four_small {n : ℕ} (h : n < 65536) : ∃ b₀ b₁, le 4 n = [b₀, b₁, 0, 0] := by
  have hthird : n / 256 / 256 = 0 := by omega
  refine ⟨.ofNat n, .ofNat (n / 256), ?_⟩
  simp only [le_succ, le_zero, hthird]
  rfl

section

variable (e : MockSoftwareEncoder) (preview : PreviewSample)

/-- A unit that is not a keyframe is its slice. -/
theorem firstSlice_delta :
    firstSlice (e.accessUnit preview false) = some 4 := by
  have hdata := append_buildSlice e preview false e.framesEncoded []
  have hunit : e.accessUnit preview false =
      [] ++ e.buildSlice preview false e.framesEncoded := rfl
  rw [hunit]
  refine find?_eq_of_first (pairwise_nalHeaderOffsets _ _) ?_
    (isSliceAt_buildSlice e preview false e.framesEncoded []) ?_
  · rw [hdata]
    exact @mem_nalHeaderOffsets _ [0] _ _ 0 rfl
  · intro hdr hmem hlt
    by_contra hslice
    obtain ⟨hpos, -, -, hone, -⟩ := around_slice hmem (Bool.not_eq_false _ ▸ hslice)
    obtain rfl : hdr = 3 := by
      have hlt' : hdr < 4 := hlt
      omega
    rw [hdata] at hone
    cases hone

/-- The start of a keyframe unit. -/
theorem accessUnit_keyframe (hwidth : preview.width < 65536) (hheight : preview.height < 65536)
    {f₀ f₁ f₂ f₃ b₀ b₁ b₂ b₃ : UInt8} (hfps : le 4 e.fps.toNat = [f₀, f₁, f₂, f₃])
    (hbitrate : le 4 e.targetBitrateBps.toNat = [b₀, b₁, b₂, b₃]) :
    ∃ w₀ w₁ h₀ h₁ tail, e.accessUnit preview true =
      keyframeHead w₀ w₁ h₀ h₁ f₀ f₁ f₂ f₃ b₀ b₁ b₂ b₃ ++ tail := by
  obtain ⟨w₀, w₁, hw⟩ := le_four_small hwidth
  obtain ⟨h₀, h₁, hh⟩ := le_four_small hheight
  suffices h : ∃ tail, e.accessUnit preview true =
      keyframeHead w₀ w₁ h₀ h₁ f₀ f₁ f₂ f₃ b₀ b₁ b₂ b₃ ++ tail from ⟨w₀, w₁, h₀, h₁, h⟩
  unfold MockSoftwareEncoder.accessUnit MockSoftwareEncoder.buildSps MockSoftwareEncoder.buildPps
    annexbNal
  rw [append_buildSlice, hfps, hbitrate, hw, hh]
  exact ⟨_, rfl⟩

theorem exists_le_four (n : ℕ) : ∃ b₀ b₁ b₂ b₃, le 4 n = [b₀, b₁, b₂, b₃] := ⟨_, _, _, _, rfl⟩

/-- A keyframe unit is its parameter sets and its slice. -/
theorem accessUnit_split :
    e.accessUnit preview true =
      (e.buildSps preview.width preview.height ++ MockSoftwareEncoder.buildPps) ++
        e.buildSlice preview true e.framesEncoded := rfl

theorem length_parameterSets :
    (e.buildSps preview.width preview.height ++ MockSoftwareEncoder.buildPps).length = 32 := by
  simp [MockSoftwareEncoder.buildSps, MockSoftwareEncoder.buildPps, annexbNal, mockH264Magic]

/-- **The first slice of a keyframe unit is the real one**, unless the parameters spell one. -/
theorem firstSlice_keyframe (hwidth : preview.width < 65536) (hheight : preview.height < 65536)
    (hspells : ¬SpellsSlice e.fps e.targetBitrateBps) :
    firstSlice (e.accessUnit preview true) = some 36 := by
  obtain ⟨f₀, f₁, f₂, f₃, hfps⟩ := exists_le_four e.fps.toNat
  obtain ⟨b₀, b₁, b₂, b₃, hbitrate⟩ := exists_le_four e.targetBitrateBps.toNat
  obtain ⟨w₀, w₁, h₀, h₁, tail, hdata⟩ :=
    accessUnit_keyframe e preview hwidth hheight hfps hbitrate
  have hreal := isSliceAt_buildSlice e preview true e.framesEncoded
    (e.buildSps preview.width preview.height ++ MockSoftwareEncoder.buildPps)
  rw [← accessUnit_split, length_parameterSets] at hreal
  refine find?_eq_of_first (pairwise_nalHeaderOffsets _ _) ?_ hreal ?_
  · rw [hdata]
    exact @mem_nalHeaderOffsets _ ((keyframeHead w₀ w₁ h₀ h₁ f₀ f₁ f₂ f₃ b₀ b₁ b₂ b₃).take 33) _
      _ 0 rfl
  · intro hdr hmem hlt
    by_contra hslice
    refine hspells ?_
    rcases spelled_of_isSliceAt hdata hmem hlt (Bool.not_eq_false _ ▸ hslice) with
      ⟨-, htype, rfl, rfl, rfl, rfl, rfl, rfl⟩ | ⟨-, htype, rfl, rfl, rfl, rfl, rfl, rfl, rfl⟩
    · exact .inl ⟨f₁, b₃, htype, hfps, hbitrate⟩
    · exact .inr ⟨f₂, htype, hfps, hbitrate⟩

/-- **Parameters that spell a slice hide the real one**, and theirs is wider than two bytes can say
and not without rows. -/
theorem firstSlice_spelled (hwidth : preview.width < 65536) (hheight : preview.height < 65536)
    (hspells : SpellsSlice e.fps e.targetBitrateBps) :
    ∃ hdr, firstSlice (e.accessUnit preview true) = some hdr ∧
      65536 ≤ leAt (e.accessUnit preview true) (hdr + 14) 4 ∧
      0 < leAt (e.accessUnit preview true) (hdr + 18) 4 := by
  have hlength : 67 ≤ (e.accessUnit preview true).length := by
    rw [accessUnit_split, List.length_append, length_parameterSets, length_buildSlice]
    omega
  rcases hspells with ⟨header, last, htype, hfps, hbitrate⟩ | ⟨header, htype, hfps, hbitrate⟩
  · obtain ⟨w₀, w₁, h₀, h₁, tail, hdata⟩ :=
      accessUnit_keyframe e preview hwidth hheight hfps hbitrate
    rw [hdata] at hlength ⊢
    have hsize : (65536 : ℕ) ≤ ofBe [0x65, 1, 0, 0] ∧ 0 < ofBe [0x36, 0x32, 0x48, 0x4D] := by decide
    refine ⟨19, find?_eq_of_first (pairwise_nalHeaderOffsets _ _) ?_
      (isSliceAt_of (by omega) htype rfl) ?_, hsize⟩
    · exact @mem_nalHeaderOffsets _ ((keyframeHead w₀ w₁ h₀ h₁ 0 0 0 0 0 0 0 0).take 16) _ _ 0 rfl
    · intro hdr hmem hlt
      by_contra hslice
      rcases spelled_of_isSliceAt rfl hmem (by omega) (Bool.not_eq_false _ ▸ hslice) with h | h
      · omega
      · omega
  · obtain ⟨w₀, w₁, h₀, h₁, tail, hdata⟩ :=
      accessUnit_keyframe e preview hwidth hheight hfps hbitrate
    rw [hdata] at hlength ⊢
    have hsize : (65536 : ℕ) ≤ ofBe [0x4D, 0x65, 1, 0] ∧ 0 < ofBe [0x34, 0x36, 0x32, 0x48] := by
      decide
    refine ⟨20, find?_eq_of_first (pairwise_nalHeaderOffsets _ _) ?_
      (isSliceAt_of (by omega) htype rfl) ?_, hsize⟩
    · exact @mem_nalHeaderOffsets _ ((keyframeHead w₀ w₁ h₀ h₁ 0 0 0 0 0 0 0 0).take 17) _ _ 0 rfl
    · intro hdr hmem hlt
      by_contra hslice
      rcases spelled_of_isSliceAt rfl hmem (by omega) (Bool.not_eq_false _ ▸ hslice) with h | h
      · exact absurd h.2.2.1 (by decide)
      · omega

/-- What the slice of a unit says. -/
def sliceMeta (keyframe : Bool) : MockSliceMeta where
  index := e.framesEncoded.toNat
  width := preview.width
  height := preview.height
  bpp := preview.bpp.toNat
  targetBitrateBps := e.targetBitrateBps.toNat
  sample := preview.pixels.take (preview.pixels.length % 4294967296)
  keyframe

/-- **A unit is parsed as the encoder wrote it**, unless it is a keyframe whose parameters spell a
slice. -/
theorem parseMockSlice_accessUnit (keyframe : Bool) (hwidth : preview.width < 65536)
    (hheight : preview.height < 65536)
    (hspells : keyframe = true → ¬SpellsSlice e.fps e.targetBitrateBps) :
    parseMockSlice (e.accessUnit preview keyframe) = .ok (sliceMeta e preview keyframe) := by
  have hw : preview.width % 4294967296 = preview.width := Nat.mod_eq_of_lt (by omega)
  have hh : preview.height % 4294967296 = preview.height := Nat.mod_eq_of_lt (by omega)
  cases keyframe with
  | false =>
    have hparse := parseMockSlice_buildSlice e preview false e.framesEncoded []
      (firstSlice_delta e preview)
    rw [hw, hh] at hparse
    exact hparse
  | true =>
    have hfirst := firstSlice_keyframe e preview hwidth hheight (hspells rfl)
    have hbehind : 36 =
        (e.buildSps preview.width preview.height ++ MockSoftwareEncoder.buildPps).length + 4 := by
      rw [length_parameterSets]
    rw [accessUnit_split, hbehind] at hfirst
    have hparse := parseMockSlice_buildSlice e preview true e.framesEncoded _ hfirst
    rw [hw, hh] at hparse
    exact hparse

end

/-! ## The picture of a slice -/

/-- The picture of a slice with a width and a height: its sample, repeated over the frame. -/
def picture (slice : MockSliceMeta) (pts : ℕ) : VideoFrame :=
  let format := if slice.bpp = 4 then PixelFormat.bgra8 else .rgb24
  let total := slice.width * slice.height * format.bytesPerPixel
  { ptsHostMono := pts, width := slice.width, height := slice.height, format
    data := (List.range total).map fun i => slice.sample.getD (i % slice.sample.length) 0 }

/-- **A decoder shows the picture of the slice**, whatever it has decoded before. -/
theorem decode_eq_picture {data : Bytes} {slice : MockSliceMeta}
    (hparse : parseMockSlice data = .ok slice) (hwidth : 0 < slice.width)
    (hheight : 0 < slice.height) (d : MockH264Decoder) (pts : ℕ) :
    (d.decode data pts).1 = .ok (some (picture slice pts)) := by
  have hdata : ¬data.isEmpty = true := by
    intro hempty
    rw [List.isEmpty_iff.mp hempty] at hparse
    cases hparse
  have hpicture (sps : Option (ℕ × ℕ)) :
      MockH264Decoder.reconstructFrame slice pts sps = .ok (picture slice pts) := by
    unfold MockH264Decoder.reconstructFrame
    rw [if_pos ⟨hwidth, hheight⟩]
    exact if_neg (by omega)
  unfold MockH264Decoder.decode
  rw [if_neg hdata]
  simp only [hparse, hpicture]

/-- A decoder shows nothing else. -/
theorem decode_ok {data : Bytes} {d : MockH264Decoder} {pts : ℕ} {frame : VideoFrame}
    (h : (d.decode data pts).1 = .ok (some frame)) :
    ∃ slice, parseMockSlice data = .ok slice ∧
      (0 < slice.width → 0 < slice.height → frame = picture slice pts) := by
  unfold MockH264Decoder.decode at h
  split_ifs at h with hempty
  · simp at h
  cases hparse : parseMockSlice data with
  | error reason =>
    simp only [hparse] at h
    cases h
  | ok slice =>
    refine ⟨slice, rfl, fun hwidth hheight => ?_⟩
    have hdecode := decode_eq_picture hparse hwidth hheight d pts
    unfold MockH264Decoder.decode at hdecode
    rw [if_neg hempty, h] at hdecode
    simpa using hdecode

/-- Bytes of the size of a frame are its picture. -/
theorem range_map_self (bytes : Bytes) {n : ℕ} (h : n = bytes.length) :
    (List.range n).map (fun i => bytes.getD (i % bytes.length) 0) = bytes := by
  subst h
  apply List.ext_getElem
  · simp
  · intro i hi hi'
    simp [Nat.mod_eq_of_lt hi', List.getElem?_eq_getElem hi']

end RemoteLink.Media
