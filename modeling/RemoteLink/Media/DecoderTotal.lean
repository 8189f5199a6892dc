import RemoteLink.Media.MockBitstream
import RemoteLink.Media.Opus

set_option autoImplicit false

/-!
# The mock decoder on hostile input

The mock decoder takes offsets, lengths and dimensions from the wire. Here every index, slice, sum
and allocation of it is a partial operation. Only the allocation of the frame can fail: the product
of the dimensions is saturated, and a buffer of that size may be larger than memory can be.

## Main definitions

* `scanLoop`, `findMockSpsAt`, `parseMockSliceAt`, `reconstructFrameAt`, `decodeAt` — the functions
  with their indices; `none` is a panic.
* `announced` — the dimensions of the frame that a unit calls for.
* `DecodesSafely` — decoding returns, with a well-formed frame or with the counter unchanged.

## Main results

* `scanLoop_eq`, `findMockSpsAt_eq`, `parseMockSliceAt_eq` — the parsing never panics.
* `tileLoop_eq` — the loop that fills a frame writes within it.
* `decoder_total_iff` — when decoding is safe.
-/

namespace RemoteLink.Media

open Library
open Protocol (saturatingSucc)
open Viewer (nalHeaderOffsets findNalHeaderOffsets standsAt nalType leAt mockH264Magic findMockSps
  parseMockSlice MockSliceMeta MockH264Decoder PixelFormat VideoFrame)

/-! ## The functions with their indices -/

/-- The most bytes that a buffer can have. -/
def isizeMax : ℕ := 9223372036854775807

/-- The largest word of memory size. -/
def usizeMax : ℕ := 18446744073709551615

/-- The bytes of a slice in memory. -/
structure ByteSlice where
  bytes : Bytes
  fits : bytes.length ≤ isizeMax

/-- A product of words of memory size, saturated. -/
def saturatingMul (m n : ℕ) : ℕ := min (m * n) usizeMax

/-- A buffer of zeros; one that is too large panics. -/
def zeros (n : ℕ) : Option Bytes := if n ≤ isizeMax then some (List.replicate n 0) else none

/-- Copy bytes over a range of a buffer of the same length. -/
def copyInto (data : Bytes) (first last : ℕ) (bytes : Bytes) : Option Bytes :=
  if first ≤ last ∧ last ≤ data.length ∧ bytes.length = last - first then
    some (data.take first ++ (bytes ++ data.drop last))
  else none

/-- The loop that looks for start codes: `i` is the index reached and `out` what has been found. -/
def scanLoop (data : Bytes) (i : ℕ) (out : List ℕ) : Option (List ℕ) :=
  if i + 3 < data.length then
    match slice data i data.length with
    | none => none
    | some rest =>
      if [0, 0, 0, 1].isPrefixOf rest then scanLoop data (i + 4) (out ++ [i + 4])
      else if [0, 0, 1].isPrefixOf rest then scanLoop data (i + 3) (out ++ [i + 3])
      else scanLoop data (i + 1) out
  else some out
termination_by data.length - i

/-- The first of some headers with a type, the magic and so many bytes behind it. -/
def findHeader (data : Bytes) (isType : ℕ → Bool) (fixed : ℕ) : List ℕ → Option (Option ℕ)
  | [] => some none
  | hdr :: rest =>
    if data.length ≤ hdr then findHeader data isType fixed rest
    else
      data[hdr]?.bind fun b =>
        if !isType (b.toNat % 32) then findHeader data isType fixed rest
        else
          (usize (hdr + 1 + fixed)).bind fun stop =>
            if data.length < stop then findHeader data isType fixed rest
            else
              (slice data (hdr + 1) (hdr + 1 + 5)).bind fun magic =>
                if magic ≠ mockH264Magic then findHeader data isType fixed rest
                else some (some hdr)

/-- The geometry and rate of the first parameter set. -/
def findMockSpsAt (data : Bytes) : Option (Option (ℕ × ℕ × ℕ)) :=
  (scanLoop data 0 []).bind fun offsets =>
    (findHeader data (· == 7) 21 offsets).bind fun
      | none => some none
      | some hdr =>
        (numberAt data (hdr + 6) (hdr + 10)).bind fun width =>
          (numberAt data (hdr + 10) (hdr + 14)).bind fun height =>
            (numberAt data (hdr + 14) (hdr + 18)).map fun fps => some (width, height, fps)

/-- The slice behind a header. -/
def readSlice (data : Bytes) (hdr : ℕ) : Option (Except String MockSliceMeta) :=
  (numberAt data (hdr + 6) (hdr + 14)).bind fun index =>
    (numberAt data (hdr + 14) (hdr + 18)).bind fun width =>
      (numberAt data (hdr + 18) (hdr + 22)).bind fun height =>
        data[hdr + 22]?.bind fun bpp =>
          (numberAt data (hdr + 23) (hdr + 27)).bind fun targetBitrateBps =>
            (numberAt data (hdr + 27) (hdr + 31)).bind fun sampleLen =>
              (usize (hdr + 31 + sampleLen)).bind fun stop =>
                if data.length < stop then some (.error "sample truncated")
                else
                  (slice data (hdr + 31) stop).bind fun sample =>
                    data[hdr]?.map fun first =>
                      .ok {
                        index, width, height, targetBitrateBps, sample
                        bpp := bpp.toNat
                        keyframe := first.toNat % 32 == 5 }

/-- The first slice of a unit. -/
def parseMockSliceAt (data : Bytes) : Option (Except String MockSliceMeta) :=
  (scanLoop data 0 []).bind fun offsets =>
    (findHeader data (fun nal => nal == 5 || nal == 1) 30 offsets).bind fun
      | none => some (.error "no MH264 slice NAL in access unit")
      | some hdr => readSlice data hdr

/-- The loop that repeats a sample over a buffer of `total` bytes, from an offset on; it is called
with a sample that has bytes. -/
def tileLoop (sample : Bytes) (total off : ℕ) (data : Bytes) : Option Bytes :=
  if off < total ∧ sample ≠ [] then
    match slice sample 0 (min (total - off) sample.length) with
    | none => none
    | some part =>
      match copyInto data off (off + min (total - off) sample.length) part with
      | none => none
      | some data => tileLoop sample total (off + min (total - off) sample.length) data
  else some data
termination_by total - off
decreasing_by
  have := List.length_pos_iff.mpr (by assumption : off < total ∧ sample ≠ []).2
  omega

/-- Fill a buffer with a sample: as a whole if it has the size, repeated otherwise. -/
def fillFrame (sample : Bytes) (total : ℕ) (data : Bytes) : Option Bytes :=
  if sample.isEmpty then some data
  else if sample.length = total then copyInto data 0 total sample
  else tileLoop sample total 0 data

/-- The pixels of a slice. -/
def reconstructFrameAt (slice : MockSliceMeta) (pts : ℕ) (sps : Option (ℕ × ℕ)) :
    Option (Except String VideoFrame) :=
  match if 0 < slice.width ∧ 0 < slice.height then some (slice.width, slice.height) else sps with
  | none => some (.error "missing geometry")
  | some (width, height) =>
    if width = 0 ∨ height = 0 then some (.error "zero geometry")
    else
      let format := if slice.bpp = 4 then PixelFormat.bgra8 else .rgb24
      let total := saturatingMul (saturatingMul width height) format.bytesPerPixel
      (zeros total).bind fun data =>
        (fillFrame slice.sample total data).map fun data =>
          .ok { ptsHostMono := pts, width, height, format, data }

/-- The decoder after looking for the parameter set of a unit. -/
def afterSps (s : MockH264Decoder) : Option (ℕ × ℕ × ℕ) → MockH264Decoder
  | some (w, h, fps) => { s with lastSps := some (w, h), lastFps := some fps }
  | none => s

/-- The result for a frame, which is counted, or for the error in its place. -/
def countFrame (s : MockH264Decoder) :
    Except String VideoFrame → Except String (Option VideoFrame) × MockH264Decoder
  | .error e => (.error e, s)
  | .ok frame => (.ok (some frame), { s with framesDecoded := saturatingSucc s.framesDecoded })

/-- **Decode a unit**; `none` is a panic. -/
def decodeAt (s : MockH264Decoder) (data : Bytes) (pts : ℕ) :
    Option (Except String (Option VideoFrame) × MockH264Decoder) :=
  if data.isEmpty then some (.ok none, s)
  else
    (findMockSpsAt data).bind fun sps =>
      let s := afterSps s sps
      (parseMockSliceAt data).bind fun
        | .error e => some (.error e, s)
        | .ok slice => (reconstructFrameAt slice pts s.lastSps).map (countFrame s)

/-! ## What is promised -/

/-- A frame with dimensions and exactly the bytes of its pixels. -/
def IsWellFormed (frame : VideoFrame) : Prop :=
  0 < frame.width ∧ 0 < frame.height ∧
    frame.data.length = frame.width * frame.height * frame.format.bytesPerPixel

/-- Decoding returns: a frame is well-formed, and an error leaves the counter as it was. -/
def DecodesSafely (s : MockH264Decoder) (data : Bytes) (pts : ℕ) : Prop :=
  ∃ result s', decodeAt s data pts = some (result, s') ∧
    (∀ frame, result = .ok (some frame) → IsWellFormed frame) ∧
    ∀ e, result = .error e → s'.framesDecoded = s.framesDecoded

/-- The geometry that a decoder has after the parameter set of a unit. -/
def spsAfter (s : MockH264Decoder) (data : Bytes) : Option (ℕ × ℕ) :=
  (afterSps s (findMockSps data)).lastSps

/-- The geometry of a slice: its own, or that of the parameter set. -/
def geometry (slice : MockSliceMeta) (sps : Option (ℕ × ℕ)) : Option (ℕ × ℕ) :=
  if 0 < slice.width ∧ 0 < slice.height then some (slice.width, slice.height) else sps

/-- The layout of the pixels of a slice. -/
def sliceFormat (slice : MockSliceMeta) : PixelFormat :=
  if slice.bpp = 4 then .bgra8 else .rgb24

/-- The width, the height and the bytes per pixel of the frame that a unit calls for. -/
def announced (s : MockH264Decoder) (data : Bytes) : Option (ℕ × ℕ × ℕ) :=
  (parseMockSlice data).toOption.bind fun slice =>
    (geometry slice (spsAfter s data)).map fun g =>
      (g.1, g.2, (sliceFormat slice).bytesPerPixel)

/-- The frame that a unit calls for is no larger than memory can be. -/
def FitsMemory (s : MockH264Decoder) (data : Bytes) : Prop :=
  ∀ g, announced s data = some g → g.1 * g.2.1 * g.2.2 ≤ isizeMax

/-! ## Indices -/

variable {data : Bytes} {n m hdr : ℕ}

theorem usize_of_lt (h : n < 18446744073709551616) : usize n = some n := if_pos h

theorem slice_eq (hfirst : m ≤ n) (hlast : n ≤ data.length) :
    slice data m n = some (bytesAt data m (n - m)) := if_pos ⟨hfirst, hlast⟩

/-- A number at an offset, as the parser names it. -/
theorem numberAt_leAt (data : Bytes) (m width : ℕ) (hwidth : m + width = n)
    (hlast : n ≤ data.length) :
    numberAt data m n = some (leAt data m width) := by
  subst hwidth
  rw [numberAt_eq (by omega) hlast, Nat.add_sub_cancel_left]
  rfl

/-! ## Start codes -/

/-- Too few bytes hold no start code. -/
theorem nalHeaderOffsets_short (i : ℕ) {rest : Bytes} (h : rest.length < 4) :
    nalHeaderOffsets i rest = [] := by
  match rest, h with
  | [], _ => simp [nalHeaderOffsets]
  | [a], _ => simp [nalHeaderOffsets]
  | [a, b], _ => simp [nalHeaderOffsets]
  | [a, b, c], _ => simp [nalHeaderOffsets]

/-- One turn of the scan. -/
theorem nalHeaderOffsets_step (i : ℕ) {rest : Bytes} (h : 4 ≤ rest.length) :
    nalHeaderOffsets i rest =
      if [0, 0, 0, 1].isPrefixOf rest then (i + 4) :: nalHeaderOffsets (i + 4) (rest.drop 4)
      else if [0, 0, 1].isPrefixOf rest then (i + 3) :: nalHeaderOffsets (i + 3) (rest.drop 3)
      else nalHeaderOffsets (i + 1) (rest.drop 1) := by
  match rest, h with
  | a :: b :: c :: d :: tail, _ =>
    by_cases hfour : [0, 0, 0, 1].isPrefixOf (a :: b :: c :: d :: tail) = true
    · obtain ⟨more, hmore⟩ := List.isPrefixOf_iff_prefix.mp hfour
      simp only [List.cons_append, List.nil_append, List.cons.injEq] at hmore
      obtain ⟨rfl, rfl, rfl, rfl, rfl⟩ := hmore
      rw [if_pos hfour, nalHeaderOffsets]
      rfl
    · rw [if_neg hfour]
      by_cases hthree : [0, 0, 1].isPrefixOf (a :: b :: c :: d :: tail) = true
      · obtain ⟨more, hmore⟩ := List.isPrefixOf_iff_prefix.mp hthree
        simp only [List.cons_append, List.nil_append, List.cons.injEq] at hmore
        obtain ⟨rfl, rfl, rfl, rfl⟩ := hmore
        rw [if_pos hthree, nalHeaderOffsets]
        rfl
      · rw [if_neg hthree, Viewer.nalHeaderOffsets.eq_3]
        · rfl
        · rintro rest rfl hrest
          simp only [List.cons.injEq] at hrest
          obtain ⟨rfl, rfl, rfl, rfl⟩ := hrest
          exact hfour (by simp [List.isPrefixOf])
        · rintro b' rest rfl hrest
          simp only [List.cons.injEq] at hrest
          obtain ⟨rfl, rfl, -⟩ := hrest
          exact hthree (by simp [List.isPrefixOf])

/-- **The scan never leaves its data**, and finds what the recursion finds. -/
theorem scanLoop_eq (data : Bytes) (i : ℕ) (out : List ℕ) (hi : i ≤ data.length) :
    scanLoop data i out = some (out ++ nalHeaderOffsets i (data.drop i)) := by
  induction hn : data.length - i using Nat.strongRecOn generalizing i out with
  | ind n ih =>
    have hlen : (data.drop i).length = data.length - i := List.length_drop
    rw [scanLoop]
    by_cases hmore : i + 3 < data.length
    · have hrest : bytesAt data i (data.length - i) = data.drop i := by
        rw [bytesAt, List.take_of_length_le (Nat.le_of_eq hlen)]
      have hnext : ∀ k, 0 < k → i + k ≤ data.length → ∀ out, scanLoop data (i + k) out =
          some (out ++ nalHeaderOffsets (i + k) ((data.drop i).drop k)) := by
        intro k hk hik out
        rw [List.drop_drop]
        exact ih (data.length - (i + k)) (by omega) (i + k) out hik rfl
      rw [if_pos hmore, slice_eq hi (Nat.le_refl _), hrest, nalHeaderOffsets_step i (by omega)]
      simp only [hnext 4 (by omega) (by omega), hnext 3 (by omega) (by omega),
        hnext 1 (by omega) (by omega)]
      split_ifs
      · simp
      · simp
      · rfl
    · rw [if_neg hmore, nalHeaderOffsets_short i (by omega), List.append_nil]

/-! ## Headers -/

/-- Whether a header of a type stands at an offset, with the magic and enough bytes behind it. -/
def isHeaderAt (data : Bytes) (isType : ℕ → Bool) (fixed hdr : ℕ) : Bool :=
  decide (hdr < data.length) && isType (nalType data hdr) &&
    decide (hdr + 1 + fixed ≤ data.length) && standsAt mockH264Magic data (hdr + 1)

/-- **The search for a header never leaves its data.** -/
theorem findHeader_eq (hfits : data.length ≤ isizeMax) {isType : ℕ → Bool} {fixed : ℕ}
    (hfixed : 5 ≤ fixed) (hsmall : fixed ≤ 30) (offsets : List ℕ) :
    findHeader data isType fixed offsets =
      some (offsets.find? (isHeaderAt data isType fixed)) := by
  simp only [isizeMax] at hfits
  induction offsets with
  | nil => rfl
  | cons hdr rest ih =>
    rw [findHeader, ih, List.find?_cons]
    by_cases hin : hdr < data.length
    · have hget : data[hdr]? = some (data.getD hdr 0) := by
        simp [hin]
      have htype : (data.getD hdr 0).toNat % 32 = nalType data hdr := rfl
      have hstop : usize (hdr + 1 + fixed) = some (hdr + 1 + fixed) := usize_of_lt (by omega)
      rw [if_neg (by omega), hget, Option.bind_some, htype, hstop, Option.bind_some]
      by_cases hnal : isType (nalType data hdr) = true
      · by_cases hlong : hdr + 1 + fixed ≤ data.length
        · have hmagic : slice data (hdr + 1) (hdr + 1 + 5) = some (bytesAt data (hdr + 1) 5) := by
            rw [slice_eq (by omega) (by omega), Nat.add_sub_cancel_left]
          have hstands : standsAt mockH264Magic data (hdr + 1) =
              decide (bytesAt data (hdr + 1) 5 = mockH264Magic) := by
            have hwithin : hdr + 1 + mockH264Magic.length ≤ data.length := by
              rw [show mockH264Magic.length = 5 from rfl]
              omega
            rw [standsAt, decide_eq_true hwithin, Bool.true_and, Bool.beq_eq_decide_eq]
            rfl
          rw [if_neg (by simp [hnal]), if_neg (by omega), hmagic, Option.bind_some]
          by_cases hsame : bytesAt data (hdr + 1) 5 = mockH264Magic
          · simp [isHeaderAt, hin, hnal, hlong, hstands, hsame]
          · simp [isHeaderAt, hnal, hlong, hstands, hsame]
        · rw [if_neg (by simp [hnal]), if_pos (by omega)]
          simp [isHeaderAt, hlong]
      · rw [if_pos (by simpa using hnal)]
        simp [isHeaderAt, hnal]
    · rw [if_pos (by omega)]
      simp [isHeaderAt, hin]

/-- What the search finds has its fixed bytes. -/
theorem length_of_find {isType : ℕ → Bool} {fixed : ℕ} {offsets : List ℕ}
    (h : offsets.find? (isHeaderAt data isType fixed) = some hdr) :
    hdr + 1 + fixed ≤ data.length := by
  have hheader := List.find?_some h
  simp only [isHeaderAt, Bool.and_eq_true, decide_eq_true_eq] at hheader
  exact hheader.1.2

/-- **Looking for the parameter set never panics.** -/
theorem findMockSpsAt_eq (hfits : data.length ≤ isizeMax) :
    findMockSpsAt data = some (findMockSps data) := by
  have hfind : findMockSps data =
      ((findNalHeaderOffsets data).find? (isHeaderAt data (· == 7) 21)).map fun hdr =>
        (leAt data (hdr + 6) 4, leAt data (hdr + 10) 4, leAt data (hdr + 14) 4) := rfl
  rw [findMockSpsAt, scanLoop_eq data 0 [] (Nat.zero_le _), List.drop_zero, List.nil_append,
    Option.bind_some, findHeader_eq hfits (by omega) (by omega), Option.bind_some, hfind,
    findNalHeaderOffsets]
  cases hhdr : (nalHeaderOffsets 0 data).find? (isHeaderAt data (· == 7) 21) with
  | none => rfl
  | some hdr =>
    have hlong := length_of_find hhdr
    simp only [numberAt_leAt data (hdr + 6) 4 rfl (by omega),
      numberAt_leAt data (hdr + 10) 4 rfl (by omega),
      numberAt_leAt data (hdr + 14) 4 rfl (by omega),
      Option.bind_some, Option.map_some]

/-- A number of four bytes is a word. -/
theorem leAt_four_lt (h : m + 4 ≤ data.length) : leAt data m 4 < 4294967296 :=
  ofLe_bytesAt_lt h

/-- **Reading the first slice never panics.** -/
theorem parseMockSliceAt_eq (hfits : data.length ≤ isizeMax) :
    parseMockSliceAt data = some (parseMockSlice data) := by
  have hfirst : firstSlice data =
      (nalHeaderOffsets 0 data).find? (isHeaderAt data (fun nal => nal == 5 || nal == 1) 30) := rfl
  rw [parseMockSliceAt, scanLoop_eq data 0 [] (Nat.zero_le _), List.drop_zero, List.nil_append,
    Option.bind_some, findHeader_eq hfits (by omega) (by omega), Option.bind_some, ← hfirst]
  cases hhdr : firstSlice data with
  | none =>
    have hnone : parseMockSlice data = .error "no MH264 slice NAL in access unit" := by
      unfold firstSlice at hhdr
      unfold parseMockSlice
      have hfind : (findNalHeaderOffsets data).find? (fun hdr =>
          decide (hdr < data.length) && (nalType data hdr == 5 || nalType data hdr == 1) &&
            decide (hdr + 1 + 30 ≤ data.length) && standsAt mockH264Magic data (hdr + 1)) =
          none := hhdr
      rw [hfind]
    rw [hnone]
  | some hdr =>
    have hlong : hdr + 1 + 30 ≤ data.length := length_of_find (hfirst ▸ hhdr)
    have hsample : leAt data (hdr + 27) 4 < 4294967296 := leAt_four_lt (by omega)
    simp only [isizeMax] at hfits
    have hget : ∀ k, k < 31 → data[hdr + k]? = some (data.getD (hdr + k) 0) := by
      intro k hk
      have hin : hdr + k < data.length := by omega
      simp [hin]
    have htype : data[hdr]? = some (data.getD hdr 0) := hget 0 (by omega)
    have hstop : usize (hdr + 31 + leAt data (hdr + 27) 4) =
        some (hdr + 31 + leAt data (hdr + 27) 4) := usize_of_lt (by omega)
    rw [parseMockSlice_eq hhdr]
    simp only [readSlice, numberAt_leAt data (hdr + 6) 8 rfl (by omega),
      numberAt_leAt data (hdr + 14) 4 rfl (by omega),
      numberAt_leAt data (hdr + 18) 4 rfl (by omega),
      numberAt_leAt data (hdr + 23) 4 rfl (by omega),
      numberAt_leAt data (hdr + 27) 4 rfl (by omega),
      hget 22 (by omega), htype, hstop, Option.bind_some, Option.map_some]
    by_cases hcut : data.length < hdr + 31 + leAt data (hdr + 27) 4
    · rw [if_pos hcut, if_pos (by omega)]
    · rw [if_neg hcut, if_neg (by omega), slice_eq (by omega) (by omega), Nat.add_sub_cancel_left]
      rfl

/-! ## The pixels -/

/-- A sample repeated over so many bytes. -/
def tile (sample : Bytes) (n : ℕ) : Bytes :=
  (List.range n).map fun i => sample.getD (i % sample.length) 0

variable {sample : Bytes} {total off : ℕ}

@[simp] theorem length_tile (sample : Bytes) (n : ℕ) : (tile sample n).length = n := by
  simp [tile]

/-- A part of the sample continues a whole number of samples. -/
theorem tile_add (hoff : off % sample.length = 0) (hn : n ≤ sample.length) :
    tile sample (off + n) = tile sample off ++ sample.take n := by
  rw [tile, List.range_add, List.map_append, List.map_map, tile]
  congr 1
  apply List.ext_getElem
  · simp [hn]
  · intro i hi hi'
    have hin : i < n := by simpa using hi
    have hmod : (off + i) % sample.length = i := by
      rw [Nat.add_mod, hoff, Nat.zero_add, Nat.mod_mod, Nat.mod_eq_of_lt (by omega)]
    have hget : i < sample.length := by omega
    simp [hmod, hget]

/-- **The loop that fills a frame writes within it.** -/
theorem tileLoop_eq (off : ℕ) (hsample : sample ≠ []) (hoff : off ≤ total)
    (hwhole : off % sample.length = 0 ∨ off = total) :
    tileLoop sample total off (tile sample off ++ List.replicate (total - off) 0) =
      some (tile sample total) := by
  have hpos : 0 < sample.length := List.length_pos_iff.mpr hsample
  induction hleft : total - off using Nat.strongRecOn generalizing off with
  | ind left ih =>
    rw [tileLoop]
    by_cases hmore : off < total
    · have hmod : off % sample.length = 0 := by
        obtain hmod | hend := hwhole
        · exact hmod
        · omega
      generalize hn : min (total - off) sample.length = n
      have hnle : n ≤ sample.length := by omega
      have hfit : off + n ≤ total := by omega
      have hpart : slice sample 0 n = some (sample.take n) := by
        rw [slice_eq (by omega) hnle]
        simp [bytesAt]
      have hcopy : copyInto (tile sample off ++ List.replicate left 0) off (off + n)
          (sample.take n) =
            some (tile sample (off + n) ++ List.replicate (total - (off + n)) 0) := by
        have hrange : off ≤ off + n ∧
            off + n ≤ (tile sample off ++ List.replicate left (0 : UInt8)).length ∧
              (sample.take n).length = off + n - off := by
          simp only [List.length_append, length_tile, List.length_replicate, List.length_take]
          omega
        have hfront : (tile sample off ++ List.replicate left 0).take off = tile sample off :=
          List.take_left' (length_tile sample off)
        have hback : (tile sample off ++ List.replicate left 0).drop (off + n) =
            List.replicate (total - (off + n)) 0 := by
          rw [← List.drop_drop, List.drop_left' (length_tile sample off), List.drop_replicate]
          congr 1
          omega
        rw [copyInto, if_pos hrange, hfront, hback, tile_add hmod hnle, List.append_assoc]
      have hnext : (off + n) % sample.length = 0 ∨ off + n = total := by
        by_cases hlast : n = sample.length
        · left
          rw [hlast, Nat.add_mod_right, hmod]
        · right
          omega
      rw [if_pos ⟨hmore, hsample⟩]
      simp only [hpart, hcopy]
      exact ih (total - (off + n)) (by omega) (off + n) hfit hnext rfl
    · obtain rfl : off = total := by omega
      obtain rfl : 0 = left := by omega
      rw [if_neg (by omega)]
      simp

/-- **A buffer of the right size is filled.** -/
theorem fillFrame_eq (sample : Bytes) (total : ℕ) :
    fillFrame sample total (List.replicate total 0) = some (tile sample total) := by
  unfold fillFrame
  by_cases hempty : sample = []
  · subst hempty
    have hzeros : tile [] total = List.replicate total 0 := by
      simp [tile]
    rw [hzeros]
    rfl
  · rw [if_neg (by simpa using hempty)]
    by_cases hsize : sample.length = total
    · subst hsize
      have hself : tile sample sample.length = sample := range_map_self sample rfl
      rw [if_pos rfl, hself]
      simp [copyInto]
    · have hloop := tileLoop_eq 0 hempty (Nat.zero_le total) (Or.inl (Nat.zero_mod _))
      rw [if_neg hsize]
      simpa [tile] using hloop

/-- A product that fits memory is not saturated, and one that does not is too large either way. -/
theorem saturatingMul_le {a b c : ℕ} (hc : 0 < c) :
    saturatingMul (saturatingMul a b) c ≤ isizeMax ↔ a * b * c ≤ isizeMax := by
  have hbelow : isizeMax < usizeMax := by decide
  have hmul : a * b ≤ a * b * c := Nat.le_mul_of_pos_right _ hc
  unfold saturatingMul
  by_cases hab : a * b ≤ usizeMax
  · rw [Nat.min_eq_left hab]
    omega
  · have hmax : usizeMax ≤ usizeMax * c := Nat.le_mul_of_pos_right _ hc
    rw [Nat.min_eq_right (by omega : usizeMax ≤ a * b), Nat.min_eq_right hmax]
    omega

/-- A product that fits memory is what is computed. -/
theorem saturatingMul_eq {a b c : ℕ} (hc : 0 < c) (h : a * b * c ≤ isizeMax) :
    saturatingMul (saturatingMul a b) c = a * b * c := by
  have hbelow : isizeMax < usizeMax := by decide
  have hmul : a * b ≤ a * b * c := Nat.le_mul_of_pos_right _ hc
  unfold saturatingMul
  rw [Nat.min_eq_left (by omega : a * b ≤ usizeMax), Nat.min_eq_left (by omega)]

/-- A pixel has bytes. -/
theorem bytesPerPixel_pos (format : PixelFormat) : 0 < format.bytesPerPixel := by
  cases format <;> decide

/-- **A frame is built exactly when it fits memory**: any other allocation panics. -/
theorem reconstructFrameAt_eq (slice : MockSliceMeta) (pts : ℕ) (sps : Option (ℕ × ℕ)) :
    reconstructFrameAt slice pts sps =
      if ∀ g, geometry slice sps = some g →
          g.1 * g.2 * (sliceFormat slice).bytesPerPixel ≤ isizeMax then
        some (MockH264Decoder.reconstructFrame slice pts sps)
      else none := by
  unfold reconstructFrameAt MockH264Decoder.reconstructFrame
  rw [← geometry]
  cases hgeometry : geometry slice sps with
  | none => simp
  | some g =>
    obtain ⟨width, height⟩ := g
    simp only [Option.some.injEq, forall_eq']
    by_cases hzero : width = 0 ∨ height = 0
    · have hproduct : width * height = 0 := by
        obtain rfl | rfl := hzero
        · exact Nat.zero_mul _
        · exact Nat.mul_zero _
      simp only [hproduct, Nat.zero_mul, Nat.zero_le, if_true, if_pos hzero]
    · have hformat : (if slice.bpp = 4 then PixelFormat.bgra8 else PixelFormat.rgb24) =
          sliceFormat slice := rfl
      simp only [if_neg hzero, hformat]
      have hpixel := bytesPerPixel_pos (sliceFormat slice)
      by_cases hfits : width * height * (sliceFormat slice).bytesPerPixel ≤ isizeMax
      · rw [if_pos hfits, saturatingMul_eq hpixel hfits, zeros, if_pos hfits, Option.bind_some,
          fillFrame_eq, Option.map_some]
        rfl
      · rw [if_neg hfits, zeros, if_neg (by rwa [saturatingMul_le hpixel])]
        rfl

/-! ## Decoding -/

variable {s : MockH264Decoder} {pts : ℕ} {slice : MockSliceMeta} {frame : VideoFrame} {e : String}

/-- Decoding, for each result of the parser. -/
theorem decode_cases (s : MockH264Decoder) (pts : ℕ) (hdata : ¬data.isEmpty = true) :
    (∀ e, parseMockSlice data = .error e →
      s.decode data pts = (.error e, afterSps s (findMockSps data))) ∧
    ∀ slice, parseMockSlice data = .ok slice →
      s.decode data pts = countFrame (afterSps s (findMockSps data))
        (MockH264Decoder.reconstructFrame slice pts (spsAfter s data)) := by
  unfold MockH264Decoder.decode spsAfter
  rw [if_neg hdata]
  refine ⟨fun e hparse => ?_, fun slice hparse => ?_⟩
  · rw [hparse]
    cases findMockSps data <;> rfl
  · rw [hparse]
    cases findMockSps data with
    | none =>
      simp only [afterSps]
      cases MockH264Decoder.reconstructFrame slice pts s.lastSps <;> rfl
    | some sps =>
      obtain ⟨w, h, fps⟩ := sps
      simp only [afterSps]
      cases MockH264Decoder.reconstructFrame slice pts (some (w, h)) <;> rfl

/-- What is announced by a unit with a slice. -/
theorem fitsMemory_iff (hparse : parseMockSlice data = .ok slice) :
    FitsMemory s data ↔ ∀ g, geometry slice (spsAfter s data) = some g →
      g.1 * g.2 * (sliceFormat slice).bytesPerPixel ≤ isizeMax := by
  have hannounced : announced s data = (geometry slice (spsAfter s data)).map fun g =>
      (g.1, g.2, (sliceFormat slice).bytesPerPixel) := by
    rw [announced, hparse]
    rfl
  rw [FitsMemory, hannounced]
  cases geometry slice (spsAfter s data) <;> simp

/-- A unit without a good slice calls for no frame. -/
theorem fitsMemory_of_error (hparse : parseMockSlice data = .error e) : FitsMemory s data := by
  intro g hg
  rw [announced, hparse] at hg
  cases hg

/-- **Decoding with indices is decoding**, unless the frame does not fit memory. -/
theorem decodeAt_eq (s : MockH264Decoder) (pts : ℕ) (hlen : data.length ≤ isizeMax) :
    (FitsMemory s data → decodeAt s data pts = some (s.decode data pts)) ∧
      (¬FitsMemory s data → decodeAt s data pts = none) := by
  by_cases hempty : data.isEmpty = true
  · have hnothing : parseMockSlice data = .error "no MH264 slice NAL in access unit" := by
      rw [List.isEmpty_iff.mp hempty]
      rfl
    rw [decodeAt, MockH264Decoder.decode, if_pos hempty, if_pos hempty]
    exact ⟨fun _ => rfl, fun hunfit => absurd (fitsMemory_of_error hnothing) hunfit⟩
  · obtain ⟨herror, hok⟩ := decode_cases s pts hempty
    rw [decodeAt, if_neg hempty, findMockSpsAt_eq hlen, parseMockSliceAt_eq hlen]
    simp only [Option.bind_some]
    cases hparse : parseMockSlice data with
    | error e =>
      rw [herror e hparse]
      exact ⟨fun _ => rfl, fun hunfit => absurd (fitsMemory_of_error hparse) hunfit⟩
    | ok slice =>
      rw [hok slice hparse]
      simp only [reconstructFrameAt_eq]
      rw [fitsMemory_iff hparse, ← spsAfter]
      refine ⟨fun hfits => ?_, fun hunfit => ?_⟩
      · rw [if_pos hfits, Option.map_some]
      · rw [if_neg hunfit, Option.map_none]

/-- A frame that is built is well-formed. -/
theorem isWellFormed_of_reconstruct {sps : Option (ℕ × ℕ)}
    (h : MockH264Decoder.reconstructFrame slice pts sps = .ok frame) : IsWellFormed frame := by
  unfold MockH264Decoder.reconstructFrame at h
  rw [← geometry] at h
  cases hgeometry : geometry slice sps with
  | none => simp [hgeometry] at h
  | some g =>
    simp only [hgeometry] at h
    by_cases hzero : g.1 = 0 ∨ g.2 = 0
    · rw [if_pos hzero] at h
      cases h
    · rw [if_neg hzero] at h
      obtain rfl := Except.ok.inj h
      obtain ⟨hwidth, hheight⟩ := not_or.mp hzero
      exact ⟨Nat.pos_of_ne_zero hwidth, Nat.pos_of_ne_zero hheight, by simp⟩

/-- Looking for a parameter set counts nothing. -/
theorem framesDecoded_afterSps (s : MockH264Decoder) (sps : Option (ℕ × ℕ × ℕ)) :
    (afterSps s sps).framesDecoded = s.framesDecoded := by
  cases sps <;> rfl

/-- **What decoding returns**: a well-formed frame, nothing, or an error that counts nothing. -/
theorem decode_good (s : MockH264Decoder) (data : Bytes) (pts : ℕ) :
    (∀ frame, (s.decode data pts).1 = .ok (some frame) → IsWellFormed frame) ∧
      ∀ e, (s.decode data pts).1 = .error e →
        (s.decode data pts).2.framesDecoded = s.framesDecoded := by
  by_cases hempty : data.isEmpty = true
  · rw [MockH264Decoder.decode, if_pos hempty]
    exact ⟨fun frame h => by simp at h, fun _ _ => rfl⟩
  · obtain ⟨herror, hok⟩ := decode_cases s pts hempty
    cases hparse : parseMockSlice data with
    | error e =>
      rw [herror e hparse]
      exact ⟨fun frame h => (by cases h), fun _ _ => framesDecoded_afterSps s _⟩
    | ok slice =>
      rw [hok slice hparse]
      cases hframe : MockH264Decoder.reconstructFrame slice pts (spsAfter s data) with
      | error e => exact ⟨fun frame h => (by cases h), fun _ _ => framesDecoded_afterSps s _⟩
      | ok frame =>
        refine ⟨fun frame' h => ?_, fun e h => (by cases h)⟩
        obtain rfl : frame = frame' := Option.some.inj (Except.ok.inj h)
        exact isWellFormed_of_reconstruct hframe

/-- **When decoding is safe**: it returns, with a well-formed frame, nothing or an error that counts
nothing, exactly when the frame that the unit calls for is no larger than memory can be. -/
theorem decoder_total_iff (s : MockH264Decoder) (data : ByteSlice) (pts : ℕ) :
    DecodesSafely s data.bytes pts ↔ FitsMemory s data.bytes := by
  obtain ⟨hfit, hunfit⟩ := decodeAt_eq s pts data.fits
  constructor
  · rintro ⟨result, s', hreturns, -⟩
    by_contra hlarge
    rw [hunfit hlarge] at hreturns
    cases hreturns
  · intro hsmall
    obtain ⟨hframe, herror⟩ := decode_good s data.bytes pts
    exact ⟨_, _, hfit hsmall, hframe, herror⟩

/-- A unit with one slice: all bits of its width and height are set, and it has no sample. -/
def hostileUnit : Bytes :=
  [0, 0, 0, 1, 0x65] ++ mockH264Magic ++ List.replicate 8 0 ++ List.replicate 8 255 ++
    [3, 0, 0, 0, 0, 0, 0, 0, 0]

/-- Decoding this unit panics. -/
theorem decoder_panics : decodeAt .new hostileUnit 0 = none := by
  have hparse : parseMockSlice hostileUnit = .ok ⟨0, 4294967295, 4294967295, 3, 0, [], true⟩ := by
    decide +kernel
  refine (decodeAt_eq .new 0 (by decide)).2 fun hfits => ?_
  rw [fitsMemory_iff hparse] at hfits
  exact absurd (hfits (4294967295, 4294967295) rfl) (by decide)

end RemoteLink.Media
