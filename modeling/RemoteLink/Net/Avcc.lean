import RemoteLink.Library.LengthPrefixed
import RemoteLink.Net.Transport

set_option autoImplicit false

/-!
# Video for the WebRTC track

The track takes video behind start codes. An access unit whose parts stand behind their lengths is
converted first: the loop reads a length of four bytes and the part behind it for as long as four
bytes are left, and what is left after the loop is not looked at.

## Main definitions

* `naluPayloadAnnexB`, `avccToAnnexB` — the payload for the track.
* `annexB` — parts behind start codes.
* `ConvertsExactly` — only whole parts are accepted, and they are the output.

## Main results

* `avccToAnnexB_fields`, `avccToAnnexB_ok` — what becomes of whole parts and a rest.
* `avcc_exact_iff` — the conversion is exact unless one to three bytes follow the parts.
-/

namespace RemoteLink.Net

open Library

/-! ## The conversion -/

/-- What stands in front of each part. -/
def startCode : Bytes := [0, 0, 0, 1]

/-- The bytes from one index to another. -/
def byteRange (data : Bytes) (first last : ℕ) : Bytes := (data.take last).drop first

/-- The loop: `i` is the index that the reading has reached and `out` what it has written. Indices
are below `2^63` and lengths below `2^32`, so no sum exceeds 64 bits. -/
def avccLoop (data : Bytes) (i : ℕ) (out : Bytes) : Except NetError Bytes :=
  if i + 4 ≤ data.length then
    let len := ofBe (byteRange data i (i + 4))
    if data.length < i + 4 + len then .error (.internal "truncated AVCC NAL")
    else avccLoop data (i + 4 + len) (out ++ startCode ++ byteRange data (i + 4) (i + 4 + len))
  else if out.isEmpty then .error (.internal "empty AVCC payload")
  else .ok out
termination_by data.length - i

/-- **Start codes in place of lengths.** -/
def avccToAnnexB (data : Bytes) : Except NetError Bytes := avccLoop data 0 []

/-- The payload for the track. -/
def naluPayloadAnnexB (n : VideoNalu) : Except NetError Bytes :=
  match n.format with
  | .annexB => .ok n.data
  | .avcc => avccToAnnexB n.data

/-- Parts, each behind a start code. -/
def annexB (parts : List Bytes) : Bytes := parts.flatMap (startCode ++ ·)

/-- The input is whole parts, at least one and nothing after them, exactly when it is accepted, and
then the output is the parts behind start codes. -/
def ConvertsExactly (data : Bytes) : Prop :=
  ∀ out, avccToAnnexB data = .ok out ↔
    ∃ parts, parts ≠ [] ∧ WholeBlocks parts ∧ data = fields parts ∧ out = annexB parts

/-- Bytes in which one to three bytes follow whole parts, of which there is at least one. -/
def HasStrayBytes (data : Bytes) : Prop :=
  ∃ parts rest, parts ≠ [] ∧ WholeBlocks parts ∧ 1 ≤ rest.length ∧ rest.length ≤ 3 ∧
    data = fields parts ++ rest

/-! ## The loop -/

variable {before rest out part data : Bytes} {parts : List Bytes}

/-- The bytes between what stands before and what comes behind. -/
theorem byteRange_append (before part rest : Bytes) :
    byteRange (before ++ (part ++ rest)) before.length (before.length + part.length) = part := by
  rw [byteRange, ← List.append_assoc, List.take_left' (by simp), List.drop_left]

@[simp] theorem annexB_nil : annexB [] = [] := rfl

@[simp] theorem annexB_cons (part : Bytes) (parts : List Bytes) :
    annexB (part :: parts) = startCode ++ part ++ annexB parts := by
  simp [annexB]

/-- Parts leave something written. -/
theorem annexB_ne_nil (h : parts ≠ []) : annexB parts ≠ [] := by
  obtain _ | ⟨part, parts⟩ := parts
  · exact absurd rfl h
  · simp [startCode]

/-- One turn of the loop reads one part. -/
theorem avccLoop_field (hpart : part.length < u32Size) :
    avccLoop (before ++ (field part ++ rest)) before.length out =
      avccLoop (before ++ (field part ++ rest)) (before ++ field part).length
        (out ++ startCode ++ part) := by
  have hword : byteRange (before ++ (field part ++ rest)) before.length (before.length + 4) =
      be32 part.length := by
    have := byteRange_append before (be32 part.length) (part ++ rest)
    simpa [field, be32] using this
  have hpiece : byteRange (before ++ (field part ++ rest)) (before.length + 4)
      (before.length + 4 + part.length) = part := by
    have := byteRange_append (before ++ be32 part.length) part rest
    simpa [field, be32, Nat.add_assoc] using this
  conv_lhs => rw [avccLoop]
  simp only [hword, ofBe_be32 hpart, hpiece, List.length_append, length_field]
  rw [if_pos (by omega), if_neg (by omega), Nat.add_assoc]

/-- **The loop reads part after part.** -/
theorem avccLoop_fields (hparts : WholeBlocks parts) (before rest out : Bytes) :
    avccLoop (before ++ (fields parts ++ rest)) before.length out =
      avccLoop (before ++ (fields parts ++ rest)) (before ++ fields parts).length
        (out ++ annexB parts) := by
  induction parts generalizing before out with
  | nil => simp [fields]
  | cons part parts ih =>
    have hsplit : fields (part :: parts) ++ rest = field part ++ (fields parts ++ rest) := by
      simp [fields]
    have hone : part.length < u32Size := hparts part (by simp)
    have hmore := ih (fun f hf => hparts f (by simp [hf])) (before ++ field part)
      (out ++ startCode ++ part)
    rw [hsplit, avccLoop_field hone, ← List.append_assoc before, hmore]
    simp [fields]

/-- What the loop makes of a rest that begins no further part. -/
theorem avccLoop_short (hrest : Short rest) :
    avccLoop (before ++ rest) before.length out =
      if 4 ≤ rest.length then .error (.internal "truncated AVCC NAL")
      else if out.isEmpty then .error (.internal "empty AVCC payload") else .ok out := by
  rw [avccLoop]
  by_cases hlong : 4 ≤ rest.length
  · have hword : byteRange (before ++ rest) before.length (before.length + 4) = rest.take 4 := by
      have := byteRange_append before (rest.take 4) (rest.drop 4)
      rw [List.take_append_drop, List.length_take, Nat.min_eq_left hlong] at this
      exact this
    have hcut : rest.length < 4 + ofBe (rest.take 4) := by
      obtain hfew | hcut := hrest
      · omega
      · exact hcut
    simp only [hword, List.length_append]
    rw [if_pos (by omega), if_pos (by omega), if_pos hlong]
  · rw [if_neg (by rw [List.length_append]; omega), if_neg hlong]

/-- **What becomes of whole parts and a rest**: a rest that is long enough for a length is an error,
a shorter one is ignored behind a part. -/
theorem avccToAnnexB_fields (hparts : WholeBlocks parts) (hrest : Short rest) :
    avccToAnnexB (fields parts ++ rest) =
      if 4 ≤ rest.length then .error (.internal "truncated AVCC NAL")
      else if parts = [] then .error (.internal "empty AVCC payload")
      else .ok (annexB parts) := by
  have hread := avccLoop_fields hparts [] rest []
  simp only [List.nil_append, List.length_nil] at hread
  rw [avccToAnnexB, hread, avccLoop_short hrest]
  by_cases hnone : parts = []
  · simp [hnone]
  · simp [hnone, annexB_ne_nil]

/-- **What is accepted is whole parts and at most three bytes**, and the parts are the output. -/
theorem avccToAnnexB_ok (h : avccToAnnexB data = .ok out) :
    ∃ parts rest, parts ≠ [] ∧ WholeBlocks parts ∧ rest.length ≤ 3 ∧
      data = fields parts ++ rest ∧ out = annexB parts := by
  obtain ⟨parts, rest, hparts, hrest, rfl⟩ := exists_fields_append data
  rw [avccToAnnexB_fields hparts hrest] at h
  by_cases hlong : 4 ≤ rest.length
  · simp [hlong] at h
  · by_cases hsome : parts = []
    · simp [hlong, hsome] at h
    · rw [if_neg hlong, if_neg hsome] at h
      exact ⟨parts, rest, hsome, hparts, by omega, rfl, (Except.ok.inj h).symm⟩

/-- What the track gets is the unit as it is, or its parts behind start codes. -/
theorem naluPayloadAnnexB_ok {n : VideoNalu} (h : naluPayloadAnnexB n = .ok out) :
    (n.format = .annexB ∧ out = n.data) ∨
      (n.format = .avcc ∧ ∃ parts rest, WholeBlocks parts ∧ rest.length ≤ 3 ∧
        n.data = fields parts ++ rest ∧ out = annexB parts) := by
  unfold naluPayloadAnnexB at h
  cases hformat : n.format with
  | annexB =>
    rw [hformat] at h
    exact Or.inl ⟨rfl, (Except.ok.inj h).symm⟩
  | avcc =>
    rw [hformat] at h
    obtain ⟨parts, rest, -, hparts, hfew, hdata, hout⟩ := avccToAnnexB_ok h
    exact Or.inr ⟨rfl, parts, rest, hparts, hfew, hdata, hout⟩

/-- **Exactness of the conversion**: it accepts runs of whole parts and nothing else, with the parts
behind start codes as its output, unless one to three bytes follow the parts. Such an input is
accepted and these bytes are dropped. -/
theorem avcc_exact_iff (data : Bytes) : ConvertsExactly data ↔ ¬HasStrayBytes data := by
  constructor
  · rintro hexact ⟨parts, rest, hsome, hparts, hfew, hmost, rfl⟩
    have hrest : Short rest := short_of_length (by omega)
    have haccepts : avccToAnnexB (fields parts ++ rest) = .ok (annexB parts) := by
      rw [avccToAnnexB_fields hparts hrest, if_neg (by omega), if_neg hsome]
    obtain ⟨parts', -, hparts', hdata, -⟩ := (hexact _).mp haccepts
    -- the parts of the input are determined, so nothing can have followed them
    have hnothing : rest = [] :=
      (fields_append_inj hparts hparts' hrest (short_of_length (r := []) (by simp))
        (by simpa using hdata)).2
    simp [hnothing] at hfew
  · intro hclean out
    constructor
    · intro haccepts
      obtain ⟨parts, rest, hsome, hparts, hmost, rfl, rfl⟩ := avccToAnnexB_ok haccepts
      have hnothing : rest = [] := by
        by_contra hstray
        have hfew : 1 ≤ rest.length := List.length_pos_iff.mpr hstray
        exact hclean ⟨parts, rest, hsome, hparts, hfew, hmost, rfl⟩
      exact ⟨parts, hsome, hparts, by simp [hnothing], rfl⟩
    · rintro ⟨parts, hsome, hparts, rfl, rfl⟩
      have hconverts := avccToAnnexB_fields hparts (short_of_length (r := []) (by simp))
      simpa [hsome] using hconverts

/-- A part of one byte and two bytes behind it: the two bytes vanish. -/
theorem avcc_drops_stray_bytes :
    avccToAnnexB [0, 0, 0, 1, 7, 9, 9] = .ok [0, 0, 0, 1, 7] ∧
      ¬ConvertsExactly [0, 0, 0, 1, 7, 9, 9] := by
  have hwhole : WholeBlocks [[7]] := by simp [WholeBlocks, u32Size]
  have hshort : Short [9, 9] := short_of_length (by simp)
  have haccepts : avccToAnnexB [0, 0, 0, 1, 7, 9, 9] = .ok [0, 0, 0, 1, 7] :=
    avccToAnnexB_fields hwhole hshort
  refine ⟨haccepts, fun hexact => ?_⟩
  obtain ⟨parts, -, hparts, hdata, -⟩ := (hexact _).mp haccepts
  have hnothing : ([9, 9] : Bytes) = [] :=
    (fields_append_inj hwhole hparts hshort (short_of_length (r := []) (by simp))
      (hdata.trans (List.append_nil _).symm)).2
  simp at hnothing

end RemoteLink.Net
