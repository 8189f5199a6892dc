import RemoteLink.Host.SessionGate
import RemoteLink.Library.ByteIndex

set_option autoImplicit false

/-!
# Candidates that come in as text

A candidate arrives in a signal as JSON, as nested JSON or as a bare line. Any other text is shown
in an error, and what is shown are its first 64 bytes, which may end inside a character.

## Main definitions

* `IceRecognised` — payloads that are read as a candidate.
* `Showable` — payloads whose first bytes can be shown.

## Main results

* `ice_payload_safe_iff` — when reading a payload returns at all.
-/

namespace RemoteLink.Host

open Library

/-- Payloads that are read as a candidate: JSON, nested JSON or a bare line. -/
def IceRecognised (J : Codec) (payload : String) : Prop :=
  (J.decodeIce (Text.trim payload)).isSome ∨ (J.decodeIceWrap (Text.trim payload)).isSome ∨
    Text.startsWith "candidate:".toList (Text.trim payload).toList = true

/-- Payloads whose first bytes can be shown: there are at most 64, or the first 64 end between two
characters. -/
def Showable (payload : String) : Prop :=
  (Text.trim payload).utf8ByteSize ≤ 64 ∨ EndsAtChar (Text.trim payload) 64

namespace SessionManager

/-- The first bytes that the error shows are a string exactly when they end at a character. -/
theorem byteSlice_isSome {s : String} :
    (byteSlice s (min s.utf8ByteSize 64)).isSome ↔ s.utf8ByteSize ≤ 64 ∨ EndsAtChar s 64 := by
  rw [byteSlice, fromUtf8_take_isSome]
  by_cases hshort : s.utf8ByteSize ≤ 64
  · rw [Nat.min_eq_left hshort]
    exact iff_of_true (Or.inl (Nat.le_refl _)) (Or.inl hshort)
  · rw [Nat.min_eq_right (by omega)]

/-- A recognised payload is a value. -/
theorem parseIcePayload_recognised {J : Codec} {payload : String} (h : IceRecognised J payload) :
    ∃ c, parseIcePayload J payload = some (.ok c) := by
  cases hplain : J.decodeIce (Text.trim payload) with
  | some c =>
    refine ⟨c, ?_⟩
    simp only [parseIcePayload, hplain]
  | none =>
    cases hwrapped : J.decodeIceWrap (Text.trim payload) with
    | some c =>
      refine ⟨c, ?_⟩
      simp only [parseIcePayload, hplain, hwrapped]
    | none =>
      have hbare : Text.startsWith "candidate:".toList (Text.trim payload).toList = true := by
        simpa only [IceRecognised, hplain, hwrapped, Option.isSome_none, Bool.false_eq_true,
          false_or] using h
      refine ⟨⟨Text.trim payload, none, none, none⟩, ?_⟩
      simp only [parseIcePayload, hplain, hwrapped]
      rw [if_pos hbare]

/-- Any other payload is an error, if the text of the error can be built. -/
theorem parseIcePayload_other {J : Codec} {payload : String} (h : ¬IceRecognised J payload) :
    parseIcePayload J payload =
      (byteSlice (Text.trim payload) (min (Text.trim payload).utf8ByteSize 64)).map fun shown =>
        .error (.signaling s!"unrecognized ice payload: {shown}") := by
  simp only [IceRecognised, not_or, Option.not_isSome_iff_eq_none] at h
  obtain ⟨hplain, hwrapped, hbare⟩ := h
  unfold parseIcePayload
  simp only [hplain, hwrapped]
  rw [if_neg hbare]

/-- **When reading a payload returns**: a value or an error comes back exactly when the payload is
recognised or the bytes shown in the error end at a character. -/
theorem ice_payload_safe_iff (J : Codec) (payload : String) :
    (∃ result, parseIcePayload J payload = some result) ↔
      IceRecognised J payload ∨ Showable payload := by
  by_cases hknown : IceRecognised J payload
  · obtain ⟨c, hc⟩ := parseIcePayload_recognised hknown
    exact iff_of_true ⟨_, hc⟩ (Or.inl hknown)
  · rw [parseIcePayload_other hknown, or_iff_right hknown, Showable, ← byteSlice_isSome,
      ← Option.isSome_iff_exists, Option.isSome_map]

/-- A text of 63 letters and one more letter of two bytes: the slice would cut the last one. -/
def straddling : String := String.ofList (List.replicate 63 'a' ++ ['é'])

/-- Reading this text panics. -/
theorem ice_payload_panics : parseIcePayload demoCodec straddling = none := by
  have hchars : straddling.toList = List.replicate 63 'a' ++ ['é'] := String.toList_ofList
  have htrim : Text.trim straddling = straddling := by
    refine Text.trim_of_all fun c hc => ?_
    rw [hchars, List.mem_append, List.mem_singleton] at hc
    obtain hc | rfl := hc
    · rw [List.eq_of_mem_replicate hc]
      decide
    · decide
  have hother : ¬IceRecognised demoCodec straddling := by
    rw [IceRecognised, htrim, hchars]
    simp only [demoCodec, Option.isSome_none]
    decide
  have hsize : straddling.utf8ByteSize = 65 := by
    rw [← byteSize_toList, hchars]
    decide
  have hcut : ¬EndsAtChar straddling 64 := by
    rintro ⟨before, rest, hsplit, hbefore⟩
    -- the characters before the index would be letters of one byte, and 64 of them
    have hlast : rest ≠ [] := by
      rintro rfl
      rw [List.append_nil] at hsplit
      rw [← hsplit, byteSize_toList, hsize] at hbefore
      omega
    have hfront : before <+: List.replicate 63 'a' := by
      refine List.prefix_of_prefix_length_le ⟨rest, hsplit.symm⟩ ⟨['é'], hchars.symm⟩ ?_
      have hlen := congrArg List.length (hchars.symm.trans hsplit)
      have hpos := List.length_pos_iff.mpr hlast
      simp only [List.length_append, List.length_replicate, List.length_singleton] at hlen ⊢
      omega
    have hletters : before = List.replicate before.length 'a' :=
      List.eq_replicate_of_mem fun c hc => List.eq_of_mem_replicate (hfront.subset hc)
    have hcount : before.length ≤ 63 := by simpa using hfront.length_le
    have hone : byteSize before = before.length := by
      rw [hletters, byteSize, List.map_replicate, List.sum_replicate_nat, List.length_replicate]
      exact Nat.mul_one _
    omega
  have hunshown : ¬(byteSlice straddling (min straddling.utf8ByteSize 64)).isSome := by
    rw [byteSlice_isSome]
    exact not_or.mpr ⟨by omega, hcut⟩
  rw [parseIcePayload_other hother, htrim, Option.not_isSome_iff_eq_none.mp hunshown]
  rfl

end SessionManager

end RemoteLink.Host
