import RemoteLink.Library.Bytes
import RemoteLink.Library.Json

set_option autoImplicit false

/-!
# Slices of a string at byte indices

A string is a list of characters and is indexed by bytes. A slice fails when an index lies inside a
character or past the end.

## Main definitions

* `sliceFrom` — the string from a byte index on.
* `findIndex` — the byte index at which a pattern first occurs.
* `EndsAtChar` — an index lies between two characters, or at an end.

## Main results

* `sliceFrom_append` — a string is sliced where its parts meet.
* `fromUtf8_take_isSome` — the first bytes are a string exactly when they end at a character.
-/

namespace RemoteLink.Library

/-- The number of bytes of characters. -/
def byteSize (cs : List Char) : Nat := (cs.map Char.utf8Size).sum

/-- An index of a string lies between two characters, or at an end. -/
def EndsAtChar (s : String) (n : Nat) : Prop :=
  ∃ before rest, s.toList = before ++ rest ∧ byteSize before = n

/-- The string from a byte index on. -/
def sliceFrom (s : String) (i : Nat) : Option String :=
  if s.utf8ByteSize < i then none else fromUtf8 ((utf8 s).drop i)

/-- The byte index at which a pattern first occurs among characters. -/
def findIndex (pat : List Char) : List Char → Option Nat
  | [] => if pat.isEmpty then some 0 else none
  | c :: cs =>
    if Text.startsWith pat (c :: cs) then some 0 else (findIndex pat cs).map (c.utf8Size + ·)

variable {s t : String} {pat cs : List Char} {n : Nat}

@[simp] theorem byteSize_nil : byteSize [] = 0 := rfl

@[simp] theorem byteSize_cons (c : Char) (cs : List Char) :
    byteSize (c :: cs) = c.utf8Size + byteSize cs := by
  simp [byteSize]

@[simp] theorem byteSize_append (cs ds : List Char) :
    byteSize (cs ++ ds) = byteSize cs + byteSize ds := by
  simp [byteSize]

/-- The size of a string is that of its characters. -/
theorem byteSize_toList (s : String) : byteSize s.toList = s.utf8ByteSize :=
  (Json.utf8ByteSize_eq_sum s).symm

@[simp] theorem length_utf8 (s : String) : (utf8 s).length = s.utf8ByteSize := rfl

/-- The bytes of strings put together. -/
theorem utf8_append (s t : String) : utf8 (s ++ t) = utf8 s ++ utf8 t := by
  simp [utf8]

/-- The bytes of characters put together. -/
theorem utf8_ofList_append (cs ds : List Char) :
    utf8 (String.ofList (cs ++ ds)) = utf8 (String.ofList cs) ++ utf8 (String.ofList ds) := by
  rw [String.ofList_append, utf8_append]

/-- **A string is sliced where its parts meet.** -/
theorem sliceFrom_append (s t : String) : sliceFrom (s ++ t) s.utf8ByteSize = some t := by
  have hwithin : ¬(s ++ t).utf8ByteSize < s.utf8ByteSize := by
    rw [String.utf8ByteSize_append]
    omega
  rw [sliceFrom, if_neg hwithin, utf8_append, List.drop_left' (length_utf8 s), fromUtf8_utf8]

/-- A string is sliced behind some of its characters. -/
theorem sliceFrom_ofList (before rest : List Char) :
    sliceFrom (String.ofList (before ++ rest)) (byteSize before) = some (String.ofList rest) := by
  have hsize : byteSize before = (String.ofList before).utf8ByteSize := by
    rw [← byteSize_toList, String.toList_ofList]
  rw [String.ofList_append, hsize, sliceFrom_append]

/-- Bytes are a string exactly when they are the bytes of characters. -/
theorem fromUtf8_isSome {data : Bytes} :
    (fromUtf8 data).isSome ↔ ∃ cs, data = utf8 (String.ofList cs) := by
  constructor
  · intro h
    obtain ⟨s, hs⟩ := Option.isSome_iff_exists.mp h
    unfold fromUtf8 String.fromUTF8? at hs
    split at hs
    case isTrue hvalid =>
      obtain ⟨cs, hcs⟩ := hvalid
      refine ⟨cs, ?_⟩
      simpa [utf8] using congrArg (fun b : ByteArray => b.data.toList) hcs
    case isFalse => cases hs
  · rintro ⟨cs, rfl⟩
    simp

/-- Characters whose bytes begin the bytes of a string begin the string. -/
theorem prefix_of_utf8 {cs : List Char} {more : Bytes}
    (h : utf8 s = utf8 (String.ofList cs) ++ more) : cs <+: s.toList := by
  apply List.isPrefix_of_utf8Encode_append_eq_utf8Encode ⟨more.toArray⟩
  rw [String.utf8Encode_toList]
  apply ByteArray.ext
  apply Array.toList_inj.mp
  simpa [utf8] using h.symm

/-- **The first bytes of a string are a string exactly when they end at a character.** -/
theorem fromUtf8_take_isSome :
    (fromUtf8 ((utf8 s).take n)).isSome ↔ s.utf8ByteSize ≤ n ∨ EndsAtChar s n := by
  rw [fromUtf8_isSome]
  by_cases hall : s.utf8ByteSize ≤ n
  · have hwhole : (utf8 s).take n = utf8 s := List.take_of_length_le hall
    rw [hwhole]
    exact iff_of_true ⟨s.toList, by rw [String.ofList_toList]⟩ (Or.inl hall)
  · constructor
    · rintro ⟨cs, hcs⟩
      have hsplit : utf8 s = utf8 (String.ofList cs) ++ (utf8 s).drop n := by
        rw [← hcs, List.take_append_drop]
      obtain ⟨rest, hrest⟩ := prefix_of_utf8 hsplit
      refine Or.inr ⟨cs, rest, hrest.symm, ?_⟩
      have hsize := congrArg List.length hcs
      rw [List.length_take, length_utf8, length_utf8, ← byteSize_toList (String.ofList cs),
        String.toList_ofList] at hsize
      omega
    · rintro (hshort | ⟨before, rest, hchars, hsize⟩)
      · exact absurd hshort hall
      · refine ⟨before, ?_⟩
        have hs : s = String.ofList (before ++ rest) := by rw [← hchars, String.ofList_toList]
        have hlen : (utf8 (String.ofList before)).length = n := by
          rw [length_utf8, ← byteSize_toList, String.toList_ofList, hsize]
        rw [hs, utf8_ofList_append, List.take_left' hlen]

end RemoteLink.Library
