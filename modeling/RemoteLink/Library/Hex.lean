import RemoteLink.Library.ByteIndex

set_option autoImplicit false

/-!
# Texts of hexadecimal digits

Which texts decode as bytes, and to which.

## Main definitions

* `isHexChar`, `hexValue` — the digits of either case, and their numbers.
* `pairBytes` — the bytes that pairs of digits spell.
* `IsHexText` — digits in pairs.

## Main results

* `hexPairs_ofList` — digits decode to the bytes they spell.
* `hexToBytes_ok_iff` — a text decodes exactly when what is left of it after trimming is digits in
  pairs.
-/

namespace RemoteLink.Library

/-- Whether a character is a digit of either case. -/
def isHexChar (c : Char) : Bool :=
  c.isDigit || (decide ('a' ≤ c) && decide (c ≤ 'f')) || (decide ('A' ≤ c) && decide (c ≤ 'F'))

/-- The number of a digit of either case. -/
def hexValue (c : Char) : Nat :=
  if c.toNat ≤ 57 then c.toNat - 48 else if c.toNat ≤ 70 then c.toNat - 55 else c.toNat - 87

/-- The bytes that pairs of digits spell. -/
def pairBytes : List Char → Bytes
  | a :: b :: rest => UInt8.ofNat (16 * hexValue a + hexValue b) :: pairBytes rest
  | _ => []

/-- Digits in pairs. -/
def IsHexText (cs : List Char) : Prop :=
  cs.length % 2 = 0 ∧ ∀ c ∈ cs, isHexChar c = true

variable {c : Char} {cs : List Char} {data out : Bytes} {n : Nat}

/-- Where the digits stand among the characters. -/
theorem isHexChar_iff : isHexChar c = true ↔
    (48 ≤ c.toNat ∧ c.toNat ≤ 57) ∨ (97 ≤ c.toNat ∧ c.toNat ≤ 102) ∨
      (65 ≤ c.toNat ∧ c.toNat ≤ 70) := by
  have hdigit : c.isDigit = true ↔ 48 ≤ c.toNat ∧ c.toNat ≤ 57 := by
    simp [Char.isDigit, UInt32.le_iff_toNat_le]
  have hlower : 'a' ≤ c ∧ c ≤ 'f' ↔ 97 ≤ c.toNat ∧ c.toNat ≤ 102 := Iff.rfl
  have hupper : 'A' ≤ c ∧ c ≤ 'F' ↔ 65 ≤ c.toNat ∧ c.toNat ≤ 70 := Iff.rfl
  rw [isHexChar, Bool.or_eq_true, Bool.or_eq_true, hdigit, Bool.and_eq_true, Bool.and_eq_true,
    decide_eq_true_iff, decide_eq_true_iff, decide_eq_true_iff, decide_eq_true_iff, hlower, hupper,
    or_assoc]

/-- A digit is ASCII. -/
theorem isHexChar_ascii (h : isHexChar c = true) : c.toNat < 128 := by
  have hrange := isHexChar_iff.mp h
  omega

/-- A digit stands for a number below 16. -/
theorem hexValue_lt (h : isHexChar c = true) : hexValue c < 16 := by
  have hrange := isHexChar_iff.mp h
  unfold hexValue
  split_ifs <;> omega

/-- A digit is decoded to its number. -/
theorem hexNibble_char (h : isHexChar c = true) :
    hexNibble (UInt8.ofNat c.toNat) = .ok (hexValue c) := by
  have hrange := isHexChar_iff.mp h
  have hbyte : (UInt8.ofNat c.toNat).toNat = c.toNat := by
    rw [UInt8.toNat_ofNat']
    omega
  have hvalue : hexNibble (UInt8.ofNat c.toNat) = .ok
      (if c.toNat ≤ 57 then c.toNat - 48 else if c.toNat ≤ 70 then c.toNat - 55
        else c.toNat - 87) := by
    simp only [hexNibble, hbyte]
    split_ifs <;> first | omega | (refine congrArg Except.ok ?_; omega)
  rw [hvalue, hexValue]

/-- The character of a byte has its number. -/
theorem toNat_ofNat_byte (b : UInt8) : (Char.ofNat b.toNat).toNat = b.toNat := by
  have hvalid : b.toNat.isValidChar := by
    have hb := b.toNat_lt
    exact Or.inl (by omega)
  rw [Char.ofNat, dif_pos hvalid]
  rfl

/-- Only a digit is decoded. -/
theorem isHexChar_of_hexNibble {b : UInt8} (h : hexNibble b = .ok n) :
    isHexChar (Char.ofNat b.toNat) = true := by
  rw [isHexChar_iff, toNat_ofNat_byte]
  simp only [hexNibble] at h
  split_ifs at h
  · omega
  · omega
  · omega

/-- Digits decode to the bytes they spell. -/
theorem hexPairs_map (h : ∀ c ∈ cs, isHexChar c = true) :
    hexPairs (cs.map fun c => UInt8.ofNat c.toNat) = .ok (pairBytes cs) := by
  induction cs using pairBytes.induct with
  | case1 a b rest ih =>
    have hrest := ih fun c hc => h c (by simp [hc])
    simp only [List.map_cons, hexPairs, hexNibble_char (h a (by simp)),
      hexNibble_char (h b (by simp)), hrest, pairBytes, bind, Except.bind, pure, Except.pure]
  | case2 cs hshort =>
    obtain _ | ⟨a, _ | ⟨b, rest⟩⟩ := cs
    · rfl
    · rfl
    · exact absurd rfl (hshort a b rest)

/-- Pairs of digits are half as many bytes. -/
theorem length_pairBytes (cs : List Char) : (pairBytes cs).length = cs.length / 2 := by
  induction cs using pairBytes.induct with
  | case1 a b rest ih =>
    simp only [pairBytes, List.length_cons, ih]
    omega
  | case2 cs hshort =>
    obtain _ | ⟨a, _ | ⟨b, rest⟩⟩ := cs
    · rfl
    · simp [pairBytes]
    · exact absurd rfl (hshort a b rest)

/-- The bytes of digits. -/
theorem utf8_ofList_hex (h : ∀ c ∈ cs, isHexChar c = true) :
    utf8 (String.ofList cs) = cs.map fun c => UInt8.ofNat c.toNat :=
  utf8_ofList_ascii fun c hc => isHexChar_ascii (h c hc)

/-- **Digits decode to the bytes they spell.** -/
theorem hexPairs_ofList (h : ∀ c ∈ cs, isHexChar c = true) :
    hexPairs (utf8 (String.ofList cs)) = .ok (pairBytes cs) := by
  rw [utf8_ofList_hex h, hexPairs_map h]

/-- Pairs of bytes that decode are digits. -/
theorem isHexChar_of_hexPairs (heven : data.length % 2 = 0) (h : hexPairs data = .ok out) :
    ∀ b ∈ data, isHexChar (Char.ofNat b.toNat) = true := by
  induction data using hexPairs.induct generalizing out with
  | case1 hi lo rest ih =>
    rw [hexPairs] at h
    cases hhi : hexNibble hi with
    | error e => simp [hhi, bind, Except.bind] at h
    | ok n =>
      cases hlo : hexNibble lo with
      | error e => simp [hhi, hlo, bind, Except.bind] at h
      | ok k =>
        cases hrest : hexPairs rest with
        | error e => simp [hhi, hlo, hrest, bind, Except.bind] at h
        | ok tail =>
          have hshorter : rest.length % 2 = 0 := by
            simp only [List.length_cons] at heven
            omega
          intro b hb
          obtain rfl | hb := List.mem_cons.mp hb
          · exact isHexChar_of_hexNibble hhi
          · obtain rfl | hb := List.mem_cons.mp hb
            · exact isHexChar_of_hexNibble hlo
            · exact ih hshorter hrest b hb
  | case2 data hshort =>
    obtain _ | ⟨hi, _ | ⟨lo, rest⟩⟩ := data
    · simp
    · simp at heven
    · exact absurd rfl (hshort hi lo rest)

/-- What decodes is a text of digits in pairs. -/
theorem isHexText_of_hexPairs {s : String} (heven : (utf8 s).length % 2 = 0)
    (h : hexPairs (utf8 s) = .ok out) : IsHexText s.toList := by
  have hbytes := isHexChar_of_hexPairs heven h
  -- the characters with these bytes are the string, since bytes determine it
  have hsame : s = String.ofList ((utf8 s).map fun b => Char.ofNat b.toNat) := by
    refine utf8_injective ?_
    rw [utf8_ofList_hex (by simpa using hbytes), List.map_map]
    symm
    refine List.map_id'' (fun b => ?_) _
    simp only [Function.comp_apply, toNat_ofNat_byte, UInt8.ofNat_toNat]
  have hchars : s.toList = (utf8 s).map fun b => Char.ofNat b.toNat := by
    conv_lhs => rw [hsame]
    exact String.toList_ofList
  rw [IsHexText, hchars, List.length_map]
  exact ⟨heven, by simpa using hbytes⟩

/-- Digits in pairs decode to the bytes they spell. -/
theorem hexToBytes_of_isHexText {s : String} (h : IsHexText (Text.trim s).toList) :
    hexToBytes s = .ok (pairBytes (Text.trim s).toList) := by
  have hbytes : utf8 (Text.trim s) =
      (Text.trim s).toList.map fun c => UInt8.ofNat c.toNat := by
    conv_lhs => rw [← String.ofList_toList (s := Text.trim s)]
    exact utf8_ofList_hex h.2
  simp only [hexToBytes, hbytes, List.length_map]
  rw [if_neg (by rw [h.1]; simp), hexPairs_map h.2]

/-- **A text decodes exactly when it is digits in pairs**, surrounding white space aside. -/
theorem hexToBytes_ok_iff {s : String} :
    (∃ bytes, hexToBytes s = .ok bytes) ↔ IsHexText (Text.trim s).toList := by
  constructor
  · rintro ⟨bytes, h⟩
    simp only [hexToBytes] at h
    split_ifs at h with hodd
    exact isHexText_of_hexPairs (not_not.mp hodd) h
  · intro h
    exact ⟨_, hexToBytes_of_isHexText h⟩

end RemoteLink.Library
