import RemoteLink.Net.LiveRoundTrip

set_option autoImplicit false

/-!
# The canonical text of a fingerprint

Fingerprints are compared as texts. The text is built from the digits of the input: whatever else
stands in it is left out, the digits are raised and written in pairs with colons.

## Main definitions

* `Denotes` — the 32 bytes that a text denotes, whatever separates its digits.

## Main results

* `sha256_eq_iff` — the text is that of the bytes.
* `digestBytes_of_denotes` — the bytes are read back from it.
* `fingerprint_canonical` — acceptance, equality, the digest and the way through a frame.
-/

namespace RemoteLink.Net

open Library

/-! ## Upper case -/

/-- Raising leaves what is not ASCII as it is. -/
theorem upperAscii_of_large {c : Char} (h : 128 ≤ c.toNat) : Text.upperAscii c = c := by
  have hlower : c.isLower = false := by
    have hsmall : ¬ c.val ≤ 'z'.val := by
      have hz : 'z'.val.toNat = 122 := rfl
      rw [UInt32.le_iff_toNat_le, hz]
      change ¬ c.toNat ≤ 122
      omega
    show (decide (c.val ≥ 'a'.val) && decide (c.val ≤ 'z'.val)) = false
    rw [decide_eq_false hsmall, Bool.and_false]
  simp [Text.upperAscii, hlower]

/-- Raising keeps digits digits, and makes no colon. -/
theorem upperAscii_spec (c : Char) :
    isHexDigit (Text.upperAscii c) = isHexDigit c ∧ (Text.upperAscii c = ':' ↔ c = ':') ∧
      Text.upperAscii (Text.upperAscii c) = Text.upperAscii c := by
  by_cases h : c.toNat < 128
  · have hall : ∀ n < 128, isHexDigit (Text.upperAscii (Char.ofNat n)) = isHexDigit (Char.ofNat n) ∧
        (Text.upperAscii (Char.ofNat n) = ':' ↔ Char.ofNat n = ':') ∧
        Text.upperAscii (Text.upperAscii (Char.ofNat n)) = Text.upperAscii (Char.ofNat n) := by
      decide
    simpa using hall c.toNat h
  · rw [upperAscii_of_large (by omega)]
    exact ⟨rfl, Iff.rfl, upperAscii_of_large (by omega)⟩

/-- The digits of pairs that are written with colons, in upper case. -/
theorem filter_colonPairs {n : Nat} {ds : List Char} (hhex : ∀ c ∈ ds, isHexDigit c = true)
    (hlen : ds.length = 2 * n) :
    (colonPairs ds).filter isHexDigit = ds.map Text.upperAscii := by
  induction n generalizing ds with
  | zero =>
    obtain rfl : ds = [] := List.length_eq_zero_iff.mp hlen
    rfl
  | succ n ih =>
    obtain _ | ⟨a, _ | ⟨b, rest⟩⟩ := ds
    · simp at hlen
    · simp only [List.length_cons, List.length_nil] at hlen
      omega
    · have ha : isHexDigit (Text.upperAscii a) = true := by
        rw [(upperAscii_spec a).1]
        exact hhex a (by simp)
      have hb : isHexDigit (Text.upperAscii b) = true := by
        rw [(upperAscii_spec b).1]
        exact hhex b (by simp)
      have hrest : rest.length = 2 * n := by
        simp only [List.length_cons] at hlen
        omega
      have ih := ih (fun c hc => hhex c (by simp [hc])) hrest
      cases rest with
      | nil => simp [colonPairs, ha, hb]
      | cons c rest =>
        have hcolon : isHexDigit ':' = false := by decide
        simp [colonPairs, ha, hb, hcolon, ih]

/-- Digits written in pairs are in upper case. -/
theorem map_upperAscii_colonPairs (ds : List Char) :
    (colonPairs ds).map Text.upperAscii = colonPairs ds := by
  induction ds using colonPairs.induct with
  | case1 a b => simp [colonPairs, (upperAscii_spec _).2.2]
  | case2 a b rest hrest ih =>
    have hcolon : Text.upperAscii ':' = ':' := by decide
    simp [colonPairs, (upperAscii_spec _).2.2, hcolon, ih]
  | case3 ds h₁ h₂ => simp [colonPairs]

/-- The case of the digits does not matter to what is written. -/
theorem colonPairs_map_upperAscii (ds : List Char) :
    colonPairs (ds.map Text.upperAscii) = colonPairs ds := by
  induction ds using colonPairs.induct with
  | case1 a b => simp [colonPairs, (upperAscii_spec _).2.2]
  | case2 a b rest hrest ih =>
    rcases rest with _ | ⟨c, rest⟩
    · exact absurd rfl hrest
    · simpa [colonPairs, (upperAscii_spec _).2.2] using ih
  | case3 ds h₁ h₂ =>
    rcases ds with _ | ⟨a, _ | ⟨b, _ | ⟨c, rest⟩⟩⟩
    · rfl
    · rfl
    · exact absurd rfl (h₁ a b)
    · exact (h₂ a b (c :: rest) rfl).elim

/-! ## Values -/

/-- A text denotes 32 bytes: these are what its digits spell in pairs, whatever their case and
whatever else stands in the text. -/
def Denotes (value : String) (bytes : Bytes) : Prop :=
  (value.toList.filter isHexDigit).length = 64 ∧
    pairBytes (value.toList.filter isHexDigit) = bytes

variable {value : String} {ds es : List Char} {fp : DtlsFingerprint} {bytes : Bytes}

/-- A digit in upper case. -/
def upperDigit (n : Nat) : Char := Char.ofNat (if n < 10 then 48 + n else 55 + n)

/-- Raising a digit depends on its number only, and keeps it. -/
theorem upperAscii_hex {c : Char} (h : isHexChar c = true) :
    Text.upperAscii c = upperDigit (hexValue c) ∧ hexValue (Text.upperAscii c) = hexValue c := by
  have hall : ∀ n < 128, isHexChar (Char.ofNat n) = true →
      Text.upperAscii (Char.ofNat n) = upperDigit (hexValue (Char.ofNat n)) ∧
        hexValue (Text.upperAscii (Char.ofNat n)) = hexValue (Char.ofNat n) := by
    decide
  have hc := hall c.toNat (isHexChar_ascii h)
  rw [Char.ofNat_toNat] at hc
  exact hc h

/-- The case of digits does not matter to the bytes they spell. -/
theorem pairBytes_map_upperAscii (h : ∀ c ∈ ds, isHexChar c = true) :
    pairBytes (ds.map Text.upperAscii) = pairBytes ds := by
  induction ds using pairBytes.induct with
  | case1 a b rest ih =>
    have hrest := ih fun c hc => h c (by simp [hc])
    simp only [List.map_cons, pairBytes, (upperAscii_hex (h a (by simp))).2,
      (upperAscii_hex (h b (by simp))).2, hrest]
  | case2 ds hshort =>
    obtain _ | ⟨a, _ | ⟨b, rest⟩⟩ := ds
    · rfl
    · rfl
    · exact absurd rfl (hshort a b rest)

/-- A byte determines the numbers of its two digits. -/
theorem hexValue_of_byte {a b c d : Char} (ha : isHexChar a = true) (hb : isHexChar b = true)
    (hc : isHexChar c = true) (hd : isHexChar d = true)
    (h : UInt8.ofNat (16 * hexValue a + hexValue b) =
      UInt8.ofNat (16 * hexValue c + hexValue d)) :
    hexValue a = hexValue c ∧ hexValue b = hexValue d := by
  have ha := hexValue_lt ha
  have hb := hexValue_lt hb
  have hc := hexValue_lt hc
  have hd := hexValue_lt hd
  rw [← UInt8.toNat_inj, UInt8.toNat_ofNat', UInt8.toNat_ofNat'] at h
  omega

/-- **Bytes determine their digits** up to the case. -/
theorem map_upperAscii_of_pairBytes {n : Nat} (hds : ∀ c ∈ ds, isHexChar c = true)
    (hes : ∀ c ∈ es, isHexChar c = true) (hdlen : ds.length = 2 * n) (helen : es.length = 2 * n)
    (h : pairBytes ds = pairBytes es) : ds.map Text.upperAscii = es.map Text.upperAscii := by
  induction n generalizing ds es with
  | zero =>
    obtain rfl := List.length_eq_zero_iff.mp hdlen
    obtain rfl := List.length_eq_zero_iff.mp helen
    rfl
  | succ n ih =>
    obtain ⟨a, b, ds, rfl⟩ : ∃ a b rest, ds = a :: b :: rest := by
      obtain _ | ⟨a, _ | ⟨b, rest⟩⟩ := ds
      · simp at hdlen
      · simp only [List.length_cons, List.length_nil] at hdlen
        omega
      · exact ⟨a, b, rest, rfl⟩
    obtain ⟨c, d, es, rfl⟩ : ∃ c d rest, es = c :: d :: rest := by
      obtain _ | ⟨c, _ | ⟨d, rest⟩⟩ := es
      · simp at helen
      · simp only [List.length_cons, List.length_nil] at helen
        omega
      · exact ⟨c, d, rest, rfl⟩
    simp only [List.length_cons] at hdlen helen
    simp only [pairBytes, List.cons.injEq] at h
    obtain ⟨hbyte, hrest⟩ := h
    have ha := hds a (by simp)
    have hb := hds b (by simp)
    have hc := hes c (by simp)
    have hd := hes d (by simp)
    obtain ⟨hac, hbd⟩ := hexValue_of_byte ha hb hc hd hbyte
    have htail := ih (fun x hx => hds x (by simp [hx])) (fun x hx => hes x (by simp [hx]))
      (by omega) (by omega) hrest
    simp only [List.map_cons, (upperAscii_hex ha).1, (upperAscii_hex hb).1, (upperAscii_hex hc).1,
      (upperAscii_hex hd).1, hac, hbd, htail]

/-- Digits written in pairs spell the same bytes. -/
theorem denotes_colonPairs (h : Denotes value bytes) :
    Denotes (String.ofList (colonPairs (value.toList.filter isHexDigit))) bytes := by
  have hhex := isHexChar_of_mem_filter value
  have hfilter := filter_colonPairs (n := 32) hhex h.1
  rw [Denotes, String.toList_ofList, hfilter, List.length_map, pairBytes_map_upperAscii hhex]
  exact h

/-- The bytes that digits spell are denoted by their digits. -/
theorem denotes_bytesToHex (hlen : bytes.length = 32) : Denotes (bytesToHex bytes) bytes := by
  have hhex : ∀ c ∈ hexDigits bytes, isHexChar c = true := by
    have hall : ∀ n < 16, isHexChar (hexDigit n) = true := by decide
    intro c hc
    obtain ⟨n, hn, rfl⟩ := mem_hexDigits hc
    exact hall n hn
  have hfilter : (hexDigits bytes).filter isHexDigit = hexDigits bytes :=
    List.filter_eq_self.mpr hhex
  have hspell : pairBytes (hexDigits bytes) = bytes :=
    Except.ok.inj ((hexPairs_map hhex).symm.trans (hexPairs_hexDigits bytes))
  rw [Denotes, bytesToHex, String.toList_ofList, hfilter, length_hexDigits, hlen]
  exact ⟨rfl, hspell⟩

/-! ## Fingerprints -/

/-- **The text of a fingerprint is that of the digits**, and exactly the texts with 64 digits have
one. -/
theorem sha256_eq_iff : DtlsFingerprint.sha256 value = .ok fp ↔
    (value.toList.filter isHexDigit).length = 64 ∧
      fp = ⟨"sha-256", String.ofList (colonPairs (value.toList.filter isHexDigit))⟩ := by
  unfold DtlsFingerprint.sha256
  by_cases hlen : (value.toList.filter isHexDigit).length = 64
  · simp [hlen, eq_comm]
  · simp [hlen]

/-- A fingerprint is made exactly of what denotes bytes. -/
theorem sha256_ok_iff : (∃ fp, DtlsFingerprint.sha256 value = .ok fp) ↔
    ∃ bytes, Denotes value bytes := by
  constructor
  · rintro ⟨fp, h⟩
    exact ⟨_, (sha256_eq_iff.mp h).1, rfl⟩
  · rintro ⟨bytes, h⟩
    exact ⟨_, sha256_eq_iff.mpr ⟨h.1, rfl⟩⟩

/-- **Texts with equal fingerprints denote the same bytes**, and the other way round. -/
theorem sha256_eq_of_denotes {value' : String} {fp' : DtlsFingerprint}
    (h : DtlsFingerprint.sha256 value = .ok fp) (h' : DtlsFingerprint.sha256 value' = .ok fp') :
    fp = fp' ↔ ∃ bytes, Denotes value bytes ∧ Denotes value' bytes := by
  obtain ⟨hlen, rfl⟩ := sha256_eq_iff.mp h
  obtain ⟨hlen', rfl⟩ := sha256_eq_iff.mp h'
  have hhex := isHexChar_of_mem_filter value
  have hhex' := isHexChar_of_mem_filter value'
  constructor
  · intro heq
    have hpairs : colonPairs (value.toList.filter isHexDigit) =
        colonPairs (value'.toList.filter isHexDigit) := by
      have hvalue := congrArg (fun fp => fp.value.toList) heq
      simpa only [String.toList_ofList] using hvalue
    refine ⟨_, ⟨hlen, rfl⟩, hlen', ?_⟩
    have hupper := congrArg (List.filter isHexDigit) hpairs
    rw [filter_colonPairs (n := 32) hhex hlen, filter_colonPairs (n := 32) hhex' hlen'] at hupper
    rw [← pairBytes_map_upperAscii hhex', ← hupper, pairBytes_map_upperAscii hhex]
  · rintro ⟨bytes, hdenotes, hdenotes'⟩
    have hupper := map_upperAscii_of_pairBytes (n := 32) hhex hhex' hlen hlen'
      (hdenotes.2.trans hdenotes'.2.symm)
    rw [← colonPairs_map_upperAscii (value.toList.filter isHexDigit), hupper,
      colonPairs_map_upperAscii]

/-- The fingerprint of a text that denotes the bytes of another one. -/
theorem sha256_of_denotes {value' : String} (h : DtlsFingerprint.sha256 value = .ok fp)
    (hdenotes : Denotes value bytes) (hdenotes' : Denotes value' bytes) :
    DtlsFingerprint.sha256 value' = .ok fp := by
  obtain ⟨fp', h'⟩ := sha256_ok_iff.mpr ⟨bytes, hdenotes'⟩
  rw [h', (sha256_eq_of_denotes h h').mpr ⟨bytes, hdenotes, hdenotes'⟩]

/-- The digest of a fingerprint is what its value denotes. -/
theorem digestBytes_of_denotes (h : Denotes fp.value bytes) : fp.digestBytes = .ok bytes := by
  have hhex := isHexChar_of_mem_filter fp.value
  have hcount : ¬(fp.value.toList.filter isHexDigit).length ≠ 64 := not_not.mpr h.1
  unfold DtlsFingerprint.digestBytes
  simp only [if_neg hcount, hexPairs_ofList hhex, h.2, Except.mapError]

/-- The value of a fingerprint denotes what the text it was made of denotes. -/
theorem denotes_value (h : DtlsFingerprint.sha256 value = .ok fp) :
    Denotes value bytes ↔ Denotes fp.value bytes := by
  obtain ⟨hlen, rfl⟩ := sha256_eq_iff.mp h
  constructor
  · exact denotes_colonPairs
  · rintro ⟨-, rfl⟩
    have hdigits : Denotes value (pairBytes (value.toList.filter isHexDigit)) := ⟨hlen, rfl⟩
    have hcanonical := denotes_colonPairs hdigits
    exact ⟨hlen, hcanonical.2.symm⟩

/-- The Hello of a fingerprint as a frame. -/
theorem hello_frame (hdigest : fp.digestBytes = .ok bytes) (role : PeerRole) :
    ∃ payload sent, encodeHello fp role = .ok payload ∧
      writeFrame kindControl payload none = (.ok (), sent) ∧
      (∀ more, readFrame (sent ++ more) = .frame (kindControl :: payload) more) ∧
      readMsg (kindControl :: payload) = some (.hello (bytesToHex bytes)) := by
  have hencode : encodeHello fp role = .ok (ctrlHello :: bytes ++ [roleByte role]) := by
    rw [encodeHello, hdigest]
    rfl
  have hlen : bytes.length = 32 := length_digestBytes hdigest
  have hbody : (ctrlHello :: bytes ++ [roleByte role]).length = 34 := by
    simp [hlen]
  have hwritten : (writeFrame kindControl (ctrlHello :: bytes ++ [roleByte role]) none).1 =
      .ok () := by
    rw [writeFrame]
    simp only [hbody]
    rw [if_neg (by decide), if_neg (by decide)]
  let f : WrittenFrame := ⟨.hello fp role, _, hencode, hwritten⟩
  have hread : readMsg (kindControl :: f.body) = some (.hello (bytesToHex bytes)) := by
    refine (readMsg_encode (f := .hello fp role) hencode).trans ?_
    show some (WireMsg.hello (bytesToHex (fp.digestBytes.toOption.getD []))) = _
    rw [hdigest]
    rfl
  refine ⟨f.body, f.bytes, hencode, Prod.ext hwritten rfl, fun more => ?_, hread⟩
  refine f.readFrame_bytes ?_ more
  show (ctrlHello :: bytes ++ [roleByte role]).length < u32Size
  rw [hbody]
  decide

/-- **Fingerprints are canonical.** -/
theorem fingerprint_canonical :
    (∀ value, (∃ fp, DtlsFingerprint.sha256 value = .ok fp) ↔ ∃ bytes, Denotes value bytes) ∧
    ∀ value fp, DtlsFingerprint.sha256 value = .ok fp →
      DtlsFingerprint.sha256 fp.value = .ok fp ∧
      (∀ value' fp', DtlsFingerprint.sha256 value' = .ok fp' →
        (fp = fp' ↔ ∃ bytes, Denotes value bytes ∧ Denotes value' bytes)) ∧
      (∀ bytes, fp.digestBytes = .ok bytes ↔ Denotes value bytes) ∧
      ∀ role, ∃ payload sent hex, encodeHello fp role = .ok payload ∧
        writeFrame kindControl payload none = (.ok (), sent) ∧
        (∀ more, readFrame (sent ++ more) = .frame (kindControl :: payload) more) ∧
        readMsg (kindControl :: payload) = some (.hello hex) ∧
        DtlsFingerprint.sha256 hex = .ok fp := by
  refine ⟨fun value => sha256_ok_iff, fun value fp h => ?_⟩
  obtain ⟨bytes, hdenotes⟩ := sha256_ok_iff.mp ⟨fp, h⟩
  have hvalue : Denotes fp.value bytes := (denotes_value h).mp hdenotes
  have hdigest : fp.digestBytes = .ok bytes := digestBytes_of_denotes hvalue
  refine ⟨sha256_of_denotes h hdenotes hvalue, fun value' fp' h' => sha256_eq_of_denotes h h',
    fun bytes' => ?_, fun role => ?_⟩
  · constructor
    · intro hdigest'
      obtain rfl := Except.ok.inj (hdigest.symm.trans hdigest')
      exact hdenotes
    · intro hdenotes'
      exact digestBytes_of_denotes ((denotes_value h).mp hdenotes')
  · obtain ⟨payload, sent, hencode, hwrite, hframe, hread⟩ := hello_frame hdigest role
    have hlen : bytes.length = 32 := length_digestBytes hdigest
    exact ⟨payload, sent, bytesToHex bytes, hencode, hwrite, hframe, hread,
      sha256_of_denotes h hdenotes (denotes_bytesToHex hlen)⟩

/-- Sixty-four digits without separators. -/
theorem fingerprint_canonical_letters :
    ∃ fp, DtlsFingerprint.sha256 (String.ofList (List.replicate 64 'a')) = .ok fp ∧
      DtlsFingerprint.sha256 fp.value = .ok fp := by
  have hdigits :
      ((String.ofList (List.replicate 64 'a')).toList.filter isHexDigit).length = 64 := by
    rw [String.toList_ofList]
    decide
  have hok := sha256_eq_iff.mpr ⟨hdigits, rfl⟩
  exact ⟨_, hok, (fingerprint_canonical.2 _ _ hok).1⟩

end RemoteLink.Net
