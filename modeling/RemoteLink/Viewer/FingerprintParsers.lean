import RemoteLink.Net.Fingerprint
import RemoteLink.Net.Mock
import RemoteLink.Viewer.Session

set_option autoImplicit false

/-!
# Three parsers of one fingerprint

The viewer checks the host's signature over a fingerprint that it reads from the offer, and the
transport compares the peer with one that it reads from the same text: the parser of the mock
transport and the one of the WebRTC transport. They differ in the lines they skip and in how they
write the value.

## Main definitions

* `parseRemoteFpFromSdp` — the parser of the WebRTC transport.
* `ParsersAgree` — the three parsers find the same fingerprint, or none.
* `fingerprintAttributes` — the fingerprint lines of a text, as their first two words.
* `PlainFingerprint` — the texts that are read alike.

## Main results

* `fingerprintSignMaterialFromSdp_eq`, `parseFingerprintFromSdp_eq`, `parseRemoteFpFromSdp_eq` —
  each parser on the attributes.
* `colonForm_iff` — the values that the viewer signs as the transport writes them.
* `parsersAgree_iff` — the parsers agree exactly on plain fingerprints.
* `parsers_disagree` — a line for another hash before the one for SHA-256.
-/

namespace RemoteLink.Viewer

open Library Net

/-! ## The parsers -/

/-- The parser of the WebRTC transport: the first SHA-256 attribute with a good value. White space
around the words does not matter. -/
def parseRemoteFpFromSdp (sdp : String) : Option DtlsFingerprint :=
  let label := "a=fingerprint:".toList
  (sdp.toList.splitOn '\n').findSome? fun line =>
    let line := Text.trimChars line
    if Text.startsWith label line then
      let words := ((line.drop label.length).splitOnP Text.isWhitespace).filter (· ≠ [])
      let algo := String.ofList (words[0]?.getD "sha-256".toList)
      let value := String.ofList (words[1]?.getD [])
      if Text.toAsciiLowercase algo = "sha-256" ∧ value ≠ "" then
        (DtlsFingerprint.sha256 value).toOption
      else none
    else none

/-- The viewer and both transports find the same fingerprint in a text, or none of them does. -/
def ParsersAgree (sdp : String) : Prop :=
  (parseFingerprintFromSdp sdp).map (·.asSignMaterial) = fingerprintSignMaterialFromSdp sdp ∧
    (parseRemoteFpFromSdp sdp).map (·.asSignMaterial) = fingerprintSignMaterialFromSdp sdp

/-! ## The texts that are read alike -/

/-- The hash and the value of a fingerprint line. -/
def fingerprintAttribute (line : List Char) : Option (String × String) :=
  let label := "a=fingerprint:".toList
  let line := Text.trimChars line
  if Text.startsWith label line then
    match ((line.drop label.length).splitOnP Text.isWhitespace).filter (· ≠ []) with
    | algo :: value :: _ => some (String.ofList algo, String.ofList value)
    | _ => none
  else none

/-- The fingerprint lines of a text. -/
def fingerprintAttributes (sdp : String) : List (String × String) :=
  (sdp.toList.splitOn '\n').filterMap fingerprintAttribute

/-- Whether a line is for SHA-256. -/
def isSha256 (attr : String × String) : Bool := decide (Text.toAsciiLowercase attr.1 = "sha-256")

/-- The hexadecimal digits of a value. -/
def hexDigitsOf (value : String) : List Char := value.toList.filter isHexDigit

/-- Pairs of hexadecimal digits with colons between them. -/
def isColonPairs : List Char → Bool
  | [a, b] => isHexDigit a && isHexDigit b
  | a :: b :: ':' :: rest => isHexDigit a && isHexDigit b && isColonPairs rest
  | _ => false

/-- A value of 32 bytes in pairs of digits with colons between them. -/
def ColonForm (value : String) : Prop :=
  isColonPairs value.toList = true ∧ (hexDigitsOf value).length = 64

/-- A text that is read alike: it has no fingerprint; or none for SHA-256, and the first one is not
of 32 bytes; or the first one for SHA-256 is written in pairs, and the first one of all has the
same digits. -/
def PlainFingerprint (sdp : String) : Prop :=
  ∀ first, (fingerprintAttributes sdp).head? = some first →
    match (fingerprintAttributes sdp).find? isSha256 with
    | none => (hexDigitsOf first.2).length ≠ 64
    | some sha => ColonForm sha.2 ∧
        (hexDigitsOf first.2).map Text.upperAscii = (hexDigitsOf sha.2).map Text.upperAscii

/-! ## The parsers on the attributes -/

/-- What the viewer makes of an attribute. -/
def signMaterial (attr : String × String) : Option String :=
  if isSha256 attr then some ("sha-256 " ++ Text.toAsciiUppercase attr.2) else none

theorem findSome?_filterMap {α β γ : Type} (f : α → Option β) (g : β → Option γ) (l : List α) :
    (l.filterMap f).findSome? g = l.findSome? fun a => (f a).bind g := by
  induction l with
  | nil => rfl
  | cons a l ih =>
    rcases h : f a with _ | b
    · simp [h, ih]
    · simp only [List.filterMap_cons_some h, List.findSome?_cons, h, Option.bind_some, ih]

/-- A text of characters is not empty. -/
theorem ofList_ne_empty {cs : List Char} (h : cs ≠ []) : String.ofList cs ≠ "" := by
  intro hempty
  exact h (String.ofList_injective hempty)

/-- The words of a line are not empty. -/
theorem words_ne_nil {cs word : List Char} {words : List (List Char)}
    (h : (cs.splitOnP Text.isWhitespace).filter (· ≠ []) = words) (hword : word ∈ words) :
    word ≠ [] := by
  rw [← h] at hword
  simpa using (List.mem_filter.mp hword).2

/-- **The viewer** takes the first attribute for SHA-256. -/
theorem fingerprintSignMaterialFromSdp_eq (sdp : String) :
    fingerprintSignMaterialFromSdp sdp = (fingerprintAttributes sdp).findSome? signMaterial := by
  rw [fingerprintAttributes, findSome?_filterMap]
  dsimp only [fingerprintSignMaterialFromSdp]
  congr 1
  funext line
  dsimp only [fingerprintAttribute]
  split_ifs with hlabel
  · rcases hwords : (((Text.trimChars line).drop "a=fingerprint:".toList.length).splitOnP
      Text.isWhitespace).filter (· ≠ []) with _ | ⟨algo, _ | ⟨value, rest⟩⟩
    · rfl
    · rfl
    · have hvalue : Text.toAsciiUppercase (String.ofList value) ≠ "" := by
        refine ofList_ne_empty ?_
        have hne : value ≠ [] := words_ne_nil hwords (by simp)
        simpa using hne
      by_cases halgo : Text.toAsciiLowercase (String.ofList algo) = "sha-256"
      · simp [signMaterial, isSha256, halgo, hvalue]
      · simp [signMaterial, isSha256, halgo]
  · rfl

/-- **The mock transport** takes the first attribute, whatever its hash. -/
theorem parseFingerprintFromSdp_eq (sdp : String) :
    parseFingerprintFromSdp sdp =
      (fingerprintAttributes sdp).head?.bind fun attr =>
        (DtlsFingerprint.sha256 attr.2).toOption := by
  have hfirst : ∀ attrs : List (String × String),
      (attrs.findSome? fun attr => some (DtlsFingerprint.sha256 attr.2).toOption).join =
        attrs.head?.bind fun attr => (DtlsFingerprint.sha256 attr.2).toOption := by
    intro attrs
    cases attrs <;> rfl
  rw [← hfirst, fingerprintAttributes, findSome?_filterMap]
  dsimp only [parseFingerprintFromSdp]
  congr 2
  funext line
  dsimp only [fingerprintAttribute]
  split_ifs with hlabel
  · rcases (((Text.trimChars line).drop "a=fingerprint:".toList.length).splitOnP
      Text.isWhitespace).filter (· ≠ []) with _ | ⟨algo, _ | ⟨value, rest⟩⟩ <;> rfl
  · rfl

/-- **The WebRTC transport** takes the first attribute for SHA-256 with a good value. -/
theorem parseRemoteFpFromSdp_eq (sdp : String) :
    parseRemoteFpFromSdp sdp = (fingerprintAttributes sdp).findSome? fun attr =>
      if isSha256 attr then (DtlsFingerprint.sha256 attr.2).toOption else none := by
  rw [fingerprintAttributes, findSome?_filterMap]
  dsimp only [parseRemoteFpFromSdp]
  congr 1
  funext line
  dsimp only [fingerprintAttribute]
  by_cases hlabel : Text.startsWith "a=fingerprint:".toList (Text.trimChars line) = true
  · rw [if_pos hlabel, if_pos hlabel]
    rcases hwords : (((Text.trimChars line).drop "a=fingerprint:".toList.length).splitOnP
      Text.isWhitespace).filter (· ≠ []) with _ | ⟨algo, _ | ⟨value, rest⟩⟩
    · simp
    · simp
    · have hne : value ≠ [] := words_ne_nil hwords (by simp)
      have hvalue : String.ofList value ≠ "" := ofList_ne_empty hne
      by_cases halgo : Text.toAsciiLowercase (String.ofList algo) = "sha-256"
      · simp [isSha256, halgo, hvalue]
      · simp [isSha256, halgo]
  · rw [if_neg hlabel, if_neg hlabel]
    rfl

/-! ## Values -/

/-- Pairs of digits have two digits at least. -/
theorem exists_digits_of_isColonPairs {cs : List Char} (h : isColonPairs cs = true) :
    ∃ a b rest, cs.filter isHexDigit = a :: b :: rest := by
  rcases cs with _ | ⟨a, _ | ⟨b, rest⟩⟩
  · cases h
  · cases h
  · have hdigits : isHexDigit a = true ∧ isHexDigit b = true := by
      rcases rest with _ | ⟨c, rest⟩
      · simpa [isColonPairs] using h
      · by_cases hc : c = ':'
        · subst hc
          simp only [isColonPairs, Bool.and_eq_true] at h
          exact h.1
        · simp [isColonPairs, hc] at h
    exact ⟨a, b, rest.filter isHexDigit, by simp [hdigits.1, hdigits.2]⟩

/-- What is written in pairs is what the transport writes for its digits, up to the case. -/
theorem map_upperAscii_of_isColonPairs {cs : List Char} (h : isColonPairs cs = true) :
    cs.map Text.upperAscii = colonPairs (cs.filter isHexDigit) := by
  induction cs using isColonPairs.induct with
  | case1 a b =>
    simp only [isColonPairs, Bool.and_eq_true] at h
    simp [h.1, h.2, colonPairs]
  | case2 a b rest ih =>
    simp only [isColonPairs, Bool.and_eq_true] at h
    obtain ⟨⟨ha, hb⟩, hrest⟩ := h
    obtain ⟨c, d, tail, hdigits⟩ := exists_digits_of_isColonPairs hrest
    have hcolon : isHexDigit ':' = false ∧ Text.upperAscii ':' = ':' := by decide
    have ih := ih hrest
    rw [hdigits] at ih
    simp [ha, hb, hcolon.1, hcolon.2, hdigits, colonPairs, ih]
  | case3 cs h₁ h₂ => simp [isColonPairs] at h

/-- Digits are written in pairs. -/
theorem isColonPairs_colonPairs {n : Nat} {ds : List Char} (hhex : ∀ c ∈ ds, isHexDigit c = true)
    (hlen : ds.length = 2 * (n + 1)) : isColonPairs (colonPairs ds) = true := by
  induction n generalizing ds with
  | zero =>
    obtain ⟨a, b, rfl⟩ := List.length_eq_two.mp hlen
    simp [colonPairs, isColonPairs, (upperAscii_spec _).1, hhex a (by simp), hhex b (by simp)]
  | succ n ih =>
    obtain _ | ⟨a, _ | ⟨b, _ | ⟨c, rest⟩⟩⟩ := ds
    · simp at hlen
    · simp only [List.length_cons, List.length_nil] at hlen
      omega
    · simp only [List.length_cons, List.length_nil] at hlen
      omega
    · have hrest : (c :: rest).length = 2 * (n + 1) := by
        simp only [List.length_cons] at hlen ⊢
        omega
      have ih := ih (fun d hd => hhex d (List.mem_cons_of_mem _ (List.mem_cons_of_mem _ hd))) hrest
      simp [colonPairs, isColonPairs, (upperAscii_spec _).1, hhex a (by simp), hhex b (by simp), ih]

/-- Raising does not write digits in pairs that were not. -/
theorem isColonPairs_of_map {cs : List Char} (h : isColonPairs (cs.map Text.upperAscii) = true) :
    isColonPairs cs = true := by
  induction cs using isColonPairs.induct with
  | case1 a b => simpa [isColonPairs, (upperAscii_spec _).1] using h
  | case2 a b rest ih =>
    have hcolon : Text.upperAscii ':' = ':' := by decide
    simp only [List.map_cons, hcolon, isColonPairs, (upperAscii_spec _).1, Bool.and_eq_true] at h ⊢
    exact ⟨h.1, ih h.2⟩
  | case3 cs h₁ h₂ =>
    exfalso
    rcases cs with _ | ⟨a, _ | ⟨b, _ | ⟨c, rest⟩⟩⟩
    · cases h
    · cases h
    · exact h₁ a b rfl
    · by_cases hc : c = ':'
      · exact h₂ a b rest (by rw [hc])
      · have hc' : ¬Text.upperAscii c = ':' := fun h => hc ((upperAscii_spec c).2.1.mp h)
        simp [isColonPairs, hc'] at h

theorem mem_hexDigitsOf {value : String} {c : Char} (h : c ∈ hexDigitsOf value) :
    isHexDigit c = true := (List.mem_filter.mp h).2

/-- **The values that the viewer signs as the transport writes them** are those in pairs with
colons. -/
theorem colonForm_iff {value : String} : ColonForm value ↔ (hexDigitsOf value).length = 64 ∧
    value.toList.map Text.upperAscii = colonPairs (hexDigitsOf value) := by
  constructor
  · rintro ⟨hpairs, hlen⟩
    exact ⟨hlen, map_upperAscii_of_isColonPairs hpairs⟩
  · rintro ⟨hlen, hmap⟩
    have hwritten : isColonPairs (colonPairs (hexDigitsOf value)) = true :=
      isColonPairs_colonPairs (n := 31) (fun c hc => mem_hexDigitsOf hc) hlen
    rw [← hmap] at hwritten
    exact ⟨isColonPairs_of_map hwritten, hlen⟩

/-- Digits that are written alike are alike up to the case. -/
theorem map_upperAscii_of_colonPairs {value : String} {cs : List Char}
    (hlen : (hexDigitsOf value).length = 64)
    (h : colonPairs (hexDigitsOf value) = cs.map Text.upperAscii) :
    (hexDigitsOf value).map Text.upperAscii = (cs.filter isHexDigit).map Text.upperAscii := by
  have hhex : ∀ c ∈ hexDigitsOf value, isHexDigit c = true := fun c hc => mem_hexDigitsOf hc
  have hfilter := filter_colonPairs (n := 32) hhex hlen
  rw [← hfilter, h, List.filter_map]
  congr 2
  funext c
  exact (upperAscii_spec c).1

/-! ## Agreement -/

/-- What the transport signs for a value. -/
theorem sha256_material (value : String) :
    (DtlsFingerprint.sha256 value).toOption.map (·.asSignMaterial) =
      if (hexDigitsOf value).length = 64 then
        some ("sha-256 " ++ String.ofList (colonPairs (hexDigitsOf value)))
      else none := by
  have hupper : Text.toAsciiUppercase (String.ofList (colonPairs (hexDigitsOf value))) =
      String.ofList (colonPairs (hexDigitsOf value)) := by
    rw [Text.toAsciiUppercase, String.toList_ofList, map_upperAscii_colonPairs]
  have hlower : Text.toAsciiLowercase "sha-256" = "sha-256" := by decide
  unfold DtlsFingerprint.sha256
  by_cases hlen : (hexDigitsOf value).length = 64
  · have hcleaned : ¬(value.toList.filter isHexDigit).length ≠ 64 := not_not.mpr hlen
    simp only [if_neg hcleaned, if_pos hlen, Except.toOption, Option.map_some,
      DtlsFingerprint.asSignMaterial, hlower]
    rw [← hexDigitsOf, hupper]
    rfl
  · have hcleaned : (value.toList.filter isHexDigit).length ≠ 64 := hlen
    simp only [if_pos hcleaned, if_neg hlen, Except.toOption, Option.map_none]

/-- The viewer on the attributes. -/
theorem findSome?_signMaterial (attrs : List (String × String)) :
    attrs.findSome? signMaterial =
      (attrs.find? isSha256).map fun attr => "sha-256 " ++ Text.toAsciiUppercase attr.2 := by
  induction attrs with
  | nil => rfl
  | cons attr attrs ih =>
    by_cases h : isSha256 attr = true
    · simp [signMaterial, h]
    · simp [signMaterial, h, ih]

/-- A good value of the first attribute for SHA-256 is the one of the WebRTC transport. -/
theorem findSome?_sha256 {attrs : List (String × String)} {sha : String × String}
    {fp : DtlsFingerprint} (hfind : attrs.find? isSha256 = some sha)
    (hfp : (DtlsFingerprint.sha256 sha.2).toOption = some fp) :
    (attrs.findSome? fun attr =>
      if isSha256 attr then (DtlsFingerprint.sha256 attr.2).toOption else none) = some fp := by
  obtain ⟨hsha, before, after, rfl, hbefore⟩ := List.find?_eq_some_iff_append.mp hfind
  have hnone : (before.findSome? fun attr =>
      if isSha256 attr then (DtlsFingerprint.sha256 attr.2).toOption else none) = none := by
    rw [List.findSome?_eq_none_iff]
    intro attr hattr
    rw [if_neg (by simpa using hbefore attr hattr)]
  simp [List.findSome?_append, hnone, hsha, hfp]

/-- **The parsers agree exactly on plain fingerprints.**

**Proof sketch.** Without an attribute for SHA-256 the viewer and the WebRTC transport find
nothing, and the mock transport must not either. With one, the viewer signs its value as it
stands, so the mock transport must write the first value of all like that: the value is in pairs,
and then the WebRTC transport takes it too. -/
theorem parsersAgree_iff (sdp : String) : ParsersAgree sdp ↔ PlainFingerprint sdp := by
  rw [ParsersAgree, fingerprintSignMaterialFromSdp_eq, parseFingerprintFromSdp_eq,
    parseRemoteFpFromSdp_eq, findSome?_signMaterial, PlainFingerprint]
  rcases hattrs : fingerprintAttributes sdp with _ | ⟨first, rest⟩
  · simp
  rw [← hattrs]
  have hfirst : (fingerprintAttributes sdp).head? = some first := by rw [hattrs]; rfl
  simp only [hfirst, Option.bind_some, sha256_material, Option.some.injEq, forall_eq']
  rcases hfind : (fingerprintAttributes sdp).find? isSha256 with _ | sha
  · have hnone : ((fingerprintAttributes sdp).findSome? fun attr =>
        if isSha256 attr then (DtlsFingerprint.sha256 attr.2).toOption else none) = none := by
      rw [List.findSome?_eq_none_iff]
      intro attr hattr
      rw [if_neg (List.find?_eq_none.mp hfind attr hattr)]
    simp [hnone]
  · simp only [Option.map_some]
    constructor
    · rintro ⟨hmock, -⟩
      split_ifs at hmock with hlen
      have hvalue : colonPairs (hexDigitsOf first.2) = sha.2.toList.map Text.upperAscii := by
        have htexts := congrArg String.toList (Option.some.inj hmock)
        simp only [String.toList_append, Text.toAsciiUppercase, String.toList_ofList] at htexts
        exact List.append_cancel_left htexts
      have hdigits := map_upperAscii_of_colonPairs hlen hvalue
      have hlen' : (hexDigitsOf sha.2).length = 64 := by
        have := congrArg List.length hdigits
        rw [List.length_map, List.length_map] at this
        exact this.symm.trans hlen
      refine ⟨colonForm_iff.mpr ⟨hlen', ?_⟩, hdigits⟩
      rw [← hvalue, ← colonPairs_map_upperAscii, hdigits]
      exact colonPairs_map_upperAscii _
    · rintro ⟨hform, hdigits⟩
      obtain ⟨hlen', hvalue⟩ := colonForm_iff.mp hform
      have hlen : (hexDigitsOf first.2).length = 64 := by
        have := congrArg List.length hdigits
        rw [List.length_map, List.length_map] at this
        exact this.trans hlen'
      have hwritten : colonPairs (hexDigitsOf first.2) = colonPairs (hexDigitsOf sha.2) := by
        rw [← colonPairs_map_upperAscii, hdigits, colonPairs_map_upperAscii]
      have hsha := sha256_material sha.2
      rw [if_pos hlen'] at hsha
      obtain ⟨fp, hfp, hmaterial⟩ := Option.map_eq_some_iff.mp hsha
      have hsigned : "sha-256 " ++ Text.toAsciiUppercase sha.2 =
          "sha-256 " ++ String.ofList (colonPairs (hexDigitsOf sha.2)) := by
        rw [Text.toAsciiUppercase, hvalue]
      rw [if_pos hlen, hwritten, findSome?_sha256 hfind hfp, hsigned, Option.map_some, hmaterial]
      exact ⟨rfl, rfl⟩

/-- An offer whose first fingerprint is for another hash, behind it one for SHA-256. -/
def demoTwoFingerprints : String :=
  "a=fingerprint:sha-384 " ++
    "AAAAAAAAAAAAAAAAAAAAAAAAAAAAAAAAAAAAAAAAAAAAAAAAAAAAAAAAAAAAAAAA" ++
  "\r\na=fingerprint:sha-256 " ++
    "BB:BB:BB:BB:BB:BB:BB:BB:BB:BB:BB:BB:BB:BB:BB:BB:" ++
    "BB:BB:BB:BB:BB:BB:BB:BB:BB:BB:BB:BB:BB:BB:BB:BB"

/-- **The parsers disagree** where a line for another hash comes first: the signature covers one
fingerprint and the mock transport takes another. -/
theorem parsers_disagree : ¬∀ sdp, ParsersAgree sdp := by
  intro h
  have hmock := (h demoTwoFingerprints).1
  have hattrs : fingerprintAttributes demoTwoFingerprints =
      [("sha-384", "AAAAAAAAAAAAAAAAAAAAAAAAAAAAAAAAAAAAAAAAAAAAAAAAAAAAAAAAAAAAAAAA"),
        ("sha-256", "BB:BB:BB:BB:BB:BB:BB:BB:BB:BB:BB:BB:BB:BB:BB:BB:" ++
          "BB:BB:BB:BB:BB:BB:BB:BB:BB:BB:BB:BB:BB:BB:BB:BB")] := by
    decide +kernel
  rw [parseFingerprintFromSdp_eq, fingerprintSignMaterialFromSdp_eq, hattrs] at hmock
  exact absurd hmock (by decide +kernel)

end RemoteLink.Viewer
