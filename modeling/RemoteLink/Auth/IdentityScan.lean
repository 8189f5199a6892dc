import RemoteLink.Auth.Identity
import RemoteLink.Library.Hex

set_option autoImplicit false

/-!
# The scanner of identity messages

The text of an identity message is not parsed as JSON: fields are looked for by name, and cut out of
the text at the byte indices where they are found. Here every index and slice of the scanner is a
partial operation, and none of them ever fails.

## Main definitions

* `jsonStringFieldAt`, `hexToBytesAt`, `parseDcJsonAt`, `DcIdentityMessage.parseAt` — the functions
  with their indices; `none` is a panic.
* `DcIdentityMessage.encode` — the bytes of a message.

## Main results

* `jsonStringFieldAt_eq`, `hexToBytesAt_eq`, `parseAt_eq` — the indices are always good.
* `parse_encode_of_parse` — what is parsed is encoded so that it is parsed again.
* `identity_messages_round_trip` — the messages round trip, and digits do.
-/

namespace RemoteLink.Auth

open Library

/-! ## The functions with their indices -/

/-- Strip white space from the start of a string. -/
def trimStart (s : String) : String := String.ofList (s.toList.dropWhile Text.isWhitespace)

/-- The value of a string field, cut out at the byte indices of its name and of the colon. -/
def jsonStringFieldAt (obj key : String) : Option (Option String) :=
  let pattern := "\"" ++ key ++ "\""
  match findIndex pattern.toList obj.toList with
  | none => some none
  | some idx =>
    (sliceFrom obj (idx + pattern.utf8ByteSize)).bind fun afterKey =>
      match findIndex [':'] afterKey.toList with
      | none => some none
      | some colon =>
        (sliceFrom afterKey (colon + 1)).bind fun afterColon =>
          if Text.startsWith ['"'] (trimStart afterColon).toList then
            (sliceFrom (trimStart afterColon) 1).map fun rest =>
              (scanString rest.toList).map String.ofList
          else some none

/-- The loop over pairs of digits: `i` is the index reached and `out` the bytes read. -/
def hexLoop (bytes : Bytes) (i : Nat) (out : Bytes) : Option (Except String Bytes) :=
  if i < bytes.length then
    match bytes[i]? with
    | none => none
    | some first =>
      match hexNibble first with
      | .error e => some (.error e)
      | .ok hi =>
        match bytes[i + 1]? with
        | none => none
        | some second =>
          match hexNibble second with
          | .error e => some (.error e)
          | .ok lo => hexLoop bytes (i + 2) (out ++ [UInt8.ofNat (16 * hi + lo)])
  else some (.ok out)
termination_by bytes.length - i

/-- Decode digits of either case. -/
def hexToBytesAt (hex : String) : Option (Except String Bytes) :=
  let bytes := utf8 (Text.trim hex)
  if bytes.length % 2 ≠ 0 then some (.error "odd hex length") else hexLoop bytes 0 []

/-- Copy bytes into an array of the given length. -/
def copyFromSlice (n : Nat) (bytes : Bytes) : Option Bytes :=
  if bytes.length = n then some bytes else none

/-- The message of a challenge whose nonce is in the given field. -/
def challengeOf : Option String → Option (Except AuthError DcIdentityMessage)
  | none => some (.error (.identityBind "missing nonce"))
  | some nonceHex => (hexToBytesAt nonceHex).map fun
    | .error e => .error (.identityBind s!"nonce hex: {e}")
    | .ok nonce =>
      if nonce.isEmpty then .error (.identityBind "empty nonce") else .ok (.challenge ⟨nonce⟩)

/-- The message of a response whose tag is in the given field. -/
def responseOf : Option String → Option (Except AuthError DcIdentityMessage)
  | none => some (.error (.identityBind "missing mac"))
  | some macHex => (hexToBytesAt macHex).bind fun
    | .error e => some (.error (.identityBind s!"mac hex: {e}"))
    | .ok mac =>
      if mac.length ≠ dcBindMacLen then
        some (.error (.identityBind s!"mac must be {dcBindMacLen} bytes, got {mac.length}"))
      else (copyFromSlice dcBindMacLen mac).map fun mac => .ok (.response ⟨mac⟩)

/-- Parse the text of an identity message. -/
def parseDcJsonAt (s : String) : Option (Except AuthError DcIdentityMessage) :=
  let trimmed := Text.trim s
  if ¬Text.startsWith ['\x7b'] trimmed.toList then
    some (.error (.identityBind "expected JSON object"))
  else
    (jsonStringFieldAt trimmed "type").bind fun
      | none => some (.error (.identityBind "missing type"))
      | some type =>
        if type = "dc_challenge" then (jsonStringFieldAt trimmed "nonce").bind challengeOf
        else if type = "dc_response" then (jsonStringFieldAt trimmed "mac").bind responseOf
        else some (.error (.identityBind ("unknown type " ++ "\x60" ++ type ++ "\x60")))

/-- **Parse an identity message**; `none` is an index out of range or inside a character. -/
def DcIdentityMessage.parseAt (data : Bytes) : Option (Except AuthError DcIdentityMessage) :=
  match fromUtf8 data with
  | none => some (.error (.identityBind "invalid utf-8"))
  | some s => parseDcJsonAt s

/-- The bytes of a message. -/
def DcIdentityMessage.encode : DcIdentityMessage → Bytes
  | .challenge c => c.encode
  | .response r => r.encode

/-! ## Fields -/

variable {pat cs before rest : List Char} {obj key : String} {bytes : Bytes} {i : Nat}

/-- What follows the first occurrence of a pattern stands behind the index at which it is found. -/
theorem afterFirst_of_findIndex (h : findIndex pat cs = some i) :
    ∃ before rest, cs = before ++ (pat ++ rest) ∧ byteSize before = i ∧
      afterFirst pat cs = some rest := by
  induction cs generalizing i with
  | nil =>
    by_cases hpat : pat = []
    · obtain rfl : 0 = i := by simpa [findIndex, hpat] using h
      exact ⟨[], [], by simp [hpat], rfl, by simp [afterFirst, hpat]⟩
    · simp [findIndex, hpat] at h
  | cons c cs ih =>
    rw [findIndex] at h
    by_cases hstarts : Text.startsWith pat (c :: cs) = true
    · rw [if_pos hstarts] at h
      obtain ⟨rest, hrest⟩ := Text.startsWith_iff.mp hstarts
      refine ⟨[], rest, hrest.symm, Option.some.inj h, ?_⟩
      rw [afterFirst, if_pos hstarts, ← hrest, List.drop_left]
    · rw [if_neg hstarts] at h
      obtain ⟨j, hj, rfl⟩ := Option.map_eq_some_iff.mp h
      obtain ⟨before, rest, rfl, rfl, hafter⟩ := ih hj
      refine ⟨c :: before, rest, rfl, by simp, ?_⟩
      rw [afterFirst, if_neg hstarts, hafter]

/-- A pattern that is not found has nothing behind it. -/
theorem afterFirst_of_findIndex_none (h : findIndex pat cs = none) : afterFirst pat cs = none := by
  induction cs with
  | nil => simpa [findIndex, afterFirst] using h
  | cons c cs ih =>
    rw [findIndex] at h
    by_cases hstarts : Text.startsWith pat (c :: cs) = true
    · simp [hstarts] at h
    · rw [if_neg hstarts] at h
      rw [afterFirst, if_neg hstarts, ih (Option.map_eq_none_iff.mp h)]

/-- A string is sliced behind a pattern that is found in it. -/
theorem sliceFrom_found (h : findIndex pat obj.toList = some i) :
    ∃ rest, sliceFrom obj (i + byteSize pat) = some (String.ofList rest) ∧
      afterFirst pat obj.toList = some rest := by
  obtain ⟨before, rest, hsplit, rfl, hafter⟩ := afterFirst_of_findIndex h
  refine ⟨rest, ?_, hafter⟩
  have hobj : obj = String.ofList ((before ++ pat) ++ rest) := by
    rw [List.append_assoc, ← hsplit, String.ofList_toList]
  conv_lhs => rw [hobj, ← byteSize_append]
  exact sliceFrom_ofList _ _

/-- The last step of the scanner: the string literal behind the colon. -/
def literalOf (cs : List Char) : Option String :=
  match cs.dropWhile Text.isWhitespace with
  | '"' :: literal => (scanString literal).map String.ofList
  | _ => none

/-- The opening quote is sliced off. -/
theorem literal_at (cs : List Char) :
    (if Text.startsWith ['"'] (trimStart (String.ofList cs)).toList then
        (sliceFrom (trimStart (String.ofList cs)) 1).map fun rest =>
          (scanString rest.toList).map String.ofList
      else some none) = some (literalOf cs) := by
  rw [trimStart, String.toList_ofList, String.toList_ofList, literalOf]
  rcases cs.dropWhile Text.isWhitespace with _ | ⟨c, literal⟩
  · rfl
  · by_cases hquote : c = '"'
    · subst hquote
      have hslice : sliceFrom (String.ofList ('"' :: literal)) 1 = some (String.ofList literal) :=
        sliceFrom_ofList ['"'] literal
      rw [hslice]
      simp [Text.startsWith, String.toList_ofList]
    · have hstarts : Text.startsWith ['"'] (c :: literal) = false := by
        simp [Text.startsWith, Ne.symm hquote]
      rw [hstarts]
      simp [hquote]

/-- **A field is always cut out of its text at good indices.** -/
theorem jsonStringFieldAt_eq (obj key : String) :
    jsonStringFieldAt obj key = some (jsonStringField obj.toList key) := by
  have hpattern : ("\"" ++ key ++ "\"").toList = '"' :: key.toList ++ ['"'] := by
    simp [String.toList_append]
  have hsize : ("\"" ++ key ++ "\"").utf8ByteSize = byteSize ('"' :: key.toList ++ ['"']) := by
    rw [← hpattern, byteSize_toList]
  rw [jsonStringFieldAt, jsonStringField, hsize]
  simp only [hpattern]
  cases hkey : findIndex ('"' :: key.toList ++ ['"']) obj.toList with
  | none =>
    rw [afterFirst_of_findIndex_none hkey]
    rfl
  | some idx =>
    obtain ⟨behind, hslice, hafter⟩ := sliceFrom_found hkey
    rw [hafter]
    simp only [hslice, Option.bind_some, String.toList_ofList]
    cases hcolon : findIndex [':'] behind with
    | none =>
      simp only [Option.bind_eq_bind, Option.bind_some, afterFirst_of_findIndex_none hcolon]
      rfl
    | some colon =>
      have hinside : findIndex [':'] (String.ofList behind).toList = some colon := by
        rw [String.toList_ofList, hcolon]
      obtain ⟨value, hslice', hafter'⟩ := sliceFrom_found hinside
      have hone : byteSize [':'] = 1 := by decide
      rw [hone] at hslice'
      rw [String.toList_ofList] at hafter'
      simp only [hslice', Option.bind_eq_bind, Option.bind_some, hafter', literal_at]
      rfl

/-! ## Digits -/

/-- The loop decodes what is left, two bytes at a time. -/
theorem hexLoop_eq (before rest out : Bytes) (heven : rest.length % 2 = 0) :
    hexLoop (before ++ rest) before.length out =
      some ((hexPairs rest).map (out ++ ·)) := by
  induction rest using hexPairs.induct generalizing before out with
  | case1 hi lo rest ih =>
    have hshorter : rest.length % 2 = 0 := by
      simp only [List.length_cons] at heven
      omega
    have hnext := fun byte => ih (before ++ [hi, lo]) (out ++ [byte]) hshorter
    have hfirst : (before ++ hi :: lo :: rest)[before.length]? = some hi := by simp
    have hsecond : (before ++ hi :: lo :: rest)[before.length + 1]? = some lo := by
      rw [List.getElem?_append_right (by omega), Nat.add_sub_cancel_left]
      rfl
    rw [hexLoop, if_pos (by simp), hfirst, hexPairs]
    simp only [hsecond]
    cases hhi : hexNibble hi with
    | error e => rfl
    | ok n =>
      cases hlo : hexNibble lo with
      | error e => rfl
      | ok k =>
        have hsplit : before ++ hi :: lo :: rest = before ++ [hi, lo] ++ rest := by simp
        have hlen : before.length + 2 = (before ++ [hi, lo]).length := by simp
        simp only [hsplit, hlen, hnext]
        cases hexPairs rest with
        | error e => rfl
        | ok tail => simp [Except.map, bind, Except.bind, pure, Except.pure]
  | case2 rest hshort =>
    obtain _ | ⟨hi, _ | ⟨lo, rest⟩⟩ := rest
    · rw [hexLoop, if_neg (by simp)]
      simp [hexPairs, Except.map]
    · simp at heven
    · exact absurd rfl (hshort hi lo rest)

/-- **Digits are always read at good indices.** -/
theorem hexToBytesAt_eq (hex : String) : hexToBytesAt hex = some (hexToBytes hex) := by
  rw [hexToBytesAt, hexToBytes]
  by_cases hodd : (utf8 (Text.trim hex)).length % 2 ≠ 0
  · rw [if_pos hodd, if_pos hodd]
  · rw [if_neg hodd, if_neg hodd]
    have hloop := hexLoop_eq [] (utf8 (Text.trim hex)) [] (not_not.mp hodd)
    simp only [List.nil_append, List.length_nil] at hloop
    rw [hloop]
    cases hexPairs (utf8 (Text.trim hex)) <;> rfl

/-! ## Messages -/

/-- **The scanner never panics**: parsing with its indices is parsing. -/
theorem parseAt_eq (data : Bytes) :
    DcIdentityMessage.parseAt data = some (DcIdentityMessage.parse data) := by
  rw [DcIdentityMessage.parseAt, DcIdentityMessage.parse]
  cases fromUtf8 data with
  | none => rfl
  | some s =>
    simp only [parseDcJsonAt, parseDcJson, jsonStringFieldAt_eq, Option.bind_some]
    by_cases hbrace : Text.startsWith ['\x7b'] (Text.trim s).toList = true
    · rw [if_neg (by simpa using hbrace), if_neg (by simpa using hbrace)]
      cases htype : jsonStringField (Text.trim s).toList "type" with
      | none => rfl
      | some type =>
        by_cases hchallenge : type = "dc_challenge"
        · subst hchallenge
          cases jsonStringField (Text.trim s).toList "nonce" with
          | none => rfl
          | some nonceHex =>
            simp only [if_pos]
            rw [challengeOf, hexToBytesAt_eq]
            cases hexToBytes nonceHex <;> rfl
        · by_cases hresponse : type = "dc_response"
          · subst hresponse
            cases jsonStringField (Text.trim s).toList "mac" with
            | none => rfl
            | some macHex =>
              simp only [hchallenge, if_false, if_true, responseOf, hexToBytesAt_eq,
                Option.bind_some]
              cases hexToBytes macHex with
              | error e => rfl
              | ok mac =>
                by_cases hlen : mac.length = dcBindMacLen
                · simp [hlen, copyFromSlice]
                · simp [hlen]
          · simp only [hchallenge, hresponse, if_false]
    · rw [if_pos (by simpa using hbrace), if_pos (by simpa using hbrace)]

/-- What is parsed has a nonce, or a tag of the right length. -/
theorem wellFormed_of_parse {data : Bytes} {m : DcIdentityMessage}
    (h : DcIdentityMessage.parse data = .ok m) :
    (∃ c, m = .challenge c ∧ c.nonce ≠ []) ∨
      ∃ r, m = .response r ∧ r.mac.length = dcBindMacLen := by
  unfold DcIdentityMessage.parse at h
  cases hs : fromUtf8 data with
  | none => simp [hs] at h
  | some s =>
    simp only [hs, parseDcJson] at h
    split at h
    · cases h
    · split at h
      · cases h
      · split at h
        · cases h
        · split at h
          · cases h
          · split at h
            · cases h
            · rename_i nonce _ hsome
              obtain rfl := Except.ok.inj h
              exact Or.inl ⟨⟨nonce⟩, rfl, by simpa using hsome⟩
      · split at h
        · cases h
        · split at h
          · cases h
          · split at h
            · cases h
            · rename_i mac _ hlen
              obtain rfl := Except.ok.inj h
              exact Or.inr ⟨⟨mac⟩, rfl, not_not.mp hlen⟩
      · cases h

/-- **What is parsed is encoded so that it is parsed again.** -/
theorem parse_encode_of_parse {data : Bytes} {m : DcIdentityMessage}
    (h : DcIdentityMessage.parse data = .ok m) : DcIdentityMessage.parse m.encode = .ok m := by
  obtain ⟨c, rfl, hnonce⟩ | ⟨r, rfl, hmac⟩ := wellFormed_of_parse h
  · exact parse_encode_challenge hnonce
  · exact parse_encode_response hmac

/-- **Identity messages round trip**: challenges with a nonce and responses are parsed from their
bytes, digits from and to bytes, and parsing never takes a bad slice and agrees with itself on what
it has accepted. -/
theorem identity_messages_round_trip :
    (∀ c : DcIdentityChallenge, c.nonce ≠ [] →
      DcIdentityMessage.parseAt c.encode = some (.ok (.challenge c))) ∧
    (∀ r : DcIdentityResponse, r.mac.length = dcBindMacLen →
      DcIdentityMessage.parseAt r.encode = some (.ok (.response r))) ∧
    (∀ bytes, hexToBytesAt (bytesToHex bytes) = some (.ok bytes)) ∧
    (∀ hex, (∃ bytes, hexToBytesAt hex = some (.ok bytes)) ↔ IsHexText (Text.trim hex).toList) ∧
    ∀ data, ∃ result, DcIdentityMessage.parseAt data = some result ∧
      ∀ m, result = .ok m → DcIdentityMessage.parseAt m.encode = some (.ok m) := by
  simp only [parseAt_eq, hexToBytesAt_eq, Option.some.injEq]
  refine ⟨fun c h => parse_encode_challenge h, fun r h => parse_encode_response h,
    hexToBytes_bytesToHex, fun hex => hexToBytes_ok_iff, fun data => ?_⟩
  exact ⟨_, rfl, fun m h => parse_encode_of_parse h⟩

/-- A challenge with a nonce of one byte and a response of zeros. -/
theorem identity_messages_round_trip_short :
    DcIdentityMessage.parseAt (DcIdentityChallenge.encode ⟨[7]⟩) =
        some (.ok (.challenge ⟨[7]⟩)) ∧
      DcIdentityMessage.parseAt (DcIdentityResponse.encode ⟨List.replicate 32 0⟩) =
        some (.ok (.response ⟨List.replicate 32 0⟩)) :=
  ⟨identity_messages_round_trip.1 ⟨[7]⟩ (by decide),
    identity_messages_round_trip.2.1 ⟨List.replicate 32 0⟩ (by decide)⟩

end RemoteLink.Auth
