import RemoteLink.Auth.Otp

set_option autoImplicit false

/-!
# Challenges and the identity bind

What ties a session to the people and the devices at its ends: the challenge of Mode B, the
host's signature over its DTLS fingerprint, and the challenge on the data channel that binds the
session id and both fingerprints with the session's key.

## Main definitions

* `ChallengeTranscript.encode`, `encodeBindingMessage`, `encodeDcBindMessage` — the byte strings
  that are signed or authenticated.
* `DcIdentityMessage.parse` — the messages of the identity channel.
* `IdentityBindState` — the two flags that together allow input.
* `completeDcBind` — check a response and mark the identity bound.

## Main results

* `encodeDcBindMessage_injective` — the transcript of the bind determines its parts.
* `parse_encode_challenge`, `parse_encode_response` — the identity messages round trip.
* `completeDcBind_ok` — a bind completes exactly when the MAC verifies.
-/

namespace RemoteLink.Auth

open Library

/-! ## Mode B challenges -/

/-- Minimum length of a host secret in bytes. -/
def hostSecretMinLen : Nat := 16

/-- The secret of unattended access, held by the host only. -/
structure HostSecret where
  bytes : Bytes
  long : hostSecretMinLen ≤ bytes.length

/-- Wrap raw secret bytes. -/
def HostSecret.tryNew (bytes : Bytes) : Except AuthError HostSecret :=
  if h : hostSecretMinLen ≤ bytes.length then .ok ⟨bytes, h⟩
  else .error (.crypto
    s!"host secret must be at least {hostSecretMinLen} bytes, got {bytes.length}")

/-- Length of a Mode B tag. -/
def challengeMacLen : Nat := 32

/-- Domain of the Mode B MAC. -/
def macDomain : Bytes := utf8 "remotelink-mode-b-mac-v1"

/-- What the Mode B MAC covers. -/
structure ChallengeTranscript where
  sessionId : Bytes
  nonce : Bytes
  fingerprintHost : Bytes
  fingerprintViewer : Bytes

/-- The bytes of a transcript: the domain, then the fields behind their lengths. -/
def ChallengeTranscript.encode (t : ChallengeTranscript) : Bytes :=
  macDomain ++ fields [t.sessionId, t.nonce, t.fingerprintHost, t.fingerprintViewer]

/-- The Mode B tag of a transcript. -/
def computeChallengeMac (C : Crypto) (secret : HostSecret) (t : ChallengeTranscript) : Bytes :=
  C.hmacSha256 secret.bytes t.encode

/-- Check a Mode B tag. -/
def verifyChallengeMac (C : Crypto) (secret : HostSecret) (t : ChallengeTranscript)
    (presented : Bytes) : Except AuthError Unit :=
  if presented.length ≠ challengeMacLen then .error .challengeMacMismatch
  else if computeChallengeMac C secret t = presented then .ok ()
  else .error .challengeMacMismatch

/-- A challenge of the host: its nonce. -/
structure AuthChallenge where
  nonce : Bytes

/-- Check the viewer's response to a challenge. -/
def AuthChallenge.verifyResponse (C : Crypto) (challenge : AuthChallenge) (secret : HostSecret)
    (sessionId fingerprintHost fingerprintViewer mac : Bytes) : Except AuthError Unit :=
  verifyChallengeMac C secret
    ⟨sessionId, challenge.nonce, fingerprintHost, fingerprintViewer⟩ mac

/-! ## Fingerprint signatures -/

/-- Domain of the fingerprint signature. -/
def bindDomain : Bytes := utf8 "remotelink-fingerprint-bind-v1"

/-- The bytes the host signs. -/
def encodeBindingMessage (sessionId fingerprint : Bytes) : Bytes :=
  bindDomain ++ fields [sessionId, fingerprint]

/-- Sign a session id with a fingerprint. -/
def signFingerprintBinding (C : Crypto) (signingKey sessionId fingerprint : Bytes) : Bytes :=
  C.sign signingKey (encodeBindingMessage sessionId fingerprint)

/-- Length of a signature in bytes. -/
def signatureLen : Nat := 64

/-- Check a signature over a session id and a fingerprint. -/
def verifyFingerprintBinding (C : Crypto) (verifyingKey sessionId fingerprint signature : Bytes) :
    Except AuthError Unit :=
  if signature.length ≠ signatureLen then .error .fingerprintSigInvalid
  else if C.verifySignature verifyingKey (encodeBindingMessage sessionId fingerprint) signature
  then .ok ()
  else .error .fingerprintSigInvalid

/-- The host's `fingerprint_sig`, in hexadecimal. -/
def signSessionFingerprint (C : Crypto) (signingKey : Bytes) (sessionId material : String) :
    String :=
  bytesToHex (signFingerprintBinding C signingKey (utf8 sessionId) (utf8 material))

/-- Check a `fingerprint_sig` under the key enrolled for the host. -/
def verifySessionFingerprint (C : Crypto) (verifyingKey : Bytes) (sessionId material sig : String) :
    Except AuthError Unit :=
  match hexToBytes sig with
  | .error _ => .error .fingerprintSigInvalid
  | .ok bytes => verifyFingerprintBinding C verifyingKey (utf8 sessionId) (utf8 material) bytes

/-! ## Bind keys and flags -/

/-- Label of the data channel of identity messages. -/
def identityChannelLabel : String := "identity"

/-- Domain of the data-channel MAC. -/
def dcBindDomain : Bytes := utf8 "remotelink-dc-identity-bind-v1"

/-- Public salt from which Mode A derives its key. -/
def otpBindKeySalt : Bytes := utf8 "remotelink-otp-bind-key-v1"

/-- Length of a data-channel tag. -/
def dcBindMacLen : Nat := 32

/-- The key that proves the identity bind of a session. -/
structure SessionBindKey where
  bytes : Bytes
  deriving Repr, DecidableEq

/-- Wrap raw key bytes. -/
def SessionBindKey.tryNew (bytes : Bytes) : Except AuthError SessionBindKey :=
  if bytes.isEmpty then .error (.crypto "session bind key must be non-empty") else .ok ⟨bytes⟩

/-- The key of Mode A: derived from the digits alone, so that the viewer can compute it. -/
def SessionBindKey.fromModeAOtp (C : Crypto) (otp : String) : Except AuthError SessionBindKey := do
  validateOtpFormat otp
  return ⟨C.hmacSha256 otpBindKeySalt (utf8 otp)⟩

/-- The key of Mode B: the secret. -/
def SessionBindKey.fromModeBSecret (secret : HostSecret) : SessionBindKey := ⟨secret.bytes⟩

/-- The authorization and identity flags of one session. -/
structure IdentityBindState where
  sessionId : String
  sessionAuthorized : Bool
  identityBound : Bool
  deriving Repr, DecidableEq

namespace IdentityBindState

/-- No session, nothing allowed. -/
def empty : IdentityBindState := ⟨"", false, false⟩

/-- An unauthorized, unbound session. -/
def new (sessionId : String) : IdentityBindState := ⟨sessionId, false, false⟩

/-- Input is allowed only when both gates pass. -/
def inputAllowed (s : IdentityBindState) : Bool := s.identityBound && s.sessionAuthorized

/-- The error of a closed gate. -/
def inputGateError (s : IdentityBindState) : AuthError :=
  .inputNotAllowed s.identityBound s.sessionAuthorized

/-- Mode A or B succeeded. -/
def markAuthorized (s : IdentityBindState) : IdentityBindState :=
  { s with sessionAuthorized := true }

/-- The data-channel challenge succeeded. -/
def markIdentityBound (s : IdentityBindState) : IdentityBindState :=
  { s with identityBound := true }

end IdentityBindState

/-! ## The data-channel challenge -/

/-- A challenge: its random nonce. -/
structure DcIdentityChallenge where
  nonce : Bytes
  deriving Repr, DecidableEq

/-- A response: its tag. -/
structure DcIdentityResponse where
  mac : Bytes
  deriving Repr, DecidableEq

/-- A message of the identity channel. -/
inductive DcIdentityMessage where
  | challenge (c : DcIdentityChallenge)
  | response (r : DcIdentityResponse)
  deriving Repr, DecidableEq

/-- The JSON object with the given type and one more field. -/
def dcObject (type key value : String) : String :=
  "\x7b\"type\":\"" ++ type ++ "\",\"" ++ key ++ "\":\"" ++ value ++ "\"\x7d"

/-- The bytes of a challenge. -/
def DcIdentityChallenge.encode (c : DcIdentityChallenge) : Bytes :=
  utf8 (dcObject "dc_challenge" "nonce" (bytesToHex c.nonce))

/-- The bytes of a response. -/
def DcIdentityResponse.encode (r : DcIdentityResponse) : Bytes :=
  utf8 (dcObject "dc_response" "mac" (bytesToHex r.mac))

/-- What follows the first occurrence of a pattern. -/
def afterFirst (pat : List Char) : List Char → Option (List Char)
  | [] => if pat.isEmpty then some [] else none
  | c :: cs =>
    if Text.startsWith pat (c :: cs) then some ((c :: cs).drop pat.length) else afterFirst pat cs

/-- The rest of a string literal, up to the quote that closes it. -/
def scanString : List Char → Option (List Char)
  | [] => none
  | ['\\'] => none
  | '\\' :: c :: cs => (scanString cs).map (c :: ·)
  | '"' :: _ => some []
  | c :: cs => (scanString cs).map (c :: ·)

/-- The value of a string field of a JSON object. -/
def jsonStringField (obj : List Char) (key : String) : Option String := do
  let rest ← afterFirst ('"' :: key.toList ++ ['"']) obj
  let value ← afterFirst [':'] rest
  match value.dropWhile Text.isWhitespace with
  | '"' :: literal => (scanString literal).map String.ofList
  | _ => none

/-- Parse the text of an identity message. -/
def parseDcJson (s : String) : Except AuthError DcIdentityMessage :=
  let trimmed := (Text.trim s).toList
  if ¬Text.startsWith ['\x7b'] trimmed then .error (.identityBind "expected JSON object")
  else
    match jsonStringField trimmed "type" with
    | none => .error (.identityBind "missing type")
    | some "dc_challenge" =>
      match jsonStringField trimmed "nonce" with
      | none => .error (.identityBind "missing nonce")
      | some nonceHex =>
        match hexToBytes nonceHex with
        | .error e => .error (.identityBind s!"nonce hex: {e}")
        | .ok nonce =>
          if nonce.isEmpty then .error (.identityBind "empty nonce")
          else .ok (.challenge ⟨nonce⟩)
    | some "dc_response" =>
      match jsonStringField trimmed "mac" with
      | none => .error (.identityBind "missing mac")
      | some macHex =>
        match hexToBytes macHex with
        | .error e => .error (.identityBind s!"mac hex: {e}")
        | .ok mac =>
          if mac.length ≠ dcBindMacLen then
            .error (.identityBind s!"mac must be {dcBindMacLen} bytes, got {mac.length}")
          else .ok (.response ⟨mac⟩)
    | some other => .error (.identityBind ("unknown type " ++ "\x60" ++ other ++ "\x60"))

/-- Parse an identity message. -/
def DcIdentityMessage.parse (data : Bytes) : Except AuthError DcIdentityMessage :=
  match fromUtf8 data with
  | none => .error (.identityBind "invalid utf-8")
  | some s => parseDcJson s

/-- The bytes that a data-channel tag authenticates. -/
def encodeDcBindMessage (sessionId nonce fingerprintHost fingerprintViewer : Bytes) : Bytes :=
  dcBindDomain ++ fields [sessionId, nonce, fingerprintHost, fingerprintViewer]

/-- The data-channel tag. -/
def computeDcBindMac (C : Crypto) (bindKey : SessionBindKey)
    (sessionId nonce fingerprintHost fingerprintViewer : Bytes) : Bytes :=
  C.hmacSha256 bindKey.bytes
    (encodeDcBindMessage sessionId nonce fingerprintHost fingerprintViewer)

/-- Check a data-channel tag. -/
def verifyDcBindMac (C : Crypto) (bindKey : SessionBindKey)
    (sessionId nonce fingerprintHost fingerprintViewer presented : Bytes) :
    Except AuthError Unit :=
  if presented.length ≠ dcBindMacLen then
    .error (.identityBind s!"mac length {presented.length}, expected {dcBindMacLen}")
  else if computeDcBindMac C bindKey sessionId nonce fingerprintHost fingerprintViewer = presented
  then .ok ()
  else .error (.identityBind "mac mismatch")

/-- The viewer's response to a challenge. -/
def respondDcChallenge (C : Crypto) (bindKey : SessionBindKey) (sessionId : String)
    (challenge : DcIdentityChallenge) (fingerprintHost fingerprintViewer : String) :
    DcIdentityResponse :=
  ⟨computeDcBindMac C bindKey (utf8 sessionId) challenge.nonce (utf8 fingerprintHost)
    (utf8 fingerprintViewer)⟩

/-- The host's check of a response; success marks the identity bound. -/
def completeDcBind (C : Crypto) (state : IdentityBindState) (bindKey : SessionBindKey)
    (challenge : DcIdentityChallenge) (response : DcIdentityResponse)
    (fingerprintHost fingerprintViewer : String) : Except AuthError IdentityBindState := do
  verifyDcBindMac C bindKey (utf8 state.sessionId) challenge.nonce (utf8 fingerprintHost)
    (utf8 fingerprintViewer) response.mac
  return state.markIdentityBound

/-! ## Host authorization -/

/-- Mode A: verify and consume the code, then derive the key from it. -/
def authorizeModeA (C : Crypto) (record : OtpRecord) (code : String) (pepper : Bytes)
    (nowUnix : Nat) : Except AuthError SessionBindKey × OtpRecord :=
  match record.verifyAndConsume C code pepper nowUnix with
  | (.error e, record) => (.error e, record)
  | (.ok (), record) => (SessionBindKey.fromModeAOtp C code, record)

/-- Mode B: verify the response to a challenge. -/
def authorizeModeB (C : Crypto) (secret : HostSecret) (challenge : AuthChallenge)
    (sessionId : String) (fingerprintHost fingerprintViewer mac : Bytes) :
    Except AuthError SessionBindKey := do
  challenge.verifyResponse C secret (utf8 sessionId) fingerprintHost fingerprintViewer mac
  return .fromModeBSecret secret

/-! ## What the definitions establish -/

/-- The transcript of the bind determines its parts. -/
theorem encodeDcBindMessage_injective {s s' n n' h h' v v' : Bytes}
    (hs : s.length < u32Size) (hs' : s'.length < u32Size) (hn : n.length < u32Size)
    (hn' : n'.length < u32Size) (hh : h.length < u32Size) (hh' : h'.length < u32Size)
    (hv : v.length < u32Size) (hv' : v'.length < u32Size)
    (heq : encodeDcBindMessage s n h v = encodeDcBindMessage s' n' h' v') :
    s = s' ∧ n = n' ∧ h = h' ∧ v = v' := by
  have hfields : [s, n, h, v] = [s', n', h', v'] := by
    refine fields_injective ?_ ?_ rfl (List.append_cancel_left heq)
    · simp only [List.forall_mem_cons]
      exact ⟨hs, hn, hh, hv, List.forall_mem_nil _⟩
    · simp only [List.forall_mem_cons]
      exact ⟨hs', hn', hh', hv', List.forall_mem_nil _⟩
  simpa using hfields

/-- Transcripts that differ at most in the session id are equal only if the ids are. -/
theorem encodeDcBindMessage_sessionId {s s' n h v : Bytes}
    (heq : encodeDcBindMessage s n h v = encodeDcBindMessage s' n h v) : s = s' := by
  have hfields := List.append_cancel_left heq
  simp only [fields, List.flatMap_cons, field, List.append_assoc] at hfields
  have hlen : s.length = s'.length := by
    have htotal := congrArg List.length hfields
    simp only [List.length_append, be32, List.length_cons, List.length_nil] at htotal
    omega
  rw [hlen] at hfields
  exact (List.append_inj (List.append_cancel_left hfields) hlen).1

theorem verifyDcBindMac_ok {C : Crypto} {k : SessionBindKey} {s n h v mac : Bytes} :
    verifyDcBindMac C k s n h v mac = .ok () ↔
      mac.length = dcBindMacLen ∧ computeDcBindMac C k s n h v = mac := by
  unfold verifyDcBindMac
  split_ifs with hlen hmac
  · simp [hlen]
  · simpa [hmac] using hlen
  · simp [hmac]

/-- **A bind completes exactly when the MAC verifies**, and then it only sets the flag. -/
theorem completeDcBind_ok {C : Crypto} {st st' : IdentityBindState} {k : SessionBindKey}
    {c : DcIdentityChallenge} {r : DcIdentityResponse} {h v : String} :
    completeDcBind C st k c r h v = .ok st' ↔
      verifyDcBindMac C k (utf8 st.sessionId) c.nonce (utf8 h) (utf8 v) r.mac = .ok () ∧
        st' = st.markIdentityBound := by
  unfold completeDcBind
  rcases hv : verifyDcBindMac C k (utf8 st.sessionId) c.nonce (utf8 h) (utf8 v) r.mac with e | u
  · simp [bind, Except.bind]
  · simp [bind, Except.bind, pure, Except.pure, eq_comm]

/-- A string literal without quotes and escapes is read up to its end. -/
theorem scanString_plain {cs rest : List Char} (h : ∀ c ∈ cs, c ≠ '"' ∧ c ≠ '\\') :
    scanString (cs ++ '"' :: rest) = some cs := by
  induction cs with
  | nil => rfl
  | cons c cs ih =>
    obtain ⟨hquote, hescape⟩ := h c (by simp)
    have hrest : scanString (cs ++ '"' :: rest) = some cs := ih fun d hd => h d (by simp [hd])
    rw [List.cons_append, scanString]
    · rw [hrest]
      rfl
    · exact fun h _ => hescape h
    · exact fun _ _ h _ => hescape h
    · exact hquote

theorem scanString_hexDigits (bytes : Bytes) (rest : List Char) :
    scanString (hexDigits bytes ++ '"' :: rest) = some (hexDigits bytes) := by
  have hdigit : ∀ n < 16, hexDigit n ≠ '"' ∧ hexDigit n ≠ '\\' := by decide
  refine scanString_plain fun c hc => ?_
  obtain ⟨n, hn, rfl⟩ := mem_hexDigits hc
  exact hdigit n hn

theorem trim_dcObject (type key value : String) :
    Text.trim (dcObject type key value) = dcObject type key value := by
  refine Text.trim_of_ends ?_ ?_
  · simp [dcObject, Text.isWhitespace]
  · have hlast : (dcObject type key value).toList.getLast? = some '\x7d' := by
      rw [dcObject, String.toList_append, List.getLast?_append]
      rfl
    simp [hlast, Text.isWhitespace]

/-- Challenges round trip. -/
theorem parse_encode_challenge {c : DcIdentityChallenge} (h : c.nonce ≠ []) :
    DcIdentityMessage.parse c.encode = .ok (.challenge c) := by
  have htype : jsonStringField (dcObject "dc_challenge" "nonce" (bytesToHex c.nonce)).toList
      "type" = some "dc_challenge" := by
    simp only [dcObject, String.toList_append]
    rfl
  have hnonce : jsonStringField (dcObject "dc_challenge" "nonce" (bytesToHex c.nonce)).toList
      "nonce" = some (bytesToHex c.nonce) := by
    have hscan := scanString_hexDigits c.nonce ['\x7d']
    simp only [dcObject, bytesToHex, String.toList_append, String.toList_ofList]
    show (scanString (hexDigits c.nonce ++ ['"', '\x7d'])).map String.ofList = _
    rw [hscan]
    rfl
  have hstart : Text.startsWith ['\x7b']
      (dcObject "dc_challenge" "nonce" (bytesToHex c.nonce)).toList = true := by
    simp only [dcObject, String.toList_append]
    rfl
  simp [DcIdentityMessage.parse, DcIdentityChallenge.encode, parseDcJson, trim_dcObject, hstart,
    htype, hnonce, hexToBytes_bytesToHex, h]

/-- Responses round trip. -/
theorem parse_encode_response {r : DcIdentityResponse} (h : r.mac.length = dcBindMacLen) :
    DcIdentityMessage.parse r.encode = .ok (.response r) := by
  have htype : jsonStringField (dcObject "dc_response" "mac" (bytesToHex r.mac)).toList
      "type" = some "dc_response" := by
    simp only [dcObject, String.toList_append]
    rfl
  have hmac : jsonStringField (dcObject "dc_response" "mac" (bytesToHex r.mac)).toList
      "mac" = some (bytesToHex r.mac) := by
    have hscan := scanString_hexDigits r.mac ['\x7d']
    simp only [dcObject, bytesToHex, String.toList_append, String.toList_ofList]
    show (scanString (hexDigits r.mac ++ ['"', '\x7d'])).map String.ofList = _
    rw [hscan]
    rfl
  have hstart : Text.startsWith ['\x7b']
      (dcObject "dc_response" "mac" (bytesToHex r.mac)).toList = true := by
    simp only [dcObject, String.toList_append]
    rfl
  simp [DcIdentityMessage.parse, DcIdentityResponse.encode, parseDcJson, trim_dcObject, hstart,
    htype, hmac, hexToBytes_bytesToHex, h]

end RemoteLink.Auth
