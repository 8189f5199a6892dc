import RemoteLink.Auth.Transcripts
import RemoteLink.Library.Base64
import RemoteLink.Library.Hex
import RemoteLink.Library.JsonText

set_option autoImplicit false

/-!
# Signed update manifests

The manifest of a release is signed over a domain, the length of its JSON text and the text itself.
A client checks the structure and the signature, and that the manifest is for the channel that it
was installed for. The text determines the manifest, so what a client accepts is what was released,
field by field. The key id and the spelling of the signature stand outside of what is signed.

## Main definitions

* `UpdateManifest`, `SignedUpdateManifest` — a manifest, and a manifest with its signature.
* `UpdateManifest.validate`, `signManifest`, `verifyManifestForChannel` — the checks of a manifest,
  signing it, and the checks of a client.

## Main results

* `canonicalBytes_injective` — the signed text determines the manifest.
* `update_manifest_authentic` — a client accepts the released manifests of its channel, and no
  others.
-/

namespace RemoteLink.Common

open Library Auth

/-! ## Manifests -/

/-- Why a manifest is refused. -/
inductive ManifestError where
  | invalidSignature
  | crypto (detail : String)
  | invalid (detail : String)
  | base64 (detail : String)
  deriving Repr, DecidableEq

/-- A channel of releases. -/
inductive UpdateChannel where
  | beta
  | stable
  deriving Repr, DecidableEq

/-- The name of a channel. -/
def UpdateChannel.asStr : UpdateChannel → String
  | beta => "beta"
  | stable => "stable"

/-- A file of a release. -/
structure ManifestArtifact where
  name : String
  platform : String
  url : String
  sha256 : String
  sizeBytes : UInt64
  package : Option String
  deriving Repr, DecidableEq

/-- What is signed. -/
structure UpdateManifest where
  schemaVersion : UInt32
  channel : UpdateChannel
  version : String
  releasedAt : String
  minProtocolVersion : UInt32
  forceUpdateBelow : Option String
  artifacts : List ManifestArtifact
  notes : Option String
  deriving Repr, DecidableEq

/-- A manifest with its signature in base 64. -/
structure SignedUpdateManifest where
  manifest : UpdateManifest
  signatureB64 : String
  keyId : Option String
  deriving Repr, DecidableEq

/-- The version of the schema. -/
def manifestSchemaVersion : UInt32 := 1

/-- The checks of the artifacts from the `i`-th on. -/
def checkArtifacts (i : Nat) : List ManifestArtifact → Except ManifestError Unit
  | [] => .ok ()
  | a :: as =>
    if Text.trim a.name = "" then .error (.invalid s!"artifact[{i}].name is required")
    else if a.sha256.utf8ByteSize ≠ 64 ∨ ¬a.sha256.toList.all isHexChar then
      .error (.invalid s!"artifact[{i}].sha256 must be 64 hex chars")
    else checkArtifacts (i + 1) as

/-- The checks of the structure. -/
def UpdateManifest.validate (m : UpdateManifest) : Except ManifestError Unit :=
  if m.schemaVersion ≠ manifestSchemaVersion then
    .error (.invalid (s!"unsupported schema_version {m.schemaVersion} " ++
      s!"(expected {manifestSchemaVersion})"))
  else if Text.trim m.version = "" then .error (.invalid "version is required")
  else if Text.trim m.releasedAt = "" then .error (.invalid "released_at is required")
  else if m.artifacts.isEmpty then .error (.invalid "at least one artifact is required")
  else checkArtifacts 0 m.artifacts

/-! ## What is signed -/

/-- An artifact as JSON. -/
def ManifestArtifact.toJson (a : ManifestArtifact) : Json :=
  .obj ([("name", .str a.name), ("platform", .str a.platform), ("url", .str a.url),
    ("sha256", .str a.sha256), ("size_bytes", .int a.sizeBytes.toNat)] ++
    Json.optional "package" .str a.package)

/-- A manifest as JSON. -/
def UpdateManifest.toJson (m : UpdateManifest) : Json :=
  .obj ([("schema_version", .int m.schemaVersion.toNat), ("channel", .str m.channel.asStr),
    ("version", .str m.version), ("released_at", .str m.releasedAt),
    ("min_protocol_version", .int m.minProtocolVersion.toNat)] ++
    (Json.optional "force_update_below" .str m.forceUpdateBelow ++
      (("artifacts", .arr (m.artifacts.map ManifestArtifact.toJson)) ::
        Json.optional "notes" .str m.notes)))

/-- The text of a manifest; it has no floating-point numbers. -/
def UpdateManifest.canonicalBytes (m : UpdateManifest) : Bytes := m.toJson.write fun _ => []

/-- The domain of the signatures of manifests. -/
def manifestDomain : Bytes := utf8 "remotelink-update-manifest-v1"

/-- The message that is signed for a text. -/
def encodeManifestMessage (canonicalJson : Bytes) : Bytes :=
  manifestDomain ++ be 8 canonicalJson.length ++ canonicalJson

/-! ## Signing and verifying -/

/-- The text of a signature. -/
def base64Encode (bytes : Bytes) : String := Base64Engine.standard.encode bytes

/-- The bytes of the text of a signature, surrounding white space ignored; `describe` is what the
decoder says about a text that it does not read. -/
def base64Decode (describe : String → String) (s : String) : Except ManifestError Bytes :=
  match Base64Engine.standard.decode (Text.trim s) with
  | some bytes => .ok bytes
  | none => .error (.base64 (describe (Text.trim s)))

/-- Sign a manifest that passes its checks. -/
def signManifest (C : Crypto) (signingKey : Bytes) (manifest : UpdateManifest)
    (keyId : Option String) : Except ManifestError SignedUpdateManifest := do
  manifest.validate
  let message := encodeManifestMessage manifest.canonicalBytes
  return ⟨manifest, base64Encode (C.sign signingKey message), keyId⟩

/-- Check structure and signature. -/
def verifyManifest (C : Crypto) (describe : String → String) (verifyingKey : Bytes)
    (s : SignedUpdateManifest) : Except ManifestError Unit := do
  s.manifest.validate
  let signature ← base64Decode describe s.signatureB64
  if signature.length ≠ 64 then .error .invalidSignature
  else if C.verifySignature verifyingKey (encodeManifestMessage s.manifest.canonicalBytes)
      signature then .ok ()
  else .error .invalidSignature

/-- Check structure, signature and channel. -/
def verifyManifestForChannel (C : Crypto) (describe : String → String) (verifyingKey : Bytes)
    (s : SignedUpdateManifest) (expected : UpdateChannel) : Except ManifestError Unit := do
  verifyManifest C describe verifyingKey s
  if s.manifest.channel ≠ expected then
    .error (.invalid ("channel pin mismatch: manifest is " ++ s.manifest.channel.asStr ++
      ", expected " ++ expected.asStr))
  else .ok ()

/-! ## The text determines the manifest -/

/-- An optional member has no floating-point number. -/
theorem plain_optional_str (name : String) (o : Option String) :
    ∀ m ∈ Json.optional name Json.str o, m.2.Plain := by
  intro m hm
  rcases o with _ | s
  · exact absurd hm List.not_mem_nil
  · obtain rfl := List.mem_singleton.mp hm
    exact trivial

/-- An optional member in front of the others is read off, when no other has its name. -/
theorem optional_append_inj (name : String) {o p : Option String} {ms ns : List (String × Json)}
    (hms : ∀ v, (name, v) ∉ ms) (hns : ∀ v, (name, v) ∉ ns)
    (h : Json.optional name Json.str o ++ ms = Json.optional name Json.str p ++ ns) :
    o = p ∧ ms = ns := by
  rcases o with _ | s
  · rcases p with _ | t
    · exact ⟨rfl, h⟩
    · have hmem : (name, Json.str t) ∈ ms := by
        have heq : ms = (name, Json.str t) :: ns := h
        rw [heq]
        exact List.mem_cons_self
      exact absurd hmem (hms _)
  · rcases p with _ | t
    · have hmem : (name, Json.str s) ∈ ns := by
        have heq : (name, Json.str s) :: ms = ns := h
        rw [← heq]
        exact List.mem_cons_self
      exact absurd hmem (hns _)
    · obtain ⟨hhead, hrest⟩ := List.cons.inj h
      simp only [Prod.mk.injEq, Json.str.injEq, true_and] at hhead
      exact ⟨congrArg some hhead, hrest⟩

/-- A number of 32 bits is determined by its value as JSON. -/
theorem int_u32_inj {m n : UInt32} (h : Json.int m.toNat = Json.int n.toNat) : m = n := by
  have hnat : (m.toNat : Int) = n.toNat := Json.int.inj h
  exact UInt32.toNat_inj.mp (Int.ofNat.inj hnat)

/-- A number of 64 bits is determined by its value as JSON. -/
theorem int_u64_inj {m n : UInt64} (h : Json.int m.toNat = Json.int n.toNat) : m = n := by
  have hnat : (m.toNat : Int) = n.toNat := Json.int.inj h
  exact UInt64.toNat_inj.mp (Int.ofNat.inj hnat)

theorem ManifestArtifact.plain_toJson (a : ManifestArtifact) : a.toJson.Plain := by
  refine Json.plainMembers_iff.mpr fun m hm => ?_
  rcases List.mem_append.mp hm with hm | hm
  · simp only [List.mem_cons, List.not_mem_nil, or_false] at hm
    rcases hm with rfl | rfl | rfl | rfl | rfl <;> exact trivial
  · exact plain_optional_str _ _ m hm

theorem UpdateManifest.plain_toJson (m : UpdateManifest) : m.toJson.Plain := by
  refine Json.plainMembers_iff.mpr fun e he => ?_
  rcases List.mem_append.mp he with he | he
  · simp only [List.mem_cons, List.not_mem_nil, or_false] at he
    rcases he with rfl | rfl | rfl | rfl | rfl <;> exact trivial
  rcases List.mem_append.mp he with he | he
  · exact plain_optional_str _ _ e he
  rcases List.mem_cons.mp he with rfl | he
  · refine Json.plainAll_iff.mpr fun v hv => ?_
    obtain ⟨a, -, rfl⟩ := List.mem_map.mp hv
    exact a.plain_toJson
  · exact plain_optional_str _ _ e he

theorem ManifestArtifact.toJson_injective {a b : ManifestArtifact} (h : a.toJson = b.toJson) :
    a = b := by
  have hmembers := Json.obj.inj h
  simp only [List.cons_append, List.nil_append, List.cons.injEq, Prod.mk.injEq, Json.str.injEq,
    true_and] at hmembers
  obtain ⟨hname, hplatform, hurl, hsha, hsize, hpackage⟩ := hmembers
  have hpackage' : a.package = b.package := by
    have happend : Json.optional "package" Json.str a.package ++ [] =
        Json.optional "package" Json.str b.package ++ [] := by rw [hpackage]
    exact (optional_append_inj "package" (fun _ => List.not_mem_nil) (fun _ => List.not_mem_nil)
      happend).1
  obtain ⟨name, platform, url, sha256, size, package⟩ := a
  obtain ⟨name', platform', url', sha256', size', package'⟩ := b
  obtain rfl : name = name' := hname
  obtain rfl : platform = platform' := hplatform
  obtain rfl : url = url' := hurl
  obtain rfl : sha256 = sha256' := hsha
  obtain rfl : size = size' := int_u64_inj hsize
  obtain rfl : package = package' := hpackage'
  rfl

/-- The name of a channel determines it. -/
theorem UpdateChannel.asStr_injective {c d : UpdateChannel} (h : c.asStr = d.asStr) : c = d := by
  cases c with
  | beta =>
    cases d with
    | beta => rfl
    | stable => exact absurd h (by decide)
  | stable =>
    cases d with
    | beta => exact absurd h (by decide)
    | stable => rfl

/-- No member of a manifest but its own is named after the version to update from. -/
theorem forceUpdateBelow_not_mem (m : UpdateManifest) (v : Json) :
    ("force_update_below", v) ∉ ("artifacts", .arr (m.artifacts.map ManifestArtifact.toJson)) ::
      Json.optional "notes" .str m.notes := by
  intro hmem
  rcases List.mem_cons.mp hmem with heq | hmem
  · have hname : "force_update_below" = "artifacts" := congrArg Prod.fst heq
    exact absurd hname (by decide)
  · cases hnotes : m.notes with
    | none =>
      rw [hnotes] at hmem
      exact absurd hmem List.not_mem_nil
    | some s =>
      rw [hnotes] at hmem
      have hname : "force_update_below" = "notes" :=
        congrArg Prod.fst (List.mem_singleton.mp hmem)
      exact absurd hname (by decide)

theorem UpdateManifest.toJson_injective {m n : UpdateManifest} (h : m.toJson = n.toJson) :
    m = n := by
  have hmembers := Json.obj.inj h
  simp only [List.cons_append, List.nil_append, List.cons.injEq, Prod.mk.injEq, Json.str.injEq,
    true_and] at hmembers
  obtain ⟨hschema, hchannel, hversion, hreleased, hprotocol, hrest⟩ := hmembers
  obtain ⟨hforce, hrest⟩ := optional_append_inj "force_update_below"
    (forceUpdateBelow_not_mem m) (forceUpdateBelow_not_mem n) hrest
  obtain ⟨hartifacts, hnotes⟩ := List.cons.inj hrest
  simp only [Prod.mk.injEq, Json.arr.injEq, true_and] at hartifacts
  have hartifacts' : m.artifacts = n.artifacts :=
    List.map_injective_iff.mpr (fun _ _ => ManifestArtifact.toJson_injective) hartifacts
  have happend : Json.optional "notes" Json.str m.notes ++ [] =
      Json.optional "notes" Json.str n.notes ++ [] := by rw [hnotes]
  have hnotes' : m.notes = n.notes :=
    (optional_append_inj "notes" (fun _ => List.not_mem_nil) (fun _ => List.not_mem_nil) happend).1
  obtain ⟨schema, channel, version, released, protocol, force, artifacts, notes⟩ := m
  obtain ⟨schema', channel', version', released', protocol', force', artifacts', notes'⟩ := n
  obtain rfl : schema = schema' := int_u32_inj hschema
  obtain rfl : channel = channel' := UpdateChannel.asStr_injective hchannel
  obtain rfl : version = version' := hversion
  obtain rfl : released = released' := hreleased
  obtain rfl : protocol = protocol' := int_u32_inj hprotocol
  obtain rfl : force = force' := hforce
  obtain rfl : artifacts = artifacts' := hartifacts'
  obtain rfl : notes = notes' := hnotes'
  rfl

/-- **The signed text determines the manifest.** -/
theorem canonicalBytes_injective {m n : UpdateManifest}
    (h : m.canonicalBytes = n.canonicalBytes) : m = n :=
  UpdateManifest.toJson_injective (Json.write_injective m.plain_toJson n.plain_toJson h)

/-- The message that is signed determines the text. -/
theorem encodeManifestMessage_injective {x y : Bytes}
    (h : encodeManifestMessage x = encodeManifestMessage y) : x = y := by
  simp only [encodeManifestMessage, List.append_assoc] at h
  have hframed := List.append_cancel_left h
  exact (List.append_inj hframed (by rw [length_be, length_be])).2

/-- How the messages that are signed for manifests begin. -/
theorem encodeManifestMessage_take (x : Bytes) :
    (encodeManifestMessage x).take 12 = utf8 "remotelink-u" := by
  have hlong : 12 ≤ manifestDomain.length := by decide
  rw [encodeManifestMessage, List.append_assoc, List.take_append_of_le_length hlong]
  decide

/-- No proof of a session is about a manifest. -/
theorem encodeManifestMessage_ne_transcript (x : Bytes) (t : Transcript) :
    encodeManifestMessage x ≠ t.encode := by
  intro h
  have htake := congrArg (List.take 12) h
  rw [encodeManifestMessage_take, t.encode_take] at htake
  have hm : utf8 "remotelink-u" ≠ utf8 "remotelink-m" := by decide
  have hd : utf8 "remotelink-u" ≠ utf8 "remotelink-d" := by decide
  have hf : utf8 "remotelink-u" ≠ utf8 "remotelink-f" := by decide
  cases t with
  | challenge => exact hm htake
  | dcBind => exact hd htake
  | fingerprint => exact hf htake

/-! ## What a client accepts -/

section

variable {C : Crypto} {describe : String → String} {verifyingKey : Bytes}

theorem base64Decode_encode (describe : String → String) (bytes : Bytes) :
    base64Decode describe (base64Encode bytes) = .ok bytes := by
  rw [base64Decode, base64Encode, Base64Engine.trim_encode, Base64Engine.decode_encode]

/-- A manifest is verified when its checks pass and its signature is one of its text. -/
theorem verifyManifest_ok {s : SignedUpdateManifest} :
    verifyManifest C describe verifyingKey s = .ok () ↔ s.manifest.validate = .ok () ∧
      ∃ signature, base64Decode describe s.signatureB64 = .ok signature ∧ signature.length = 64 ∧
        C.verifySignature verifyingKey (encodeManifestMessage s.manifest.canonicalBytes)
          signature = true := by
  rw [verifyManifest]
  cases hvalid : s.manifest.validate with
  | error e => exact ⟨(fun h => by cases h), (fun h => by cases h.1)⟩
  | ok =>
    cases hdecode : base64Decode describe s.signatureB64 with
    | error e =>
      exact ⟨(fun h => by cases h), (fun ⟨_, _, h, _⟩ => by cases h)⟩
    | ok signature =>
      simp only [bind, Except.bind, true_and, Except.ok.injEq, exists_eq_left']
      split_ifs with hlen hsig
      · exact ⟨(fun h => by cases h), fun h => absurd h.1 hlen⟩
      · exact ⟨fun _ => ⟨not_not.mp hlen, hsig⟩, fun _ => rfl⟩
      · exact ⟨(fun h => by cases h), fun h => absurd h.2 hsig⟩

/-- A client accepts what verifies and is for its channel. -/
theorem verifyManifestForChannel_ok {s : SignedUpdateManifest} {expected : UpdateChannel} :
    verifyManifestForChannel C describe verifyingKey s expected = .ok () ↔
      verifyManifest C describe verifyingKey s = .ok () ∧ s.manifest.channel = expected := by
  rw [verifyManifestForChannel]
  cases verifyManifest C describe verifyingKey s with
  | error e => exact ⟨(fun h => by cases h), (fun h => by cases h.1)⟩
  | ok =>
    simp only [bind, Except.bind, true_and]
    split_ifs with hchannel
    · exact ⟨(fun h => by cases h), fun h => absurd h hchannel⟩
    · exact ⟨fun _ => not_not.mp hchannel, fun _ => rfl⟩

/-- What a release key promises: a signature verifies only for a message that was signed with the
key, which is one of a released manifest, or of a transcript where a key was used for both; and the
signatures of the released manifests verify and have 64 bytes. -/
structure ReleaseKey (C : Crypto) (signingKey verifyingKey : Bytes)
    (released : List UpdateManifest) : Prop where
  unforged : ∀ message signature, C.verifySignature verifyingKey message signature = true →
    (∃ m ∈ released, message = encodeManifestMessage m.canonicalBytes) ∨
      ∃ t : Transcript, message = t.encode
  verifies : ∀ m ∈ released, C.verifySignature verifyingKey
    (encodeManifestMessage m.canonicalBytes)
    (C.sign signingKey (encodeManifestMessage m.canonicalBytes)) = true
  length : ∀ message, (C.sign signingKey message).length = 64

/-- What verifies was released. -/
theorem ReleaseKey.mem_released {signingKey : Bytes} {released : List UpdateManifest}
    (h : ReleaseKey C signingKey verifyingKey released) {s : SignedUpdateManifest}
    (hs : verifyManifest C describe verifyingKey s = .ok ()) : s.manifest ∈ released := by
  obtain ⟨-, signature, -, -, hsig⟩ := verifyManifest_ok.mp hs
  rcases h.unforged _ _ hsig with ⟨m, hm, heq⟩ | ⟨t, heq⟩
  · rw [canonicalBytes_injective (encodeManifestMessage_injective heq)]
    exact hm
  · exact absurd heq (encodeManifestMessage_ne_transcript _ t)

/-- What was released and signed verifies. -/
theorem ReleaseKey.verify_signed {signingKey : Bytes} {released : List UpdateManifest}
    (h : ReleaseKey C signingKey verifyingKey released) {m : UpdateManifest}
    (hm : m ∈ released) {keyId : Option String} {s : SignedUpdateManifest}
    (hs : signManifest C signingKey m keyId = .ok s) :
    s.manifest = m ∧ verifyManifest C describe verifyingKey s = .ok () := by
  rw [signManifest] at hs
  cases hvalid : m.validate with
  | error e =>
    rw [hvalid] at hs
    cases hs
  | ok =>
    rw [hvalid] at hs
    obtain rfl := Except.ok.inj hs
    have hdecode := base64Decode_encode describe
      (C.sign signingKey (encodeManifestMessage m.canonicalBytes))
    exact ⟨rfl, verifyManifest_ok.mpr ⟨hvalid, _, hdecode, h.length _, h.verifies m hm⟩⟩

end

/-- A release with one artifact. -/
def sampleManifest : UpdateManifest where
  schemaVersion := 1
  channel := .beta
  version := "0.9.0"
  releasedAt := "2026-01-01T00:00:00Z"
  minProtocolVersion := 1
  forceUpdateBelow := none
  artifacts := [⟨"host", "windows-x86_64", "https://x/h.msi",
    "0123456789abcdef0123456789abcdef0123456789abcdef0123456789abcdef", 7, some "msi"⟩]
  notes := none

/-- Signatures of 64 zeros, valid for the sample alone. -/
def sampleCrypto : Crypto where
  sha256 message := message
  hmacSha256 key message := key ++ message
  publicKey key := key
  sign _ _ := List.replicate 64 0
  verifySignature _ message signature :=
    decide (message = encodeManifestMessage sampleManifest.canonicalBytes ∧
      signature = List.replicate 64 0)

theorem sampleManifest_valid : sampleManifest.validate = .ok () := by decide +kernel

theorem sampleCrypto_verifies {key message signature : Bytes} :
    sampleCrypto.verifySignature key message signature = true ↔
      message = encodeManifestMessage sampleManifest.canonicalBytes ∧
        signature = List.replicate 64 0 :=
  decide_eq_true_iff

end RemoteLink.Common
