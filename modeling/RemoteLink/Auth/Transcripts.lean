import RemoteLink.Auth.Identity

set_option autoImplicit false

/-!
# The three transcripts

What a proof of this system is a proof of: the Mode B challenge and the data-channel challenge are
answered with a tag, the fingerprint of the host is signed. The byte strings behind them begin with
domains that none of the others begins with, and their fields stand behind their lengths, so that no
field can be taken for another.

## Main definitions

* `Transcript` — a transcript of one of the three kinds; `Transcript.encode` — its bytes.
* `Transcript.accepts` — the check of a proof for a transcript.
* `Unforgeable` — the ideal MAC and the ideal signature, for two transcripts.

## Main results

* `Transcript.encode_injective` — the bytes determine the kind and every field.
* `transcripts_separate` — a proof is accepted for one transcript only.
-/

namespace RemoteLink.Auth

open Library

/-- What a proof is about. -/
inductive Transcript where
  | challenge (t : ChallengeTranscript)
  | dcBind (sessionId nonce fingerprintHost fingerprintViewer : Bytes)
  | fingerprint (sessionId fingerprint : Bytes)

namespace Transcript

/-- The bytes that are authenticated or signed. -/
def encode : Transcript → Bytes
  | challenge t => t.encode
  | dcBind s n h v => encodeDcBindMessage s n h v
  | fingerprint s f => encodeBindingMessage s f

/-- The domain of a kind. -/
def domain : Transcript → Bytes
  | challenge _ => macDomain
  | dcBind .. => dcBindDomain
  | fingerprint .. => bindDomain

/-- The fields of a transcript. -/
def parts : Transcript → List Bytes
  | challenge t => [t.sessionId, t.nonce, t.fingerprintHost, t.fingerprintViewer]
  | dcBind s n h v => [s, n, h, v]
  | fingerprint s f => [s, f]

/-- The fields are shorter than 2³² bytes. -/
def Short (t : Transcript) : Prop := ∀ f ∈ t.parts, f.length < u32Size

/-- A transcript is its domain and its fields. -/
theorem encode_eq (t : Transcript) : t.encode = t.domain ++ fields t.parts := by
  cases t <;> rfl

/-- How the byte strings of a kind begin. -/
def mark : Transcript → Bytes
  | challenge _ => utf8 "remotelink-m"
  | dcBind .. => utf8 "remotelink-d"
  | fingerprint .. => utf8 "remotelink-f"

/-- The twelfth byte of a transcript tells its kind. -/
theorem encode_take (t : Transcript) : t.encode.take 12 = t.mark := by
  have hlong : 12 ≤ t.domain.length := by
    cases t <;> simp only [domain] <;> decide
  rw [encode_eq, List.take_append_of_le_length hlong]
  cases t <;> simp only [domain, mark] <;> decide

theorem mark_challenge_dcBind : utf8 "remotelink-m" ≠ utf8 "remotelink-d" := by decide

theorem mark_challenge_fingerprint : utf8 "remotelink-m" ≠ utf8 "remotelink-f" := by decide

theorem mark_dcBind_fingerprint : utf8 "remotelink-d" ≠ utf8 "remotelink-f" := by decide

/-- **The bytes of a transcript determine its kind and its fields.**

**Proof sketch.** The twelfth byte tells the kinds apart, so the domains are equal; what follows them
are as many fields behind their lengths, which can be read back. -/
theorem encode_injective {a b : Transcript} (ha : a.Short) (hb : b.Short)
    (h : a.encode = b.encode) : a = b := by
  have hmark : a.mark = b.mark := by
    rw [← encode_take, ← encode_take, h]
  have hfields : a.domain = b.domain → a.parts.length = b.parts.length → a.parts = b.parts := by
    intro hdomain hlen
    rw [encode_eq, encode_eq, hdomain] at h
    exact fields_injective ha hb hlen (List.append_cancel_left h)
  cases a with
  | challenge t =>
    cases b with
    | challenge u =>
      have hparts := hfields rfl rfl
      simp only [parts, List.cons.injEq, and_true] at hparts
      obtain ⟨sid, nonce, host, viewer⟩ := t
      obtain ⟨sid', nonce', host', viewer'⟩ := u
      obtain ⟨rfl, rfl, rfl, rfl⟩ : sid = sid' ∧ nonce = nonce' ∧ host = host' ∧
        viewer = viewer' := hparts
      rfl
    | dcBind => exact absurd hmark mark_challenge_dcBind
    | fingerprint => exact absurd hmark mark_challenge_fingerprint
  | dcBind s n h v =>
    cases b with
    | challenge => exact absurd hmark.symm mark_challenge_dcBind
    | dcBind s' n' h' v' =>
      have hparts := hfields rfl rfl
      simp only [parts, List.cons.injEq, and_true] at hparts
      obtain ⟨rfl, rfl, rfl, rfl⟩ := hparts
      rfl
    | fingerprint => exact absurd hmark mark_dcBind_fingerprint
  | fingerprint s f =>
    cases b with
    | challenge => exact absurd hmark.symm mark_challenge_fingerprint
    | dcBind => exact absurd hmark.symm mark_dcBind_fingerprint
    | fingerprint s' f' =>
      have hparts := hfields rfl rfl
      simp only [parts, List.cons.injEq, and_true] at hparts
      obtain ⟨rfl, rfl⟩ := hparts
      rfl

end Transcript

/-! ## Proofs -/

/-- The keys that proofs are checked with: the secret of unattended access, the key of the
session's bind, and the key enrolled for the host. -/
structure ProofKeys where
  secret : HostSecret
  bindKey : SessionBindKey
  verifyingKey : Bytes

/-- The check of a proof for a transcript. -/
def Transcript.accepts (C : Crypto) (keys : ProofKeys) (proof : Bytes) :
    Transcript → Except AuthError Unit
  | challenge t => verifyChallengeMac C keys.secret t proof
  | dcBind s n h v => verifyDcBindMac C keys.bindKey s n h v proof
  | fingerprint s f => verifyFingerprintBinding C keys.verifyingKey s f proof

/-- An ideal MAC has no tag in common for two messages, under whatever keys; an ideal signature is
valid for one message only. Both are asked of two transcripts only. -/
structure Unforgeable (C : Crypto) (keys : ProofKeys) (a b : Transcript) : Prop where
  mac : ∀ k ∈ [keys.secret.bytes, keys.bindKey.bytes],
    ∀ k' ∈ [keys.secret.bytes, keys.bindKey.bytes],
      C.hmacSha256 k a.encode = C.hmacSha256 k' b.encode → a.encode = b.encode
  signature : ∀ sig, C.verifySignature keys.verifyingKey a.encode sig = true →
    C.verifySignature keys.verifyingKey b.encode sig = true → a.encode = b.encode

section

variable {C : Crypto} {keys : ProofKeys} {proof : Bytes} {a b : Transcript}

/-- What an accepted proof is: the tag of the transcript under one of the keys, or a signature of
it. -/
theorem accepts_cases (h : a.accepts C keys proof = .ok ()) :
    (proof.length = 32 ∧ ∃ k ∈ [keys.secret.bytes, keys.bindKey.bytes],
        C.hmacSha256 k a.encode = proof) ∨
      (proof.length = 64 ∧ C.verifySignature keys.verifyingKey a.encode proof = true) := by
  cases a with
  | challenge t =>
    simp only [Transcript.accepts, verifyChallengeMac] at h
    split_ifs at h with hlen hmac
    exact .inl ⟨not_not.mp hlen, _, by simp, hmac⟩
  | dcBind s n hst v =>
    obtain ⟨hlen, hmac⟩ := verifyDcBindMac_ok.mp h
    exact .inl ⟨hlen, _, by simp, hmac⟩
  | fingerprint s f =>
    simp only [Transcript.accepts, verifyFingerprintBinding] at h
    split_ifs at h with hlen hsig
    exact .inr ⟨not_not.mp hlen, hsig⟩

end

/-- **Transcripts are separate**: byte strings of transcripts with short fields are equal only for
equal transcripts, of one kind and field by field; and with an ideal MAC and an ideal signature a
proof that is accepted for one transcript is accepted for no other. -/
theorem transcripts_separate (a b : Transcript) (ha : a.Short) (hb : b.Short) :
    (a.encode = b.encode → a = b) ∧
      ∀ (C : Crypto) (keys : ProofKeys) (proof : Bytes), Unforgeable C keys a b →
        a.accepts C keys proof = .ok () → b.accepts C keys proof = .ok () → a = b := by
  refine ⟨Transcript.encode_injective ha hb, fun C keys proof hideal haccept hbccept => ?_⟩
  refine Transcript.encode_injective ha hb ?_
  obtain ⟨hlen, k, hk, hmac⟩ | ⟨hlen, hsig⟩ := accepts_cases haccept
  · obtain ⟨-, k', hk', hmac'⟩ | ⟨hlen', -⟩ := accepts_cases hbccept
    · exact hideal.mac k hk k' hk' (hmac.trans hmac'.symm)
    · omega
  · obtain ⟨hlen', -⟩ | ⟨-, hsig'⟩ := accepts_cases hbccept
    · omega
    · exact hideal.signature proof hsig hsig'

/-- The host's fingerprint and the viewer's are not interchangeable. -/
theorem transcripts_separate_roles :
    Transcript.encode (.dcBind (utf8 "s") [1] (utf8 "AA") (utf8 "BB")) ≠
      Transcript.encode (.dcBind (utf8 "s") [1] (utf8 "BB") (utf8 "AA")) := by
  intro h
  have hshort : ∀ x y : String, (utf8 x).length < u32Size → (utf8 y).length < u32Size →
      Transcript.Short (.dcBind (utf8 "s") [1] (utf8 x) (utf8 y)) := by
    intro x y hx hy
    simp only [Transcript.Short, Transcript.parts, List.forall_mem_cons]
    exact ⟨by decide, by decide, hx, hy, List.forall_mem_nil _⟩
  have hsame := (transcripts_separate _ _ (hshort "AA" "BB" (by decide) (by decide))
    (hshort "BB" "AA" (by decide) (by decide))).1 h
  exact absurd (Transcript.dcBind.inj hsame).2.2.1 (by decide)

end RemoteLink.Auth
