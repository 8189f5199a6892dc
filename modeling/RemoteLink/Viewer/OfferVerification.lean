import RemoteLink.Net.Mock
import RemoteLink.Viewer.Session

set_option autoImplicit false

/-!
# Which offers the viewer accepts

A viewer that knows the key of its host should answer an offer only if the host's signature over
the session and the fingerprint in that offer verifies. The session checks a signature that is
there; it accepts an offer without one, and it checks the signature of an offer without a
fingerprint against the fingerprint it remembers from before.

## Main definitions

* `AcceptedOffer.Verified` — the offer was accepted on a signature over its own fingerprint.
* `offerSystem` — a viewer session with the offers it accepted under a host key.
* `FailsClosed` — the condition under which an offer is not accepted unverified.

## Main results

* `acceptOfferWithSig_verified` — under the condition, what is accepted is verified.
* `acceptOfferWithSig_unverified` — without it some transport lets the offer through.
* `offers_verified` — every run that keeps to the condition accepts only verified offers.
-/

namespace RemoteLink.Viewer

open Library Auth Net ViewerSession

/-! ## Accepted offers -/

/-- An offer that was accepted while a host key was configured, with its signature and the session
id at the time. -/
structure AcceptedOffer where
  key : Bytes
  sessionId : Option String
  offer : SessionDescription
  sig : Option String
  deriving Repr, DecidableEq

/-- The signature is there and verifies over the session id and the fingerprint in the offer. -/
def AcceptedOffer.Verified (C : Crypto) (r : AcceptedOffer) : Prop :=
  ∃ sig sid material, r.sig = some sig ∧ sig ≠ "" ∧ r.sessionId = some sid ∧
    fingerprintSignMaterialFromSdp r.offer.sdp = some material ∧
    verifySessionFingerprint C r.key sid material sig = .ok ()

/-- An offer that is not accepted unverified: there is no transport to answer it; or it comes with a
signature, and either it has a fingerprint or the signature does not verify over a remembered
one. -/
def FailsClosed {π μ : Type} (C : Crypto) (s : ViewerSession π μ) (key : Bytes)
    (offer : SessionDescription) (sig : Option String) : Prop :=
  s.transport = none ∨ ∃ x, sig = some x ∧ x ≠ "" ∧
    (fingerprintSignMaterialFromSdp offer.sdp ≠ none ∨
      ∀ sid material, s.sessionId = some sid → s.hostFpSignMaterial = some material →
        verifySessionFingerprint C key sid material x ≠ .ok ())

section Call

variable {π μ : Type} {C : Crypto} {T : PeerTransport π} {S : MediaSink μ}
  {s s' : ViewerSession π μ} {offer answer : SessionDescription} {sig : Option String}
  {key : Bytes}

/-- A signature that passes verifies over the remembered fingerprint. -/
theorem checkOfferSig_ok {x : String} {u : Unit} (h : checkOfferSig C x s = .ok u s') :
    s' = s ∧ ∃ vk sid material, s.hostVerifyingKey = some vk ∧ s.sessionId = some sid ∧
      s.hostFpSignMaterial = some material ∧
      verifySessionFingerprint C vk sid material x = .ok () := by
  unfold checkOfferSig at h
  rcases hvk : s.hostVerifyingKey with _ | vk
  · simp only [hvk] at h
    cases h
  rcases hsid : s.sessionId with _ | sid
  · simp only [hvk, hsid] at h
    cases h
  rcases hm : s.hostFpSignMaterial with _ | material
  · simp only [hvk, hsid, hm] at h
    cases h
  rcases hv : verifySessionFingerprint C vk sid material x with e | _
  · simp only [hvk, hsid, hm, hv] at h
    cases h
  · simp only [hvk, hsid, hm, hv] at h
    obtain ⟨-, rfl⟩ := EStateM.Result.ok.inj h
    exact ⟨rfl, vk, sid, material, rfl, rfl, rfl, hv⟩

/-- A signature that is not empty is checked. -/
theorem checkPresentSig_some {x : String} (hx : x ≠ "") :
    (checkPresentSig C (some x) : ViewerM π μ Unit) = checkOfferSig C x := by
  rw [checkPresentSig, Option.filter_some, if_pos (by simpa using hx)]

/-- An absent or empty signature is not checked. -/
theorem checkPresentSig_none (h : ¬∃ x, sig = some x ∧ x ≠ "") :
    (checkPresentSig C sig : ViewerM π μ Unit) = pure () := by
  rcases sig with _ | x
  · rfl
  · rw [checkPresentSig, Option.filter_some, if_neg]
    intro hx
    exact h ⟨x, rfl, by simpa using hx⟩

/-- Checking a signature changes nothing. -/
theorem checkPresentSig_state {u : Unit} (h : checkPresentSig C sig s = .ok u s') : s' = s := by
  by_cases hpresent : ∃ x, sig = some x ∧ x ≠ ""
  · obtain ⟨x, rfl, hx⟩ := hpresent
    rw [checkPresentSig_some hx] at h
    exact (checkOfferSig_ok h).1
  · rw [checkPresentSig_none hpresent] at h
    exact (EStateM.Result.ok.inj h).2.symm

/-- An offer is answered only over a transport. -/
theorem answerOffer_transport (h : answerOffer C T S offer s = .ok answer s') :
    s.transport ≠ none := by
  intro hnone
  obtain ⟨t, s₁, hget, h⟩ := bind_ok.mp h
  obtain ⟨rfl, rfl⟩ := EStateM.Result.ok.inj hget
  simp only [hnone] at h
  cases h

/-- **An offer that is accepted under the condition is verified.** -/
theorem acceptOfferWithSig_verified (hkey : s.hostVerifyingKey = some key)
    (hcond : FailsClosed C s key offer sig)
    (h : acceptOfferWithSig C T S offer sig s = .ok answer s') :
    AcceptedOffer.Verified C ⟨key, s.sessionId, offer, sig⟩ := by
  obtain ⟨u, s₁, hmod, h⟩ := bind_ok.mp h
  obtain ⟨-, rfl⟩ := EStateM.Result.ok.inj hmod
  obtain ⟨u, s₂, hsig, h⟩ := bind_ok.mp h
  rcases hcond with hnone | ⟨x, rfl, hx, hcond⟩
  · -- without a transport nothing is answered
    obtain rfl := checkPresentSig_state hsig
    have hgone : (rememberFingerprint offer s).transport = none := hnone
    exact absurd hgone (answerOffer_transport h)
  · rw [checkPresentSig_some hx] at hsig
    obtain ⟨-, vk, sid, material, hvk, hsid, hm, hver⟩ := checkOfferSig_ok hsig
    obtain rfl : vk = key := Option.some.inj (hvk.symm.trans hkey)
    have hsid : s.sessionId = some sid := hsid
    refine ⟨x, sid, material, rfl, hx, hsid, ?_, hver⟩
    -- the fingerprint that was checked is the one in the offer
    have hor : (fingerprintSignMaterialFromSdp offer.sdp).or s.hostFpSignMaterial =
        some material := hm
    rcases hfp : fingerprintSignMaterialFromSdp offer.sdp with _ | own
    · rw [hfp] at hor
      rcases hcond with hown | hold
      · exact absurd hfp hown
      · exact absurd hver (hold sid material hsid hor)
    · rw [hfp] at hor
      exact hor

end Call

/-- A transport that does whatever it is asked, and reports nothing. -/
def agreeable (π : Type) : PeerTransport π where
  connectionState _ := .connected
  createOffer p := ⟨.ok ⟨.offer, ""⟩, p, []⟩
  createAnswer p := ⟨.ok ⟨.answer, ""⟩, p, []⟩
  setLocalDescription p _ := ⟨.ok (), p, []⟩
  setRemoteDescription p _ := ⟨.ok (), p, []⟩
  addIceCandidate p _ := ⟨.ok (), p, []⟩
  localFingerprint _ := .ok ⟨"sha-256", ""⟩
  remoteFingerprint _ := .ok none
  sendVideoNalu p _ := ⟨.ok (), p, []⟩
  sendAudio p _ := ⟨.ok (), p, []⟩
  sendData p _ := ⟨.ok (), p, []⟩
  poll p := ⟨.ok (), p, []⟩
  waitReady p _ := ⟨.ok (), p, []⟩
  close p := ⟨.ok (), p, []⟩

section Unverified

variable {π μ : Type} {C : Crypto} {S : MediaSink μ} {s : ViewerSession π μ}
  {offer : SessionDescription} {sig : Option String} {key : Bytes}

/-- An agreeable transport answers every offer, if no data waits in the buffer. -/
theorem answerOffer_agreeable (ht : s.transport ≠ none) (hdata : s.callbacks.data = []) :
    ∃ answer s', answerOffer C (agreeable π) S offer s = .ok answer s' := by
  obtain ⟨a, ha⟩ := Option.ne_none_iff_exists'.mp ht
  obtain ⟨machine, transport, callbacks, media, ice, sid, stats, vk, bind, identity, material,
    require⟩ := s
  obtain ⟨ices, states, tracks, data⟩ := callbacks
  obtain rfl : transport = some a := ha
  obtain rfl : data = [] := hdata
  exact ⟨_, _, rfl⟩

/-- **Without the condition an agreeable transport lets the offer through unverified.** -/
theorem acceptOfferWithSig_unverified (hkey : s.hostVerifyingKey = some key)
    (hdata : s.callbacks.data = []) (hcond : ¬FailsClosed C s key offer sig) :
    (∃ answer s', acceptOfferWithSig C (agreeable π) S offer sig s = .ok answer s') ∧
      ¬AcceptedOffer.Verified C ⟨key, s.sessionId, offer, sig⟩ := by
  obtain ⟨ht, hsig⟩ := not_or.mp hcond
  have hanswer : ∃ answer s', answerOffer C (agreeable π) S offer
      (rememberFingerprint offer s) = .ok answer s' := answerOffer_agreeable ht hdata
  obtain ⟨answer, s', hanswer⟩ := hanswer
  by_cases hpresent : ∃ x, sig = some x ∧ x ≠ ""
  · obtain ⟨x, rfl, hx⟩ := hpresent
    have hrest : ¬(fingerprintSignMaterialFromSdp offer.sdp ≠ none ∨
        ∀ sid material, s.sessionId = some sid → s.hostFpSignMaterial = some material →
          verifySessionFingerprint C key sid material x ≠ .ok ()) :=
      fun h => hsig ⟨x, rfl, hx, h⟩
    obtain ⟨hfp, hold⟩ := not_or.mp hrest
    have hfp := not_not.mp hfp
    push Not at hold
    obtain ⟨sid, material, hsid, hm, hver⟩ := hold
    refine ⟨⟨answer, s', bind_ok.mpr ⟨(), _, rfl, bind_ok.mpr ⟨(), rememberFingerprint offer s,
      ?_, hanswer⟩⟩⟩, ?_⟩
    · rw [checkPresentSig_some hx]
      have hm' : (rememberFingerprint offer s).hostFpSignMaterial = some material := by
        rw [rememberFingerprint, hfp, Option.none_or, hm]
      have hk' : (rememberFingerprint offer s).hostVerifyingKey = some key := hkey
      have hs' : (rememberFingerprint offer s).sessionId = some sid := hsid
      simp only [checkOfferSig, hk', hs', hm', hver]
    · rintro ⟨y, sid', own, -, -, -, hown, -⟩
      rw [show fingerprintSignMaterialFromSdp offer.sdp = none from hfp] at hown
      cases hown
  · refine ⟨⟨answer, s', bind_ok.mpr ⟨(), _, rfl, bind_ok.mpr ⟨(), rememberFingerprint offer s,
      ?_, hanswer⟩⟩⟩, ?_⟩
    · rw [checkPresentSig_none hpresent]
      rfl
    · rintro ⟨y, -, -, hy, hne, -⟩
      exact hpresent ⟨y, hy, hne⟩

end Unverified

/-! ## Runs -/

/-- A viewer session, and the offers it accepted while a host key was configured. -/
structure OfferWorld (π μ : Type) where
  session : ViewerSession π μ
  accepted : List AcceptedOffer

/-- The offer that an event accepts under a host key. -/
def acceptedBy {π μ : Type} (C : Crypto) (T : PeerTransport π) (S : MediaSink μ)
    (s : ViewerSession π μ) (e : ViewerEvent π) : Option AcceptedOffer :=
  match e with
  | .acceptOffer offer sig =>
    match s.hostVerifyingKey, acceptOfferWithSig C T S offer sig s with
    | some key, .ok _ _ => some ⟨key, s.sessionId, offer, sig⟩
    | _, _ => none
  | _ => none

/-- The runs of a viewer session, with the offers it accepted. -/
def offerSystem {π μ : Type} (C : Crypto) (T : PeerTransport π) (S : MediaSink μ) (media : μ) :
    System (OfferWorld π μ) (ViewerEvent π) where
  init w := w = ⟨.new media, []⟩
  step w e := ((viewerSystem C T S media).step w.session e).map fun session =>
    ⟨session, w.accepted ++ (acceptedBy C T S w.session e).toList⟩

/-- The condition on a run: every offer fails closed. -/
def OffersClosed {π μ : Type} (C : Crypto) (w : OfferWorld π μ) (e : ViewerEvent π) : Prop :=
  ∀ offer sig key, e = .acceptOffer offer sig → w.session.hostVerifyingKey = some key →
    FailsClosed C w.session key offer sig

/-- **Every accepted offer is verified** in a run whose offers all fail closed: they come with a
signature, and one without a fingerprint has a signature that does not verify over the fingerprint
remembered from before. The condition is exact: an offer that does not meet it is accepted
unverified by a session with an agreeable transport and no data in its buffer. -/
theorem offers_verified {π μ : Type} (C : Crypto) (T : PeerTransport π) (S : MediaSink μ)
    (media : μ) :
    (∀ w, (offerSystem C T S media).ReachableVia (OffersClosed C) w →
      ∀ r ∈ w.accepted, r.Verified C) ∧
    ∀ (s : ViewerSession π μ) key offer sig, s.hostVerifyingKey = some key →
      s.callbacks.data = [] → ¬FailsClosed C s key offer sig →
      (∃ answer s', acceptOfferWithSig C (agreeable π) S offer sig s = .ok answer s') ∧
        ¬AcceptedOffer.Verified C ⟨key, s.sessionId, offer, sig⟩ := by
  refine ⟨fun w h => ?_, fun s key offer sig hkey hdata hcond =>
    acceptOfferWithSig_unverified hkey hdata hcond⟩
  refine h.invariant (fun w => ∀ r ∈ w.accepted, r.Verified C) (fun w hw r hr => ?_) ?_
  · obtain rfl : w = ⟨.new media, []⟩ := hw
    cases hr
  · intro w e w' hall hclosed hstep r hr
    obtain rfl := Option.some.inj hstep
    rcases List.mem_append.mp hr with hr | hr
    · exact hall r hr
    · have hacc := Option.mem_toList.mp hr
      cases e with
      | acceptOffer offer sig =>
        rcases hkey : w.session.hostVerifyingKey with _ | key
        · simp only [acceptedBy, hkey] at hacc
          cases hacc
        rcases hres : acceptOfferWithSig C T S offer sig w.session with ⟨answer, s'⟩ | ⟨e, s'⟩
        · simp only [acceptedBy, hkey, hres] at hacc
          obtain rfl := Option.some.inj hacc
          exact acceptOfferWithSig_verified hkey (hclosed offer sig key rfl hkey) hres
        · simp only [acceptedBy, hkey, hres] at hacc
          cases hacc
      | _ => cases hacc

/-! ### Concrete runs -/

/-- One side of a mock pair. -/
def demoPeer : MockPeer := .new "viewer" ⟨"sha-256", "11"⟩

/-- The viewer knows the key of its host, connects to it and attaches a transport. -/
def keyedRun : List (ViewerEvent MockPeer) :=
  [.setHostVerifyingKey [7], .beginConnect (.otp "host-1" "123456"), .attachTransport demoPeer]

/-- The fingerprint of the host, shortened. -/
def demoMaterial : String := "sha-256 AA:BB"

/-- An offer with a fingerprint. -/
def demoOffer : SessionDescription := ⟨.offer, "a=fingerprint:" ++ demoMaterial⟩

/-- The host's signature over `demoOffer` in the session of `keyedRun`. -/
def demoSig : String := signSessionFingerprint .windowed [7] "sess-stub-host-1" demoMaterial

/-- Whether an offer comes with a signature and a fingerprint. -/
def complete : ViewerEvent MockPeer → Bool
  | .acceptOffer offer sig =>
    sig.any (fun x => decide (x ≠ "")) && (fingerprintSignMaterialFromSdp offer.sdp).isSome
  | _ => true

/-- The signed offer is accepted, and it is verified. -/
theorem offers_verified_signed : ∃ w r,
    (offerSystem .windowed mockTransport .discard ()).ReachableVia (OffersClosed .windowed) w ∧
    r ∈ w.accepted ∧ r.Verified .windowed := by
  have hrun : (((offerSystem .windowed mockTransport .discard ()).restrict fun _ e =>
      complete e).runFrom ⟨.new (), []⟩
        (keyedRun ++ [.acceptOffer demoOffer (some demoSig)])).any
          (fun w => !w.accepted.isEmpty) = true := by
    decide +kernel
  obtain ⟨w, hw, hacc⟩ := (Option.any_eq_true _ _).mp hrun
  have hinit : ((offerSystem .windowed mockTransport .discard ()).restrict fun _ e =>
      complete e).Reachable ⟨.new (), []⟩ := .init rfl
  have hclosed : ∀ (w : OfferWorld MockPeer Unit) (e : ViewerEvent MockPeer),
      complete e = true → OffersClosed .windowed w e := by
    rintro w e h offer sig key rfl -
    obtain ⟨hsig, hfp⟩ := Bool.and_eq_true_iff.mp h
    obtain ⟨x, hx, hne⟩ := (Option.any_eq_true _ _).mp hsig
    exact .inr ⟨x, hx, of_decide_eq_true hne, .inl (Option.isSome_iff_ne_none.mp hfp)⟩
  have hreach := System.reachableVia_of_restrict hclosed (System.reachable_of_runFrom hinit hw)
  have hne : w.accepted ≠ [] := by simpa using hacc
  obtain ⟨r, hr⟩ := List.exists_mem_of_ne_nil w.accepted hne
  exact ⟨w, r, hreach, hr, (offers_verified .windowed mockTransport .discard ()).1 w hreach r hr⟩

/-- **An offer without a signature is accepted** although the viewer knows the key of its host. -/
theorem offers_verified_fails :
    ¬∀ w, (offerSystem .windowed mockTransport .discard ()).Reachable w →
      ∀ r ∈ w.accepted, r.Verified .windowed := by
  intro hclaim
  have hrun : ((offerSystem .windowed mockTransport .discard ()).runFrom ⟨.new (), []⟩
      (keyedRun ++ [.acceptOffer demoOffer none])).any (fun w => decide
        (w.accepted = [⟨[7], some "sess-stub-host-1", demoOffer, none⟩])) = true := by
    decide +kernel
  obtain ⟨w, hw, hacc⟩ := (Option.any_eq_true _ _).mp hrun
  have hacc := of_decide_eq_true hacc
  have hmem : (⟨[7], some "sess-stub-host-1", demoOffer, none⟩ : AcceptedOffer) ∈ w.accepted := by
    rw [hacc]
    exact List.mem_singleton.mpr rfl
  obtain ⟨sig, -, -, hsig, -⟩ := hclaim w (System.reachable_of_runFrom (.init rfl) hw) _ hmem
  cases hsig

/-- The same signature lets a later offer without a fingerprint through. -/
example : ((offerSystem .windowed mockTransport .discard ()).runFrom ⟨.new (), []⟩
    (keyedRun ++ [.acceptOffer demoOffer (some demoSig),
      .acceptOffer ⟨.offer, "v=0"⟩ (some demoSig)])).any
    (fun w => decide (w.accepted.length = 2)) = true := by
  decide +kernel

end RemoteLink.Viewer
