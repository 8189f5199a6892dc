import RemoteLink.Host.Policy
import RemoteLink.Host.SessionGate
import RemoteLink.Net.Links

set_option autoImplicit false

/-!
# Authorization of live sessions

The hub through which the live host opens one-time codes and unattended access, and with which it
authorizes a session on its manager once the transport is up. The code that authorizes an attended
session is the one the hub shows, not one that the viewer sent.

## Main definitions

* `LiveOtpHub` — the policy service behind the live host.
* `LiveOtpHub.authorizeUnattended`, `LiveOtpHub.authorizeLive` — authorize the session, enable
  input and issue the identity challenge.
* `Challenged` — a manager with a key and an identity challenge on its way.

## Main results

* `authorizeSession_ok` — what a passed authorization leaves behind.
* `liveHost_gate` — what a manager has before it.
* `host_decides` — the response to the challenge is accepted exactly when its tag verifies.
-/

namespace RemoteLink.Host

open Library Protocol Auth Net Platform

/-- The policy service behind the live host. -/
structure LiveOtpHub where
  policy : HostAuthService

namespace LiveOtpHub

variable {π : Type}

/-- The hub of a fresh host. -/
def new : LiveOtpHub := ⟨.new .default defaultHostOtpPepper⟩

/-- Enable unattended access with a secret. -/
def enableUnattended (hub : LiveOtpHub) (secret : String) : Except String Unit × LiveOtpHub :=
  match HostSecret.tryNew (utf8 secret) with
  | .error e => (.error ("unattended secret: " ++ e.display), hub)
  | .ok hostSecret =>
    (.ok (), ⟨(hub.policy.setHostSecret hostSecret).setUnattendedEnabled true⟩)

/-- Open a window and return its code with the hash to post. -/
def mintLocal (C : Crypto) (hub : LiveOtpHub) (rng : Nat → Fin 10) (salt : Bytes) (now : Nat) :
    Except String (String × OtpHash) × LiveOtpHub :=
  match hub.policy.mintOtp C rng salt now with
  | (.error e, policy) => (.error ("mint_otp: " ++ e.display), ⟨policy⟩)
  | (.ok code, policy) =>
    match policy.activeOtp with
    | none => (.error "OTP window missing after mint", ⟨policy⟩)
    | some window => (.ok (code, window.hash), ⟨policy⟩)

/-- Enable input and issue the identity challenge. -/
def challengeViewer (T : PeerTransport π) (nonce : Bytes) (m : SessionManager π) :
    Except String Unit × SessionManager π :=
  match SessionManager.startIdentityChallenge T nonce (m.setInputPolicyEnabled true) with
  | .error e m => (.error ("identity challenge: " ++ e.display), m)
  | .ok () m => (.ok (), m)

/-- Authorize an unattended session with the host's secret. -/
def authorizeUnattended (T : PeerTransport π) (nonce : Bytes) (hub : LiveOtpHub)
    (m : SessionManager π) : Except String Unit × SessionManager π :=
  match hub.policy.hostSecret with
  | none => (.error "unattended enabled but host secret missing", m)
  | some secret =>
    match SessionManager.authorizeUnattendedSecret secret m with
    | .error e m => (.error ("authorize unattended: " ++ e.display), m)
    | .ok () m => challengeViewer T nonce m

/-- Authorize an attended session: verify and consume the window with the code it was minted
with. -/
def authorizeLive (C : Crypto) (T : PeerTransport π) (nonce : Bytes) (now : Nat)
    (hub : LiveOtpHub) (m : SessionManager π) :
    Except String Unit × LiveOtpHub × SessionManager π :=
  match hub.policy.lastOtpCode with
  | none => (.error "no OTP minted", hub, m)
  | some code =>
    match hub.policy.authorizeSessionModeA C m code now with
    | (.error e, policy, m) => (.error ("authorize mode a: " ++ e.display), ⟨policy⟩, m)
    | (.ok (), policy, m) =>
      match challengeViewer T nonce m with
      | (result, m) => (result, ⟨policy⟩, m)

/-- Authorize a session of the given mode. -/
def authorizeSession (C : Crypto) (T : PeerTransport π) (nonce : Bytes) (now : Nat)
    (mode : SessionMode) (hub : LiveOtpHub) (m : SessionManager π) :
    Except String Unit × LiveOtpHub × SessionManager π :=
  if mode = .unattended then
    match authorizeUnattended T nonce hub m with
    | (result, m) => (result, hub, m)
  else authorizeLive C T nonce now hub m

/-- The key with which the hub authorizes a session of the given mode. -/
def sessionKey (C : Crypto) (mode : SessionMode) (hub : LiveOtpHub) : Option SessionBindKey :=
  if mode = .unattended then hub.policy.hostSecret.map .fromModeBSecret
  else hub.policy.lastOtpCode.bind fun code => (SessionBindKey.fromModeAOtp C code).toOption

end LiveOtpHub

/-! ## What an authorization establishes -/

/-- The manager `m'` comes from `m` by an authorization with `key` and a challenge with `nonce`. -/
structure Challenged {π : Type} (T : PeerTransport π) (key : SessionBindKey) (nonce : Bytes)
    (m m' : SessionManager π) : Prop where
  sessionId : m'.sessionId = m.sessionId
  identity : m'.identity = m.identity.markAuthorized
  bindKey : m'.bindKey = some key
  pending : m'.pendingDcChallenge = some ⟨nonce⟩
  policy : m'.policyInputEnabled = true
  trace : m'.trace = .challenged ⟨nonce⟩ :: .policySet true :: .authorized key :: m.trace
  sent : ∃ u, (T.sendData m.peer ⟨identityChannelLabel, DcIdentityChallenge.encode ⟨nonce⟩,
    false⟩).result = .ok u
  peer : m'.peer = (T.sendData m.peer ⟨identityChannelLabel, DcIdentityChallenge.encode ⟨nonce⟩,
    false⟩).peer
  cb : m'.cb = m.cb.deliver (T.sendData m.peer ⟨identityChannelLabel,
    DcIdentityChallenge.encode ⟨nonce⟩, false⟩).callbacks

section

variable {π : Type} {C : Crypto} {T : PeerTransport π} {nonce : Bytes} {now : Nat}
  {mode : SessionMode} {hub hub' : LiveOtpHub} {m m' : SessionManager π} {key : SessionBindKey}

/-- A call of the transport succeeds as the transport does. -/
theorem onPeer_ok {α : Type} {f : π → Call π α} {a : α} :
    SessionManager.onPeer f m = .ok a m' ↔ (f m.peer).result = .ok a ∧
      m' = { m with peer := (f m.peer).peer, cb := m.cb.deliver (f m.peer).callbacks } := by
  unfold SessionManager.onPeer
  rcases hres : (f m.peer).result with e | b
  · simp [hres]
  · simp [hres, eq_comm]

/-- A challenge that is issued has been sent. -/
theorem challengeViewer_ok
    (h : LiveOtpHub.challengeViewer T nonce (m.authorized key) = (.ok (), m')) :
    Challenged T key nonce m m' := by
  unfold LiveOtpHub.challengeViewer at h
  rcases hres : SessionManager.startIdentityChallenge T nonce
    ((m.authorized key).setInputPolicyEnabled true) with ⟨u, m₁⟩ | ⟨e, m₁⟩
  · simp only [hres, Prod.mk.injEq, true_and] at h
    subst h
    unfold SessionManager.startIdentityChallenge at hres
    obtain ⟨m₀, m₀', hget, hres⟩ := bind_ok.mp hres
    obtain ⟨rfl, rfl⟩ := EStateM.Result.ok.inj hget
    split at hres
    · cases hres
    split at hres
    · cases hres
    split at hres
    · cases hres
    split at hres
    · cases hres
    obtain ⟨u', m₂, hpeer, hres⟩ := bind_ok.mp hres
    obtain ⟨hsend, rfl⟩ := onPeer_ok.mp hpeer
    obtain ⟨-, rfl⟩ := EStateM.Result.ok.inj hres
    exact ⟨rfl, rfl, rfl, rfl, rfl, rfl, ⟨u', hsend⟩, rfl, rfl⟩
  · simp only [hres, Prod.mk.injEq, reduceCtorEq, false_and] at h

/-- **A passed authorization**: the session has the key of its mode, and a challenge is on its
way. -/
theorem authorizeSession_ok
    (h : hub.authorizeSession C T nonce now mode m = (.ok (), hub', m')) :
    ∃ key, hub.sessionKey C mode = some key ∧ Challenged T key nonce m m' := by
  unfold LiveOtpHub.authorizeSession at h
  split_ifs at h with hmode
  · unfold LiveOtpHub.authorizeUnattended SessionManager.authorizeUnattendedSecret at h
    rcases hsecret : hub.policy.hostSecret with _ | secret
    · simp [hsecret] at h
    rcases hsid : m.sessionId with _ | sid
    · simp [hsecret, hsid] at h
    · simp only [hsecret, hsid, Prod.mk.injEq] at h
      obtain ⟨hres, -, hm⟩ := h
      refine ⟨.fromModeBSecret secret, ?_, challengeViewer_ok (Prod.ext hres hm)⟩
      rw [LiveOtpHub.sessionKey, if_pos hmode, hsecret]
      rfl
  · unfold LiveOtpHub.authorizeLive at h
    rcases hcode : hub.policy.lastOtpCode with _ | code
    · simp [hcode] at h
    rcases hauth : hub.policy.authorizeSessionModeA C m code now with ⟨e | u, policy, m₁⟩
    · simp [hcode, hauth] at h
    · obtain ⟨window, key, -, -, hkey, heq⟩ :=
        HostAuthService.authorizeSessionModeA_ok.mp (congrArg Prod.fst hauth)
      simp only [hcode, heq, Prod.mk.injEq] at h
      obtain ⟨hres, -, hm⟩ := h
      refine ⟨key, ?_, challengeViewer_ok (Prod.ext hres hm)⟩
      rw [LiveOtpHub.sessionKey, if_neg hmode, hcode]
      simp [hkey, Except.toOption]

end

/-! ## The live host up to its authorization -/

/-- The calls of the live host between the attach and the authorization, and what its transport does
meanwhile. -/
def beforeAuthorization {π : Type} : ManagerOp π → Bool
  | .startMedia _ | .takeOutboundSignals | .applySignal .. | .waitReady _ | .configure ..
  | .setDeviceSigningKey _ | .transport .. => true
  | _ => false

/-- The manager of a live session, from the attach of the session id in the intent. -/
def liveHost {π : Type} (C : Crypto) (T : PeerTransport π) (J : Codec) (sid : String) :
    System (SessionManager π) (ManagerOp π) where
  init m := ∃ peer videoKind audioKind opened native now,
    m = (SessionManager.withPeer peer videoKind audioKind opened).attach sid native now
  step m op := if beforeAuthorization op then op.apply C T J m else none

/-- Until its authorization a live session has the id of the intent and nothing else. -/
theorem liveHost_gate {π : Type} {C : Crypto} {T : PeerTransport π} {J : Codec} {sid : String}
    {m : SessionManager π} (h : (liveHost C T J sid).Reachable m) :
    gateOf m = (some sid, none, .new sid, none, false, [.attached sid]) := by
  refine h.invariant (fun m => gateOf m = _) ?_ ?_
  · rintro m ⟨peer, videoKind, audioKind, opened, native, now, rfl⟩
    rfl
  · intro m op m' hm _ hstep
    simp only [liveHost] at hstep
    split_ifs at hstep with hop
    refine Eq.trans ?_ hm
    cases op with
    | startMedia ans =>
      obtain rfl := Option.some.inj hstep
      exact keeps_startMedia C T J ans m
    | takeOutboundSignals =>
      obtain rfl := Option.some.inj hstep
      rfl
    | applySignal kind payload =>
      obtain ⟨res, hres, rfl⟩ := Option.map_eq_some_iff.mp hstep
      exact keeps_applySignal offPlane_gate hres
    | waitReady t =>
      obtain rfl := Option.some.inj hstep
      exact keeps_onPeer offPlane_gate _ m
    | configure w ht fps vk ak force =>
      obtain rfl := Option.some.inj hstep
      rfl
    | setDeviceSigningKey key =>
      obtain rfl := Option.some.inj hstep
      rfl
    | transport peer cs =>
      obtain rfl := Option.some.inj hstep
      rfl
    | _ => cases hop

/-! ## A response arrives -/

section

variable {π : Type} {C : Crypto} {T : PeerTransport π} {J : Codec} {ans : Nat → InjectAnswers}
  {own other : DtlsFingerprint} {up : π → Prop} {m : SessionManager π} {key : SessionBindKey}
  {c : DcIdentityChallenge} {r : DcIdentityResponse}

theorem deliver_data (cb : AgentPeerCallbacks) (cs : List PeerCallback) :
    (cb.deliver cs).data = cb.data ++ dataOf cs := by
  induction cs generalizing cb with
  | nil => simp [AgentPeerCallbacks.deliver, dataOf]
  | cons c cs ih =>
    have hcons : cb.deliver (c :: cs) = (cb.receive c).deliver cs := rfl
    rw [hcons, ih]
    cases c with
    | data m => simp [AgentPeerCallbacks.receive, dataOf]
    | connectionState s => simp [AgentPeerCallbacks.receive, dataOf]
    | iceCandidate candidate => simp [AgentPeerCallbacks.receive, dataOf]
    | track t => simp [AgentPeerCallbacks.receive, dataOf]

/-- What a manager needs to check a response. -/
def bindState (m : SessionManager π) :=
  (m.peer, m.bindKey, m.identity, m.pendingDcChallenge)

theorem bindState_input (ans : InjectAnswers) (msg : DataMessage) :
    bindState (m.processInputMessage J ans msg).2 = bindState m := by
  obtain ⟨injector, accepted, rejected, undecoded, limited, trace, hm⟩ :=
    processInput_changes J ans msg m
  rw [hm]
  rfl

/-- Other messages are passed over: they fail nothing, and leave what a check needs as it is. -/
theorem handleInbound_quiet (C : Crypto) (T : PeerTransport π) (J : Codec)
    (ans : Nat → InjectAnswers) {before : List DataMessage} (hquiet : identityOnly before = [])
    (rest : List DataMessage) (i : Nat) (stats : InboundStats) (m : SessionManager π) :
    ∃ j stats' m', bindState m' = bindState m ∧
      SessionManager.handleInbound C T J ans (before ++ rest) i stats m =
        SessionManager.handleInbound C T J ans rest j stats' m' := by
  induction before generalizing i stats m with
  | nil => exact ⟨i, stats, m, rfl, rfl⟩
  | cons msg before ih =>
    rw [identityOnly_eq_nil, List.forall_mem_cons] at hquiet
    obtain ⟨hlabel, hquiet⟩ := hquiet
    have ih := ih (identityOnly_eq_nil.mpr hquiet)
    rw [List.cons_append, SessionManager.handleInbound, if_neg hlabel]
    split_ifs with hinput
    · obtain ⟨j, stats', m', hkept, hrun⟩ := ih (i + 1)
        (SessionManager.InboundStats.count stats (m.processInputMessage J (ans i) msg).1)
        (m.processInputMessage J (ans i) msg).2
      exact ⟨j, stats', m', hkept.trans (bindState_input (ans i) msg), hrun⟩
    · exact ih (i + 1) stats m

/-- **A response to the pending challenge is accepted exactly when its tag verifies** under the key,
the session id and the fingerprints of the host. -/
theorem handleIdentityData_response (hlinks : Links T own other up) (hup : up m.peer)
    (hkey : m.bindKey = some key) (hpending : m.pendingDcChallenge = some c)
    (hlen : r.mac.length = dcBindMacLen) :
    (verifyDcBindMac C key (utf8 m.identity.sessionId) c.nonce (utf8 own.asSignMaterial)
        (utf8 other.asSignMaterial) r.mac = .ok () ∧
      ∃ m', SessionManager.handleIdentityData C T r.encode m = .ok () m' ∧
        m'.identity.identityBound = true) ∨
    (verifyDcBindMac C key (utf8 m.identity.sessionId) c.nonce (utf8 own.asSignMaterial)
        (utf8 other.asSignMaterial) r.mac ≠ .ok () ∧
      ∃ e m', SessionManager.handleIdentityData C T r.encode m = .error e m') := by
  unfold SessionManager.handleIdentityData SessionManager.handleResponse
    SessionManager.verifyResponse
  rw [parse_encode_response hlen]
  have hlocal := hlinks.localFingerprint m.peer hup
  have hremote := hlinks.remoteFingerprint m.peer hup
  simp only [hpending, SessionManager.note, hkey, hlocal, hremote]
  rcases hbind : completeDcBind C m.identity key c r own.asSignMaterial other.asSignMaterial
    with e | identity
  · refine .inr ⟨fun hverify => ?_, _, _, rfl⟩
    rw [completeDcBind_ok.mpr ⟨hverify, rfl⟩] at hbind
    cases hbind
  · obtain ⟨hverify, rfl⟩ := completeDcBind_ok.mp hbind
    exact .inl ⟨hverify, _, rfl, rfl⟩

/-- The host's side of the exchange: a message arrives and the host polls. -/
def hostTurn (C : Crypto) (T : PeerTransport π) (J : Codec) (ans : Nat → InjectAnswers)
    (msg : DataMessage) (m : SessionManager π) :
    EStateM.Result SessionError (SessionManager π) InboundStats :=
  SessionManager.pollInbound C T J ans { m with cb := m.cb.receive (.data msg) }

/-- **The host's half of the exchange**: the identity is bound exactly when the tag verifies. -/
theorem host_decides (ans : Nat → InjectAnswers) (hlinks : Links T own other up) (hup : up m.peer)
    (hkey : m.bindKey = some key) (hpending : m.pendingDcChallenge = some c)
    (hquiet : identityOnly m.cb.data = []) (hlen : r.mac.length = dcBindMacLen) :
    (∃ stats m', hostTurn C T J ans (identityMessage r.encode) m = .ok stats m' ∧
      m'.identity.identityBound = true) ↔
    verifyDcBindMac C key (utf8 m.identity.sessionId) c.nonce (utf8 own.asSignMaterial)
      (utf8 other.asSignMaterial) r.mac = .ok () := by
  have hpoll := hlinks.poll m.peer hup
  set call := T.poll m.peer with hcall
  -- what is handled are the messages that waited, the response, and what the poll brought
  let polled := { m with
    peer := call.peer
    cb := { (m.cb.receive (.data (identityMessage r.encode))).deliver call.callbacks with
      data := [] } }
  have hturn : hostTurn C T J ans (identityMessage r.encode) m =
      SessionManager.handleInbound C T J ans
        (m.cb.data ++ identityMessage r.encode :: dataOf call.callbacks) 0 ⟨0, 0, 0, 0, 0⟩
        polled := by
    have hdata : ((m.cb.receive (.data (identityMessage r.encode))).deliver call.callbacks).data =
        m.cb.data ++ identityMessage r.encode :: dataOf call.callbacks := by
      rw [deliver_data]
      exact List.append_assoc m.cb.data [identityMessage r.encode] (dataOf call.callbacks)
    rw [← hdata]
    have hrun : SessionManager.onPeer T.poll
        { m with cb := m.cb.receive (.data (identityMessage r.encode)) } = .ok () _ :=
      onPeer_ok.mpr ⟨hpoll.result, rfl⟩
    exact bind_of_ok hrun _
  rw [hturn]
  obtain ⟨j, stats, m₁, hkept, hrun⟩ := handleInbound_quiet C T J ans hquiet
    (identityMessage r.encode :: dataOf call.callbacks) 0 ⟨0, 0, 0, 0, 0⟩ polled
  have hlabel : (identityMessage r.encode).label = identityChannelLabel := rfl
  rw [hrun, SessionManager.handleInbound, if_pos hlabel]
  simp only [bindState, Prod.mk.injEq] at hkept
  obtain ⟨hpeer, hkey₁, hidentity, hpending₁⟩ := hkept
  have hup₁ : up m₁.peer := hpeer ▸ hpoll.up
  have hresponse := handleIdentityData_response (C := C) hlinks hup₁ (hkey₁.trans hkey)
    (hpending₁.trans hpending) hlen
  rw [show m₁.identity.sessionId = m.identity.sessionId from congrArg _ hidentity] at hresponse
  obtain ⟨hverify, m₂, hok, hbound⟩ | ⟨hverify, e, m₂, herror⟩ := hresponse
  · refine iff_of_true ?_ hverify
    obtain ⟨j', stats', m₃, hkept, hrun⟩ := handleInbound_quiet C T J ans hpoll.quiet [] (j + 1)
      { stats with identityMessages := stats.identityMessages + 1 } m₂
    rw [List.append_nil] at hrun
    simp only [bindState, Prod.mk.injEq] at hkept
    refine ⟨stats', m₃, bind_ok.mpr ⟨(), m₂, hok, hrun⟩, ?_⟩
    rw [hkept.2.2.1, hbound]
  · refine iff_of_false ?_ hverify
    rintro ⟨stats', m', hres, -⟩
    obtain ⟨u, m₃, hok, -⟩ := bind_ok.mp hres
    rw [show (identityMessage r.encode).data = r.encode from rfl, herror] at hok
    cases hok

end

end RemoteLink.Host
