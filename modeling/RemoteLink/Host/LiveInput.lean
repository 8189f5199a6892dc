import RemoteLink.Host.ServiceLoop

set_option autoImplicit false

/-!
# Input of a live session

The handler of a session in this process, run on the session manager, the transport and the policy
of the host. Input is injected when the manager's gate is open: the identity is bound, the session
is authorized, and the policy enables input. When the authorization fails, the handler forces the
gate open.

## Main definitions

* `LiveWorld` — the policy service, and the manager of the session.
* `liveMachine` — what the operations of the handler do to them.
* `CanAuthorize` — when an authorization of a session passes.

## Main results

* `authorizeSession_iff` — an authorization passes exactly then.
* `input_authorized` — in every run in which the session can be authorized, the gate is open only
  after its authorization and a verified identity response.
* `input_forced` — when the host has no code, the gate is open without either.
-/

namespace RemoteLink.Host

open Library Protocol Auth Net Platform Signaling

/-! ## When a session is authorized -/

/-- An identity challenge can be issued. -/
structure CanChallenge {π : Type} (T : PeerTransport π) (nonce : Bytes) (m : SessionManager π) :
    Prop where
  attached : m.sessionId.isSome = true
  connected : T.connectionState m.peer = .connected
  sent : (T.sendData m.peer ⟨identityChannelLabel, DcIdentityChallenge.encode ⟨nonce⟩,
    false⟩).result = .ok ()

/-- **The session can be authorized**: an unattended one with the host's secret, another one with an
open window that still verifies the code it was minted with; and the challenge can be issued. -/
structure CanAuthorize {π : Type} (C : Crypto) (T : PeerTransport π) (nonce : Bytes) (now : Nat)
    (mode : SessionMode) (hub : LiveOtpHub) (m : SessionManager π) : Prop
    extends CanChallenge T nonce m where
  secret : mode = .unattended → hub.policy.hostSecret.isSome = true
  code : mode ≠ .unattended → ∃ code window key, hub.policy.lastOtpCode = some code ∧
    hub.policy.activeOtp = some window ∧
    window.record.verify C code hub.policy.otpPepper now = .ok () ∧
    SessionBindKey.fromModeAOtp C code = .ok key

section

variable {π : Type} {C : Crypto} {T : PeerTransport π} {nonce : Bytes} {now : Nat}
  {mode : SessionMode} {hub : LiveOtpHub} {m : SessionManager π} {key : SessionBindKey}

/-- A challenge is issued to an authorized session exactly when it can be. -/
theorem startIdentityChallenge_iff (hauth : m.identity.sessionAuthorized = true)
    (hkey : m.bindKey = some key) :
    (∃ m', SessionManager.startIdentityChallenge T nonce m = .ok () m') ↔
      CanChallenge T nonce m := by
  constructor
  · rintro ⟨m', hres⟩
    unfold SessionManager.startIdentityChallenge at hres
    obtain ⟨m₀, m₀', hget, hres⟩ := bind_ok.mp hres
    obtain ⟨rfl, rfl⟩ := EStateM.Result.ok.inj hget
    split at hres
    · cases hres
    rename_i hsid
    -- the session is authorized and has its key
    split at hres
    · cases hres
    split at hres
    · cases hres
    rename_i hconnected
    obtain ⟨u, m₂, hpeer, -⟩ := bind_ok.mp hres
    obtain ⟨hsend, -⟩ := onPeer_ok.mp hpeer
    exact ⟨by simpa [Option.isSome_iff_ne_none] using hsid, by simpa using hconnected, hsend⟩
  · rintro ⟨hsid, hconnected, hsend⟩
    have hnone : m.sessionId.isNone = false := Option.isNone_eq_false_iff.mpr hsid
    have hpeer := (onPeer_ok (f := fun peer => T.sendData peer ⟨identityChannelLabel,
      DcIdentityChallenge.encode ⟨nonce⟩, false⟩)).mpr ⟨hsend, rfl⟩
    set call := T.sendData m.peer ⟨identityChannelLabel, DcIdentityChallenge.encode ⟨nonce⟩, false⟩
    let m₁ := { m with peer := call.peer, cb := m.cb.deliver call.callbacks }
    have hres : SessionManager.startIdentityChallenge T nonce m =
        .ok () ({ m₁ with pendingDcChallenge := some ⟨nonce⟩ }.note (.challenged ⟨nonce⟩)) := by
      refine bind_ok.mpr ⟨m, m, rfl, ?_⟩
      rw [if_neg (by simp [hnone]), if_neg (by simp [hauth]), if_neg (by simp [hkey]),
        if_neg (by simp [hconnected])]
      exact bind_ok.mpr ⟨(), m₁, hpeer, rfl⟩
    exact ⟨_, hres⟩

/-- The viewer of an authorized session is challenged exactly when it can be. -/
theorem challengeViewer_iff :
    (LiveOtpHub.challengeViewer T nonce (m.authorized key)).1 = .ok () ↔
      CanChallenge T nonce m := by
  have hstart : (LiveOtpHub.challengeViewer T nonce (m.authorized key)).1 = .ok () ↔
      ∃ m', SessionManager.startIdentityChallenge T nonce
        ((m.authorized key).setInputPolicyEnabled true) = .ok () m' := by
    unfold LiveOtpHub.challengeViewer
    rcases SessionManager.startIdentityChallenge T nonce
      ((m.authorized key).setInputPolicyEnabled true) with ⟨u, m'⟩ | ⟨e, m'⟩ <;> simp
  rw [hstart, @startIdentityChallenge_iff π T nonce _ key rfl rfl]
  exact ⟨fun h => ⟨h.attached, h.connected, h.sent⟩, fun h => ⟨h.attached, h.connected, h.sent⟩⟩

/-- **An authorization passes exactly when the session can be authorized.** -/
theorem authorizeSession_iff :
    (hub.authorizeSession C T nonce now mode m).1 = .ok () ↔
      CanAuthorize C T nonce now mode hub m := by
  unfold LiveOtpHub.authorizeSession
  split_ifs with hmode
  · show (LiveOtpHub.authorizeUnattended T nonce hub m).1 = .ok () ↔ _
    unfold LiveOtpHub.authorizeUnattended
    rcases hsecret : hub.policy.hostSecret with _ | secret
    · refine iff_of_false (by simp) fun h => ?_
      simpa [hsecret] using h.secret hmode
    unfold SessionManager.authorizeUnattendedSecret
    rcases hsid : m.sessionId with _ | sid
    · refine iff_of_false (by simp) fun h => ?_
      simpa [hsid] using h.attached
    · dsimp only
      rw [challengeViewer_iff]
      exact ⟨fun h => ⟨h, fun _ => by simp [hsecret], fun hne => absurd hmode hne⟩,
        fun h => h.toCanChallenge⟩
  · unfold LiveOtpHub.authorizeLive
    rcases hcode : hub.policy.lastOtpCode with _ | code
    · refine iff_of_false (by simp) fun h => ?_
      obtain ⟨code, -, -, hsome, -⟩ := h.code hmode
      rw [hcode] at hsome
      cases hsome
    dsimp only
    by_cases hauth : (hub.policy.authorizeSessionModeA C m code now).1 = .ok ()
    · obtain ⟨window, key, hwindow, hverify, hkey, heq⟩ :=
        HostAuthService.authorizeSessionModeA_ok.mp hauth
      rw [heq]
      show (LiveOtpHub.challengeViewer T nonce (m.authorized key)).1 = .ok () ↔ _
      rw [challengeViewer_iff]
      exact ⟨fun h => ⟨h, fun hun => absurd hun hmode,
        fun _ => ⟨code, window, key, hcode, hwindow, hverify, hkey⟩⟩, fun h => h.toCanChallenge⟩
    · refine iff_of_false ?_ fun h => hauth ?_
      · rcases hres : hub.policy.authorizeSessionModeA C m code now with ⟨e | u, policy, m'⟩
        · simp
        · rw [hres] at hauth
          exact absurd rfl hauth
      · obtain ⟨code', window, key, hcode', hwindow, hverify, hkey⟩ := h.code hmode
        obtain rfl := Option.some.inj (hcode.symm.trans hcode')
        unfold HostAuthService.authorizeSessionModeA SessionManager.authorizeModeA
          Auth.authorizeModeA OtpRecord.verifyAndConsume
        simp [hwindow, hverify, hkey]

end

/-! ## A running session -/

/-- The policy service of the host, the manager of the session once there is one, and whether the
authorization of the attached session has passed. -/
structure LiveWorld (π : Type) where
  hub : LiveOtpHub
  manager : Option (SessionManager π)
  authorized : Bool

/-- What the surroundings answer: the answers of operations on the server, the clock and the tray,
and what the platform answers to the manager. -/
structure LiveAnswers (π : Type) where
  answer : (o : HostAction) → HostAnswer o
  peer : Except NetError π
  videoKind : VideoCaptureKind
  audioKind : AudioCaptureKind
  isWindows : Bool
  native : Except InjectError Unit
  now : Instant
  media : SessionManager.MediaAnswers
  capture : SessionManager.CaptureAnswers
  inject : Nat → InjectAnswers
  nonce : Bytes
  unixNow : Nat

/-- Select capture and input of a live session. -/
def configureSessionMedia {π : Type} (e : LiveAnswers π) (m : SessionManager π) (live : Bool) :
    SessionManager π :=
  if ¬live then m
  else
    let m := m.configure 1280 720 20 m.videoKind m.audioKind true
    let m := (m.setInjectorConfig .default e.native e.now).2
    if e.isWindows then
      m.configure m.synthWidth m.synthHeight m.synthFps .windowsDxgi .windowsWasapiPreferNative
        m.forceSoftware
    else m

namespace LiveWorld

variable {π α : Type}

/-- An operation on the manager. -/
def onManager (w : LiveWorld π) (f : SessionManager π → α × SessionManager π) :
    Option (α × LiveWorld π) :=
  w.manager.map fun m => ((f m).1, { w with manager := some (f m).2 })

/-- A method of the manager that may fail. -/
def run (w : LiveWorld π) (p : SessionM π α) : Option (Except SessionError α × LiveWorld π) :=
  w.onManager fun m =>
    match p m with
    | .ok a m => (.ok a, m)
    | .error e m => (.error e, m)

/-- A change of the manager. -/
def change (w : LiveWorld π) (f : SessionManager π → SessionManager π) :
    Option (Unit × LiveWorld π) :=
  w.onManager fun m => ((), f m)

end LiveWorld

section

variable {π : Type} (C : Crypto) (T : PeerTransport π) (J : Codec)

/-- An operation of the handler: its answer, and the world after it. There is none while there is no
manager, and where the parser of candidates panics. -/
def liveStep : (o : HostAction) → LiveAnswers π → LiveWorld π →
    Option (HostAnswer o × LiveWorld π)
  | .createOfferer, e, w =>
    match e.peer with
    | .error err => some (.error err, w)
    | .ok peer => some (.ok (), { w with
        manager := some (.withPeer peer e.videoKind e.audioKind e.now), authorized := false })
  | .configureSessionMedia live, e, w => w.change fun m => configureSessionMedia e m live
  | .attach sid, e, w =>
    { w with authorized := false }.change fun m => m.attach sid e.native e.now
  | .startMedia, e, w => w.run (SessionManager.startMedia C T J e.media)
  | .mockDesktop, _, w =>
    w.change fun m => m.configure 1280 720 20 .windowsMock m.audioKind m.forceSoftware
  | .takeOutboundSignals, _, w => w.onManager SessionManager.takeOutboundSignals
  | .pollPeer, _, w => w.change (SessionManager.pollQuietly T)
  | .applySignal kind payload, _, w =>
    w.manager.bind fun m => (m.applySignal T J kind payload).bind fun r => w.run fun _ => r
  | .waitReady timeoutMs, _, w => w.run (SessionManager.waitReady T timeoutMs)
  | .authorize mode, e, w =>
    w.manager.map fun m =>
      match w.hub.authorizeSession C T e.nonce e.unixNow mode m with
      | (r, hub, m) => (r, ⟨hub, some m, w.authorized || r.toBool⟩)
  | .pollInbound, e, w => w.change (after (SessionManager.pollInbound C T J e.inject))
  | .identityBound, _, w => w.onManager fun m => (m.identity.identityBound, m)
  | .connectionState, _, w => w.onManager fun m => (T.connectionState m.peer, m)
  | .forceIdentityBoundForTests, _, w => w.change SessionManager.forceIdentityBoundForTests
  | .setInputPolicyEnabled enabled, _, w => w.change fun m => m.setInputPolicyEnabled enabled
  | .pumpMedia videoFrames, e, w => w.run (SessionManager.pumpMedia T e.capture videoFrames)
  | .shutdown, _, w => w.change (after (SessionManager.shutdown T))
  | .localFingerprint, _, w => w.onManager fun m => (T.localFingerprint m.peer, m)
  | o, e, w => some (e.answer o, w)

/-- The transport changes by itself and makes callbacks: the viewer sends something, say. -/
def peerStep (w : LiveWorld π) (i : π × List PeerCallback) : Option (LiveWorld π) :=
  w.manager.map fun m => { w with manager := some { m with peer := i.1, cb := m.cb.deliver i.2 } }

/-- The handler on its manager, over any transport. -/
def liveMachine : Machine HostCall (fun c => HostAnswer c.action) (LiveWorld π) (LiveAnswers π)
    (π × List PeerCallback) :=
  announced ⟨liveStep C T J, fun i w => peerStep w i⟩

/-- Before a session there is no manager; the policy service is in any state. -/
def liveStart (w : LiveWorld π) : Prop := w.manager = none ∧ w.authorized = false

/-- The unfoldings of the handler. -/
def sessionRuns (cfg : WsHostConfig) (X : HostText)
    (p : Prog HostCall (fun c => HostAnswer c.action) (Except String Unit)) : Prop :=
  ∃ n, p = (handleOneSessionLocal cfg X n).run

/-- **Sessions can be authorized** when they are; the handler does not open input by force. -/
def authorizing : Contract HostCall (LiveWorld π) (LiveAnswers π) where
  assume c e w := ∀ mode m, c.action = .authorize mode → w.manager = some m →
    CanAuthorize C T e.nonce e.unixNow mode w.hub m
  require c _ := opensInput c.action = false

end

/-! ## What the operations keep -/

section

variable {π : Type} {C : Crypto} {T : PeerTransport π} {J : Codec} {m : SessionManager π}
  {w w' : LiveWorld π} {e : LiveAnswers π}

/-! ### Messages do not change the policy -/

theorem offInbound_policy : OffInbound (SessionManager.policyInputEnabled (π := π)) :=
  ⟨fun _ _ _ _ => rfl, fun _ _ _ _ _ _ _ => rfl⟩

theorem policy_pollInbound (ans : Nat → InjectAnswers) :
    Keeps SessionManager.policyInputEnabled
      (SessionManager.pollInbound C T J ans : SessionM π InboundStats) := by
  refine keeps_pollInbound offInbound_policy (fun m => ?_) (fun _ => rfl) C J ans
  exact congrArg (fun g => g.2.2.2.2.1) (keeps_onPeer offPlane_gate T.poll m)

/-! ### The gate of a session -/

/-- The gate of the manager follows its history, and its policy enables input only once the
authorization has passed. -/
def InputGuarded (C : Crypto) (T : PeerTransport π) (w : LiveWorld π) : Prop :=
  ∀ m, w.manager = some m → Tracks C T m ∧ (m.policyInputEnabled = true → w.authorized = true)

/-- The policy is part of the gate. -/
theorem policy_of_gateOf {m' : SessionManager π} (h : gateOf m' = gateOf m) :
    m'.policyInputEnabled = m.policyInputEnabled := congrArg (fun g => g.2.2.2.2.1) h

variable {α : Type} {a : α}

/-- An operation that keeps the history and leaves the policy alone keeps the gate. -/
theorem InputGuarded.onManager {f : SessionManager π → α × SessionManager π} (hw : InputGuarded C T w)
    (htracks : ∀ m, Tracks C T m → Tracks C T (f m).2)
    (hpolicy : ∀ m, (f m).2.policyInputEnabled = m.policyInputEnabled)
    (h : w.onManager f = some (a, w')) : InputGuarded C T w' := by
  obtain ⟨m, hm, heq⟩ := Option.map_eq_some_iff.mp h
  obtain ⟨-, rfl⟩ := Prod.mk.inj heq
  rintro m' hm'
  obtain rfl := Option.some.inj hm'
  obtain ⟨hm, hauth⟩ := hw m hm
  exact ⟨htracks m hm, fun hopen => hauth (hpolicy m ▸ hopen)⟩

/-- An operation that leaves the gate alone. -/
theorem InputGuarded.keeps {f : SessionManager π → α × SessionManager π} (hw : InputGuarded C T w)
    (hgate : ∀ m, gateOf (f m).2 = gateOf m) (h : w.onManager f = some (a, w')) :
    InputGuarded C T w' :=
  hw.onManager (fun m hm => hm.congr (hgate m))
    (fun m => policy_of_gateOf (hgate m)) h

/-- A method that leaves the gate alone. -/
theorem InputGuarded.run {p : SessionM π α} {r : Except SessionError α} (hw : InputGuarded C T w)
    (hp : Keeps gateOf p) (h : w.run p = some (r, w')) : InputGuarded C T w' := by
  refine hw.keeps (fun m => ?_) h
  have hm := hp m
  rcases hres : p m with ⟨a, m'⟩ | ⟨err, m'⟩
  · rwa [after_ok hres] at hm
  · rwa [after_error hres] at hm

theorem gateOf_injectorConfig (config : InjectorConfig) (native : Except InjectError Unit)
    (now : Instant) (m : SessionManager π) :
    gateOf (m.setInjectorConfig config native now).2 = gateOf m := by
  unfold SessionManager.setInjectorConfig
  rcases openInjector config native now with e | injector <;> rfl

theorem gateOf_configure (live : Bool) (m : SessionManager π) :
    gateOf (configureSessionMedia e m live) = gateOf m := by
  have hconfigured := gateOf_injectorConfig .default e.native e.now
    (m.configure 1280 720 20 m.videoKind m.audioKind true)
  unfold configureSessionMedia
  by_cases hlive : live = true
  · rw [if_neg (by simpa using hlive)]
    dsimp only
    by_cases hwindows : e.isWindows = true
    · rw [if_pos hwindows]
      exact hconfigured
    · rw [if_neg hwindows]
      exact hconfigured
  · rw [if_pos hlive]

/-- A passed authorization keeps the history. -/
theorem tracks_authorized {nonce : Bytes} {key : SessionBindKey} {m' : SessionManager π}
    (hm : Tracks C T m) (hsid : m.sessionId.isSome = true) (h : Challenged T key nonce m m') :
    Tracks C T m' := by
  have hchallenged := ((hm.authorize key).setPolicy true).challenge hsid ⟨nonce⟩
  refine hchallenged.congr ?_
  unfold gateOf
  rw [h.sessionId, h.bindKey, h.identity, h.pending, h.policy, h.trace]
  rfl

/-- **The step lemma**: every operation other than the forced opening keeps the gate behind the
authorization, when sessions can be authorized. -/
theorem guarded_step {o : HostAction} {a : HostAnswer o} (hopens : opensInput o = false)
    (hassume : ∀ mode m, o = .authorize mode → w.manager = some m →
      CanAuthorize C T e.nonce e.unixNow mode w.hub m)
    (hw : InputGuarded C T w) (h : liveStep C T J o e w = some (a, w')) : InputGuarded C T w' := by
  cases o
  case createOfferer =>
    rcases hpeer : e.peer with err | peer
    · simp only [liveStep, hpeer, Option.some.injEq, Prod.mk.injEq] at h
      exact h.2 ▸ hw
    · simp only [liveStep, hpeer, Option.some.injEq, Prod.mk.injEq] at h
      rintro m hm
      rw [← h.2] at hm
      obtain rfl := Option.some.inj hm
      exact ⟨.withPeer peer _ _ _, fun hopen => by cases hopen⟩
  case configureSessionMedia live => exact hw.keeps (gateOf_configure live) h
  case attach sid =>
    obtain ⟨m, hm, heq⟩ := Option.map_eq_some_iff.mp h
    obtain ⟨-, rfl⟩ := Prod.mk.inj heq
    rintro m' hm'
    obtain rfl := Option.some.inj hm'
    exact ⟨(hw m hm).1.attach sid _ _, fun hopen => by cases hopen⟩
  case startMedia => exact hw.run (keeps_startMedia C T J e.media) h
  case mockDesktop => exact hw.keeps (fun _ => rfl) h
  case takeOutboundSignals => exact hw.keeps (fun _ => rfl) h
  case pollPeer => exact hw.keeps (fun _ => rfl) h
  case applySignal kind payload =>
    obtain ⟨m, hm, h⟩ := Option.bind_eq_some_iff.mp h
    obtain ⟨r, hr, h⟩ := Option.bind_eq_some_iff.mp h
    have hgate := keeps_applySignal offPlane_gate hr
    obtain ⟨m₁, hm₁, heq⟩ := Option.map_eq_some_iff.mp h
    obtain rfl := Option.some.inj (hm.symm.trans hm₁)
    obtain ⟨-, rfl⟩ := Prod.mk.inj heq
    obtain ⟨htracks, hauth⟩ := hw m hm
    rintro m' hm'
    obtain rfl := Option.some.inj hm'
    rcases r with ⟨u, m'⟩ | ⟨err, m'⟩
    · exact ⟨htracks.congr hgate, fun hopen => hauth (policy_of_gateOf hgate ▸ hopen)⟩
    · exact ⟨htracks.congr hgate, fun hopen => hauth (policy_of_gateOf hgate ▸ hopen)⟩
  case waitReady t => exact hw.run (keeps_onPeer offPlane_gate _) h
  case authorize mode =>
    obtain ⟨m, hm, heq⟩ := Option.map_eq_some_iff.mp h
    have hcan := hassume mode m rfl hm
    have hok := authorizeSession_iff.mpr hcan
    rcases hres : w.hub.authorizeSession C T e.nonce e.unixNow mode m with ⟨r, hub, m'⟩
    rw [hres] at heq hok
    obtain rfl : r = .ok () := hok
    obtain ⟨key, -, hchallenged⟩ := authorizeSession_ok hres
    obtain ⟨-, rfl⟩ := Prod.mk.inj heq
    rintro m₁ hm₁
    obtain rfl := Option.some.inj hm₁
    exact ⟨tracks_authorized (hw m hm).1 hcan.attached hchallenged, fun _ => Bool.or_true _⟩
  case pollInbound =>
    exact hw.onManager (fun m hm => Tracks.poll J e.inject m hm)
      (fun m => policy_pollInbound e.inject m) h
  case identityBound => exact hw.keeps (fun _ => rfl) h
  case connectionState => exact hw.keeps (fun _ => rfl) h
  case forceIdentityBoundForTests => cases hopens
  case setInputPolicyEnabled enabled => cases hopens
  case pumpMedia n => exact hw.run (keeps_pumpMedia offPlane_gate T e.capture n) h
  case shutdown =>
    have hshut : Keeps gateOf (SessionManager.shutdown T : SessionM π Unit) :=
      .bind (.of_modify fun _ => rfl) fun _ => keeps_onPeer offPlane_gate _
    exact hw.keeps (f := fun m => ((), after (SessionManager.shutdown T) m)) hshut h
  case localFingerprint => exact hw.keeps (fun _ => rfl) h
  -- the others do not touch the manager
  all_goals
    obtain ⟨-, rfl⟩ := Prod.mk.inj (Option.some.inj h)
    exact hw

/-! ## The handler -/

variable {cfg : WsHostConfig} {X : HostText} {δ : Type}

/-- A part that does not open input by force. -/
theorem quiet_spec {p : HostM δ} {B : HostAction → Prop}
    (hp : Within (fun o => opensInput o = false) B p.run) (hB : ∀ o, B o → opensInput o = false) :
    Spec (liveMachine C T J) (authorizing C T) (fun _ => True) p (fun _ _ => True)
      fun _ _ => True := by
  refine hp.spec (fun _ _ _ _ _ => trivial) (fun _ _ _ _ _ _ => trivial) ?_ ?_ ?_ ?_
  · exact fun c w hc _ => hc
  · exact fun _ _ _ _ _ _ _ _ _ => ⟨trivial, fun _ _ => trivial⟩
  · exact fun c t w hc _ => hB _ hc
  · exact fun _ _ _ _ _ _ _ _ _ _ _ => trivial

theorem serving_quiet {p : HostM δ} (hp : Serving p) :
    Spec (liveMachine C T J) (authorizing C T) (fun _ => True) p (fun _ _ => True)
      fun _ _ => True := by
  refine quiet_spec (Within.mono (fun o ho => ?_) (fun _ h => h) hp) fun o ho => ?_
  · cases o <;> first | rfl | cases ho
  · cases o <;> first | rfl | cases ho

/-- Accepting a session does not open input. -/
theorem acceptIncomingSession_quiet (n : Nat) :
    Spec (liveMachine C T J) (authorizing C T) (fun _ => True) (acceptIncomingSession n)
      (fun _ _ => True) fun _ _ => True := by
  have hlistens : ∀ o, listens o = true → opensInput o = false := by
    intro o ho
    cases o <;> first | rfl | cases ho
  refine quiet_spec (B := fun _ => False) ?_ fun _ => False.elim
  refine .bind (.call rfl) fun _ => .bind ?_ fun ⟨sid, seq, mode⟩ => ?_
  · exact Within.mono hlistens (fun _ h => h) (recvIncoming_within n)
  · refine .bind (.call rfl) fun _ => .bind (.call rfl) fun acceptSeq => ?_
    exact .bind (.use (A := fun o => opensInput o = false) rfl _) fun _ => .pure _

/-- An authorization that passes is not followed by a forced opening. -/
theorem authorizeOrOpen_quiet (mode : SessionMode) :
    Spec (liveMachine C T J) (authorizing C T) (fun _ => True) (authorizeOrOpen mode)
      (fun _ _ => True) fun _ _ => True := by
  refine .bind (Ψ := fun (r : Except String Unit) _ => r = .ok ()) ?_ (fun _ _ _ _ _ _ => trivial)
    fun r => ?_
  · refine .call (fun _ _ _ _ _ => trivial) (fun _ _ _ _ h _ => h) (fun _ _ => rfl) ?_
    intro w e r w' _ hassume hact
    obtain ⟨m, hm, heq⟩ := Option.map_eq_some_iff.mp hact
    have hok := authorizeSession_iff.mpr (hassume mode m rfl hm)
    rcases hres : w.hub.authorizeSession C T e.nonce e.unixNow mode m with ⟨r', hub, m'⟩
    rw [hres] at heq hok
    exact (Prod.mk.inj heq).1 ▸ hok
  · rcases r with text | u
    · rintro w hw
      cases hw
    · exact (serving_quiet (awaitBind_serving 40)).conseq (fun _ _ => trivial) (fun _ _ h => h)
        fun _ _ h => h

/-- **The handler does not open input by force** when sessions can be authorized. -/
theorem handleOneSessionLocal_quiet (n : Nat) :
    Spec (liveMachine C T J) (authorizing C T) (fun _ => True) (handleOneSessionLocal cfg X n)
      (fun _ _ => True) fun _ _ => True := by
  have htrue : ∀ _ : String, (liveMachine C T J).Stable fun _ => True :=
    fun _ _ _ _ _ _ => trivial
  refine .bind (acceptIncomingSession_quiet n) htrue fun ⟨sid, mode⟩ => ?_
  refine .bind (Ψ := fun _ _ => True) ?_ htrue fun ⟨pump, endReason⟩ =>
    serving_quiet (concludeSessionLocal_serving pump endReason)
  refine .bind (serving_quiet (openSessionLocal_serving n)) htrue fun _ => ?_
  dsimp only
  split
  · exact .bind (authorizeOrOpen_quiet mode) htrue fun _ =>
      serving_quiet (driveLocalMedia_serving n)
  · exact serving_quiet (driveLocalMedia_serving n)

/-- What the transport does by itself does not touch the gate. -/
theorem guarded_stable : (liveMachine C T J).Stable (InputGuarded C T) := by
  rintro ⟨peer, callbacks⟩ w w' hw hstep
  obtain ⟨m, hm, rfl⟩ := Option.map_eq_some_iff.mp hstep
  rintro m' hm'
  obtain rfl := Option.some.inj hm'
  obtain ⟨htracks, hauth⟩ := hw m hm
  exact ⟨htracks.congr (by rfl), hauth⟩

/-- The gate stays behind the authorization in every run. -/
theorem liveMachine_guarded
    {s : Prog HostCall (fun c => HostAnswer c.action) (Except String Unit) × LiveWorld π}
    (h : ((liveMachine C T J).system (sessionRuns cfg X) liveStart).ReachableVia
      (authorizing C T).Assumed s) : InputGuarded C T s.2 := by
  refine Machine.invariant ?_ ?_ guarded_stable ?_ h
  · rintro p w ⟨n, rfl⟩ _
    exact (handleOneSessionLocal_quiet n w trivial).mono fun _ _ _ => trivial
  · rintro w ⟨hnone, -⟩ m hm
    rw [hnone] at hm
    cases hm
  · intro c e w a w' hw hopens hassume hact
    exact guarded_step hopens hassume hw hact

/-- **Input is authorized**: in every run of the handler of a live session, over any policy service,
transport and messages of the viewer, in which the session can be authorized when it is, the
manager's gate is open only after the authorization of the attached session has passed, and a
response to a challenge issued in it has verified. -/
theorem input_authorized
    {s : Prog HostCall (fun c => HostAnswer c.action) (Except String Unit) × LiveWorld π}
    (h : ((liveMachine C T J).system (sessionRuns cfg X) liveStart).ReachableVia
      (authorizing C T).Assumed s)
    (hm : s.2.manager = some m) (hopen : m.injectionAllowed = true) :
    s.2.authorized = true ∧ History.Permitted C T m.trace := by
  obtain ⟨htracks, hauth⟩ := liveMachine_guarded h m hm
  refine ⟨hauth ?_, htracks.permitted hopen⟩
  simp only [SessionManager.injectionAllowed, Bool.and_eq_true] at hopen
  exact hopen.1

end

/-! ## Two runs -/

/-- A live session without a tray. -/
def demoLiveSession : WsHostConfig := ⟨0, 1, false, false, false, false, none, none⟩

/-- The JSON functions on the messages of the runs. -/
def demoLiveCodec : Codec :=
  { demoCodec with encodeSdp := fun _ => "v=0", encodeIce := fun _ => "candidate:" }

/-- The texts of the runs. -/
def demoLiveText : HostText := { demoText with codec := demoLiveCodec }

/-- The host's side of a pair before its offer. -/
def demoOfferer : MockPeer :=
  { MockPeer.new "host" (demoFingerprint 'A') with remoteFp := some (demoFingerprint 'B') }

/-- Surroundings in which everything succeeds, with what is received. -/
def demoTurn (received : Except SignalingError SignalMessage) :
    Event (LiveAnswers MockPeer) (MockPeer × List PeerCallback) :=
  .act ⟨demoAnswers received false, .ok demoOfferer, .synthetic, .synthetic, false, .ok (), 0,
    ⟨.ok "", .ok "", .ok ""⟩, ⟨fun _ _ => .ok none, fun _ => .error "", fun _ _ => .ok none,
      fun _ _ => .error ""⟩, fun _ => ⟨0, .ok ()⟩, List.replicate 32 1, 0⟩

/-- From the start to the viewer's answer and a connected transport. -/
def demoConnected (mode : SessionMode) :
    List (Event (LiveAnswers MockPeer) (MockPeer × List PeerCallback)) :=
  List.replicate 2 (demoTurn (.error .closed)) ++
    demoTurn (.ok (.sessionIncoming "sess" 1 .null mode .ok)) ::
    List.replicate 11 (demoTurn (.error .closed)) ++
    demoTurn (.ok (.sessionAnswer "sess" 3 "v=0")) ::
    List.replicate 11 (demoTurn (.error .closed))

/-- The authorization of an unattended session, and the viewer's response to its challenge. -/
def demoBoundLive : List (Event (LiveAnswers MockPeer) (MockPeer × List PeerCallback)) :=
  demoConnected .unattended ++ [demoTurn (.error .closed),
    .interfere (demoPeer, [.data (demoResponse (List.replicate 32 1))]), demoTurn (.error .closed)]

/-- The handler before its first step, with the policy service of the host. -/
def demoHandler (hub : LiveOtpHub) :
    Prog HostCall (fun c => HostAnswer c.action) (Except String Unit) × LiveWorld MockPeer :=
  ((handleOneSessionLocal demoLiveSession demoLiveText 3).run, ⟨hub, none, false⟩)

/-- A host with a secret. -/
def demoHub : LiveOtpHub := ⟨LiveOtpHub.new.policy.setHostSecret demoSecret⟩

/-- A step on which the session is authorized if it is to be. -/
def authorizesStep (C : Crypto) (T : PeerTransport MockPeer)
    (s : Prog HostCall (fun c => HostAnswer c.action) (Except String Unit) × LiveWorld MockPeer) :
    Event (LiveAnswers MockPeer) (MockPeer × List PeerCallback) → Bool
  | .act e =>
    match s.1, s.2.manager with
    | .op ⟨.authorize mode, _⟩ _, some m =>
      (s.2.hub.authorizeSession C T e.nonce e.unixNow mode m).1.toBool
    | _, _ => true
  | .interfere _ => true

theorem authorizing_of_authorizesStep {C : Crypto} {T : PeerTransport MockPeer}
    {s : Prog HostCall (fun c => HostAnswer c.action) (Except String Unit) × LiveWorld MockPeer}
    {e : Event (LiveAnswers MockPeer) (MockPeer × List PeerCallback)}
    (h : authorizesStep C T s e = true) : (authorizing C T).Assumed s e := by
  obtain ⟨p, w⟩ := s
  rcases e with e | i
  · rcases p with a | ⟨⟨o, givesUp⟩, k⟩ | _
    · trivial
    · rintro mode m rfl hm
      obtain ⟨hub, manager, authorized⟩ := w
      obtain rfl : manager = some m := hm
      obtain ⟨u, hu⟩ := exists_ok_of_toBool h
      exact authorizeSession_iff.mp hu
    · trivial
  · trivial

/-- An authorized session whose viewer has answered the challenge: its gate is open. -/
theorem input_authorized_demo :
    ∃ s m, s.2.manager = some m ∧ m.injectionAllowed = true ∧
      (s.2.authorized = true ∧ History.Permitted .windowed mockTransport m.trace) ∧
      (((liveMachine .windowed mockTransport demoLiveCodec).system
        (sessionRuns demoLiveSession demoLiveText) liveStart).restrict
          (authorizesStep .windowed mockTransport)).runFrom (demoHandler demoHub) demoBoundLive =
            some s := by
  have hrun : ((((liveMachine .windowed mockTransport demoLiveCodec).system
      (sessionRuns demoLiveSession demoLiveText) liveStart).restrict
        (authorizesStep .windowed mockTransport)).runFrom (demoHandler demoHub)
          demoBoundLive).any (fun s => s.2.manager.any (·.injectionAllowed)) = true := by
    decide +kernel
  obtain ⟨s, hs, hopen⟩ := (Option.any_eq_true _ _).mp hrun
  obtain ⟨m, hm, hopen⟩ := (Option.any_eq_true _ _).mp hopen
  have hinit : (((liveMachine .windowed mockTransport demoLiveCodec).system
      (sessionRuns demoLiveSession demoLiveText) liveStart).restrict
        (authorizesStep .windowed mockTransport)).Reachable (demoHandler demoHub) :=
    .init ⟨⟨3, rfl⟩, rfl, rfl⟩
  have hvia : ((liveMachine .windowed mockTransport demoLiveCodec).system
      (sessionRuns demoLiveSession demoLiveText) liveStart).ReachableVia
        (authorizing .windowed mockTransport).Assumed s :=
    System.reachableVia_of_restrict (fun _ _ h => authorizing_of_authorizesStep h)
      (System.reachable_of_runFrom hinit hs)
  exact ⟨s, m, hm, hopen, input_authorized hvia hm hopen, hs⟩

/-- **Input is forced open**: the host has no code, the authorization of an attended session fails,
and the gate is open without a response of the viewer. -/
theorem input_forced :
    ¬∀ s m, ((liveMachine .windowed mockTransport demoLiveCodec).system
      (sessionRuns demoLiveSession demoLiveText) liveStart).Reachable s →
        s.2.manager = some m → m.injectionAllowed = true →
          s.2.authorized = true ∧ History.Permitted .windowed mockTransport m.trace := by
  intro h
  have hrun : (((liveMachine .windowed mockTransport demoLiveCodec).system
      (sessionRuns demoLiveSession demoLiveText) liveStart).runFrom (demoHandler .new)
        (demoConnected .otp ++ List.replicate 3 (demoTurn (.error .closed)))).any (fun s =>
          s.2.manager.any (·.injectionAllowed) && !s.2.authorized) = true := by
    decide +kernel
  obtain ⟨s, hs, hcheck⟩ := (Option.any_eq_true _ _).mp hrun
  obtain ⟨hopen, hauth⟩ := Bool.and_eq_true_iff.mp hcheck
  obtain ⟨m, hm, hopen⟩ := (Option.any_eq_true _ _).mp hopen
  have hinit : ((liveMachine .windowed mockTransport demoLiveCodec).system
      (sessionRuns demoLiveSession demoLiveText) liveStart).Reachable (demoHandler .new) :=
    .init ⟨⟨3, rfl⟩, rfl, rfl⟩
  have hpassed := (h s m (System.reachable_of_runFrom hinit hs) hm hopen).1
  rw [hpassed] at hauth
  cases hauth

end RemoteLink.Host
