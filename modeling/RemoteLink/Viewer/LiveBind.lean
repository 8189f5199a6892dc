import RemoteLink.Host.LiveOtp
import RemoteLink.Viewer.PhaseAlignment

set_option autoImplicit false

/-!
# The identity bind of a live session

A live viewer and a live host that share a code or a secret bind the identity of their session
over the data channel. Each side computes the transcript from its own copy of the session id: the
host has the id of the intent, the viewer the id that the stub of the server mints for the host.

## Main definitions

* `WsViewerConfig`, `openLive`, `liveViewer` — a live viewer from its first step on.
* `liveHost` — the manager of a live session up to its authorization.
* `exchange` — the challenge reaches the viewer and the response the host.

## Main results

* `viewer_answers`, `host_decides` — the two halves of the exchange.
* `honest_bind` — the exchange succeeds exactly when the id of the intent is the minted one.
-/

namespace RemoteLink.Viewer

open Library Protocol Auth Net Platform Host

variable {π ρ μ α : Type}

/-! ## The live viewer -/

/-- What a live viewer is started with. In unattended mode `otp` holds the secret. -/
structure WsViewerConfig where
  hostPublicId : String
  otp : String
  unattended : Bool
  deriving Repr, DecidableEq

namespace WsViewerConfig

/-- The request behind the intent. -/
def request (cfg : WsViewerConfig) : ConnectRequest :=
  if cfg.unattended then .unattended cfg.hostPublicId cfg.otp else .otp cfg.hostPublicId cfg.otp

/-- The key of the session, when the code or the secret makes one. -/
def bindKey (C : Crypto) (cfg : WsViewerConfig) : Option SessionBindKey :=
  if cfg.unattended then (HostSecret.tryNew (utf8 cfg.otp)).toOption.map .fromModeBSecret
  else (SessionBindKey.fromModeAOtp C cfg.otp).toOption

/-- The id that the stub of the server mints for a request. -/
def stubSessionId (cfg : WsViewerConfig) : String := "sess-stub-" ++ sanitizeId cfg.hostPublicId

@[simp] theorem request_hostPublicId (cfg : WsViewerConfig) :
    cfg.request.hostPublicId = cfg.hostPublicId := by
  unfold request
  split_ifs
  · rfl
  · rfl

@[simp] theorem request_mode (cfg : WsViewerConfig) :
    cfg.request.secret.mode = if cfg.unattended then .unattended else .otp := by
  unfold request
  split_ifs
  · rfl
  · rfl

end WsViewerConfig

/-- Install the key, if there is one, and count the session as authorized. -/
def useBindKey (key : Option SessionBindKey) (s : ViewerSession π μ) : ViewerSession π μ :=
  match key with
  | some key => ((s.setBindKey key).setRequireIdentityForInput true).markSessionAuthorized
  | none => s

/-- The steps of a live viewer before it waits for the offer. -/
def openLive (C : Crypto) (T : PeerTransport π) (S : MediaSink μ) (cfg : WsViewerConfig)
    (answerer : π) : ViewerM π μ Unit := do
  modify (useBindKey (cfg.bindKey C))
  let _ ← ViewerSession.beginConnect T S cfg.request
  modify (ViewerSession.attachTransport T answerer)

/-- The calls of a live viewer after that, and callbacks of its transport. -/
def inLoop : ViewerEvent π → Bool
  | .acceptOffer .. | .addRemoteIce _ | .takePendingLocalIce | .sendInput _ | .poll
  | .callback _ => true
  | _ => false

/-- The runs of a live viewer. -/
def liveViewer (C : Crypto) (T : PeerTransport π) (S : MediaSink μ) (media : μ)
    (cfg : WsViewerConfig) : System (ViewerSession π μ) (ViewerEvent π) where
  init s := ∃ answerer, openLive C T S cfg answerer (.new media) = .ok () s
  step s e := if inLoop e then (viewerSystem C T S media).step s e else none

/-! ### What the loop leaves alone -/

/-- The key and the session id of a viewer. -/
def bindOf (s : ViewerSession π μ) : Option SessionBindKey × Option String :=
  (s.bindKey, s.sessionId)

section Keeps

variable {C : Crypto} {T : PeerTransport π} {S : MediaSink μ}

theorem keeps_onTransport (f : π → Call π α) :
    Keeps bindOf (ViewerSession.onTransport f : ViewerM π μ α) := by
  intro s
  unfold after ViewerSession.onTransport
  rcases s.transport with _ | a
  · rfl
  · dsimp only
    rcases (f a.peer).result with e | x
    · rfl
    · rfl

theorem keeps_askTransport (f : π → Except NetError α) :
    Keeps bindOf (ViewerSession.askTransport f : ViewerM π μ α) := by
  intro s
  rw [show after (ViewerSession.askTransport f) s = s from Tracked.askTransport_keeps f s]

theorem keeps_answerChallenge (challenge : DcIdentityChallenge) :
    Keeps bindOf (ViewerSession.answerChallenge C T challenge : ViewerM π μ Unit) := by
  unfold ViewerSession.answerChallenge
  refine .bind .of_get fun s => ?_
  rcases s.bindKey with _ | key
  · exact .of_throw _
  rcases s.sessionId with _ | sid
  · exact .of_throw _
  refine .bind (keeps_askTransport _) fun fp => ?_
  rcases fp with _ | fpHost
  · exact .of_throw _
  · exact .bind (keeps_askTransport _) fun _ => .bind (keeps_onTransport _) fun _ =>
      .of_modify fun _ => rfl

theorem keeps_handleIdentityMessage (data : Bytes) :
    Keeps bindOf (ViewerSession.handleIdentityMessage C T data : ViewerM π μ Unit) := by
  unfold ViewerSession.handleIdentityMessage
  rcases DcIdentityMessage.parse data with e | parsed
  · exact .of_throw _
  · refine .bind (.of_modify fun _ => rfl) fun _ => ?_
    cases parsed with
    | challenge challenge => exact keeps_answerChallenge challenge
    | response r => exact .of_throw _

theorem keeps_handleIdentityMessages (messages : List Bytes) :
    Keeps bindOf (ViewerSession.handleIdentityMessages C T messages : ViewerM π μ Unit) := by
  induction messages with
  | nil => exact .of_pure ()
  | cons data rest ih => exact .bind (keeps_handleIdentityMessage data) fun _ => ih

/-- Received media touch neither the key, the id nor the transport. -/
theorem foldl_handleTrack (tracks : List IncomingTrackData) (s : ViewerSession π μ) :
    bindOf (tracks.foldl (ViewerSession.handleTrack S) s) = bindOf s ∧
      (tracks.foldl (ViewerSession.handleTrack S) s).transport = s.transport := by
  induction tracks generalizing s with
  | nil => exact ⟨rfl, rfl⟩
  | cons t tracks ih =>
    obtain ⟨hbind, htransport⟩ := ih (s.handleTrack S t)
    exact ⟨hbind, htransport⟩

theorem bindOf_takeEvents (s : ViewerSession π μ) : bindOf (s.takeEvents S) = bindOf s :=
  (foldl_handleTrack _ _).1

theorem transport_takeEvents (s : ViewerSession π μ) :
    (s.takeEvents S).transport = s.transport :=
  (foldl_handleTrack _ _).2

theorem keeps_drainCallbackBuf :
    Keeps bindOf (ViewerSession.drainCallbackBuf C T S : ViewerM π μ Unit) := by
  unfold ViewerSession.drainCallbackBuf
  exact .bind .of_get fun _ => .bind (.of_modify bindOf_takeEvents) fun _ =>
    keeps_handleIdentityMessages _

theorem keeps_checkOfferSig (sig : String) :
    Keeps bindOf (ViewerSession.checkOfferSig C sig : ViewerM π μ Unit) := by
  intro s
  unfold after ViewerSession.checkOfferSig
  rcases s.hostVerifyingKey with _ | vk
  · rfl
  rcases s.sessionId with _ | sid
  · rfl
  rcases s.hostFpSignMaterial with _ | material
  · rfl
  · dsimp only
    rcases verifySessionFingerprint C vk sid material sig with e | u
    · rfl
    · rfl

theorem keeps_checkPresentSig (sig : Option String) :
    Keeps bindOf (ViewerSession.checkPresentSig C sig : ViewerM π μ Unit) := by
  unfold ViewerSession.checkPresentSig
  rcases sig.filter (· ≠ "") with _ | x
  · exact .of_pure ()
  · exact keeps_checkOfferSig x

theorem keeps_answerOffer (offer : SessionDescription) :
    Keeps bindOf (ViewerSession.answerOffer C T S offer : ViewerM π μ SessionDescription) := by
  unfold ViewerSession.answerOffer
  refine .bind .of_get fun s => ?_
  rcases s.transport with _ | a
  · exact .of_throw _
  refine .bind (.of_modify fun _ => rfl) fun _ => .bind (keeps_onTransport _) fun _ =>
    .bind (keeps_askTransport _) fun fp => .bind (.of_modify fun _ => rfl) fun _ =>
    .bind (keeps_onTransport _) fun answer => .bind (keeps_onTransport _) fun _ =>
    .bind keeps_drainCallbackBuf fun _ => .of_pure answer

theorem keeps_pollTransport :
    Keeps bindOf (ViewerSession.pollTransport T : ViewerM π μ Unit) := by
  intro s
  unfold after ViewerSession.pollTransport
  rcases s.transport with _ | a
  · rfl
  · exact keeps_onTransport T.poll s

theorem keeps_sendInput (msg : DataMessage) :
    Keeps bindOf (ViewerSession.sendInput T msg : ViewerM π μ Unit) := by
  unfold ViewerSession.sendInput
  refine .bind .of_get fun s => ?_
  rcases s.ensureCanSendInput with e | u
  · exact .of_throw _
  · exact keeps_onTransport _

/-- **The loop keeps the key and the session id.** -/
theorem bindOf_perform {e : ViewerEvent π} (he : inLoop e = true) (s : ViewerSession π μ) :
    bindOf (e.perform C T S s) = bindOf s := by
  cases e with
  | acceptOffer offer sig =>
    have hkeeps : Keeps bindOf (ViewerSession.acceptOfferWithSig C T S offer sig) :=
      .bind (.of_modify fun _ => rfl) fun _ => .bind (keeps_checkPresentSig sig) fun _ =>
        keeps_answerOffer offer
    exact hkeeps s
  | addRemoteIce candidate =>
    have hkeeps : Keeps bindOf (ViewerSession.addRemoteIce C T S candidate) :=
      .bind (keeps_onTransport _) fun _ => keeps_drainCallbackBuf
    exact hkeeps s
  | takePendingLocalIce => rfl
  | sendInput msg => exact keeps_sendInput msg s
  | poll =>
    have hkeeps : Keeps bindOf (ViewerSession.poll C T S) :=
      .bind keeps_pollTransport fun _ => .bind keeps_drainCallbackBuf fun _ =>
        .of_modify fun _ => rfl
    exact hkeeps s
  | callback cs =>
    unfold ViewerEvent.perform
    split_ifs
    · rfl
    · rfl
  | _ => cases he

end Keeps

theorem bindOf_teardown (T : PeerTransport π) (s : ViewerSession π μ) :
    bindOf (s.teardownTransport T) = bindOf s := by
  unfold ViewerSession.teardownTransport
  rcases s.transport with _ | a
  · rfl
  · rfl

/-- **A live viewer has the key of its code and the minted session id**, not the id of its
intent. -/
theorem liveViewer_bindOf {C : Crypto} {T : PeerTransport π} {S : MediaSink μ} {media : μ}
    {cfg : WsViewerConfig} {s : ViewerSession π μ}
    (h : (liveViewer C T S media cfg).Reachable s) :
    s.bindKey = cfg.bindKey C ∧ s.sessionId = some cfg.stubSessionId := by
  have hinv : bindOf s = (cfg.bindKey C, some cfg.stubSessionId) := by
    refine h.invariant (fun s => bindOf s = (cfg.bindKey C, some cfg.stubSessionId)) ?_ ?_
    · rintro s ⟨answerer, hopen⟩
      obtain ⟨u, s₁, hkey, hopen⟩ := bind_ok.mp hopen
      obtain ⟨-, rfl⟩ := EStateM.Result.ok.inj hkey
      obtain ⟨stub, s₂, hconnect, hopen⟩ := bind_ok.mp hopen
      obtain ⟨-, rfl⟩ := EStateM.Result.ok.inj hopen
      unfold ViewerSession.beginConnect at hconnect
      rcases hstub : connectStub cfg.request with e | stub'
      · simp only [hstub] at hconnect
        cases hconnect
      · simp only [hstub] at hconnect
        obtain ⟨-, rfl⟩ := EStateM.Result.ok.inj hconnect
        obtain ⟨-, rfl⟩ := connectStub_ok hstub
        have hkept : (((useBindKey (cfg.bindKey C) (.new media)).teardownTransport T :
            ViewerSession π μ)).bindKey = cfg.bindKey C := by
          refine (congrArg Prod.fst (bindOf_teardown T _)).trans ?_
          rcases cfg.bindKey C with _ | key
          · rfl
          · rfl
        refine (bindOf_teardown T _).trans (Prod.ext hkept ?_)
        show some ("sess-stub-" ++ sanitizeId cfg.request.hostPublicId) = some cfg.stubSessionId
        rw [WsViewerConfig.request_hostPublicId]
        rfl
    · intro s e s' hs _ hstep
      simp only [liveViewer] at hstep
      split_ifs at hstep with he
      obtain rfl := Option.some.inj hstep
      rw [bindOf_perform he, hs]
  exact ⟨congrArg Prod.fst hinv, congrArg Prod.snd hinv⟩

/-! ## The exchange -/

/-- The last message of the attached transport. -/
def lastOf (s : ViewerSession (Logged π) μ) : Option DataMessage :=
  s.transport.bind fun a => lastData a.peer

/-- The viewer's side: the message arrives and the viewer polls. -/
def viewerTurn (C : Crypto) (T : PeerTransport π) (S : MediaSink μ) (msg : DataMessage)
    (s : ViewerSession π μ) : ViewerSession π μ :=
  after (ViewerSession.poll C T S) (s.called [.data msg])

/-- What the host has sent last reaches the viewer, and what the viewer has sent then reaches the
host: the outcome of the host's poll. -/
def exchange (C : Crypto) (Tv : PeerTransport π) (S : MediaSink μ) (Th : PeerTransport ρ) (J : Codec)
    (ans : Nat → InjectAnswers) (v : ViewerSession (Logged π) μ) (m : SessionManager (Logged ρ)) :
    Option (EStateM.Result SessionError (SessionManager (Logged ρ)) InboundStats) := do
  let challenge ← lastData m.peer
  let response ← lastOf (viewerTurn C Tv.logged S challenge v)
  return hostTurn C Th.logged J ans response m

/-! ### The viewer answers -/

section Answer

variable {C : Crypto} {T : PeerTransport π} {S : MediaSink μ} {own other : DtlsFingerprint}
  {up : π → Prop} {s : ViewerSession (Logged π) μ} {a : Attachment (Logged π)}
  {key : SessionBindKey} {sid : String} {c : DcIdentityChallenge}

theorem onTransport_ok {π : Type} {s : ViewerSession π μ} {a : Attachment π} {f : π → Call π α}
    {x : α} (ht : s.transport = some a) (h : (f a.peer).result = .ok x) :
    ViewerSession.onTransport f s = .ok x
      ({ s with transport := some { a with peer := (f a.peer).peer } }.called
        (f a.peer).callbacks) := by
  unfold ViewerSession.onTransport
  simp only [ht, h]

theorem askTransport_ok {π : Type} {s : ViewerSession π μ} {a : Attachment π}
    {f : π → Except NetError α} {x : α} (ht : s.transport = some a) (h : f a.peer = .ok x) :
    ViewerSession.askTransport f s = .ok x s := by
  unfold ViewerSession.askTransport
  simp only [ht, h]

/-- **A challenge is answered** with the viewer's key, its session id and both fingerprints. -/
theorem answerChallenge_sends (hlinks : Links T own other up) (hkey : s.bindKey = some key)
    (hsid : s.sessionId = some sid) (ht : s.transport = some a) (hup : up a.peer.peer) :
    ∃ s', ViewerSession.answerChallenge C T.logged c s = .ok () s' ∧
      lastOf s' = some (identityMessage (respondDcChallenge C key sid c other.asSignMaterial
        own.asSignMaterial).encode) := by
  set msg := identityMessage (respondDcChallenge C key sid c other.asSignMaterial
    own.asSignMaterial).encode with hmsg
  have hremote : T.logged.remoteFingerprint a.peer = .ok (some other) :=
    hlinks.remoteFingerprint _ hup
  have hlocal : T.logged.localFingerprint a.peer = .ok own := hlinks.localFingerprint _ hup
  have hsend := hlinks.logged_sendData hup msg
  have hsent : (T.logged.sendData a.peer msg).result = .ok () := congrArg Call.result hsend
  have hpeer := congrArg Call.peer hsend
  set call := T.logged.sendData a.peer msg with hcall
  let sent := { s with transport := some { a with peer := call.peer } }.called call.callbacks
  refine ⟨sent.markBound c, ?_, ?_⟩
  · unfold ViewerSession.answerChallenge
    refine bind_ok.mpr ⟨s, s, rfl, ?_⟩
    simp only [hkey, hsid]
    refine bind_ok.mpr ⟨some other, s, askTransport_ok ht hremote, ?_⟩
    refine bind_ok.mpr ⟨own, s, askTransport_ok ht hlocal, ?_⟩
    exact bind_ok.mpr ⟨(), sent, onTransport_ok ht hsent, rfl⟩
  · have hlast : lastOf (sent.markBound c) = lastData call.peer := rfl
    rw [hlast, hpeer]
    rfl

theorem deliver_data (buf : EventBuf) (cs : List PeerCallback) :
    (buf.deliver cs).data = buf.data ++ dataOf cs := by
  induction cs generalizing buf with
  | nil => simp [EventBuf.deliver, dataOf]
  | cons c cs ih =>
    have hcons : buf.deliver (c :: cs) = (buf.receive c).deliver cs := rfl
    rw [hcons, ih]
    cases c with
    | data m => simp [EventBuf.receive, dataOf]
    | connectionState s => simp [EventBuf.receive, dataOf]
    | iceCandidate candidate => simp [EventBuf.receive, dataOf]
    | track t => simp [EventBuf.receive, dataOf]

/-- A challenge that waits alone in the buffer is answered when the buffer is drained. -/
theorem drain_answers (hlinks : Links T own other up) (hkey : s.bindKey = some key)
    (hsid : s.sessionId = some sid) (ht : s.transport = some a) (hup : up a.peer.peer)
    (hdata : identityOnly s.callbacks.data = [identityMessage c.encode]) (hc : c.nonce ≠ []) :
    ∃ s', ViewerSession.drainCallbackBuf C T.logged S s = .ok () s' ∧
      lastOf s' = some (identityMessage (respondDcChallenge C key sid c other.asSignMaterial
        own.asSignMaterial).encode) := by
  have hbind : bindOf (s.takeEvents S) = bindOf s := bindOf_takeEvents s
  set s₁ := s.takeEvents S with hs₁
  -- the message is counted, and then answered
  let s₂ := { s₁ with stats := { s₁.stats with
    identityMessages := saturatingSucc s₁.stats.identityMessages } }
  have hkey₂ : s₂.bindKey = some key := (congrArg Prod.fst hbind).trans hkey
  have hsid₂ : s₂.sessionId = some sid := (congrArg Prod.snd hbind).trans hsid
  have ht₂ : s₂.transport = some a := (transport_takeEvents s).trans ht
  obtain ⟨s₃, hanswer, hlast⟩ :=
    answerChallenge_sends (C := C) (c := c) hlinks hkey₂ hsid₂ ht₂ hup
  refine ⟨s₃, ?_, hlast⟩
  unfold ViewerSession.drainCallbackBuf
  refine bind_ok.mpr ⟨s, s, rfl, bind_ok.mpr ⟨(), s₁, rfl, ?_⟩⟩
  have hlist : (s.callbacks.data.filter fun m => m.label = identityChannelLabel).map
      DataMessage.data = [c.encode] := congrArg (List.map DataMessage.data) hdata
  rw [hlist]
  refine bind_ok.mpr ⟨(), s₃, ?_, rfl⟩
  unfold ViewerSession.handleIdentityMessage
  rw [parse_encode_challenge hc]
  exact bind_ok.mpr ⟨(), s₂, rfl, hanswer⟩

/-- **The viewer's half of the exchange**: a challenge that arrives is answered. -/
theorem viewer_answers (hlinks : Links T own other up) (hkey : s.bindKey = some key)
    (hsid : s.sessionId = some sid) (ht : s.transport = some a) (hup : up a.peer.peer)
    (hquiet : identityOnly s.callbacks.data = []) (hc : c.nonce ≠ []) :
    lastOf (viewerTurn C T.logged S (identityMessage c.encode) s) =
      some (identityMessage (respondDcChallenge C key sid c other.asSignMaterial
        own.asSignMaterial).encode) := by
  set s₀ := s.called [.data (identityMessage c.encode)] with hs₀
  set a₀ := a.report [.data (identityMessage c.encode)] with ha₀
  have ht₀ : s₀.transport = some a₀ := by
    rw [hs₀, ViewerSession.called, ht]
    rfl
  -- the poll brings no identity message of its own
  have hpoll := hlinks.poll a.peer.peer hup
  have hbrought := hpoll.quiet
  set call := T.logged.poll a.peer with hcall
  have hbrought : identityOnly (dataOf call.callbacks) = [] := hbrought
  set s₁ := { s₀ with transport := some { a₀ with peer := call.peer } }.called call.callbacks
    with hs₁
  have hrun : ViewerSession.pollTransport T.logged s₀ = .ok () s₁ := by
    unfold ViewerSession.pollTransport
    simp only [ht₀]
    exact onTransport_ok ht₀ hpoll.result
  have hdata : identityOnly s₁.callbacks.data = [identityMessage c.encode] := by
    have hbuf : s₁.callbacks.data =
        s.callbacks.data ++ [identityMessage c.encode] ++ dataOf call.callbacks := by
      show ((s.callbacks.deliver _).deliver _).data = _
      rw [deliver_data, deliver_data]
      rfl
    rw [hbuf, identityOnly_append, identityOnly_append, hquiet, hbrought]
    rfl
  have ht₁ : s₁.transport =
      some (Attachment.report call.callbacks { a₀ with peer := call.peer }) := rfl
  have hup₁ : up call.peer.peer := hpoll.up
  obtain ⟨s₂, hdrain, hlast⟩ :=
    drain_answers (C := C) (S := S) hlinks (s := s₁) hkey hsid ht₁ hup₁ hdata hc
  have hturn : ViewerSession.poll C T.logged S s₀ = .ok () s₂.syncBindStatus := by
    refine bind_ok.mpr ⟨(), s₁, hrun, bind_ok.mpr ⟨(), s₂, hdrain, rfl⟩⟩
  rw [viewerTurn, after_ok hturn]
  exact hlast

end Answer

/-! ## The agreement of the two sides -/

/-- What the two sides rely on: tags and signatures have their lengths, and a signature verifies. -/
structure Correct (C : Crypto) : Prop where
  tagLength : ∀ key message, (C.hmacSha256 key message).length = dcBindMacLen
  signatureLength : ∀ key message, (C.sign key message).length = signatureLen
  verifies : ∀ key message, C.verifySignature (C.publicKey key) message (C.sign key message) = true

/-- The viewer has entered the code that the host shows, or the secret of the host. -/
def Shared (cfg : WsViewerConfig) (hub : LiveOtpHub) : Prop :=
  if cfg.unattended then ∃ secret, hub.policy.hostSecret = some secret ∧ secret.bytes = utf8 cfg.otp
  else hub.policy.lastOtpCode = some cfg.otp

/-- The viewer knows the key of its host and has seen a fingerprint in the offer. -/
def knowing (key : Bytes) (fp : DtlsFingerprint) (s : ViewerSession π μ) : ViewerSession π μ :=
  { s.setHostVerifyingKey key with hostFpSignMaterial := some fp.asSignMaterial }

/-- A signature that the host makes with a device key, for the session and the fingerprint of its
transport, passes the viewer's check under the key of that host. -/
def SignatureVerifies (C : Crypto) (T : PeerTransport ρ) (signingKey : Bytes) (sid : String)
    (s : ViewerSession π μ) (m : SessionManager ρ) : Prop :=
  ∃ sig fp, T.localFingerprint m.peer = .ok fp ∧
    SessionManager.fingerprintSig C T sid (m.setDeviceSigningKey signingKey) =
      .ok (some sig) (m.setDeviceSigningKey signingKey) ∧
    ViewerSession.checkOfferSig C sig (knowing (C.publicKey signingKey) fp s) =
      .ok () (knowing (C.publicKey signingKey) fp s)

/-- The transcript of a session id under a nonce and both fingerprints. -/
def transcript (sid : String) (nonce : Bytes) (host viewer : DtlsFingerprint) : Bytes :=
  encodeDcBindMessage (utf8 sid) nonce (utf8 host.asSignMaterial) (utf8 viewer.asSignMaterial)

section Agreement

variable {C : Crypto} {cfg : WsViewerConfig} {hub : LiveOtpHub} {key : SessionBindKey}

/-- Both sides make the same key. -/
theorem shared_key (hshared : Shared cfg hub)
    (hkey : hub.sessionKey C cfg.request.secret.mode = some key) :
    cfg.bindKey C = some key := by
  rw [WsViewerConfig.request_mode] at hkey
  unfold Shared at hshared
  unfold WsViewerConfig.bindKey
  split_ifs at hshared hkey ⊢ with hmode
  · obtain ⟨secret, hsecret, hbytes⟩ := hshared
    rw [LiveOtpHub.sessionKey, if_pos rfl, hsecret] at hkey
    have htry : HostSecret.tryNew (utf8 cfg.otp) = .ok secret := by
      rw [← hbytes, HostSecret.tryNew, dif_pos secret.long]
    rw [htry]
    exact hkey
  · rw [LiveOtpHub.sessionKey, if_neg (by decide), hshared] at hkey
    exact hkey

/-- A host's own signature verifies under its key, for the id it was made for. -/
theorem signature_verifies (hcorrect : Correct C) {T : PeerTransport ρ} {signingKey : Bytes}
    {sid : String} {s : ViewerSession π μ} {m : SessionManager ρ} {fp : DtlsFingerprint}
    (hfp : T.localFingerprint m.peer = .ok fp) (hsid : s.sessionId = some sid) :
    SignatureVerifies C T signingKey sid s m := by
  have hverify : verifySessionFingerprint C (C.publicKey signingKey) sid fp.asSignMaterial
      (signSessionFingerprint C signingKey sid fp.asSignMaterial) = .ok () := by
    unfold verifySessionFingerprint signSessionFingerprint verifyFingerprintBinding
      signFingerprintBinding
    rw [hexToBytes_bytesToHex]
    simp only [hcorrect.signatureLength, ne_eq, not_true_eq_false, if_false, hcorrect.verifies,
      if_true]
  refine ⟨signSessionFingerprint C signingKey sid fp.asSignMaterial, fp, hfp, ?_, ?_⟩
  · unfold SessionManager.fingerprintSig SessionManager.setDeviceSigningKey
    simp only [hfp]
  · unfold ViewerSession.checkOfferSig knowing ViewerSession.setHostVerifyingKey
    simp only [hsid, hverify]

end Agreement

section Bind

variable {C : Crypto} {Tv : PeerTransport π} {Th : PeerTransport ρ} {S : MediaSink μ} {media : μ}
  {J : Codec} {host viewer : DtlsFingerprint} {upViewer : π → Prop}
  {upHost : ρ → Prop} {cfg : WsViewerConfig} {hub hub' : LiveOtpHub} {sid : String}
  {nonce signingKey : Bytes} {now : Nat} {v : ViewerSession (Logged π) μ}
  {a : Attachment (Logged π)} {m m' : SessionManager (Logged ρ)}

/-- The exchange of a live viewer and a live host that share a secret, over transports that agree on
their fingerprints: what the host's poll does with the viewer's response. -/
theorem exchange_binds (ans : Nat → InjectAnswers) (hcorrect : Correct C)
    (hlinkViewer : Links Tv viewer host upViewer) (hlinkHost : Links Th host viewer upHost)
    (hnonce : nonce ≠ []) (hshared : Shared cfg hub)
    (hviewer : (liveViewer C Tv.logged S media cfg).Reachable v) (ht : v.transport = some a)
    (hupViewer : upViewer a.peer.peer) (hquietViewer : identityOnly v.callbacks.data = [])
    (hhost : (liveHost C Th.logged J sid).Reachable m) (hupHost : upHost m.peer.peer)
    (hquietHost : identityOnly m.cb.data = [])
    (hauth : hub.authorizeSession C Th.logged nonce now cfg.request.secret.mode m =
      (.ok (), hub', m')) :
    ∃ key, cfg.bindKey C = some key ∧
      ((∃ stats m'', exchange C Tv S Th J ans v m' = some (.ok stats m'') ∧
        m''.identity.identityBound = true) ↔
      C.hmacSha256 key.bytes (transcript sid nonce host viewer) =
        C.hmacSha256 key.bytes (transcript cfg.stubSessionId nonce host viewer)) := by
  obtain ⟨key, hkey, hchallenged⟩ := authorizeSession_ok hauth
  have hbindKey := shared_key hshared hkey
  obtain ⟨hvkey, hvsid⟩ := liveViewer_bindOf hviewer
  have hgate := liveHost_gate hhost
  simp only [gateOf, Prod.mk.injEq] at hgate
  obtain ⟨-, -, hidentity, -⟩ := hgate
  -- the challenge is the last message of the host, and its transport is still up
  set challenge : DcIdentityChallenge := ⟨nonce⟩ with hchallenge
  have hsend := hlinkHost.logged_sendData hupHost (identityMessage challenge.encode)
  have hworks := hlinkHost.sendData m.peer.peer (identityMessage challenge.encode) hupHost
  have hpeer := hchallenged.peer.trans (congrArg Call.peer hsend)
  have hcb := hchallenged.cb.trans (congrArg (m.cb.deliver ·.callbacks) hsend)
  have hlast : lastData m'.peer = some (identityMessage challenge.encode) := by
    rw [hpeer]
    rfl
  have hup : upHost m'.peer.peer := by
    rw [hpeer]
    exact hworks.up
  have hquiet : identityOnly m'.cb.data = [] := by
    rw [hcb, Host.deliver_data, identityOnly_append, hquietHost, hworks.quiet]
    rfl
  -- the viewer answers with the minted id
  have hanswer := viewer_answers (C := C) (S := S) (c := challenge) hlinkViewer
    (hvkey.trans hbindKey) hvsid ht hupViewer hquietViewer hnonce
  set response := respondDcChallenge C key cfg.stubSessionId challenge host.asSignMaterial
    viewer.asSignMaterial with hresponse
  have hexchange : exchange C Tv S Th J ans v m' =
      some (hostTurn C Th.logged J ans (identityMessage response.encode) m') := by
    simp only [exchange, hlast, Option.bind_eq_bind, Option.bind_some, hanswer]
    rfl
  -- and the host checks with the id of the intent
  have hlen : response.mac.length = dcBindMacLen := hcorrect.tagLength _ _
  have hsid : m'.identity.sessionId = sid := by
    rw [hchallenged.identity, hidentity]
    rfl
  have hdecide := host_decides (C := C) (J := J) ans hlinkHost.logged hup
    hchallenged.bindKey hchallenged.pending hquiet hlen
  rw [hsid, verifyDcBindMac_ok] at hdecide
  refine ⟨key, hbindKey, ?_⟩
  simp only [hexchange, Option.some.injEq]
  exact hdecide.trans (and_iff_right hlen)

/-- **The identity bind of an honest session** succeeds, and a signature over the fingerprint of its
host verifies, exactly when the id of the intent is the one that the stub of the server mints for
that host. The tag is assumed not to collide on the two transcripts.

**Proof sketch.** The viewer answers with the id of its session, which `beginConnect` took from the
stub; the host checks with the id it attached, which is the one in the intent. -/
theorem honest_bind (ans : Nat → InjectAnswers) (hcorrect : Correct C)
    (hlinkViewer : Links Tv viewer host upViewer) (hlinkHost : Links Th host viewer upHost)
    (hnonce : nonce ≠ []) (hshared : Shared cfg hub)
    (hviewer : (liveViewer C Tv.logged S media cfg).Reachable v) (ht : v.transport = some a)
    (hupViewer : upViewer a.peer.peer) (hquietViewer : identityOnly v.callbacks.data = [])
    (hhost : (liveHost C Th.logged J sid).Reachable m) (hupHost : upHost m.peer.peer)
    (hquietHost : identityOnly m.cb.data = [])
    (hauth : hub.authorizeSession C Th.logged nonce now cfg.request.secret.mode m =
      (.ok (), hub', m'))
    (hcollision : ∀ key, cfg.bindKey C = some key →
      C.hmacSha256 key.bytes (transcript sid nonce host viewer) =
        C.hmacSha256 key.bytes (transcript cfg.stubSessionId nonce host viewer) →
      transcript sid nonce host viewer = transcript cfg.stubSessionId nonce host viewer) :
    ((∃ stats m'', exchange C Tv S Th J ans v m' = some (.ok stats m'') ∧
        m''.identity.identityBound = true) ∧
      SignatureVerifies C Th.logged signingKey sid v m) ↔
    sid = cfg.stubSessionId := by
  obtain ⟨key, hkey, hbinds⟩ := exchange_binds ans hcorrect hlinkViewer hlinkHost hnonce hshared
    hviewer ht hupViewer hquietViewer hhost hupHost hquietHost hauth
  constructor
  · rintro ⟨hbound, -⟩
    have hsame := hcollision key hkey (hbinds.mp hbound)
    exact utf8_injective (encodeDcBindMessage_sessionId hsame)
  · rintro rfl
    have hfp : Th.logged.localFingerprint m.peer = .ok host :=
      hlinkHost.localFingerprint _ hupHost
    exact ⟨hbinds.mpr rfl, signature_verifies hcorrect hfp (liveViewer_bindOf hviewer).2⟩

end Bind

/-! ### Concrete sessions -/

/-- A connected mock peer with nothing on its way to it. -/
structure MockUp (own other : DtlsFingerprint) (p : MockPeer) : Prop where
  isOpen : p.closed = false
  state : p.state = .connected
  paired : p.paired = true
  outbound : p.outbound ≠ none
  inbound : p.inbound = []
  inboundOpen : p.inboundOpen = true
  localFp : p.localFp = own
  remoteFp : p.remoteFp = some other

/-- Connected mock peers work. -/
theorem mock_links (own other : DtlsFingerprint) :
    Links mockTransport own other (MockUp own other) where
  localFingerprint p hup := congrArg Except.ok hup.localFp
  remoteFingerprint p hup := congrArg Except.ok hup.remoteFp
  sendData p msg hup := by
    obtain ⟨queue, hqueue⟩ := Option.ne_none_iff_exists'.mp hup.outbound
    have hsend : mockTransport.sendData p msg =
        ⟨.ok (), { p with outbound := some (queue ++ [.data msg]) }, []⟩ := by
      simp [mockTransport, MockPeer.sendWire, MockPeer.isClosed, hup.isOpen, hup.state, hup.paired,
        hqueue]
    rw [hsend]
    exact ⟨rfl, ⟨hup.isOpen, hup.state, hup.paired, Option.some_ne_none _, hup.inbound,
      hup.inboundOpen, hup.localFp, hup.remoteFp⟩, rfl⟩
  poll p hup := by
    have hpoll : mockTransport.poll p = ⟨.ok (), { p with inbound := [] }, []⟩ := by
      simp [mockTransport, MockPeer.poll, MockPeer.isClosed, hup.isOpen, hup.state, hup.paired,
        hup.inbound, hup.inboundOpen]
    rw [hpoll]
    exact ⟨rfl, ⟨hup.isOpen, hup.state, hup.paired, hup.outbound, rfl, hup.inboundOpen,
      hup.localFp, hup.remoteFp⟩, rfl⟩

theorem windowed_correct : Correct .windowed where
  tagLength key message := by simp [Crypto.windowed, windowTag, fit, dcBindMacLen]
  signatureLength key message := by simp [Crypto.windowed, windowTag, fit, signatureLen]
  verifies key message := by simp [Crypto.windowed]

/-- A viewer in unattended mode. -/
def liveConfig : WsViewerConfig := ⟨"host-1", "0123456789abcdef", true⟩

/-- The fingerprints of both ends, shortened. -/
def hostFp : DtlsFingerprint := ⟨"sha-256", "AA"⟩

def viewerFp : DtlsFingerprint := ⟨"sha-256", "BB"⟩

/-- One end of a connected pair. -/
def livePeer (own other : DtlsFingerprint) : Logged MockPeer :=
  ⟨{ MockPeer.new "live" own with state := .connected, remoteFp := some other }, []⟩

/-- The hub of a host whose secret the viewer has. -/
def liveHub : LiveOtpHub := (LiveOtpHub.enableUnattended .new liveConfig.otp).2

/-- The host of a session, attached. -/
def attachedHost (sid : String) : SessionManager (Logged MockPeer) :=
  (SessionManager.withPeer (livePeer hostFp viewerFp) .synthetic .synthetic 0).attach sid (.ok ()) 0

/-- A live viewer opens when its request passes the checks of the form. -/
theorem openLive_ok {C : Crypto} {T : PeerTransport π} {S : MediaSink μ} {media : μ}
    {cfg : WsViewerConfig} (h : cfg.request.validate = .ok ()) (p : π) :
    ∃ s, openLive C T S cfg p (.new media) = .ok () s ∧ s.transport = some ⟨p, [], []⟩ ∧
      s.callbacks.data = [] := by
  have hstub : connectStub cfg.request =
      .ok ⟨"sess-stub-" ++ sanitizeId cfg.request.hostPublicId, true⟩ := by
    unfold connectStub
    rw [h]
    rfl
  have hconnect : ∃ s, ViewerSession.beginConnect T S cfg.request
      (useBindKey (cfg.bindKey C) (.new media)) =
        .ok ⟨"sess-stub-" ++ sanitizeId cfg.request.hostPublicId, true⟩ s := by
    unfold ViewerSession.beginConnect
    simp only [hstub]
    exact ⟨_, rfl⟩
  obtain ⟨s, hs⟩ := hconnect
  refine ⟨s.attachTransport T p, bind_ok.mpr ⟨(), _, rfl, bind_ok.mpr ⟨_, s, hs, rfl⟩⟩, rfl, ?_⟩
  unfold ViewerSession.attachTransport ViewerSession.teardownTransport
  rcases s.transport with _ | a
  · rfl
  · rfl

/-- The viewer of the sessions below. -/
theorem liveConfig_opens : ∃ v : ViewerSession (Logged MockPeer) Unit,
    (liveViewer .windowed mockTransport.logged .discard () liveConfig).Reachable v ∧
      v.transport = some ⟨livePeer viewerFp hostFp, [], []⟩ ∧ v.callbacks.data = [] := by
  have hvalid : liveConfig.request.validate = .ok () := by
    decide +kernel
  obtain ⟨v, hopen, ht, hdata⟩ := openLive_ok (C := .windowed) (T := mockTransport.logged)
    (S := .discard) hvalid (livePeer viewerFp hostFp)
  exact ⟨v, .init ⟨_, hopen⟩, ht, hdata⟩

theorem liveHub_shared : Shared liveConfig liveHub :=
  ⟨⟨utf8 liveConfig.otp, by decide⟩, rfl, rfl⟩

/-- The host of the sessions below is authorized, whatever its session id. -/
theorem liveHub_authorizes (sid : String) : ∃ m',
    liveHub.authorizeSession .windowed mockTransport.logged [1] 0 liveConfig.request.secret.mode
      (attachedHost sid) = (.ok (), liveHub, m') :=
  ⟨_, rfl⟩

/-- The outcome of the exchange between the two. -/
def liveExchange (v : ViewerSession (Logged MockPeer) Unit) (m : SessionManager (Logged MockPeer)) :
    Option (EStateM.Result SessionError (SessionManager (Logged MockPeer)) InboundStats) :=
  exchange .windowed mockTransport .discard mockTransport demoCodec (fun _ => ⟨0, .ok ()⟩) v m

theorem livePeer_up (own other : DtlsFingerprint) : MockUp own other (livePeer own other).peer :=
  ⟨rfl, rfl, rfl, by simp [livePeer, MockPeer.new], rfl, rfl, rfl, rfl⟩

/-- A host that attached the minted id binds the identity, and its signature verifies. -/
theorem honest_bind_minted : ∃ (v : ViewerSession (Logged MockPeer) Unit) (m' : _),
    (liveViewer .windowed mockTransport.logged .discard () liveConfig).Reachable v ∧
    liveHub.authorizeSession .windowed mockTransport.logged [1] 0 liveConfig.request.secret.mode
      (attachedHost liveConfig.stubSessionId) = (.ok (), liveHub, m') ∧
    (∃ stats m'', liveExchange v m' = some (.ok stats m'') ∧ m''.identity.identityBound = true) ∧
    SignatureVerifies .windowed mockTransport.logged [7] liveConfig.stubSessionId v
      (attachedHost liveConfig.stubSessionId) := by
  obtain ⟨v, hviewer, ht, hquiet⟩ := liveConfig_opens
  obtain ⟨m', hauth⟩ := liveHub_authorizes liveConfig.stubSessionId
  have hhost : (liveHost .windowed mockTransport.logged demoCodec
      liveConfig.stubSessionId).Reachable (attachedHost liveConfig.stubSessionId) :=
    .init ⟨_, _, _, _, _, _, rfl⟩
  exact ⟨v, m', hviewer, hauth, (honest_bind (fun _ => ⟨0, .ok ()⟩) windowed_correct
    (mock_links viewerFp hostFp) (mock_links hostFp viewerFp) (by decide) liveHub_shared hviewer ht
    (livePeer_up _ _) (by rw [hquiet]; rfl) hhost (livePeer_up _ _) rfl hauth
    fun _ _ _ => rfl).mpr rfl⟩

/-- An id that a live viewer puts into its intent. -/
def intentSessionId : String := "viewer-1700000000000"

/-- **A live session is never bound**: the response to the host's challenge is refused, because the
id of the intent is not the minted one. -/
theorem honest_bind_fails :
    ¬∀ v m', (liveViewer .windowed mockTransport.logged .discard () liveConfig).Reachable v →
      v.transport = some ⟨livePeer viewerFp hostFp, [], []⟩ → v.callbacks.data = [] →
      liveHub.authorizeSession .windowed mockTransport.logged [1] 0 liveConfig.request.secret.mode
        (attachedHost intentSessionId) = (.ok (), liveHub, m') →
      ∃ stats m'', liveExchange v m' = some (.ok stats m'') ∧
        m''.identity.identityBound = true := by
  intro hclaim
  obtain ⟨v, hviewer, ht, hquiet⟩ := liveConfig_opens
  obtain ⟨m', hauth⟩ := liveHub_authorizes intentSessionId
  have hhost : (liveHost .windowed mockTransport.logged demoCodec intentSessionId).Reachable
      (attachedHost intentSessionId) :=
    .init ⟨_, _, _, _, _, _, rfl⟩
  have hbinds := exchange_binds (fun _ => ⟨0, .ok ()⟩) windowed_correct
    (mock_links viewerFp hostFp) (mock_links hostFp viewerFp) (by decide) liveHub_shared hviewer ht
    (livePeer_up _ _) (by rw [hquiet]; rfl) hhost (livePeer_up _ _) rfl hauth
  obtain ⟨key, hkey, hbinds⟩ := hbinds
  have htags := hbinds.mp (hclaim v m' hviewer ht hquiet hauth)
  obtain rfl : key = ⟨utf8 liveConfig.otp⟩ := (Option.some.inj hkey).symm
  revert htags
  decide +kernel

end RemoteLink.Viewer
