import RemoteLink.Host.WsSession

set_option autoImplicit false

/-!
# What the service loop keeps

An accepted session performs actions of a session only, and fails with the texts that its operations
announce. What becomes of the service after a failure depends on the text alone, so a property that
holds whenever the host waits for a session can be shown from the sessions' own effects.

## Main definitions

* `servesSession`, `tellsTray` — the actions of an accepted session, and those that follow its
  failure.
* `Aftermath`, `WsHostConfig.aftermath` — what the service does after a failure.
* `Upkeep`, `Regime` — what a property needs for the service to keep it, and what a contract needs
  for the service to respect it.

## Main results

* `runSessionLocal_handling`, `concludeSessionLocal_serving`, `runSessionAgent_serving` — accepted
  sessions perform actions of a session only.
* `Regime.safe` — then every unfolding of the service respects the contract.
* `Upkeep.always` — in every run, the host waits for a session only while the property holds.
-/

namespace RemoteLink.Host

open Library Protocol Auth Net Platform Signaling

/-! ## The actions of a session -/

/-- The actions of a session that has been accepted, apart from those below. -/
def servesSession : HostAction → Bool
  | .enroll | .enableUnattended _ | .mintLocal | .postOtpHash .. | .connect | .close
  | .waitingForIncoming | .takeExit | .agentConnect | .send (.sessionAccept ..)
  | .forceIdentityBoundForTests | .setInputPolicyEnabled _ => false
  | _ => true

/-- The actions that open input without an authorization. -/
def opensInput : HostAction → Bool
  | .forceIdentityBoundForTests | .setInputPolicyEnabled _ => true
  | _ => false

/-- The actions that follow an announced error. -/
def tellsTray : HostAction → Bool
  | .tray _ => true
  | _ => false

/-- A part of an accepted session that does not open input by itself. -/
abbrev Serving {α : Type} (p : HostM α) : Prop :=
  Within (fun o => servesSession o = true) (fun o => tellsTray o = true) p.run

/-- A part of an accepted session. -/
abbrev Handling {α : Type} (p : HostM α) : Prop :=
  Within (fun o => servesSession o = true ∨ opensInput o = true) (fun o => tellsTray o = true) p.run

theorem Serving.handling {α : Type} {p : HostM α} (hp : Serving p) : Handling p :=
  Within.mono (fun _ => .inl) (fun _ h => h) hp

/-- The actions of a session on the signaling connection, the transport and the agent, apart from the
media that this process pumps and from the end of the session. -/
def conducts : HostAction → Bool
  | .takeSeq | .recv _ | .expired | .takeEndSession | .noted | .createOfferer
  | .configureSessionMedia _ | .attach _ | .startMedia | .mockDesktop | .takeOutboundSignals
  | .pollPeer | .applySignal .. | .waitReady _ | .connectionState | .pollInbound | .identityBound
  | .authorize _ | .send (.sessionOffer ..) | .send (.iceCandidate ..) => true
  | .agentRequest msg => !wasDetach msg
  | _ => false

/-- What conducts a session serves it. -/
theorem conducts_serving (o : HostAction) (h : conducts o = true) : servesSession o = true := by
  cases o with
  | send msg => cases msg <;> first | rfl | cases h
  | _ => first | rfl | cases h

/-- The actions of a session between two receives. -/
def attends : HostAction → Bool
  | .recv _ | .expired => false
  | o => conducts o

theorem conducts_of_attends {o : HostAction} (ho : attends o = true) : conducts o = true := by
  unfold attends at ho
  split at ho
  · cases ho
  · cases ho
  · exact ho

theorem attends_serving (o : HostAction) (h : attends o = true) : servesSession o = true :=
  conducts_serving o (conducts_of_attends h)

section Parts

/-- Telling the tray performs the tray's actions only. -/
theorem tellTray_within {A B : HostAction → Prop} {cfg : WsHostConfig} {told : TrayCall}
    (h : A (.tray told)) : Within A B (tellTray cfg told).run := by
  unfold tellTray
  split_ifs
  · exact .call h
  · exact .pure ()

/-- One operation of a session. -/
theorem call_serving {o : HostAction} (ho : servesSession o = true) : Serving (call o) :=
  Within.call (A := fun o => servesSession o = true) ho

/-- One operation of a session on which its caller may give up. -/
theorem use_serving {α : Type} {o : HostAction} (ho : servesSession o = true)
    (f : HostAnswer o → Except String α) : Serving (use o f) :=
  Within.use (A := fun o => servesSession o = true) ho f

variable {α : Type} {cfg : WsHostConfig} {X : HostText} {sid before : String}

theorem tellTray_serving (told : TrayCall) : Serving (tellTray cfg told) := tellTray_within rfl

theorem endWssSession_serving (reason : String) : Serving (endWssSession sid reason) :=
  .bind (call_serving rfl) fun _ => .bind (call_serving rfl) fun _ => .pure ()

section Attended

variable {A B : HostAction → Prop} (hA : ∀ o, attends o = true → A o)

include hA

theorem trayEndsSession_within : Within A B (trayEndsSession cfg).run := by
  unfold trayEndsSession
  split_ifs
  · exact .call (hA _ rfl)
  · exact .pure false

theorem giveUp_within (text : String) : Within A B (giveUp text : HostM α).run :=
  .use (hA _ rfl) _

theorem parsedIce_within (payload : String) : Within A B (parsedIce X payload).run := by
  unfold parsedIce
  split
  · exact .halt
  · exact giveUp_within hA _
  · exact .pure _

theorem sendIce_within (signals : List SignalForward) :
    Within A B (sendIce X before sid signals).run := by
  induction signals with
  | nil => exact .pure ()
  | cons s rest ih =>
    refine .bind (parsedIce_within hA _) fun c => .bind (.call (hA _ rfl)) fun seq => ?_
    exact .bind (.use (hA _ rfl) _) fun _ => ih

theorem applyOrFail_within (kind payload : String) :
    Within A B (applyOrFail before kind payload).run :=
  .use (hA _ rfl) _

theorem applyReceivedIce_within (r : Except SignalingError SignalMessage) :
    Within A B (applyReceivedIce X r).run := by
  unfold applyReceivedIce
  split
  · exact applyOrFail_within hA _ _
  · exact .pure ()

theorem receiveLive_within (r : Except SignalingError SignalMessage) :
    Within A B (receiveLive X r).run := by
  unfold receiveLive
  split
  · exact .pure _
  · exact .bind (.call (hA _ rfl)) fun _ => .pure none
  · exact .pure none
  · exact .pure none
  · exact .pure _

theorem startMediaOrMock_within : Within A B (startMediaOrMock cfg).run := by
  unfold startMediaOrMock
  split_ifs
  · refine .bind (.call (hA _ rfl)) fun started => ?_
    split
    · exact .pure ()
    · exact .bind (.call (hA _ rfl)) fun _ => .use (hA _ rfl) _
  · exact .use (hA _ rfl) _

theorem awaitBind_within (k : Nat) : Within A B (awaitBind k).run := by
  induction k with
  | zero => exact .pure ()
  | succ k ih =>
    refine .bind (.call (hA _ rfl)) fun _ => .bind (.call (hA _ rfl)) fun bound => ?_
    split
    · exact .pure ()
    · exact ih

/-- Starting a session sends the given messages. -/
theorem startSession_within (msgs : List ControlMessage)
    (hmsgs : ∀ msg ∈ msgs, wasDetach msg = false) : Within A B (startSession X msgs).run := by
  induction msgs with
  | nil => exact .pure []
  | cons msg rest ih =>
    have hmsg : attends (.agentRequest msg) = true := by
      simp [attends, conducts, hmsgs msg List.mem_cons_self]
    refine .bind (.use (hA _ hmsg) _) fun _ => ?_
    exact .bind (ih fun m hm => hmsgs m (List.mem_cons_of_mem _ hm)) fun _ => .pure _

theorem orGiveUp_within (r : Except String α) : Within A B (orGiveUp r).run := by
  rcases r with text | a
  · exact giveUp_within hA text
  · exact .pure a

theorem forwardAgentIceToWss_within (messages : List ControlMessage) :
    Within A B (forwardAgentIceToWss X sid messages).run := sendIce_within hA _

theorem viewerIce_within (candidate : IceCandidate) :
    Within A B (viewerIce X sid candidate).run :=
  .bind (.use (hA _ rfl) _) fun _ => forwardAgentIceToWss_within hA _

theorem earlyViewerIce_within (early : List IceCandidate) :
    Within A B (earlyViewerIce X sid early).run := by
  induction early with
  | nil => exact .pure ()
  | cons candidate rest ih => exact .bind (viewerIce_within hA candidate) fun _ => ih

theorem relayReceivedIce_within (r : Except SignalingError SignalMessage) :
    Within A B (relayReceivedIce X sid r).run := by
  unfold relayReceivedIce
  split
  · exact viewerIce_within hA _
  · exact .pure ()

theorem queryStats_within : Within A B (queryStats sid).run := .use (hA _ rfl) _

theorem settledVideo_within (video : Bool) : Within A B (settledVideo cfg sid video).run := by
  unfold settledVideo
  split_ifs
  · exact .bind (queryStats_within hA) fun _ => .pure _
  · exact .pure video

theorem liveViewerIce_within (hBA : ∀ o, B o → A o) (candidate : IceCandidate) :
    Within A B (liveViewerIce X sid candidate).run := by
  refine .bind (.use (hA _ rfl) _) fun answer => ?_
  split
  · exact .bind (.ignoring (forwardAgentIceToWss_within hA _) hBA) fun _ => .pure none
  · exact .pure _

theorem receiveAgentLive_within (hBA : ∀ o, B o → A o)
    (r : Except SignalingError SignalMessage) : Within A B (receiveAgentLive X sid r).run := by
  unfold receiveAgentLive
  split
  · exact .pure _
  · exact liveViewerIce_within hA hBA _
  · exact .pure none
  · exact .pure none
  · exact .pure _

end Attended

section Conducted

variable {A B : HostAction → Prop} (hA : ∀ o, conducts o = true → A o)

include hA

theorem attended (o : HostAction) (ho : attends o = true) : A o := hA o (conducts_of_attends ho)

theorem awaitAnswerLocal_within (n : Nat) : Within A B (awaitAnswerLocal X n).run := by
  induction n with
  | zero => exact .halt
  | succ n ih =>
    refine .bind (.use (hA _ rfl) _) fun _ => .bind (.use (hA _ rfl) _) fun msg => ?_
    split
    · exact applyOrFail_within (attended hA) _ _
    · exact .bind (applyOrFail_within (attended hA) _ _) fun _ => ih
    · exact ih

theorem trickleIceLocal_within (n : Nat) : Within A B (trickleIceLocal cfg X sid n).run := by
  induction n with
  | zero => exact .halt
  | succ n ih =>
    refine .bind (.call (hA _ rfl)) fun elapsed => ?_
    split
    · exact .pure ()
    · refine .bind (trayEndsSession_within (attended hA)) fun ends => ?_
      split
      · exact giveUp_within (attended hA) _
      · refine .bind (.call (hA _ rfl)) fun _ => .bind (.call (hA _ rfl)) fun signals => ?_
        refine .bind (sendIce_within (attended hA) _) fun _ =>
          .bind (.call (hA _ rfl)) fun received => ?_
        refine .bind (applyReceivedIce_within (attended hA) _) fun _ =>
          .bind (.call (hA _ rfl)) fun state => ?_
        split
        · exact .pure ()
        · exact ih

theorem relayOfferAnswerIceLocal_within (n : Nat) (offer : SdpPayload)
    (pending : List SignalForward) :
    Within A B (relayOfferAnswerIceLocal cfg X n sid offer pending).run := by
  refine .bind (.call (hA _ rfl)) fun seq => .bind (.use (hA _ rfl) _) fun _ => ?_
  refine .bind (awaitAnswerLocal_within hA n) fun _ => .bind (.call (hA _ rfl)) fun _ => ?_
  refine .bind (.call (hA _ rfl)) fun signals => .bind (sendIce_within (attended hA) _) fun _ => ?_
  exact trickleIceLocal_within hA n

/-- Live media conducts a session and pumps. -/
theorem pumpLiveLocal_within (hpump : ∀ k, A (.pumpMedia k)) (n : Nat) (totals : PumpStats) :
    Within A B (pumpLiveLocal cfg X n totals).run := by
  induction n generalizing totals with
  | zero => exact .halt
  | succ n ih =>
    refine .bind (trayEndsSession_within (attended hA)) fun ends => ?_
    split
    · exact .pure _
    refine .bind (.call (hA _ rfl)) fun state => ?_
    split
    · exact .pure _
    refine .bind (.call (hA _ rfl)) fun received =>
      .bind (receiveLive_within (attended hA) _) fun reason => ?_
    split
    · exact .pure _
    refine .bind (.call (hA _ rfl)) fun _ => .bind (.call (hpump _)) fun pumped => ?_
    split
    · split
      · exact .pure _
      · exact ih _
    · split
      · exact ih _
      · exact .pure _

theorem driveLocalMedia_within (hpump : ∀ k, A (.pumpMedia k)) (n : Nat) :
    Within A B (driveLocalMedia cfg X n).run := by
  unfold driveLocalMedia
  split_ifs
  · exact .bind (.use (hpump _) _) fun _ => .pure _
  · exact pumpLiveLocal_within hA hpump n _

theorem awaitAnswerAgent_within (n : Nat) (early : List IceCandidate) :
    Within A B (awaitAnswerAgent X sid n early).run := by
  induction n generalizing early with
  | zero => exact .halt
  | succ n ih =>
    refine .bind (.call (hA _ rfl)) fun elapsed => ?_
    split
    · exact .pure _
    refine .bind (.use (hA _ rfl) _) fun msg => ?_
    split
    · exact .bind (.bind (.use (hA _ rfl) _) fun _ => .pure _) fun _ => .pure _
    · exact ih _
    · exact ih _

theorem driveAgentLive_within (hBA : ∀ o, B o → A o) (n : Nat) :
    Within A B (driveAgentLive cfg X sid n).run := by
  induction n with
  | zero => exact .halt
  | succ n ih =>
    refine .bind (trayEndsSession_within (attended hA)) fun ends => ?_
    split
    · exact .pure _
    refine .bind (.call (hA _ rfl)) fun received => ?_
    refine .bind (receiveAgentLive_within (attended hA) hBA _) fun reason => ?_
    split
    · exact .pure _
    · exact .bind (.call (hA _ rfl)) fun _ => ih

end Conducted

/-! ### Whole sessions -/

theorem giveUp_serving (text : String) : Serving (giveUp text : HostM α) :=
  giveUp_within attends_serving text

theorem driveLocalMedia_serving (n : Nat) : Serving (driveLocalMedia cfg X n) :=
  driveLocalMedia_within conducts_serving (fun _ => rfl) n

theorem awaitBind_serving (k : Nat) : Serving (awaitBind k) := awaitBind_within attends_serving k

theorem authorizeOrOpen_handling (mode : SessionMode) : Handling (authorizeOrOpen mode) := by
  refine .bind (Serving.handling (call_serving rfl)) fun auth => ?_
  split
  · exact (awaitBind_serving 40).handling
  · exact .bind (.call (.inr rfl)) fun _ => .call (.inr rfl)

theorem tellTrayOnError_serving (told : String → TrayCall) {p : HostM α} (hp : Serving p) :
    Serving (tellTrayOnError cfg told p) := by
  refine .recover hp (fun a => .pure a) fun t => ?_
  show Ends _ t (tellTray cfg (told t) >>= fun _ => throw t).run
  unfold tellTray
  split_ifs
  · exact Ends.call (B := fun o => tellsTray o = true) rfl fun _ => .throw t
  · exact Ends.throw t

/-- **A session in this process**, up to its authorization. -/
theorem openSessionLocal_serving (n : Nat) : Serving (openSessionLocal cfg X n sid) := by
  refine .bind (tellTray_serving _) fun _ => .bind (use_serving rfl _) fun _ => ?_
  refine .bind (call_serving rfl) fun _ => .bind (call_serving rfl) fun _ => ?_
  refine .bind (startMediaOrMock_within attends_serving) fun _ => ?_
  refine .bind (use_serving rfl _) fun outbound => ?_
  refine .bind (tellTrayOnError_serving _ (relayOfferAnswerIceLocal_within conducts_serving n _ _))
    fun _ => ?_
  refine .bind (tellTrayOnError_serving _ (use_serving rfl _)) fun _ => ?_
  exact tellTray_serving _

/-- **A session in this process**, up to the end of its media. -/
theorem runSessionLocal_handling (n : Nat) (mode : SessionMode) :
    Handling (runSessionLocal cfg X n sid mode) := by
  refine .bind (openSessionLocal_serving n).handling fun _ => ?_
  dsimp only
  split
  · exact .bind (authorizeOrOpen_handling mode) fun _ => (driveLocalMedia_serving n).handling
  · exact (driveLocalMedia_serving n).handling

theorem concludeSessionLocal_serving (pump : PumpStats) (endReason : String) :
    Serving (concludeSessionLocal cfg sid pump endReason) := by
  unfold concludeSessionLocal
  split_ifs
  · exact .bind (call_serving rfl) fun _ => .bind (tellTray_serving _) fun _ => giveUp_serving _
  · refine .bind (use_serving rfl _) fun _ => .bind (endWssSession_serving _) fun _ => ?_
    exact .bind (call_serving rfl) fun _ => tellTray_serving _

theorem detachAgent_serving (reason : String) : Serving (detachAgent sid reason) :=
  .bind (call_serving rfl) fun _ => .pure ()

theorem abandonAgent_serving (reason text : String) (told : TrayCall) :
    Serving (abandonAgent cfg sid reason text told : HostM α) := by
  refine .bind (detachAgent_serving reason) fun _ => ?_
  exact .bind (tellTray_serving told) fun _ => giveUp_serving text

theorem trickleIceAgent_serving (n : Nat) (connected video : Bool) :
    Serving (trickleIceAgent cfg X sid n connected video) := by
  induction n generalizing connected video with
  | zero => exact .halt
  | succ n ih =>
    refine .bind (call_serving rfl) fun elapsed => ?_
    split
    · exact .pure _
    refine .bind (trayEndsSession_within attends_serving) fun ends => ?_
    split
    · exact abandonAgent_serving _ _ _
    refine .bind (call_serving rfl) fun received => ?_
    refine .bind (relayReceivedIce_within attends_serving _) fun _ => ?_
    refine .bind (queryStats_within attends_serving) fun stats => ?_
    refine .bind (forwardAgentIceToWss_within attends_serving _) fun _ => ?_
    dsimp only
    split
    · exact .pure _
    · exact ih _ _

theorem driveAgentMedia_serving (n : Nat) (hostIce : List SignalForward)
    (early : List IceCandidate) : Serving (driveAgentMedia cfg X n sid hostIce early) := by
  have htells : ∀ o, tellsTray o = true → servesSession o = true := by
    intro o ho
    cases o <;> first | rfl | cases ho
  refine .bind (sendIce_within attends_serving _) fun _ => ?_
  refine .bind (earlyViewerIce_within attends_serving _) fun _ => ?_
  refine .bind (trickleIceAgent_serving n false false) fun ⟨connected, video⟩ => ?_
  dsimp only
  split
  · exact abandonAgent_serving _ _ _
  refine .bind (tellTray_serving _) fun _ => ?_
  refine .bind (settledVideo_within attends_serving _) fun video => ?_
  split
  · exact abandonAgent_serving _ _ _
  split
  · exact driveAgentLive_within conducts_serving htells n
  · exact .pure _

/-- What starts a session does not end it. -/
theorem startSequence_not_detach (enableInput : Bool) (bootSecret : Option String) :
    ∀ msg ∈ buildSessionStartSequence sid enableInput bootSecret, wasDetach msg = false := by
  simp [buildSessionStartSequence, wasDetach]

/-- **A session on the agent**, up to the end of its media. -/
theorem runSessionAgent_serving (n : Nat) : Serving (runSessionAgent cfg X n sid) := by
  refine .bind (tellTray_serving _) fun _ => ?_
  refine .bind (startSession_within attends_serving _ (startSequence_not_detach _ _))
    fun outbound => ?_
  refine .bind (orGiveUp_within attends_serving _) fun offer => ?_
  refine .bind (call_serving rfl) fun seq => .bind (use_serving rfl _) fun _ => ?_
  refine .bind (awaitAnswerAgent_within conducts_serving n []) fun answered => ?_
  split
  · exact abandonAgent_serving _ _ _
  · exact driveAgentMedia_serving n _ _

end Parts

/-! ## The service around the sessions -/

/-- What the service does after a session has failed: it waits for the next one on the same
connection, asks the tray whether to exit and else waits, connects again, or returns. -/
inductive Aftermath where
  | waits
  | asksTray
  | reconnects
  | returns
  deriving Repr, DecidableEq

/-- What becomes of the service after a session has failed with a text. -/
def WsHostConfig.aftermath (cfg : WsHostConfig) (text : String) : Aftermath :=
  if isTrayEnd text then
    if cfg.isMulti then
      if cfg.tray then .asksTray else .waits
    else .returns
  else if cfg.isMulti && !isConnectionFailure text && isWaitTimeout text then .waits
  else if cfg.reconnect then .reconnects
  else .returns

/-- The actions between sessions and between connections. -/
def connects : HostAction → Bool
  | .connect | .close | .recv _ | .takeExit | .send (.hello ..) => true
  | _ => false

/-- The actions between sessions that receive nothing. -/
def leaves : HostAction → Bool
  | .close | .takeExit => true
  | _ => false

/-- The actions of the wait for a session. -/
def listens : HostAction → Bool
  | .waitingForIncoming | .expired | .recv _ | .setNextSeq _ | .takeSeq => true
  | _ => false

/-- The host waits for a session only while a property holds. -/
def waitingOnlyIf {σ ε : Type} (assume : HostCall → ε → σ → Prop) (clean : σ → Prop) :
    Contract HostCall σ ε where
  assume := assume
  require c w := c.action = .waitingForIncoming → clean w

section Service

variable {σ ε ι : Type}

/-- The actions that open a window and show its code. -/
def mints : HostAction → Bool
  | .mintLocal | .postOtpHash .. | .tray _ => true
  | _ => false

/-- The actions before the first connection. -/
def starts : HostAction → Bool
  | .enroll | .enableUnattended _ | .mintLocal | .postOtpHash .. | .tray _ | .agentConnect => true
  | _ => false

/-- The actions that do not tell the tray of a session. -/
def tellsNoSession : HostAction → Bool
  | .tray (.setIdentity _) | .tray (.setOtp _) => true
  | .tray _ => false
  | _ => true

/-- Opening a window performs its actions only. -/
theorem maybeMintOtp_within {A B : HostAction → Prop}
    (hA : ∀ o, mints o = true → tellsNoSession o = true → A o)
    (cfg : WsHostConfig) (enrolled : EnrolledHost) :
    Within A B (maybeMintOtp cfg enrolled).run := by
  unfold maybeMintOtp
  split_ifs
  · refine .bind (.use (hA _ rfl rfl) _) fun ⟨code, hash⟩ => ?_
    exact .bind (.use (hA _ rfl rfl) _) fun _ => tellTray_within (hA _ rfl rfl)
  · exact .pure ()

/-- Opening unattended access performs its action only. -/
theorem enableConfigured_within {A B : HostAction → Prop}
    (hA : ∀ secret, A (.enableUnattended secret)) (cfg : WsHostConfig) :
    Within A B (enableConfigured cfg).run := by
  unfold enableConfigured
  split
  · exact .use (hA _) _
  · exact .pure ()

/-- Connecting the agent performs its action only. -/
theorem connectAgent_within {A B : HostAction → Prop} (hA : A .agentConnect) (cfg : WsHostConfig) :
    Within A B (connectAgent cfg).run := by
  unfold connectAgent
  split_ifs
  · exact .use hA _
  · exact .pure ()

/-- Starting performs actions before the first connection only. -/
theorem startHost_within {A B : HostAction → Prop}
    (hA : ∀ o, starts o = true → tellsNoSession o = true → A o)
    (cfg : WsHostConfig) : Within A B (startHost cfg).run := by
  have hmints : ∀ o, mints o = true → tellsNoSession o = true → A o := by
    intro o ho htold
    refine hA o ?_ htold
    cases o <;> first | rfl | cases ho
  refine .bind (.use (hA _ rfl rfl) _) fun enrolled => ?_
  refine .bind (tellTray_within (hA _ rfl rfl)) fun _ => ?_
  refine .bind (enableConfigured_within (fun _ => hA _ rfl rfl) cfg) fun _ => ?_
  exact .bind (maybeMintOtp_within hmints cfg enrolled) fun _ =>
    .bind (connectAgent_within (hA _ rfl rfl) cfg) fun _ => .pure _

/-- Waiting for a session performs actions of a wait only. -/
theorem recvIncoming_within (n : Nat) :
    Within (fun o => listens o = true) (fun _ => False) (recvIncoming n).run := by
  induction n with
  | zero => exact .halt
  | succ n ih =>
    refine .bind (.use (A := fun o => listens o = true) rfl _) fun _ => ?_
    refine .bind (.use (A := fun o => listens o = true) rfl _) fun msg => ?_
    split
    · exact .pure _
    · exact ih

section

variable {M : Machine HostCall (fun c => HostAnswer c.action) σ ε ι} {K : Contract HostCall σ ε}
  {assume : HostCall → ε → σ → Prop} {clean P : σ → Prop} {lost : String → σ → Prop}

/-- **Accepting a session**: nothing changes before the accept. -/
theorem acceptIncomingSession_spec (hclean : M.Stable clean) (hlost : ∀ t, M.Stable (lost t))
    (hrequire : ∀ c w, listens c.action = true → clean w → K.require c w)
    (hlisten : ∀ c w e a w', listens c.action = true → clean w → K.assume c e w →
      M.act c e w = some (a, w') → clean w')
    (hfail : ∀ t w, clean w → lost t w) {accepted : String × SessionMode → σ → Prop}
    (haccepted : ∀ r, M.Stable (accepted r))
    (haccept : ∀ sid mode seq, Spec M K clean
      (sendOrFail "accept: " (.sessionAccept sid seq)) (fun _ => accepted (sid, mode)) lost)
    (n : Nat) : Spec M K clean (acceptIncomingSession n) accepted lost := by
  have hcall : ∀ o : HostAction, listens o = true →
      Spec M K clean (call o) (fun _ => clean) lost := fun o ho =>
    .call hclean (fun _ => hclean) (fun w hw => hrequire ⟨o, _⟩ w ho hw)
      fun w e a w' hw hassume hact => hlisten ⟨o, _⟩ w e a w' ho hw hassume hact
  refine .bind (hcall .waitingForIncoming rfl) hlost fun _ => ?_
  refine .bind (Ψ := fun _ => clean) ?_ hlost fun ⟨sid, incomingSeq, mode⟩ => ?_
  · refine (recvIncoming_within n).spec hclean hlost hrequire ?_
      (fun _ _ _ hfalse => hfalse.elim) fun _ _ _ _ _ _ hfalse => hfalse.elim
    intro c w e a w' hc hw hassume hact
    have hw' := hlisten c w e a w' hc hw hassume hact
    exact ⟨hw', fun t _ => hfail t w' hw'⟩
  · refine .bind (hcall (.setNextSeq _) rfl) hlost fun _ => ?_
    refine .bind (hcall .takeSeq rfl) hlost fun seq => ?_
    refine .bind (haccept sid mode seq) hlost fun _ => ?_
    exact .pure (haccepted _) fun _ hw => hw

/-- **An accepted session keeps what its actions keep.** -/
theorem Handling.spec {α : Type} {p : HostM α} (hp : Handling p) (hP : M.Stable P)
    (hlost : ∀ t, M.Stable (lost t))
    (hstep : ∀ c w e a w', servesSession c.action = true ∨ opensInput c.action = true → P w →
      assume c e w → M.act c e w = some (a, w') →
        P w' ∧ ∀ t, c.givesUp a = some t → lost t w')
    (hkeep : ∀ c t w e a w', tellsTray c.action = true → lost t w → assume c e w →
      M.act c e w = some (a, w') → lost t w') :
    Spec M (waitingOnlyIf assume clean) P p (fun _ => P) lost := by
  refine Within.spec hp hP hlost ?_ hstep ?_ ?_
  · intro c w hc _ hwait
    rw [hwait] at hc
    obtain hc | hc := hc <;> cases hc
  · intro c t w hc _ hwait
    rw [hwait] at hc
    cases hc
  · exact fun c t w e a w' hc _ hw hassume hact => hkeep c t w e a w' hc hw hassume hact

/-- Giving up never returns. -/
theorem giveUp_spec {α : Type} {text : String} {Φ : α → σ → Prop} (hP : M.Stable P)
    (hΦ : ∀ a, M.Stable (Φ a)) (hlost : ∀ t, M.Stable (lost t))
    (hstep : ∀ w e a w', P w → assume ⟨.noted, fun _ => some text⟩ e w →
      M.act ⟨.noted, fun _ => some text⟩ e w = some (a, w') → lost text w') :
    Spec M (waitingOnlyIf assume clean) P (giveUp text : HostM α) Φ lost :=
  .use hP hΦ hlost (fun _ _ hwait => by cases hwait) hstep

/-- Connecting performs actions of a connection only. -/
theorem connectHost_within {X : HostText} (enrolled : EnrolledHost) :
    Within (fun o => connects o = true) (fun _ => False) (connectHost X enrolled).run := by
  refine .bind (.use (A := fun o => connects o = true) rfl _) fun _ => ?_
  refine .bind (.use (A := fun o => connects o = true) rfl _) fun _ => ?_
  exact .use (A := fun o => connects o = true) rfl _

/-- **Connecting keeps what its actions keep.** -/
theorem connectHost_spec {X : HostText} (hclean : M.Stable clean)
    (hrequire : ∀ c w, connects c.action = true → clean w → K.require c w)
    (hconnect : ∀ c w e a w', connects c.action = true → clean w → K.assume c e w →
      M.act c e w = some (a, w') → clean w') (enrolled : EnrolledHost) :
    Spec M K clean (connectHost X enrolled) (fun _ => clean) fun _ => clean := by
  refine (connectHost_within enrolled).spec hclean (fun _ => hclean) hrequire ?_
    (fun _ _ _ hfalse => hfalse.elim) fun _ _ _ _ _ _ hfalse => hfalse.elim
  intro c w e a w' hc hw hassume hact
  have hw' := hconnect c w e a w' hc hw hassume hact
  exact ⟨hw', fun _ _ => hw'⟩

/-- Asking the tray keeps what it keeps. -/
theorem takeExit_spec (hclean : M.Stable clean)
    (hrequire : ∀ c w, connects c.action = true → clean w → K.require c w)
    (hconnect : ∀ c w e a w', connects c.action = true → clean w → K.assume c e w →
      M.act c e w = some (a, w') → clean w') {E : String → σ → Prop} :
    Spec M K clean (call .takeExit) (fun _ => clean) E :=
  .call hclean (fun _ => hclean) (fun w hw => hrequire ⟨.takeExit, _⟩ w rfl hw)
    fun w e a w' hw hassume hact => hconnect ⟨.takeExit, _⟩ w e a w' rfl hw hassume hact

end

/-- What a property needs for the service to keep it: `clean` holds while the host waits, `done`
after a completed session, and `lost t` after a session that has failed with `t`. -/
structure Upkeep (cfg : WsHostConfig) (X : HostText)
    (M : Machine HostCall (fun c => HostAnswer c.action) σ ε ι)
    (assume : HostCall → ε → σ → Prop) (clean done : σ → Prop) (lost : String → σ → Prop) :
    Prop where
  cleanStable : M.Stable clean
  doneStable : M.Stable done
  lostStable : ∀ t, M.Stable (lost t)
  session : ∀ n, Spec M (waitingOnlyIf assume clean) clean (handleOneSession cfg X n)
    (fun _ => done) lost
  remint : ∀ enrolled, Spec M (waitingOnlyIf assume clean) done (remintAfter cfg enrolled)
    (fun _ => clean) fun _ _ => False
  connect : ∀ c w e a w', connects c.action = true → clean w → assume c e w →
    M.act c e w = some (a, w') → clean w'
  waits : ∀ t w, cfg.aftermath t = .waits → lost t w → clean w
  asksTray : ∀ t, cfg.aftermath t = .asksTray →
    Spec M (waitingOnlyIf assume clean) (lost t) (call .takeExit)
      (fun (exits : Bool) w => exits = false → clean w) fun _ _ => False
  reconnects : ∀ t, cfg.aftermath t = .reconnects →
    Spec M (waitingOnlyIf assume clean) (lost t) (call .close) (fun _ => clean) fun _ _ => False

/-- What a contract needs for the service to respect it, with properties as for `Upkeep`: the
contract requires nothing of the end of a connection and of the question to the tray. -/
structure Regime (cfg : WsHostConfig) (X : HostText)
    (M : Machine HostCall (fun c => HostAnswer c.action) σ ε ι) (K : Contract HostCall σ ε)
    (clean done : σ → Prop) (lost : String → σ → Prop) : Prop where
  cleanStable : M.Stable clean
  doneStable : M.Stable done
  lostStable : ∀ t, M.Stable (lost t)
  leave : ∀ c w, leaves c.action = true → K.require c w
  exits : Spec M K clean (call .takeExit) (fun _ => clean) fun _ _ => False
  session : ∀ n, Spec M K clean (handleOneSession cfg X n) (fun _ => done) lost
  remint : ∀ enrolled, Spec M K done (remintAfter cfg enrolled) (fun _ => clean) fun _ _ => False
  connect : ∀ enrolled, Spec M K clean (connectHost X enrolled) (fun _ => clean) fun _ => clean
  waits : ∀ t w, cfg.aftermath t = .waits → lost t w → clean w
  asksTray : ∀ t, cfg.aftermath t = .asksTray →
    Spec M K (lost t) (call .takeExit) (fun (exits : Bool) w => exits = false → clean w)
      fun _ _ => False
  reconnects : ∀ t, cfg.aftermath t = .reconnects →
    Spec M K (lost t) (call .close) (fun _ => clean) fun _ _ => False

/-- The contract of a property that holds whenever the host waits for a session. -/
theorem Upkeep.regime {cfg : WsHostConfig} {X : HostText}
    {M : Machine HostCall (fun c => HostAnswer c.action) σ ε ι}
    {assume : HostCall → ε → σ → Prop} {clean done : σ → Prop} {lost : String → σ → Prop}
    (U : Upkeep cfg X M assume clean done lost) :
    Regime cfg X M (waitingOnlyIf assume clean) clean done lost :=
  have hrequire : ∀ (c : HostCall) (w : σ), connects c.action = true → clean w →
      (waitingOnlyIf assume clean).require c w := fun _ _ _ hw _ => hw
  { U with
    leave := by
      rintro c w hc hwait
      rw [hwait] at hc
      cases hc
    exits := takeExit_spec U.cleanStable hrequire U.connect
    connect := connectHost_spec U.cleanStable hrequire U.connect }

namespace Regime

variable {cfg : WsHostConfig} {X : HostText}
  {M : Machine HostCall (fun c => HostAnswer c.action) σ ε ι} {K : Contract HostCall σ ε}
  {clean done : σ → Prop} {lost : String → σ → Prop}

/-- The connection that serving sessions leaves behind: an error is followed by another connection
if the service reconnects. -/
def Served (cfg : WsHostConfig) (clean : σ → Prop) (r : Nat × Except String Unit) (w : σ) : Prop :=
  ∀ t, r.2 = .error t → cfg.reconnect = true → clean w

theorem Served.stable (h : M.Stable clean) (r : Nat × Except String Unit) :
    M.Stable (Served cfg clean r) :=
  fun i w w' hw hi t ht hre => h i w w' (hw t ht hre) hi

/-- An action between sessions, from any stable property. -/
theorem call_any (R : Regime cfg X M K clean done lost) {P : σ → Prop} (hP : M.Stable P)
    {o : HostAction} (ho : leaves o = true) {E : String → σ → Prop} :
    Spec M K P (call o) (fun _ _ => True) E :=
  .call hP (fun _ _ _ _ _ _ => trivial) (fun w _ => R.leave ⟨o, _⟩ w ho)
    fun _ _ _ _ _ _ _ => trivial

/-- Closing with a result that ends the service. -/
theorem closing_ok (R : Regime cfg X M K clean done lost) {P : σ → Prop} (hP : M.Stable P)
    (completed : Nat) :
    Spec M K P (closing completed (.ok ())) (Served cfg clean) fun _ _ => False := by
  refine .bind (R.call_any hP rfl) (fun _ _ _ _ h _ => h) fun _ => ?_
  refine .pure (fun _ _ _ _ _ => trivial) fun w _ t ht => ?_
  cases ht

/-- Closing with an error: the service connects again only while the property holds. -/
theorem closing_error (R : Regime cfg X M K clean done lost) {t : String}
    (hnot : isTrayEnd t = false)
    (hnot' : (cfg.isMulti && !isConnectionFailure t && isWaitTimeout t) = false)
    (completed : Nat) :
    Spec M K (lost t) (closing completed (.error t)) (Served cfg clean) fun _ _ => False := by
  by_cases hre : cfg.reconnect = true
  · have haftermath : cfg.aftermath t = .reconnects := by
      simp [WsHostConfig.aftermath, hnot, hnot', hre]
    refine .bind (R.reconnects t haftermath) (fun _ _ _ _ h _ => h) fun _ => ?_
    exact .pure R.cleanStable fun w hw _ _ _ => hw
  · refine .bind (R.call_any (R.lostStable t) rfl) (fun _ _ _ _ h _ => h) fun _ => ?_
    exact .pure (fun _ _ _ _ _ => trivial) fun w _ _ _ hre' => absurd hre' hre

/-- After the end of a session from the tray, the service waits again only while the property
holds. -/
theorem trayExits_spec (R : Regime cfg X M K clean done lost) {t : String}
    (htray : isTrayEnd t = true) :
    Spec M K (lost t) (trayExits cfg)
      (fun (exits : Bool) w => exits = false → cfg.isMulti = true → clean w)
      fun _ _ => False := by
  have hstable : ∀ exits : Bool,
      M.Stable fun w => exits = false → cfg.isMulti = true → clean w :=
    fun exits i w w' hw hi he hm => R.cleanStable i w w' (hw he hm) hi
  unfold trayExits
  split_ifs with hasTray
  · by_cases hmulti : cfg.isMulti = true
    · have haftermath : cfg.aftermath t = .asksTray := by
        simp [WsHostConfig.aftermath, htray, hmulti, hasTray]
      exact (R.asksTray t haftermath).conseq (fun _ h => h) (fun _ _ h he _ => h he)
        fun _ _ h => h
    · exact (R.call_any (R.lostStable t) rfl).conseq (fun _ h => h)
        (fun _ _ _ _ hm => absurd hm hmulti) fun _ _ h => h
  · refine .pure (R.lostStable t) fun w hw _ hmulti => R.waits t w ?_ hw
    simp [WsHostConfig.aftermath, htray, hmulti, hasTray]

/-- **After a failure**: the service waits again only while the property holds. -/
theorem afterFailure_spec (R : Regime cfg X M K clean done lost) (t : String)
    (completed : Nat) {again : HostM (Nat × Except String Unit)}
    (hagain : Spec M K clean again (Served cfg clean) fun _ _ => False) :
    Spec M K (lost t) (afterFailure cfg completed t again) (Served cfg clean)
      fun _ _ => False := by
  unfold afterFailure
  by_cases htray : isTrayEnd t = true
  · rw [if_pos htray]
    refine .bind (R.trayExits_spec htray) (fun _ _ _ _ h _ => h) fun exits => ?_
    have hstable : M.Stable fun w => exits = false → cfg.isMulti = true → clean w :=
      fun i w w' hw hi he hm => R.cleanStable i w w' (hw he hm) hi
    split_ifs with hexits hmulti
    · exact R.closing_ok hstable completed
    · exact hagain.conseq (fun w hw => hw (by simpa using hexits) hmulti) (fun _ _ h => h)
        fun _ _ h => h
    · exact R.closing_ok hstable completed
  · rw [if_neg htray]
    have htray' : isTrayEnd t = false := by simpa using htray
    split_ifs with hmulti hfailure hwait
    · exact R.closing_error htray' (by simp [hfailure]) completed
    · refine hagain.conseq (fun w hw => R.waits t w ?_ hw) (fun _ _ h => h) fun _ _ h => h
      simp [WsHostConfig.aftermath, htray', hmulti, hfailure, hwait]
    · exact R.closing_error htray' (by simp [hwait]) completed
    · exact R.closing_error htray' (by simp [hmulti]) completed

/-- **Serving sessions on one connection.** -/
theorem serveSessions_spec (R : Regime cfg X M K clean done lost) (enrolled : EnrolledHost)
    (n completed : Nat) :
    Spec M K clean (serveSessions cfg X enrolled n completed) (Served cfg clean)
      fun _ _ => False := by
  induction n generalizing completed with
  | zero => exact .halt
  | succ n ih =>
    unfold serveSessions
    by_cases hdone : cfg.isDone completed = true
    · rw [if_pos hdone]
      exact R.closing_ok R.cleanStable completed
    rw [if_neg hdone]
    refine .bind (.attempt (R.session n) (fun _ => R.doneStable) R.lostStable)
      (fun _ _ _ _ h _ => h) fun r => ?_
    rcases r with t | u
    · exact R.afterFailure_spec t completed (ih completed)
    · refine .bind (R.remint enrolled) (fun _ _ _ _ h _ => h) fun _ => ?_
      refine .bind (Ψ := fun _ => clean) ?_ (fun _ _ _ _ h _ => h) fun exits => ?_
      · unfold trayExits
        split_ifs
        · exact R.exits
        · exact .pure R.cleanStable fun _ hw => hw
      · split_ifs
        · exact R.closing_ok R.cleanStable _
        · exact ih _

/-- **Serving on one connection**, from the connect on. -/
theorem serveConnection_spec (R : Regime cfg X M K clean done lost) (enrolled : EnrolledHost)
    (n completed : Nat) :
    Spec M K clean (serveConnection cfg X enrolled n completed) (Served cfg clean)
      fun _ _ => False := by
  refine .bind (.attempt (R.connect enrolled) (fun _ => R.cleanStable)
    fun _ => R.cleanStable) (fun _ _ _ _ h _ => h) fun r => ?_
  rcases r with t | u
  · exact .pure R.cleanStable fun _ hw _ _ _ => hw
  · exact R.serveSessions_spec enrolled n completed

/-- **Serving on one connection after another.** -/
theorem serveConnections_spec (R : Regime cfg X M K clean done lost)
    (enrolled : EnrolledHost) (n completed : Nat) :
    Spec M K clean (serveConnections cfg X enrolled n completed) (fun _ _ => True)
      fun _ _ => True := by
  induction n generalizing completed with
  | zero => exact .halt
  | succ n ih =>
    unfold serveConnections
    by_cases hdone : cfg.isDone completed = true
    · rw [if_pos hdone]
      exact .pure R.cleanStable fun _ _ => trivial
    rw [if_neg hdone]
    have hserve := (R.serveConnection_spec enrolled n completed).conseq (fun _ h => h)
      (fun _ _ h => h) (fun _ _ _ => trivial : ∀ (_ : String) _, False → True)
    refine .bind hserve (fun _ _ _ _ _ _ => trivial) fun ⟨completed', r⟩ => ?_
    rcases r with t | u
    · dsimp only
      split_ifs with hre
      · exact (ih completed').conseq (fun w hw => hw t rfl hre) (fun _ _ h => h) fun _ _ h => h
      · exact .throw (Served.stable R.cleanStable _) fun _ _ => trivial
    · exact .pure (Served.stable R.cleanStable _) fun _ _ => trivial

/-- **The service respects the contract**, if it does until it has started. -/
theorem service (R : Regime cfg X M K clean done lost) {init : σ → Prop}
    (hstart : Spec M K init (startHost cfg) (fun _ => clean) fun _ _ => True) (n : Nat) :
    Spec M K init (runWsHostService cfg X n) (fun _ _ => True) fun _ _ => True :=
  .bind hstart (fun _ _ _ _ _ _ => trivial) fun enrolled => R.serveConnections_spec enrolled n 0

end Regime

/-! ## Runs of the service -/

/-- The unfoldings of the service. -/
def serviceRuns (cfg : WsHostConfig) (X : HostText)
    (p : Prog HostCall (fun c => HostAnswer c.action) (Except String Nat)) : Prop :=
  ∃ n, p = (runWsHostService cfg X n).run

/-- Whether the host is about to wait for a session. -/
def waiting {α : Type} : Prog HostCall (fun c => HostAnswer c.action) α → Bool
  | .op ⟨.waitingForIncoming, _⟩ _ => true
  | _ => false

theorem waiting_iff {α : Type} {p : Prog HostCall (fun c => HostAnswer c.action) α} :
    waiting p = true ↔ ∃ (c : HostCall) (k : HostAnswer c.action → _), p = .op c k ∧
      c.action = .waitingForIncoming := by
  constructor
  · intro h
    unfold waiting at h
    split at h
    · exact ⟨_, _, rfl, rfl⟩
    · cases h
  · rintro ⟨⟨o, g⟩, k, rfl, rfl⟩
    rfl

/-- Every unfolding of the service is safe. -/
theorem Regime.safe {cfg : WsHostConfig} {X : HostText}
    {M : Machine HostCall (fun c => HostAnswer c.action) σ ε ι} {K : Contract HostCall σ ε}
    {clean done init : σ → Prop} {lost : String → σ → Prop}
    (R : Regime cfg X M K clean done lost)
    (hstart : Spec M K init (startHost cfg) (fun _ => clean) fun _ _ => True)
    (p : Prog HostCall (fun c => HostAnswer c.action) (Except String Nat)) (w : σ)
    (hp : serviceRuns cfg X p) (hw : init w) : Safe M K p (fun _ _ => True) w := by
  obtain ⟨n, rfl⟩ := hp
  exact (R.service hstart n w hw).mono fun _ _ _ => trivial

/-- **The run lemma**: in every run whose answers are as assumed, the property holds whenever the host
waits for a session. -/
theorem Upkeep.always {cfg : WsHostConfig} {X : HostText}
    {M : Machine HostCall (fun c => HostAnswer c.action) σ ε ι}
    {assume : HostCall → ε → σ → Prop} {clean done init : σ → Prop} {lost : String → σ → Prop}
    (U : Upkeep cfg X M assume clean done lost)
    (hstart : Spec M (waitingOnlyIf assume clean) init (startHost cfg) (fun _ => clean)
      fun _ _ => True)
    {s : Prog HostCall (fun c => HostAnswer c.action) (Except String Nat) × σ}
    (h : (M.system (serviceRuns cfg X) init).ReachableVia
      (waitingOnlyIf assume clean).Assumed s)
    (hs : waiting s.1 = true) : clean s.2 := by
  obtain ⟨c, k, hop, hc⟩ := waiting_iff.mp hs
  exact M.always (U.regime.safe hstart) h hop hc

end Service

/-! ## Surroundings for evaluating the service -/

/-- Texts and JSON functions. -/
def demoText : HostText where
  codec := ⟨fun p => p.sdp, fun text => .ok ⟨text, none⟩, fun c => c.candidate, fun _ => none,
    fun _ => none, fun _ => none⟩
  debugSignal _ := ""
  debugControl _ := ""

/-- Surroundings in which everything succeeds, with what is received and whether the time has
elapsed. -/
def demoAnswers (received : Except SignalingError SignalMessage) (elapsed : Bool) :
    (o : HostAction) → HostAnswer o
  | .enroll => .ok ⟨"host", "token"⟩
  | .enableUnattended _ => .ok ()
  | .mintLocal => .ok ("123456", ⟨[], [], true⟩)
  | .postOtpHash .. => .ok ()
  | .connect => .ok ()
  | .send _ => .ok ()
  | .recv _ => received
  | .takeSeq => 1
  | .expired => elapsed
  | .takeEndSession => false
  | .takeExit => false
  | .identityBound => true
  | .createOfferer => .ok ()
  | .startMedia => .ok ()
  | .applySignal .. => .ok ()
  | .waitReady _ => .ok ()
  | .takeOutboundSignals => [⟨"s", SignalKind.sessionOffer, "v=0", .agent⟩]
  | .authorize _ => .ok ()
  | .connectionState => .connected
  | .pumpMedia _ => .ok ⟨1, 1, false⟩
  | .localFingerprint => .ok ⟨"sha-256", "AA"⟩
  | .agentConnect => .ok ()
  | .agentRequest _ => .ok (.ack ⟨none, none⟩, [])
  | .close | .setNextSeq _ | .waitingForIncoming | .tray _ | .configureSessionMedia _ | .attach _
  | .mockDesktop | .pollPeer | .pollInbound | .forceIdentityBoundForTests
  | .setInputPolicyEnabled _ | .shutdown | .noted => ()

end RemoteLink.Host
