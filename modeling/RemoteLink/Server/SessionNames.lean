import RemoteLink.Server.WsInvariant

set_option autoImplicit false

/-!
# Sessions have names

The route refuses an intent without a session id, and only intents create sessions, so no session
is stored under the empty id.

## Main definitions

* `Named` — the sessions, and the intents under way, have ids.

## Main results

* `Named.sessionId_of_checkIntent` — an intent that passes its checks has an id.
* `wsSystem_named` — the sessions behind the route have ids in every run.
-/

namespace RemoteLink.Server

open RemoteLink.Library RemoteLink.Protocol

/-- An intent under way has a session id. -/
def Stage.Named : Stage → Prop
  | .prefiltering intent _ _ _ | .creating intent _ _ => intent.sessionId ≠ ""
  | _ => True

/-- The sessions and the intents under way have ids. -/
structure Named (w : WsWorld) : Prop where
  stages : ∀ c t, w.tasks.lookup c = some t → t.stage.Named
  sessions : ∀ sid, (w.registry.sessions.lookup sid).isSome → sid ≠ ""

namespace Named

variable {cfg : ServerConfig} {w w' : WsWorld}

/-- A task moves to another stage, and the registry handles an event that creates no session without
an id. -/
theorem goto (h : Named w) (conn : ConnId) (identity : Option PeerIdentity) {stage : Stage}
    (hstage : stage.Named) (htasks : w'.tasks = w.tasks)
    (hsessions : ∀ sid, (w'.registry.sessions.lookup sid).isSome → sid ≠ "") :
    Named (w'.goto conn identity stage) := by
  refine ⟨fun c t ht => ?_, hsessions⟩
  simp only [WsWorld.goto, htasks, HashMap.lookup_insert_if] at ht
  split_ifs at ht
  · obtain rfl := Option.some.inj ht
    exact hstage
  · exact h.stages c t ht

/-- An event of the registry stores no session under the empty id, if it creates none. -/
theorem event (h : Named w) (ttls : Ttls) (e : RegistryEvent)
    (he : ∀ req now, e = .createPendingSession req now → req.sessionId ≠ "") (sid : String)
    (hsid : ((e.perform ttls w.registry).2.sessions.lookup sid).isSome) : sid ≠ "" := by
  obtain ⟨x, hx⟩ := Option.isSome_iff_exists.mp hsid
  obtain ⟨req, now, -, -, hcreate, rfl, -⟩ | ⟨x₀, hold, -⟩ := RegistryEvent.session_origin hx
  · exact he req now hcreate
  · exact h.sessions sid (Option.isSome_iff_exists.mpr ⟨x₀, hold⟩)

/-- The end of a frame. -/
theorem finish (h : Named w) (conn : ConnId) (identity : Option PeerIdentity)
    (result : Except SignalMessage Unit) (htasks : w'.tasks = w.tasks)
    (hsessions : ∀ sid, (w'.registry.sessions.lookup sid).isSome → sid ≠ "") :
    Named (w'.finish conn identity result) := by
  refine h.goto conn identity ?_ htasks hsessions
  cases result with
  | error e => trivial
  | ok u => trivial

/-- The registry handles an event that creates no session. -/
theorem perform (h : Named w) (ttls : Ttls) (e : RegistryEvent)
    (he : ∀ req now, e ≠ .createPendingSession req now) :
    Named { w with registry := (e.perform ttls w.registry).2 } :=
  ⟨h.stages, h.event ttls e fun req now hcreate => absurd hcreate (he req now)⟩

/-- The gate of an intent with an id. -/
theorem otpGate_named (w : WsWorld) {intent : Intent} (device : Device) (now : Time)
    (h : intent.sessionId ≠ "") : (otpGate w intent device now).Named := by
  unfold otpGate
  cases prefilterCode intent.prefilter with
  | none =>
    dsimp only
    split_ifs
    · trivial
    · exact h
    · exact h
  | some code =>
    dsimp only
    split_ifs
    · exact h
    · exact h
    · exact h

/-- **An intent that passes its checks has an id.** -/
theorem sessionId_of_checkIntent {identity : PeerIdentity} {intent : Intent} {ans : Answers}
    {device : Device} (h : checkIntent identity intent ans = .ok device) :
    intent.sessionId ≠ "" := by
  unfold checkIntent at h
  split_ifs at h with hrole hsid hhost
  rintro hempty
  rw [hempty] at hsid
  exact hsid rfl

theorem handleText (h : Named w) (conn : ConnId) (identity : PeerIdentity)
    (decoded : Except String SignalMessage) (ans : Answers) :
    Named (handleText cfg w conn identity decoded ans) := by
  have hrefuse : ∀ code text, Named (w.finish conn (some identity) (.error (.error code text))) :=
    fun code text => h.finish conn _ _ rfl h.sessions
  cases decoded with
  | error e => exact hrefuse _ _
  | ok msg =>
    have hperf : ∀ (e : RegistryEvent), (∀ req now, e ≠ .createPendingSession req now) →
        ∀ result, Named ({ w with registry := (e.perform cfg.ttls w.registry).2 }.finish conn
          (some identity) result) := fun e he result =>
      (h.perform cfg.ttls e he).finish conn _ result rfl (h.perform cfg.ttls e he).sessions
    have hrelay := hperf (.relayMediaSignal conn msg ans.now) (by simp)
    cases msg with
    | hello role version auth => exact hrefuse _ _
    | helloOk serverTime flags => exact hrefuse _ _
    | sessionIncoming sid seq info mode pre => exact hrefuse _ _
    | error code message => exact hrefuse _ _
    | sessionOffer sid seq sdp sig => exact hrelay _
    | sessionAnswer sid seq sdp => exact hrelay _
    | iceCandidate sid seq candidate => exact hrelay _
    | mediaRestart sid seq => exact hrelay _
    | renegotiate sid seq => exact hrelay _
    | authChallenge sid seq payload => exact hrelay _
    | authResponse sid seq payload => exact hrelay _
    | stats sid seq payload => exact hrelay _
    | sessionEnd sid seq reason => exact hperf (.endSession conn sid seq reason ans.now) (by simp) _
    | sessionReject sid seq reason =>
      simp only [RemoteLink.Server.handleText]
      split_ifs
      · exact hrefuse _ _
      · exact hperf (.rejectSession conn sid seq reason ans.now) (by simp) _
    | sessionAccept sid seq =>
      simp only [RemoteLink.Server.handleText]
      split_ifs
      · exact hrefuse _ _
      · have haccept := h.perform cfg.ttls (.acceptSession conn sid seq ans.now) (by simp)
        simp only [RegistryEvent.perform] at haccept
        cases hres : w.registry.acceptSession cfg.ttls.active conn sid seq ans.now with
        | mk result registry =>
          rw [hres] at haccept
          cases result with
          | error e => exact haccept.finish conn _ (.error e) rfl haccept.sessions
          | ok u => exact haccept.goto conn _ trivial rfl haccept.sessions
    | sessionIntent sid seq host mode prefilter =>
      simp only [RemoteLink.Server.handleText]
      cases hcheck : checkIntent identity ⟨sid, seq, host, mode, prefilter⟩ ans with
      | error e => exact h.finish conn _ (.error e) rfl h.sessions
      | ok device =>
        exact h.goto conn _ (otpGate_named w device ans.now (sessionId_of_checkIntent hcheck)) rfl
          h.sessions

theorem proceed (h : Named w) {conn : ConnId} {t : ConnTask} {ans : Answers}
    (ht : w.tasks.lookup conn = some t) (hs : proceed cfg w conn t ans = some w') : Named w' := by
  have hnamed := h.stages conn t ht
  obtain ⟨identity, stage⟩ := t
  have hsend : ∀ (msg : SignalMessage) (identity : Option PeerIdentity) (stage : Stage),
      stage.Named → Named ({ w with registry := (w.registry.sendTo conn msg).2 }.goto conn identity
        stage) := by
    intro msg identity stage hstage
    have hsent := h.perform cfg.ttls (.sendTo conn msg) (by simp)
    exact hsent.goto conn identity hstage rfl hsent.sessions
  cases stage with
  | awaitHello => simp [RemoteLink.Server.proceed] at hs
  | ready => simp [RemoteLink.Server.proceed] at hs
  | greeting =>
    obtain rfl := Option.some.inj hs
    refine hsend _ identity _ ?_
    split_ifs
    · trivial
    · trivial
  | prefiltering intent device code now =>
    obtain rfl := Option.some.inj hs
    simp only [RemoteLink.Server.prefilterStep]
    split_ifs
    · exact h.goto conn identity hnamed rfl h.sessions
    · exact h.goto conn identity trivial rfl h.sessions
  | creating intent device checked =>
    cases identity with
    | none => simp [RemoteLink.Server.proceed] at hs
    | some identity =>
      obtain rfl := Option.some.inj hs
      unfold RemoteLink.Server.createStep
      cases ans.hostLimit with
      | some e => exact h.finish conn _ _ rfl h.sessions
      | none =>
        dsimp only
        have hcreate := h.event cfg.ttls (.createPendingSession ⟨conn, intent.sessionId,
          intent.hostPublicId, device, intent.mode, intent.signalSeq, defaultViewerInfo identity⟩
          ans.now) (by
            rintro req now heq
            obtain ⟨rfl, -⟩ := RegistryEvent.createPendingSession.inj heq
            exact hnamed)
        simp only [RegistryEvent.perform] at hcreate
        cases hres : w.registry.createPendingSession cfg.ttls.pending ⟨conn, intent.sessionId,
          intent.hostPublicId, device, intent.mode, intent.signalSeq, defaultViewerInfo identity⟩
          ans.now with
        | mk result registry =>
          rw [hres] at hcreate
          cases result with
          | error e => exact h.finish conn _ (.error e) rfl hcreate
          | ok u => exact h.finish conn _ (.ok ()) rfl hcreate
  | consuming sid checked =>
    cases identity with
    | none => simp [RemoteLink.Server.proceed] at hs
    | some identity =>
      obtain rfl := Option.some.inj hs
      unfold RemoteLink.Server.consumeStep
      cases identity.deviceId with
      | none => exact h.goto conn _ trivial rfl h.sessions
      | some deviceId => exact h.goto conn _ trivial rfl h.sessions
  | replying msg andClose =>
    obtain rfl := Option.some.inj hs
    refine hsend msg identity _ ?_
    split_ifs
    · trivial
    · trivial
  | closing =>
    obtain rfl := Option.some.inj hs
    have hgone := h.perform cfg.ttls (.unregisterConn conn) (by simp)
    refine ⟨fun c t hc => ?_, hgone.sessions⟩
    dsimp only at hc
    rw [HashMap.lookup_erase_if] at hc
    split_ifs at hc
    exact h.stages c t hc

theorem handleFrame (h : Named w) {conn : ConnId} {t : ConnTask} {frame : Frame}
    {ans : Answers} (hs : handleFrame cfg w conn t frame ans = some w') : Named w' := by
  obtain ⟨identity, stage⟩ := t
  cases stage with
  | awaitHello =>
    simp only [RemoteLink.Server.handleFrame] at hs
    obtain rfl := Option.some.inj hs
    cases expectHello frame ans with
    | error e => exact h.goto conn none trivial rfl h.sessions
    | ok id =>
      have hbound := h.perform cfg.ttls (.bindPeer conn id) (by simp)
      exact hbound.goto conn (some id) trivial rfl hbound.sessions
  | ready =>
    cases identity with
    | none => simp [RemoteLink.Server.handleFrame] at hs
    | some identity =>
      simp only [RemoteLink.Server.handleFrame] at hs
      obtain rfl := Option.some.inj hs
      cases frame with
      | text decoded => exact h.handleText conn identity decoded ans
      | binary => exact h.finish conn _ _ rfl h.sessions
      | pingPong => exact h
      | close => exact h.goto conn _ trivial rfl h.sessions
  | _ => simp [RemoteLink.Server.handleFrame] at hs

/-- Every step of the route keeps the names. -/
theorem step {e : WsEvent} (h : Named w) (hs : wsStep cfg w e = some w') : Named w' := by
  cases e with
  | connect =>
    obtain rfl := Option.some.inj hs
    have hnew := h.perform cfg.ttls .registerConn (by simp)
    exact hnew.goto _ none trivial rfl hnew.sessions
  | frame conn frame ans =>
    simp only [wsStep] at hs
    split_ifs at hs
    obtain ⟨t, -, hs⟩ := Option.bind_eq_some_iff.mp hs
    exact h.handleFrame hs
  | proceed conn ans =>
    obtain ⟨t, ht, hs⟩ := Option.bind_eq_some_iff.mp hs
    exact h.proceed ht hs
  | dropReceiver conn =>
    obtain rfl := Option.some.inj hs
    exact h.perform cfg.ttls (.dropReceiver conn) (by simp)
  | mintOtp host hash ttlSecs now =>
    simp only [wsStep] at hs
    split_ifs at hs
    obtain rfl := Option.some.inj hs
    exact ⟨h.stages, h.sessions⟩
  | reapExpired now =>
    obtain rfl := Option.some.inj hs
    exact h.perform cfg.ttls (.reapExpired now) (by simp)
  | forceDisconnect sid reason now =>
    obtain rfl := Option.some.inj hs
    exact h.perform cfg.ttls (.forceDisconnect sid reason now) (by simp)

end Named

/-- **The sessions behind the route have ids** in every run. -/
theorem wsSystem_named {cfg : ServerConfig} {w : WsWorld} (h : (wsSystem cfg).Reachable w) :
    Named w := by
  refine h.invariant Named (fun w hw => ?_) fun _ _ _ hi _ hs => hi.step hs
  obtain rfl : w = .empty := hw
  refine ⟨fun c t ht => ?_, fun sid hsid => ?_⟩
  · simp [WsWorld.empty] at ht
  · simp [WsWorld.empty, RegistryInner.empty] at hsid

end RemoteLink.Server
