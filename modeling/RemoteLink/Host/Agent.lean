import RemoteLink.Host.SessionGate

set_option autoImplicit false

/-!
# The session agent

The control state machine of the agent and the session manager it drives. The kill switch stops
media and clears the session, but the transport stays with the manager: a session attached later
uses it again.

## Main definitions

* `AgentSessionState.handle` — one control message against the flags of the agent.
* `AgentSession.handle` — the same, driving the session manager.
* `agentSystem` — runs of an agent on one transport, with a record of what had been sent when a
  kill switch was handled.

## Main results

* `kill_severs_media` — nothing is sent after a kill switch as long as no media is started again.
* `kill_severs_media_fails` — a session attached after the kill sends on the old transport.
-/

namespace RemoteLink.Host

open Library Protocol Auth Net Platform

/-! ## The control state -/

namespace ErrorCodes

def notAttached : String := "not_attached"
def sessionMismatch : String := "session_mismatch"
def killed : String := "killed"
def busy : String := "busy"
def chromeMandatory : String := "chrome_mandatory"
def unattendedDisabled : String := "unattended_disabled"
def unexpected : String := "unexpected"
def authFailed : String := "auth_failed"

end ErrorCodes

/-- The flags of the agent. -/
structure AgentSessionState where
  sessionId : Option String
  mediaStarted : Bool
  enableInput : Bool
  unattended : Bool
  chromeVisible : Bool
  killed : Bool
  unattendedDisabled : Bool
  deriving Repr, DecidableEq

namespace AgentSessionState

/-- Nothing attached, nothing latched. -/
def empty : AgentSessionState := ⟨none, false, false, false, false, false, false⟩

/-- An acknowledgement. -/
def ack (method : String) (sessionId : Option String) : ControlMessage :=
  .ack ⟨some method, sessionId⟩

/-- An error reply. -/
def err (code message : String) (sessionId : Option String) : ControlMessage :=
  .error ⟨code, message, sessionId⟩

/-- Reset the session and keep the latch of unattended access. -/
def clearSessionKeepUnattendedLatch (s : AgentSessionState) : AgentSessionState :=
  { empty with unattendedDisabled := s.unattendedDisabled }

/-- Clear the latch, locally. -/
def reenableUnattendedLocal (s : AgentSessionState) : AgentSessionState :=
  { s with unattendedDisabled := false }

/-- The error of a command for a session that is not the attached one. -/
def requireSession (s : AgentSessionState) (sid : String) : Option ControlMessage :=
  match s.sessionId with
  | none => some (err ErrorCodes.notAttached "no session attached" (some sid))
  | some cur =>
    if cur = sid then none
    else some (err ErrorCodes.sessionMismatch "session id does not match attached session"
      (some sid))

/-- The error of a command while the kill switch is latched. -/
def requireNotKilled (s : AgentSessionState) (sid : Option String) : Option ControlMessage :=
  if s.killed then some (err ErrorCodes.killed "kill-switch is latched" sid) else none

/-- The error of a command that needs a live session. -/
def requireLive (s : AgentSessionState) (sid : String) : Option ControlMessage :=
  (s.requireSession sid).or (s.requireNotKilled (some sid))

/-- Latch the kill and end the session surface; the session id stays. -/
def kill (s : AgentSessionState) (disableUnattended : Bool) : AgentSessionState :=
  { s with
    killed := true
    mediaStarted := false
    enableInput := false
    unattended := false
    chromeVisible := false
    unattendedDisabled := disableUnattended || s.unattendedDisabled }

/-- Handle a command: the reply and the flags after it. -/
def handle (s : AgentSessionState) : ControlMessage → ControlMessage × AgentSessionState
  | .attachSession a =>
    -- one controller: only a killed session may be replaced
    if s.sessionId.isSome ∧ s.killed = false then
      (err ErrorCodes.busy "session already active on host" (some a.sessionId), s)
    else
      (ack "attach_session" (some a.sessionId),
        { s with
          sessionId := some a.sessionId
          mediaStarted := false
          enableInput := false
          unattended := false
          chromeVisible := true
          killed := false })
  | .detachSession sid _ =>
    match s.requireSession sid with
    | some e => (e, s)
    | none => (ack "detach_session" (some sid), s.clearSessionKeepUnattendedLatch)
  | .setPolicy p =>
    match s.requireLive p.sessionId with
    | some e => (e, s)
    | none =>
      if p.unattended ∧ s.unattendedDisabled then
        (err ErrorCodes.unattendedDisabled
          "unattended disabled by local kill-switch until re-enabled on host" (some p.sessionId), s)
      else
        (ack "set_policy" (some p.sessionId),
          { s with enableInput := p.enableInput, unattended := p.unattended })
  | .startMedia sid _ =>
    match s.requireLive sid with
    | some e => (e, s)
    | none => (ack "start_media" (some sid), { s with mediaStarted := true })
  | .stopMedia sid =>
    match s.requireSession sid with
    | some e => (e, s)
    | none => (ack "stop_media" (some sid), { s with mediaStarted := false })
  | .queryStats sid? =>
    match sid?.bind s.requireSession with
    | some e => (e, s)
    | none =>
      if sid?.isNone ∧ s.sessionId.isNone then
        (err ErrorCodes.notAttached "no session attached" none, s)
      else
        (.statsPush ⟨(sid?.or s.sessionId).getD "", none, none, none, none, none, none, none⟩, s)
  | .showSessionChrome sid visible _ =>
    match s.requireSession sid with
    | some e => (e, s)
    | none =>
      if s.killed then
        (err ErrorCodes.killed "kill-switch is latched; chrome commands refused until re-attach"
          (some sid), s)
      else if ¬visible then
        (err ErrorCodes.chromeMandatory "session chrome is mandatory while session is live"
          (some sid), { s with chromeVisible := true })
      else (ack "show_session_chrome" (some sid), { s with chromeVisible := true })
  | .shutdownSession sid _ =>
    match s.requireSession sid with
    | some e => (e, s)
    | none => (ack "shutdown_session" (some sid), s.clearSessionKeepUnattendedLatch)
  | .killSwitch k =>
    match k.sessionId, s.sessionId with
    | some target, none =>
      (err ErrorCodes.notAttached "no session attached for kill-switch" (some target), s)
    | some target, some cur =>
      if target = cur then (ack "kill_switch" k.sessionId, s.kill k.disableUnattended)
      else
        (err ErrorCodes.sessionMismatch "kill-switch session id does not match" (some target), s)
    | none, _ => (ack "kill_switch" k.sessionId, s.kill k.disableUnattended)
  | .signalForward f =>
    match s.requireLive f.sessionId with
    | some e => (e, s)
    | none => (ack "signal_forward" (some f.sessionId), s)
  | .localConfirmResult .. | .statsPush _ | .ack _ | .error _ =>
    (err ErrorCodes.unexpected "message not expected as agent command" s.sessionId, s)

end AgentSessionState

/-! ## The agent -/

/-- The control state with the session manager. -/
structure AgentSession (π : Type) where
  state : AgentSessionState
  manager : SessionManager π

/-- The answers of the platform to one command. -/
structure AgentAnswers where
  native : Except InjectError Unit
  now : Instant
  media : SessionManager.MediaAnswers

/-- Whether a reply lets the manager act. -/
def isPositive : ControlMessage → Bool
  | .ack _ | .statsPush _ => true
  | _ => false

/-- Whether a signal is for the transport. -/
def isPeerSignalKind (kind : String) : Bool :=
  kind = SignalKind.sessionOffer || kind = SignalKind.sessionAnswer ||
    kind = SignalKind.iceCandidate

namespace AgentSession

variable {π : Type}

/-- A fresh agent over a manager. -/
def withManager (manager : SessionManager π) : AgentSession π := ⟨.empty, manager⟩

/-- Whether the agent may inject input. -/
def inputInjectionAllowed (a : AgentSession π) : Bool :=
  a.state.enableInput && !a.state.killed && a.manager.identity.inputAllowed

/-- Hand the policy and kill gate to the manager. -/
def syncInputPolicy (a : AgentSession π) : AgentSession π :=
  { a with manager :=
      a.manager.setInputPolicyEnabled (a.state.enableInput && !a.state.killed) }

/-- Stats with the counters of the manager. -/
def enrichStats (T : PeerTransport π) (a : AgentSession π) (stats : StatsPush) : StatsPush :=
  let (v, n) := a.manager.mediaCounters
  { stats with
    videoBitrateBps := if 0 < v then some (UInt32.ofNat (min (v * 8000) 18446744073709551615))
      else stats.videoBitrateBps
    audioBitrateBps := if 0 < n then some (UInt32.ofNat (min (n * 1600) 18446744073709551615))
      else stats.audioBitrateBps
    icePath := some (T.connectionState a.manager.peer).asStr }

/-- What the manager does for a command that the control state has accepted with `reply`. -/
def drive (C : Crypto) (T : PeerTransport π) (J : Codec) (ans : AgentAnswers)
    (a : AgentSession π) (reply : ControlMessage) :
    ControlMessage → Option (ControlMessage × AgentSession π)
  | .attachSession m =>
    some (reply, { a with manager := a.manager.attach m.sessionId ans.native ans.now })
  | .detachSession .. | .shutdownSession .. => some (reply, { a with manager := a.manager.detach })
  | .setPolicy _ => some (reply, a.syncInputPolicy)
  | .startMedia .. =>
    match SessionManager.startMedia C T J ans.media a.manager with
    | .ok () m => some (reply, { a with manager := m })
    | .error e m =>
      some (AgentSessionState.err ErrorCodes.unexpected s!"start_media failed: {e.display}"
          a.state.sessionId,
        { a with manager := m, state.mediaStarted := false })
  | .stopMedia _ => some (reply, { a with manager := a.manager.stopMedia })
  | .killSwitch _ =>
    some (reply, { a with manager := a.manager.stopMedia.detach }.syncInputPolicy)
  | .signalForward s =>
    if isPeerSignalKind s.kind then
      (a.manager.applySignal T J s.kind s.payload).map fun
        | .ok () m => (reply, { a with manager := m })
        | .error e m =>
          (AgentSessionState.err ErrorCodes.unexpected
            s!"signal_forward apply failed: {e.display}" (some s.sessionId),
            { a with manager := m })
    else some (reply, a)
  | .queryStats _ =>
    match reply with
    | .statsPush stats => some (.statsPush (a.enrichStats T stats), a)
    | _ => some (reply, a)
  | _ => some (reply, a)

/-- Handle a command: the control state decides, then the manager acts. `none` is a panic. -/
def handle (C : Crypto) (T : PeerTransport π) (J : Codec) (ans : AgentAnswers)
    (a : AgentSession π) (msg : ControlMessage) : Option (ControlMessage × AgentSession π) :=
  let (reply, state) := a.state.handle msg
  if isPositive reply then drive C T J ans { a with state := state } reply msg
  else some (reply, { a with state := state })

/-- Poll the transport with the policy of the control state. -/
def pollInbound (C : Crypto) (T : PeerTransport π) (J : Codec) (ans : Nat → InjectAnswers)
    (a : AgentSession π) : AgentSession π :=
  let a := a.syncInputPolicy
  { a with manager := after (SessionManager.pollInbound C T J ans) a.manager }

/-- Send media. -/
def pumpMedia (T : PeerTransport π) (ans : SessionManager.CaptureAnswers) (videoFrames : Nat)
    (a : AgentSession π) : AgentSession π :=
  { a with manager := after (SessionManager.pumpMedia T ans videoFrames) a.manager }

/-- Drain the queued signals. -/
def takeOutboundSignals (a : AgentSession π) : AgentSession π :=
  { a with manager := a.manager.takeOutboundSignals.2 }

end AgentSession

/-! ## Runs on one transport -/

/-- An agent, whether its transport has been connected, and what the transport had sent when the
first kill switch after that was handled. -/
structure AgentWorld (π : Type) where
  agent : AgentSession (Logged π)
  connected : Bool
  severedAt : Option (List Sent)

/-- What happens to an agent. -/
inductive AgentEvent (π : Type) where
  | handle (msg : ControlMessage) (ans : AgentAnswers)
  | pollInbound (ans : Nat → InjectAnswers)
  | pumpMedia (ans : SessionManager.CaptureAnswers) (videoFrames : Nat)
  | takeOutboundSignals
  /-- The transport changes by itself and makes callbacks; it sends nothing of its own. -/
  | transport (peer : π) (callbacks : List PeerCallback)

section

variable {π : Type} (C : Crypto) (T : PeerTransport π) (J : Codec)

/-- The agent after an event. -/
def AgentEvent.apply (a : AgentSession (Logged π)) : AgentEvent π → Option (AgentSession (Logged π))
  | handle msg ans => (a.handle C T.logged J ans msg).map Prod.snd
  | pollInbound ans => some (a.pollInbound C T.logged J ans)
  | pumpMedia ans n => some (a.pumpMedia T.logged ans n)
  | takeOutboundSignals => some a.takeOutboundSignals
  | transport peer callbacks =>
    some { a with manager := { a.manager with
      peer.peer := peer, cb := a.manager.cb.deliver callbacks } }

/-- Whether an event is a kill switch that the agent carries out. -/
def AgentEvent.kills (a : AgentSession (Logged π)) : AgentEvent π → Bool
  | handle (.killSwitch k) _ => isPositive (a.state.handle (.killSwitch k)).1
  | _ => false

/-- The transport is connected now. -/
def isConnected (a : AgentSession (Logged π)) : Bool :=
  decide (T.connectionState a.manager.peer.peer = .connected)

/-- One step of an agent. -/
def agentStep (w : AgentWorld π) (e : AgentEvent π) : Option (AgentWorld π) :=
  (e.apply C T J w.agent).map fun a =>
    { agent := a
      connected := w.connected || isConnected T a
      severedAt :=
        if w.connected ∧ e.kills w.agent then w.severedAt.or (some w.agent.manager.peer.sent)
        else w.severedAt }

/-- The runs of an agent over any transport that has sent nothing yet. -/
def agentSystem : System (AgentWorld π) (AgentEvent π) where
  init w := ∃ peer videoKind audioKind now,
    w.agent = .withManager (.withPeer ⟨peer, []⟩ videoKind audioKind now) ∧
      w.connected = isConnected T w.agent ∧ w.severedAt = none
  step := agentStep C T J

/-- No media is started again after the kill: a `StartMedia` that comes then is refused. -/
def noRestart (w : AgentWorld π) : AgentEvent π → Bool
  | .handle (.startMedia sid _) _ =>
    w.severedAt.isNone || (w.agent.state.requireLive sid).isSome
  | _ => true

end

/-- What of a manager decides whether media flows: the running sources, and what has been sent. -/
def planeOf {π : Type} (m : SessionManager (Logged π)) : Option MediaPlane × List Sent :=
  (m.media, m.peer.sent)

section

variable {π : Type} {C : Crypto} {T : PeerTransport π} {J : Codec} {a a' : AgentSession (Logged π)}

/-! ### The media plane is left alone -/

/-- A call of the transport that sends nothing. -/
theorem plane_onPeer {α : Type} {f : Logged π → Call (Logged π) α}
    (hf : ∀ l, (f l).peer.sent = l.sent) :
    Keeps planeOf (SessionManager.onPeer f : SessionM (Logged π) α) := by
  intro m
  have hsent := hf m.peer
  unfold after SessionManager.onPeer
  dsimp only
  split <;> simp [finalState, planeOf, hsent]

theorem plane_applyDescription (ty : SdpType) (payload : String) :
    Keeps planeOf (SessionManager.applyDescription T.logged J ty payload) := by
  unfold SessionManager.applyDescription
  rcases SessionManager.parseSdpPayload J payload with e | sdp
  · exact .of_throw _
  · refine .bind (plane_onPeer fun _ => rfl) fun _ => .of_modify fun m => ?_
    rcases m.sessionId with _ | sid <;> rfl

theorem plane_applySignal {kind payload : String} {m : SessionManager (Logged π)}
    {res : EStateM.Result SessionError (SessionManager (Logged π)) Unit}
    (h : m.applySignal T.logged J kind payload = some res) :
    planeOf (finalState res) = planeOf m := by
  unfold SessionManager.applySignal at h
  split_ifs at h with hoffer hanswer hice
  · obtain rfl := Option.some.inj h
    exact plane_applyDescription .offer payload m
  · obtain rfl := Option.some.inj h
    exact plane_applyDescription .answer payload m
  · rw [Option.map_eq_some_iff] at h
    obtain ⟨e | candidate, -, rfl⟩ := h
    · rfl
    · exact plane_onPeer (fun _ => rfl) m
  · obtain rfl := Option.some.inj h
    rfl

theorem offInbound_plane : OffInbound (planeOf (π := π)) :=
  ⟨fun _ _ _ _ => rfl, fun _ _ _ _ _ _ _ => rfl⟩

theorem plane_pollInbound (ans : Nat → InjectAnswers) :
    Keeps planeOf (SessionManager.pollInbound C T.logged J ans) :=
  keeps_pollInbound offInbound_plane (plane_onPeer fun _ => rfl) (fun _ => rfl) C J ans

/-- Without running sources nothing is pumped. -/
theorem pumpMedia_idle {m : SessionManager (Logged π)} (hm : m.media = none)
    (ans : SessionManager.CaptureAnswers) (n : Nat) :
    after (SessionManager.pumpMedia T.logged ans n) m = m := by
  unfold SessionManager.pumpMedia
  rw [after_get_bind]
  simp only [hm, Option.isNone_none, if_true]
  rfl

/-! ### Commands and the media plane -/

/-- The reply to a command for another session is an error. -/
theorem requireSession_error {s : AgentSessionState} {sid : String} {e : ControlMessage}
    (h : s.requireSession sid = some e) : isPositive e = false := by
  unfold AgentSessionState.requireSession at h
  split at h
  · cases h
    rfl
  · split_ifs at h
    cases h
    rfl

/-- The reply to a command for a dead or foreign session is an error. -/
theorem requireLive_error {s : AgentSessionState} {sid : String} {e : ControlMessage}
    (h : s.requireLive sid = some e) : isPositive e = false := by
  obtain hsession | ⟨-, hkilled⟩ := Option.or_eq_some_iff.mp h
  · exact requireSession_error hsession
  · unfold AgentSessionState.requireNotKilled at hkilled
    split_ifs at hkilled
    cases hkilled
    rfl

/-- **What an accepted command does to the media plane**: it sends nothing, and unless it is
`StartMedia` it leaves the sources alone or stops them. -/
theorem drive_plane {msg reply reply' : ControlMessage} {ans : AgentAnswers}
    (h : a.drive C T.logged J ans reply msg = some (reply', a'))
    (hmsg : ∀ sid display, msg ≠ .startMedia sid display) :
    a'.manager.peer.sent = a.manager.peer.sent ∧
      (a'.manager.media = a.manager.media ∨ a'.manager.media = none) := by
  cases msg with
  | startMedia sid display => exact absurd rfl (hmsg sid display)
  | signalForward f =>
    simp only [AgentSession.drive] at h
    split_ifs at h
    · rw [Option.map_eq_some_iff] at h
      obtain ⟨res, hres, h⟩ := h
      have hplane := plane_applySignal hres
      rcases res with ⟨u, m⟩ | ⟨e, m⟩
      all_goals
        cases h
        exact ⟨congrArg Prod.snd hplane, .inl (congrArg Prod.fst hplane)⟩
    · cases h
      exact ⟨rfl, .inl rfl⟩
  | queryStats sid =>
    cases reply <;> cases h <;> exact ⟨rfl, .inl rfl⟩
  | attachSession | detachSession | shutdownSession | stopMedia | killSwitch =>
    cases h
    exact ⟨rfl, .inr rfl⟩
  | setPolicy | showSessionChrome | localConfirmResult | statsPush | ack | error =>
    cases h
    exact ⟨rfl, .inl rfl⟩

/-- A command sends nothing, and only a `StartMedia` that is accepted starts sources. -/
theorem handle_plane {msg reply : ControlMessage} {ans : AgentAnswers}
    (h : a.handle C T.logged J ans msg = some (reply, a'))
    (hmsg : ∀ sid display, msg = .startMedia sid display → (a.state.requireLive sid).isSome) :
    a'.manager.peer.sent = a.manager.peer.sent ∧
      (a'.manager.media = a.manager.media ∨ a'.manager.media = none) := by
  unfold AgentSession.handle at h
  rcases hstate : a.state.handle msg with ⟨first, state⟩
  simp only [hstate] at h
  split_ifs at h with hpositive
  · have hother : ∀ sid display, msg ≠ .startMedia sid display := ?_
    · exact (drive_plane h hother :)
    intro sid display heq
    subst heq
    obtain ⟨e, he⟩ := Option.isSome_iff_exists.mp (hmsg sid display rfl)
    simp only [AgentSessionState.handle, he] at hstate
    cases hstate
    rw [requireLive_error he] at hpositive
    cases hpositive
  · cases h
    exact ⟨rfl, .inl rfl⟩

/-- A kill switch that is carried out stops the sources. -/
theorem handle_kills {k : KillSwitch} {reply : ControlMessage} {ans : AgentAnswers}
    (h : a.handle C T.logged J ans (.killSwitch k) = some (reply, a'))
    (hkill : isPositive (a.state.handle (.killSwitch k)).1 = true) : a'.manager.media = none := by
  unfold AgentSession.handle at h
  simp only [hkill, if_true] at h
  cases h
  rfl

/-! ### Runs -/

/-- **What an event does to the media plane** unless it starts media: it sends nothing as long as
no sources run, and starts none. -/
theorem apply_plane {e : AgentEvent π} (h : e.apply C T J a = some a')
    (hstart : ∀ sid display ans, e = .handle (.startMedia sid display) ans →
      (a.state.requireLive sid).isSome)
    (hidle : a.manager.media = none) : planeOf a'.manager = (none, a.manager.peer.sent) := by
  cases e with
  | handle msg ans =>
    simp only [AgentEvent.apply, Option.map_eq_some_iff] at h
    obtain ⟨⟨reply, b⟩, hb, rfl⟩ := h
    obtain ⟨hsent, hmedia⟩ := handle_plane hb fun sid display heq =>
      hstart sid display ans (by rw [heq])
    rw [hidle, or_self] at hmedia
    exact Prod.ext hmedia hsent
  | pollInbound ans =>
    cases h
    exact (plane_pollInbound ans a.syncInputPolicy.manager).trans (Prod.ext hidle rfl)
  | pumpMedia ans n =>
    cases h
    simp only [AgentSession.pumpMedia, pumpMedia_idle hidle ans n]
    exact Prod.ext hidle rfl
  | takeOutboundSignals =>
    cases h
    exact Prod.ext hidle rfl
  | transport peer callbacks =>
    cases h
    exact Prod.ext hidle rfl

end

/-- What holds once a kill switch has severed the transport: no sources run and nothing more has
been sent. -/
def Severed {π : Type} (w : AgentWorld π) : Prop :=
  ∀ sent, w.severedAt = some sent → planeOf w.agent.manager = (none, sent)

section

variable {π : Type} {C : Crypto} {T : PeerTransport π} {J : Codec} {w w' : AgentWorld π}

/-- The state of a kill: the sources stop and the log of the transport stays as it was. -/
theorem apply_kills {e : AgentEvent π} {a a' : AgentSession (Logged π)}
    (h : e.apply C T J a = some a') (hkill : e.kills a = true) :
    planeOf a'.manager = (none, a.manager.peer.sent) := by
  cases e with
  | handle msg ans =>
    cases msg with
    | killSwitch k =>
      simp only [AgentEvent.apply, Option.map_eq_some_iff] at h
      obtain ⟨⟨reply, b⟩, hb, rfl⟩ := h
      obtain ⟨hsent, -⟩ := handle_plane hb fun _ _ heq => nomatch heq
      exact Prod.ext (handle_kills hb hkill) hsent
    | _ => cases hkill
  | _ => cases hkill

/-- **The step lemma**: a step that starts no media keeps the transport severed. -/
theorem Severed.step (hw : Severed w) {e : AgentEvent π} (hcond : noRestart w e = true)
    (h : (agentSystem C T J).step w e = some w') : Severed w' := by
  obtain ⟨a, ha, rfl⟩ := Option.map_eq_some_iff.mp h
  intro sent hsent
  dsimp only at hsent ⊢
  rcases hsevered : w.severedAt with _ | before
  · rw [hsevered] at hsent
    split_ifs at hsent with hkill
    · obtain rfl := Option.some.inj hsent
      exact apply_kills ha hkill.2
  · have hplane := hw before hsevered
    have hsame : sent = before := by
      rw [hsevered] at hsent
      split_ifs at hsent <;> exact (Option.some.inj hsent).symm
    have hlog : w.agent.manager.peer.sent = before := congrArg Prod.snd hplane
    have hstart : ∀ sid display ans, e = .handle (.startMedia sid display) ans →
        (w.agent.state.requireLive sid).isSome := by
      rintro sid display ans rfl
      simpa [noRestart, hsevered] using hcond
    rw [apply_plane ha hstart (congrArg Prod.fst hplane), hsame, hlog]

/-- **The kill switch severs media, while no media is started again**: once a kill switch has been
handled on a transport that has been connected, nothing more is ever sent on that transport, in
any run in which every later `StartMedia` is refused. -/
theorem kill_severs_media (h : (agentSystem C T J).ReachableVia (fun w e => noRestart w e = true) w)
    {sent : List Sent}
    (hsevered : w.severedAt = some sent) : w.agent.manager.peer.sent = sent := by
  have hinv : Severed w := h.invariant Severed
    (by
      rintro s ⟨peer, vk, ak, now, -, -, hnone⟩ sent hsent
      rw [hnone] at hsent
      cases hsent)
    fun _ _ _ hw hcond hstep => hw.step hcond hstep
  exact congrArg Prod.snd (hinv sent hsevered)

end

/-! ### Concrete runs -/

/-- Capture that yields a frame at every try, and an encoder that succeeds. -/
def demoCapture : SessionManager.CaptureAnswers where
  audioFrame _ _ := .ok none
  encodeAudio _ := .error "opus"
  videoFrame _ _ := .ok (some [0])
  encodeVideo frame forceKey := .ok ⟨0, none, forceKey, .annexB, frame⟩

/-- The answers of the platform in the runs below. -/
def demoAgentAnswers : AgentAnswers := ⟨.ok (), 0, .ok "synthetic", .ok "synthetic", .ok "openh264"⟩

/-- Attach to a session, start media and send three frames. -/
def demoLiveOps (sid : String) : List (AgentEvent MockPeer) :=
  [.handle (.attachSession ⟨sid, none, ⟨true, false, []⟩, [], none⟩) demoAgentAnswers,
    .handle (.startMedia sid none) demoAgentAnswers, .pumpMedia demoCapture 3]

/-- The kill switch, and a pump after it. -/
def demoKillOps : List (AgentEvent MockPeer) :=
  [.handle (.killSwitch ⟨none, false, .hotkey⟩) demoAgentAnswers, .pumpMedia demoCapture 3]

/-- An agent over a transport that is connected. -/
def demoAgentWorld : AgentWorld MockPeer :=
  ⟨.withManager (.withPeer ⟨demoPeer, []⟩ .synthetic .synthetic 0), true, none⟩

theorem demoAgentWorld_init :
    (agentSystem .windowed mockTransport demoCodec).init demoAgentWorld :=
  ⟨demoPeer, .synthetic, .synthetic, 0, rfl, rfl, rfl⟩

/-- A kill switch after three frames: the log still holds just these. -/
theorem kill_severs_media_liveRun :
    ∃ w sent, (agentSystem .windowed mockTransport demoCodec).ReachableVia
        (fun w e => noRestart w e = true) w ∧
      w.severedAt = some sent ∧ sent.length = 3 ∧ w.agent.manager.peer.sent = sent := by
  have hrun : ((((agentSystem .windowed mockTransport demoCodec).restrict noRestart).runFrom
      demoAgentWorld (demoLiveOps "a" ++ demoKillOps)).any fun w =>
        w.severedAt.any fun sent => decide (sent.length = 3)) = true := by
    decide +kernel
  obtain ⟨w, hw, hsevered⟩ := (Option.any_eq_true _ _).mp hrun
  obtain ⟨sent, hsent, hlength⟩ := (Option.any_eq_true _ _).mp hsevered
  have hinit : ((agentSystem .windowed mockTransport demoCodec).restrict noRestart).Reachable
      demoAgentWorld := .init demoAgentWorld_init
  have hreach := System.reachableVia_of_restrict (fun _ _ h => h)
    (System.reachable_of_runFrom hinit hw)
  exact ⟨w, sent, hreach, hsent, of_decide_eq_true hlength, kill_severs_media hreach hsent⟩

/-- **A session attached after the kill sends on the transport that was killed.** -/
theorem kill_severs_media_fails :
    ¬ ∀ w, (agentSystem .windowed mockTransport demoCodec).Reachable w →
      ∀ sent, w.severedAt = some sent → w.agent.manager.peer.sent = sent := by
  intro hclaim
  have hrun : (((agentSystem .windowed mockTransport demoCodec).runFrom
      demoAgentWorld (demoLiveOps "a" ++ demoKillOps ++ demoLiveOps "b")).any fun w =>
        w.severedAt.any fun sent => decide (w.agent.manager.peer.sent ≠ sent)) = true := by
    decide +kernel
  obtain ⟨w, hw, hsevered⟩ := (Option.any_eq_true _ _).mp hrun
  obtain ⟨sent, hsent, hne⟩ := (Option.any_eq_true _ _).mp hsevered
  exact of_decide_eq_true hne
    (hclaim w (System.reachable_of_runFrom (.init demoAgentWorld_init) hw) sent hsent)

end RemoteLink.Host
