import RemoteLink.Host.Agent

set_option autoImplicit false

/-!
# The control server of the agent

The agent serves one connection of the service at a time. It gates every message by the boot
secret, hands it to the agent session, answers, pumps media, and builds a fresh agent session
after a detach and for every new connection. The latch of unattended access is a field of the
agent session, so it goes with the session that is replaced.

## Main definitions

* `serveMessage` — one round of the serving loop.
* `controlServer` — runs of the server, with a record of whether the latch has been set and not
  been cleared locally.
* `keepsAgent` — no agent session is replaced while the latch is set.

## Main results

* `unattended_stays_disabled` — without a replacement no message enables unattended access
  after the latch was set.
* `unattended_stays_disabled_fails` — a detach and a new attach enable it again.
-/

namespace RemoteLink.Host

open Library Protocol Auth Net Platform

/-! ## Serving a connection -/

/-- Errors of the control loop. -/
inductive ControlLoopError where
  | transport (detail : String)
  | protocol (detail : String)
  | agent (detail : String)
  | auth (detail : String)
  deriving Repr, DecidableEq

/-- The text of an error. -/
def ControlLoopError.display : ControlLoopError → String
  | transport detail => "transport: " ++ detail
  | protocol detail => "protocol: " ++ detail
  | agent detail => "agent: " ++ detail
  | auth detail => "auth: " ++ detail

/-- The end of the messages that follow a reply. -/
def drainComplete : ControlMessage := .ack ⟨some "drain_complete", none⟩

/-- Compare the boot secret; without an expected one every peer passes. -/
def bootSecretOk : Option String → Option String → Bool
  | none, _ => true
  | some expected, some got =>
    expected.utf8ByteSize = got.utf8ByteSize && utf8 expected = utf8 got
  | some _, none => false

/-- A connection with the agent session that serves it. `wire` is what has been sent on it, newest
first. -/
structure Served (π : Type) where
  agent : AgentSession π
  wire : List ControlMessage

/-- A new transport with the defaults of the platform. -/
structure FreshPeer (π : Type) where
  peer : π
  videoKind : VideoCaptureKind
  audioKind : AudioCaptureKind
  now : Instant

/-- The answers of the platform during one round: `send i` is why the `i`-th message on the
connection cannot be sent. -/
structure ServeAnswers (π : Type) where
  agent : AgentAnswers
  send : Nat → Option String
  capture : SessionManager.CaptureAnswers
  fresh : Except String (FreshPeer π)

/-- A part of a round; its changes stay when it fails. -/
abbrev ServeM (π : Type) : Type → Type := EStateM ControlLoopError (Served π)

/-- A fresh agent session. -/
def newAgentSession {π : Type} : Except String (FreshPeer π) →
    Except ControlLoopError (AgentSession π)
  | .error e => .error (.agent e)
  | .ok f => .ok (.withManager (.withPeer f.peer f.videoKind f.audioKind f.now))

section

variable {π : Type} (C : Crypto) (T : PeerTransport π) (J : Codec)

/-- Send a message on the connection. -/
def sendControl (ans : ServeAnswers π) (msg : ControlMessage) : ServeM π Unit := fun s =>
  match ans.send s.wire.length with
  | some e => .error (.transport e) s
  | none => .ok () { s with wire := msg :: s.wire }

/-- Send the given messages in order. -/
def sendAll (ans : ServeAnswers π) : List ControlMessage → ServeM π Unit
  | [] => pure ()
  | msg :: msgs => do
    sendControl ans msg
    sendAll ans msgs

/-- The refusal of a method that carries media. -/
def refuseMedia (msg : ControlMessage) : List ControlMessage :=
  (forbiddenMediaMethods.filter (msg.methodName = ·)).flatMap fun forbidden =>
    [AgentSessionState.err ErrorCodes.unexpected
      ("media method \x60" ++ forbidden ++ "\x60 forbidden on control IPC") none, drainComplete]

/-- The refusal of a message that does not pass the boot secret. -/
def bootGate (expected : Option String) (state : AgentSessionState) :
    ControlMessage → Option ControlMessage
  | .attachSession a =>
    if bootSecretOk expected a.bootSecret then none
    else some (AgentSessionState.err ErrorCodes.authFailed "boot secret missing or incorrect"
      (some a.sessionId))
  | _ =>
    if expected.isSome ∧ state.sessionId.isNone then
      some (AgentSessionState.err ErrorCodes.authFailed
        "control IPC requires attach with boot_secret first" none)
    else none

/-- Whether media may be pumped after a message. -/
def mayPump : ControlMessage → Bool
  | .signalForward s => s.kind = SignalKind.sessionAnswer || s.kind = SignalKind.iceCandidate
  | .queryStats _ => true
  | _ => false

/-- Whether a message ends the session. -/
def wasDetach : ControlMessage → Bool
  | .detachSession .. | .shutdownSession .. => true
  | _ => false

/-- Whether a reply is an acknowledgement. -/
def isAck : ControlMessage → Bool
  | .ack _ => true
  | _ => false

/-- Poll the transport of a live session. -/
def pollLive (s : Served π) : Served π :=
  if s.agent.state.sessionId.isSome ∧ s.agent.state.killed = false then
    { s with agent.manager := s.agent.manager.pollQuietly T }
  else s

/-- Take the queued signals as messages. -/
def takeSignals (s : Served π) : List ControlMessage × Served π :=
  (s.agent.manager.takeOutboundSignals.1.map .signalForward,
    { s with agent := s.agent.takeOutboundSignals })

/-- Pump three frames into a connected transport after an answer, a candidate or a stats query. -/
def pumpAfter (ans : ServeAnswers π) (msg : ControlMessage) (s : Served π) : Served π :=
  if mayPump msg ∧ s.agent.state.mediaStarted ∧
      T.connectionState s.agent.manager.peer = .connected then
    let ready := { s.agent with manager := after (SessionManager.waitReady T 200) s.agent.manager }
    { s with agent := ready.pumpMedia T ans.capture 3 }
  else s

/-- A round after the agent session has handled the message: send the reply and the queued
signals, pump, and replace the session after a detach. -/
def finishRound (ans : ServeAnswers π) (msg reply : ControlMessage) : ServeM π Unit := do
  sendControl ans reply
  modify (pollLive T)
  let signals ← modifyGet takeSignals
  sendAll ans signals
  sendControl ans drainComplete
  modify (pumpAfter T ans msg)
  if wasDetach msg && isAck reply then
    match newAgentSession ans.fresh with
    | .error e => throw e
    | .ok agent => modify fun s => { s with agent := agent }
  else pure ()

/-- One round of the serving loop: the result, and the connection after it. `none` is a panic. -/
def serveMessage (expected : Option String) (ans : ServeAnswers π) (msg : ControlMessage)
    (s : Served π) : Option (EStateM.Result ControlLoopError (Served π) Unit) :=
  match sendAll ans (refuseMedia msg) s with
  | .error e s => some (.error e s)
  | .ok () s =>
    match bootGate expected s.agent.state msg with
    | some refusal => some (sendAll ans [refusal, drainComplete] s)
    | none =>
      (s.agent.handle C T J ans.agent msg).map fun (reply, agent) =>
        finishRound T ans msg reply { s with agent := agent }

/-! ## The server -/

/-- The server: the connection it serves, and whether a kill switch has disabled unattended access
and nobody has enabled it locally since. -/
structure ControlServer (π : Type) where
  served : Option (Served π)
  latched : Bool

/-- What happens to the server. -/
inductive ServerEvent (π : Type) where
  /-- The service connects; the server builds an agent session for the connection. -/
  | accept (fresh : Except String (FreshPeer π))
  | message (msg : ControlMessage) (ans : ServeAnswers π)
  /-- Receiving fails: the peer has gone, or a frame is malformed. -/
  | disconnect
  | reenableUnattendedLocal

/-- Whether a message is a kill switch that the agent carries out and that disables unattended
access. -/
def setsLatch (expected : Option String) (s : Served π) : ControlMessage → Bool
  | .killSwitch k =>
    (bootGate expected s.agent.state (.killSwitch k)).isNone && k.disableUnattended &&
      isPositive (s.agent.state.handle (.killSwitch k)).1
  | _ => false

/-- One step of the server. -/
def serverStep (expected : Option String) (w : ControlServer π) :
    ServerEvent π → Option (ControlServer π)
  | .accept fresh =>
    match w.served, newAgentSession fresh with
    | none, .ok agent => some { w with served := some ⟨agent, []⟩ }
    | _, _ => none
  | .message msg ans =>
    w.served.bind fun s =>
      (serveMessage C T J expected ans msg s).map fun outcome =>
        { served :=
            match outcome with
            | .ok () s => some s
            | .error _ _ => none
          latched := w.latched || setsLatch expected s msg }
  | .disconnect => if w.served.isSome then some { w with served := none } else none
  | .reenableUnattendedLocal =>
    w.served.map fun s =>
      { served := some { s with agent.state := s.agent.state.reenableUnattendedLocal }
        latched := false }

/-- The runs of the server. -/
def controlServer (expected : Option String) : System (ControlServer π) (ServerEvent π) where
  init w := w.served = none ∧ w.latched = false
  step := serverStep C T J expected

/-- No agent session is replaced while the latch is set: no connection is accepted then, and no
detach is acknowledged. -/
def keepsAgent (expected : Option String) (w : ControlServer π) : ServerEvent π → Bool
  | .accept _ => !w.latched
  | .message msg _ =>
    !w.latched || w.served.all fun s =>
      !wasDetach msg || (bootGate expected s.agent.state msg).isSome ||
        !isAck (s.agent.state.handle msg).1
  | _ => true

end

/-! ## The latch of the control state -/

/-- Unattended access is latched off and not enabled. -/
structure LatchedOff (s : AgentSessionState) : Prop where
  disabled : s.unattendedDisabled = true
  off : s.unattended = false

section

variable {s : AgentSessionState}

/-- A policy that enables unattended access is refused while the latch is set. -/
theorem LatchedOff.setPolicy_refused (h : LatchedOff s) {p : SetPolicy}
    (hp : p.unattended = true) : isPositive (s.handle (.setPolicy p)).1 = false := by
  simp only [AgentSessionState.handle]
  rcases hlive : s.requireLive p.sessionId with _ | e
  · simp only [hp, h.disabled, and_self, if_true]
    rfl
  · exact requireLive_error hlive

/-- **No command clears the latch or enables unattended access against it.** -/
theorem LatchedOff.handle (h : LatchedOff s) (msg : ControlMessage) :
    LatchedOff (s.handle msg).2 := by
  obtain ⟨hdisabled, hoff⟩ := h
  cases msg with
  | attachSession a =>
    simp only [AgentSessionState.handle]
    split <;> exact ⟨hdisabled, by first | rfl | exact hoff⟩
  | setPolicy p =>
    simp only [AgentSessionState.handle]
    split
    · exact ⟨hdisabled, hoff⟩
    · split_ifs with henable
      · exact ⟨hdisabled, hoff⟩
      · refine ⟨hdisabled, ?_⟩
        simpa [hdisabled] using henable
  | killSwitch k =>
    have hkill : LatchedOff (s.kill k.disableUnattended) :=
      ⟨by simp [AgentSessionState.kill, hdisabled], rfl⟩
    simp only [AgentSessionState.handle]
    split
    · exact ⟨hdisabled, hoff⟩
    · split
      · exact hkill
      · exact ⟨hdisabled, hoff⟩
    · exact hkill
  | showSessionChrome sid visible label =>
    simp only [AgentSessionState.handle]
    split
    · exact ⟨hdisabled, hoff⟩
    · split_ifs <;> exact ⟨hdisabled, hoff⟩
  | queryStats sid? =>
    simp only [AgentSessionState.handle]
    split
    · exact ⟨hdisabled, hoff⟩
    · split_ifs <;> exact ⟨hdisabled, hoff⟩
  | detachSession sid reason | shutdownSession sid reason =>
    simp only [AgentSessionState.handle]
    split
    · exact ⟨hdisabled, hoff⟩
    · exact ⟨hdisabled, rfl⟩
  | startMedia sid _ | stopMedia sid | signalForward sid =>
    simp only [AgentSessionState.handle]
    split <;> exact ⟨hdisabled, hoff⟩
  | localConfirmResult | statsPush | ack | error => exact ⟨hdisabled, hoff⟩

/-- A kill switch that is carried out and disables unattended access sets the latch. -/
theorem handle_kill_latches {k : KillSwitch} (hdisable : k.disableUnattended = true)
    (hpositive : isPositive (s.handle (.killSwitch k)).1 = true) :
    LatchedOff (s.handle (.killSwitch k)).2 := by
  have hkill : LatchedOff (s.kill k.disableUnattended) :=
    ⟨by simp [AgentSessionState.kill, hdisable], rfl⟩
  simp only [AgentSessionState.handle] at hpositive ⊢
  split at hpositive
  · cases hpositive
  · split_ifs at hpositive ⊢ with htarget
    · exact hkill
    · cases hpositive
  · exact hkill

end

section

variable {π : Type} {C : Crypto} {T : PeerTransport π} {J : Codec} {a a' : AgentSession π}

/-- Driving the manager changes the control state in one place: media that did not start is taken
back. -/
theorem drive_state {msg reply reply' : ControlMessage} {ans : AgentAnswers}
    (h : a.drive C T J ans reply msg = some (reply', a')) :
    (a'.state = a.state ∨ a'.state = { a.state with mediaStarted := false }) ∧
      (wasDetach msg = true → reply' = reply) := by
  cases msg with
  | startMedia sid display =>
    simp only [AgentSession.drive] at h
    split at h <;> cases h
    · exact ⟨.inl rfl, by simp [wasDetach]⟩
    · exact ⟨.inr rfl, by simp [wasDetach]⟩
  | signalForward f =>
    simp only [AgentSession.drive] at h
    split_ifs at h
    · rw [Option.map_eq_some_iff] at h
      obtain ⟨⟨u, m⟩ | ⟨e, m⟩, -, h⟩ := h
      all_goals
        cases h
        exact ⟨.inl rfl, by simp [wasDetach]⟩
    · cases h
      exact ⟨.inl rfl, by simp [wasDetach]⟩
  | queryStats sid =>
    cases reply <;> cases h <;> exact ⟨.inl rfl, by simp [wasDetach]⟩
  | attachSession | detachSession | shutdownSession | stopMedia | killSwitch | setPolicy
  | showSessionChrome | localConfirmResult | statsPush | ack | error =>
    cases h
    exact ⟨.inl rfl, fun _ => rfl⟩

/-- **The control state after a command** is the one that the control state machine computes, but
that media may not have started; and an end of session gets the reply of the state machine. -/
theorem handle_state {msg reply : ControlMessage} {ans : AgentAnswers}
    (h : a.handle C T J ans msg = some (reply, a')) :
    (a'.state = (a.state.handle msg).2 ∨
        a'.state = { (a.state.handle msg).2 with mediaStarted := false }) ∧
      (wasDetach msg = true ∨ isPositive (a.state.handle msg).1 = false →
        reply = (a.state.handle msg).1) := by
  unfold AgentSession.handle at h
  dsimp only at h
  split_ifs at h with hpositive
  · obtain ⟨hstate, hreply⟩ := drive_state h
    refine ⟨hstate, fun hcase => hreply (hcase.resolve_right ?_)⟩
    simp [hpositive]
  · cases h
    exact ⟨.inl rfl, fun _ => rfl⟩

/-- A command keeps the latch. -/
theorem LatchedOff.agent (hlatch : LatchedOff a.state) {msg reply : ControlMessage}
    {ans : AgentAnswers} (h : a.handle C T J ans msg = some (reply, a')) : LatchedOff a'.state := by
  obtain ⟨hdisabled, hoff⟩ := hlatch.handle msg
  obtain ⟨hstate | hstate, -⟩ := handle_state h
  all_goals
    rw [hstate]
    exact ⟨hdisabled, hoff⟩

/-- A kill switch that the agent carries out sets the latch. -/
theorem agent_kill_latches {k : KillSwitch} {reply : ControlMessage} {ans : AgentAnswers}
    (h : a.handle C T J ans (.killSwitch k) = some (reply, a'))
    (hdisable : k.disableUnattended = true)
    (hpositive : isPositive (a.state.handle (.killSwitch k)).1 = true) : LatchedOff a'.state := by
  obtain ⟨hdisabled, hoff⟩ := handle_kill_latches hdisable hpositive
  obtain ⟨hstate | hstate, -⟩ := handle_state h
  all_goals
    rw [hstate]
    exact ⟨hdisabled, hoff⟩

end

/-! ## Rounds of the serving loop -/

section

variable {π : Type} {C : Crypto} {T : PeerTransport π} {J : Codec} {expected : Option String}

/-- The control state of the agent that serves a connection. -/
def Served.state (s : Served π) : AgentSessionState := s.agent.state

theorem keeps_sendControl (ans : ServeAnswers π) (msg : ControlMessage) :
    Keeps Served.state (sendControl ans msg) := by
  intro s
  unfold after sendControl
  split <;> rfl

theorem keeps_sendAll (ans : ServeAnswers π) (msgs : List ControlMessage) :
    Keeps Served.state (sendAll ans msgs) := by
  induction msgs with
  | nil => exact .of_pure _
  | cons msg msgs ih => exact .bind (keeps_sendControl ans msg) fun _ => ih

/-- A round that replaces no agent leaves the control state alone once the agent has answered. -/
theorem keeps_finishRound (ans : ServeAnswers π) {msg reply : ControlMessage}
    (h : (wasDetach msg && isAck reply) = false) :
    Keeps Served.state (finishRound T ans msg reply) := by
  have hpoll : ∀ s : Served π, (pollLive T s).state = s.state := by
    intro s
    unfold pollLive
    split_ifs <;> rfl
  have hpump : ∀ s : Served π, (pumpAfter T ans msg s).state = s.state := by
    intro s
    unfold pumpAfter
    split_ifs <;> rfl
  unfold finishRound
  refine .bind (keeps_sendControl ans reply) fun _ => .bind (.of_modify hpoll) fun _ => ?_
  refine .bind (fun s => rfl) fun signals => .bind (keeps_sendAll ans signals) fun _ => ?_
  refine .bind (keeps_sendControl ans _) fun _ => .bind (.of_modify hpump) fun _ => ?_
  rw [h]
  exact .of_pure _

/-- No method of the control plane is refused as media. -/
theorem refuseMedia_nil (msg : ControlMessage) : refuseMedia msg = [] := by
  have hnone : forbiddenMediaMethods.filter (msg.methodName = ·) = [] := by
    rw [List.filter_eq_nil_iff]
    intro name hname heq
    rw [← of_decide_eq_true heq] at hname
    exact methodName_not_forbidden msg hname
  rw [refuseMedia, hnone]
  rfl

/-- **What a round does to the control state**: nothing when the boot secret refuses the message,
what the agent session does otherwise, unless the session is replaced. -/
theorem serveMessage_cases {ans : ServeAnswers π} {msg : ControlMessage} {s : Served π}
    {outcome : EStateM.Result ControlLoopError (Served π) Unit}
    (h : serveMessage C T J expected ans msg s = some outcome) :
    ((bootGate expected s.state msg).isSome ∧ (finalState outcome).state = s.state) ∨
      ∃ reply a, bootGate expected s.state msg = none ∧
        s.agent.handle C T J ans.agent msg = some (reply, a) ∧
        ((wasDetach msg && isAck (s.state.handle msg).1) = false →
          (finalState outcome).state = a.state) := by
  unfold serveMessage at h
  rw [refuseMedia_nil] at h
  simp only [sendAll, pure, EStateM.pure] at h
  rcases hgate : bootGate expected s.agent.state msg with _ | refusal
  · simp only [hgate, Option.map_eq_some_iff] at h
    obtain ⟨⟨reply, a⟩, ha, rfl⟩ := h
    refine .inr ⟨reply, a, hgate, ha, fun hkeep => ?_⟩
    refine keeps_finishRound ans ?_ { s with agent := a }
    rcases hdetach : wasDetach msg with _ | _
    · rfl
    · rw [(handle_state ha).2 (.inl hdetach), ← hdetach]
      exact hkeep
  · simp only [hgate, Option.some.injEq] at h
    subst h
    refine .inl ⟨by simp [Served.state, hgate], ?_⟩
    exact keeps_sendAll ans [refusal, drainComplete] s

/-! ## Runs of the server -/

/-- While the latch is set, unattended access is off in the agent session that serves. -/
def LatchHeld (w : ControlServer π) : Prop :=
  w.latched = true → ∀ s, w.served = some s → LatchedOff s.agent.state

/-- **The step lemma**: a step that replaces no agent session keeps the latch. -/
theorem LatchHeld.step {w w' : ControlServer π} (hw : LatchHeld w) {e : ServerEvent π}
    (hcond : keepsAgent expected w e = true)
    (h : (controlServer C T J expected).step w e = some w') : LatchHeld w' := by
  intro hlatched s' hs'
  cases e with
  | accept fresh =>
    simp only [controlServer, serverStep] at h
    split at h
    · cases h
      rw [keepsAgent, hlatched] at hcond
      cases hcond
    · cases h
  | message msg ans =>
    simp only [controlServer, serverStep, Option.bind_eq_some_iff, Option.map_eq_some_iff] at h
    obtain ⟨s, hs, outcome, houtcome, rfl⟩ := h
    have hfinal : (finalState outcome).state = s'.state := by
      rcases outcome with ⟨u, t⟩ | ⟨e, t⟩
      · exact congrArg Served.state (Option.some.inj hs')
      · cases hs'
    show LatchedOff s'.state
    rcases hold : w.latched with _ | _
    · -- this message sets the latch
      have hset : setsLatch expected s msg = true := by simpa [hold] using hlatched
      cases msg with
      | killSwitch k =>
        simp only [setsLatch, Bool.and_eq_true, Option.isNone_iff_eq_none] at hset
        obtain ⟨⟨hgate, hdisable⟩, hpositive⟩ := hset
        obtain ⟨hrefused, -⟩ | ⟨reply, a, -, ha, hkeep⟩ := serveMessage_cases houtcome
        · simp [Served.state, hgate] at hrefused
        · rw [← hfinal, hkeep rfl]
          exact agent_kill_latches ha hdisable hpositive
      | _ => cases hset
    · have hoff : LatchedOff s.agent.state := hw hold s hs
      obtain ⟨-, hsame⟩ | ⟨reply, a, hgate, ha, hkeep⟩ := serveMessage_cases houtcome
      · rw [← hfinal, hsame]
        exact hoff
      · have hkept : (wasDetach msg && isAck (s.state.handle msg).1) = false := by
          simp only [Served.state] at hgate ⊢
          simpa [keepsAgent, hold, hs, hgate, imp_iff_not_or] using hcond
        rw [← hfinal, hkeep hkept]
        exact hoff.agent ha
  | disconnect =>
    simp only [controlServer, serverStep] at h
    split_ifs at h
    cases h
    cases hs'
  | reenableUnattendedLocal =>
    simp only [controlServer, serverStep, Option.map_eq_some_iff] at h
    obtain ⟨s, -, rfl⟩ := h
    cases hlatched

/-- **Unattended access stays disabled, while the agent session is not replaced**: once a kill
switch has disabled it and until it is enabled locally, no session is unattended, no message makes
one unattended, and a policy that asks for it is refused. -/
theorem unattended_stays_disabled {w : ControlServer π}
    (h : (controlServer C T J expected).ReachableVia (fun w e => keepsAgent expected w e = true) w)
    (hlatched : w.latched = true) {s : Served π} (hs : w.served = some s) :
    s.agent.state.unattended = false ∧
      ∀ msg ans reply a, s.agent.handle C T J ans msg = some (reply, a) →
        a.state.unattended = false ∧
          ∀ p, msg = .setPolicy p → p.unattended = true → isPositive reply = false := by
  have hinv : LatchHeld w := h.invariant LatchHeld
    (by
      rintro w ⟨-, hoff⟩ hlatched
      rw [hoff] at hlatched
      cases hlatched)
    fun _ _ _ hw hcond hstep => hw.step hcond hstep
  have hoff := hinv hlatched s hs
  refine ⟨hoff.off, fun msg ans reply a ha => ⟨(hoff.agent ha).off, ?_⟩⟩
  rintro p rfl hp
  have hrefused := hoff.setPolicy_refused hp
  rw [(handle_state ha).2 (.inr hrefused)]
  exact hrefused

end

/-! ### Concrete runs -/

/-- The answers of the platform in the runs below. -/
def demoServeAnswers : ServeAnswers MockPeer :=
  ⟨demoAgentAnswers, fun _ => none, demoCapture, .ok ⟨demoPeer, .synthetic, .synthetic, 0⟩⟩

/-- A message that is served. -/
def demoMessage (msg : ControlMessage) : ServerEvent MockPeer := .message msg demoServeAnswers

/-- Attach to a session. -/
def demoAttach (sid : String) : ServerEvent MockPeer :=
  demoMessage (.attachSession ⟨sid, none, ⟨true, false, []⟩, [], none⟩)

/-- The service connects, attaches, and the host disables unattended access. -/
def demoLatchOps : List (ServerEvent MockPeer) :=
  [.accept demoServeAnswers.fresh, demoAttach "a", demoMessage (.killSwitch ⟨none, true, .tray⟩)]

/-- The server when it starts. -/
def demoServer : ControlServer MockPeer := ⟨none, false⟩

/-- A policy that asks for unattended access. -/
def demoUnattended (sid : String) : SetPolicy := ⟨sid, true, true, 0, false⟩

/-- A second session after the kill asks for unattended access, and is refused. -/
theorem unattended_stays_disabled_attachRun :
    ∃ w s reply a, (controlServer .windowed mockTransport demoCodec none).ReachableVia
        (fun w e => keepsAgent none w e = true) w ∧
      w.latched = true ∧ w.served = some s ∧ s.agent.state.sessionId = some "b" ∧
      s.agent.handle .windowed mockTransport demoCodec demoAgentAnswers
        (.setPolicy (demoUnattended "b")) = some (reply, a) ∧
      isPositive reply = false ∧ a.state.unattended = false := by
  have hrun : ((((controlServer .windowed mockTransport demoCodec none).restrict
      (keepsAgent none)).runFrom demoServer (demoLatchOps ++ [demoAttach "b"])).any fun w =>
        w.latched && w.served.any fun s => decide (s.agent.state.sessionId = some "b") &&
          (s.agent.handle .windowed mockTransport demoCodec demoAgentAnswers
            (.setPolicy (demoUnattended "b"))).isSome) = true := by
    decide +kernel
  obtain ⟨w, hw, hchecks⟩ := (Option.any_eq_true _ _).mp hrun
  obtain ⟨hlatched, hserved⟩ := Bool.and_eq_true_iff.mp hchecks
  obtain ⟨s, hs, hsession⟩ := (Option.any_eq_true _ _).mp hserved
  obtain ⟨hsid, hhandled⟩ := Bool.and_eq_true_iff.mp hsession
  obtain ⟨⟨reply, a⟩, ha⟩ := Option.isSome_iff_exists.mp hhandled
  have hinit : ((controlServer .windowed mockTransport demoCodec none).restrict
      (keepsAgent none)).Reachable demoServer := .init ⟨rfl, rfl⟩
  have hreach := System.reachableVia_of_restrict (fun _ _ h => h)
    (System.reachable_of_runFrom hinit hw)
  obtain ⟨-, hrefused⟩ := unattended_stays_disabled hreach hlatched hs
  obtain ⟨hoff, hreply⟩ := hrefused _ _ reply a ha
  exact ⟨w, s, reply, a, hreach, hlatched, hs, of_decide_eq_true hsid, ha,
    hreply (demoUnattended "b") rfl rfl, hoff⟩

/-- **A detach after the kill takes the latch with it**: the next session is unattended. -/
theorem unattended_stays_disabled_fails :
    ¬ ∀ w, (controlServer .windowed mockTransport demoCodec none).Reachable w →
      w.latched = true → ∀ s, w.served = some s → s.agent.state.unattended = false := by
  intro hclaim
  have hrun : (((controlServer .windowed mockTransport demoCodec none).runFrom demoServer
      (demoLatchOps ++ [demoMessage (.detachSession "a" none), demoAttach "b",
        demoMessage (.setPolicy (demoUnattended "b"))])).any fun w =>
        w.latched && w.served.any fun s => s.agent.state.unattended) = true := by
    decide +kernel
  obtain ⟨w, hw, hchecks⟩ := (Option.any_eq_true _ _).mp hrun
  obtain ⟨hlatched, hserved⟩ := Bool.and_eq_true_iff.mp hchecks
  obtain ⟨s, hs, hon⟩ := (Option.any_eq_true _ _).mp hserved
  have hoff := hclaim w (System.reachable_of_runFrom (.init ⟨rfl, rfl⟩) hw) hlatched s hs
  rw [hoff] at hon
  cases hon

end RemoteLink.Host
