import RemoteLink.Host.ControlLoop

set_option autoImplicit false

/-!
# The boot secret of the control server

An agent that expects a boot secret refuses every command until an attach has presented it. The
gate has no flag of its own: it reads whether a session is attached, and a detach closes it again
because the agent session is replaced.

## Main definitions

* `Round` — what a round of the serving loop sends: a reply, the drained signals, and the end mark.
* `gatedServer` — runs of the server, with a record of whether an attach that presented the secret
  has been acknowledged on this connection since the last acknowledged detach.

## Main results

* `serveMessage_ok` — a round that completes has sent its reply, its signals and one end mark.
* `boot_secret_gate` — while the gate is closed, only an attach that presents the secret changes
  the agent; a wrong secret never changes it.
-/

namespace RemoteLink.Host

open Library Protocol Auth Net Platform

/-! ## What a round sends -/

/-- The reply of a round, and the signals that follow it. -/
structure Round where
  reply : ControlMessage
  signals : List ControlMessage
  deriving Repr, DecidableEq

/-- The messages of a round in the order in which they are sent. -/
def Round.frames (r : Round) : List ControlMessage := r.reply :: (r.signals ++ [drainComplete])

section

variable {π : Type} (C : Crypto) (T : PeerTransport π) (J : Codec)

/-- The signals that are queued after the agent session has handled a message. -/
def drainedAfter (s : Served π) : List ControlMessage := (takeSignals (pollLive T s)).1

/-- What a round answers, and the agent session that has answered. `none` is a panic. -/
def answerRound (expected : Option String) (ans : ServeAnswers π) (msg : ControlMessage)
    (s : Served π) : Option (Round × AgentSession π) :=
  match bootGate expected s.agent.state msg with
  | some refusal => some (⟨refusal, []⟩, s.agent)
  | none =>
    (s.agent.handle C T J ans.agent msg).map fun (reply, a) =>
      (⟨reply, drainedAfter T { s with agent := a }⟩, a)

end

/-- What has been sent between two states of a connection, oldest first. -/
def sentBetween {π : Type} (s s' : Served π) : List ControlMessage :=
  (s'.wire.take (s'.wire.length - s.wire.length)).reverse

section

variable {π : Type} {C : Crypto} {T : PeerTransport π} {J : Codec} {expected : Option String}
  {ans : ServeAnswers π} {msg : ControlMessage} {s s' : Served π}

/-- What comes on top of the wire has been sent. -/
theorem sentBetween_append {frames : List ControlMessage}
    (h : s'.wire = frames.reverse ++ s.wire) : sentBetween s s' = frames := by
  simp [sentBetween, h]

/-- A sequence of messages that could be sent is on the wire, and nothing else has changed. -/
theorem sendAll_ok {msgs : List ControlMessage} (h : sendAll ans msgs s = .ok () s') :
    s' = { s with wire := msgs.reverse ++ s.wire } := by
  induction msgs generalizing s with
  | nil =>
    cases h
    rfl
  | cons m msgs ih =>
    obtain ⟨⟨⟩, t, ht, hrest⟩ := bind_ok.mp h
    unfold sendControl at ht
    split at ht
    · cases ht
    · obtain ⟨-, rfl⟩ := EStateM.Result.ok.inj ht
      rw [ih hrest]
      simp

/-- Sending changes nothing but the wire. -/
theorem keeps_agent_sendAll (ans : ServeAnswers π) (msgs : List ControlMessage) :
    Keeps Served.agent (sendAll ans msgs) := by
  induction msgs with
  | nil => exact .of_pure _
  | cons m msgs ih =>
    refine .bind (fun s => ?_) fun _ => ih
    unfold after sendControl
    split <;> rfl

/-- Whether a round replaces the agent session. -/
def replacesAgent (msg reply : ControlMessage) : Bool := wasDetach msg && isAck reply

/-- **The rest of a round, if it completes**: the reply, the drained signals and the end mark have
been sent, and the agent session is a new one after a detach. -/
theorem finishRound_ok {reply : ControlMessage} (h : finishRound T ans msg reply s = .ok () s') :
    s'.wire = (Round.mk reply (drainedAfter T s)).frames.reverse ++ s.wire ∧
      (replacesAgent msg reply = true → newAgentSession ans.fresh = .ok s'.agent) := by
  unfold finishRound at h
  obtain ⟨⟨⟩, t, hreply, h⟩ := bind_ok.mp h
  obtain ⟨⟨⟩, t', hpoll, h⟩ := bind_ok.mp h
  obtain ⟨signals, u, htake, h⟩ := bind_ok.mp h
  obtain ⟨⟨⟩, u', hsignals, h⟩ := bind_ok.mp h
  obtain ⟨⟨⟩, v, hdrain, h⟩ := bind_ok.mp h
  obtain ⟨⟨⟩, v', hpump, h⟩ := bind_ok.mp h
  -- the state before each part of the round
  have ht : t = { s with wire := reply :: s.wire } := by
    unfold sendControl at hreply
    split at hreply <;> cases hreply
    rfl
  have ht' : t' = pollLive T t := (EStateM.Result.ok.inj hpoll).2.symm
  obtain ⟨hsig, hu⟩ : signals = (takeSignals t').1 ∧ u = (takeSignals t').2 := by
    obtain ⟨h₁, h₂⟩ := EStateM.Result.ok.inj htake
    exact ⟨h₁.symm, h₂.symm⟩
  have hu' := sendAll_ok hsignals
  have hv : v = { u' with wire := drainComplete :: u'.wire } := by
    unfold sendControl at hdrain
    split at hdrain <;> cases hdrain
    rfl
  have hv' : v' = pumpAfter T ans msg v := (EStateM.Result.ok.inj hpump).2.symm
  have hsignals_eq : signals = drainedAfter T s := by
    rw [hsig, ht', ht]
    unfold drainedAfter takeSignals pollLive
    dsimp only
    split <;> rfl
  have hwire : v'.wire = (Round.mk reply (drainedAfter T s)).frames.reverse ++ s.wire := by
    have hpump_wire : (pumpAfter T ans msg v).wire = v.wire := by
      unfold pumpAfter
      split_ifs <;> rfl
    have hpoll_wire : (pollLive T t).wire = t.wire := by
      unfold pollLive
      split_ifs <;> rfl
    have htake_wire : u.wire = t'.wire := by rw [hu]; rfl
    rw [hv', hpump_wire, hv, hu', htake_wire, ht', hpoll_wire, ht, ← hsignals_eq]
    simp [Round.frames]
  unfold replacesAgent
  split_ifs at h with hreplace
  · rcases hfresh : newAgentSession ans.fresh with e | agent
    · rw [hfresh] at h
      cases h
    · rw [hfresh] at h
      obtain ⟨-, rfl⟩ := EStateM.Result.ok.inj h
      exact ⟨hwire, fun _ => rfl⟩
  · obtain ⟨-, rfl⟩ := EStateM.Result.ok.inj h
    exact ⟨hwire, fun hreplace' => absurd hreplace' hreplace⟩

/-- A round is decided by the gate: no method of the control plane is refused as media. -/
theorem serveMessage_eq : serveMessage C T J expected ans msg s =
    match bootGate expected s.state msg with
    | some refusal => some (sendAll ans [refusal, drainComplete] s)
    | none => (s.agent.handle C T J ans.agent msg).map fun (reply, agent) =>
        finishRound T ans msg reply { s with agent := agent } := by
  unfold serveMessage
  rw [refuseMedia_nil]
  rfl

/-- **A round that completes** has sent its reply, the drained signals and one end mark, in this
order and nothing else. -/
theorem serveMessage_ok (h : serveMessage C T J expected ans msg s = some (.ok () s')) :
    ∃ r a, answerRound C T J expected ans msg s = some (r, a) ∧
      s'.wire = r.frames.reverse ++ s.wire ∧
      (replacesAgent msg r.reply = true → bootGate expected s.state msg = none →
        newAgentSession ans.fresh = .ok s'.agent) := by
  rw [serveMessage_eq] at h
  unfold answerRound
  simp only [Served.state] at h ⊢
  rcases hgate : bootGate expected s.agent.state msg with _ | refusal
  · simp only [hgate, Option.map_eq_some_iff] at h
    obtain ⟨⟨reply, a⟩, ha, h⟩ := h
    obtain ⟨hwire, hfresh⟩ := finishRound_ok h
    exact ⟨_, a, by rw [ha]; rfl, hwire, fun hreplace _ => hfresh hreplace⟩
  · simp only [hgate, Option.some.injEq] at h
    rw [sendAll_ok h]
    exact ⟨_, s.agent, rfl, by simp [Round.frames], fun _ hpassed => by cases hpassed⟩

/-! ## The gate -/

/-- Only the expected secret passes. -/
theorem bootSecretOk_iff {secret : String} {got : Option String} :
    bootSecretOk (some secret) got = true ↔ got = some secret := by
  rcases got with _ | got
  · simp [bootSecretOk]
  · simp only [bootSecretOk, Bool.and_eq_true, decide_eq_true_eq, Option.some.injEq]
    constructor
    · exact fun h => (utf8_injective h.2).symm
    · rintro rfl
      exact ⟨rfl, rfl⟩

/-- Whether a message is an attach that presents the secret. -/
def presents (secret : String) : ControlMessage → Bool
  | .attachSession a => a.bootSecret = some secret
  | _ => false

/-- An attach gets past the gate exactly with the secret. -/
theorem bootGate_attach {secret : String} {state : AgentSessionState} {a : AttachSession} :
    bootGate (some secret) state (.attachSession a) = none ↔ a.bootSecret = some secret := by
  unfold bootGate
  rw [← bootSecretOk_iff]
  split_ifs <;> simp_all

/-- Without a session only an attach that presents the secret gets past the gate. -/
theorem presents_of_bootGate {secret : String} {state : AgentSessionState}
    (hidle : state.sessionId = none) (h : bootGate (some secret) state msg = none) :
    presents secret msg = true := by
  cases msg with
  | attachSession a => exact decide_eq_true (bootGate_attach.mp h)
  | _ => simp [bootGate, hidle] at h

/-- A refusal is an error with the code for it. -/
theorem bootGate_refusal {state : AgentSessionState} {refusal : ControlMessage}
    (h : bootGate expected state msg = some refusal) :
    ∃ text sid, refusal = AgentSessionState.err ErrorCodes.authFailed text sid := by
  unfold bootGate at h
  split at h <;> split_ifs at h <;>
  · obtain rfl := Option.some.inj h
    exact ⟨_, _, rfl⟩

/-- **A refused message leaves the agent session as it was**, and a round that completes has sent
the refusal and the end mark. -/
theorem serveMessage_refused {refusal : ControlMessage}
    (hgate : bootGate expected s.state msg = some refusal)
    {outcome : EStateM.Result ControlLoopError (Served π) Unit}
    (h : serveMessage C T J expected ans msg s = some outcome) :
    (finalState outcome).agent = s.agent ∧
      ∀ s', outcome = .ok () s' → sentBetween s s' = [refusal, drainComplete] := by
  simp only [serveMessage_eq, hgate, Option.some.injEq] at h
  have hagent := keeps_agent_sendAll ans [refusal, drainComplete] s
  refine ⟨h ▸ hagent, ?_⟩
  rintro s' rfl
  refine sentBetween_append ?_
  rw [sendAll_ok h]

/-- An attach to an agent without a session is acknowledged. -/
theorem handle_attach_idle {a : AgentSession π} (hidle : a.state.sessionId = none)
    {m : AttachSession} {reply : ControlMessage} {a' : AgentSession π} {ans : AgentAnswers}
    (h : a.handle C T J ans (.attachSession m) = some (reply, a')) : isAck reply = true := by
  simp only [AgentSession.handle, AgentSessionState.handle, hidle, Option.isSome_none,
    Bool.false_eq_true, false_and, if_false, AgentSessionState.ack, isPositive, if_true,
    AgentSession.drive, Option.some.injEq, Prod.mk.injEq] at h
  obtain ⟨rfl, -⟩ := h
  rfl

end

/-! ## Runs of the server -/

/-- The server, and whether an attach that presented the secret has been acknowledged on this
connection since the last acknowledged detach. -/
structure GatedServer (π : Type) where
  server : ControlServer π
  opened : Bool

/-- The gate after a round, judged by the message and by what has been sent in answer to it. -/
def gateAfter (secret : String) (opened : Bool) (msg : ControlMessage)
    (sent : List ControlMessage) : Bool :=
  if sent.head?.any isAck then
    if presents secret msg then true else if wasDetach msg then false else opened
  else opened

section

variable {π : Type} (C : Crypto) (T : PeerTransport π) (J : Codec) (secret : String)

/-- One step of the server. -/
def gatedStep (w : GatedServer π) (e : ServerEvent π) : Option (GatedServer π) :=
  (serverStep C T J (some secret) w.server e).map fun server =>
    { server := server
      opened :=
        match e, w.server.served, server.served with
        | .message msg _, some s, some s' => gateAfter secret w.opened msg (sentBetween s s')
        | .reenableUnattendedLocal, _, _ => w.opened
        | _, _, _ => false }

/-- The runs of a server that expects a secret. -/
def gatedServer : System (GatedServer π) (ServerEvent π) where
  init w := w.server.served = none ∧ w.opened = false
  step := gatedStep C T J secret

/-- What the gate promises in a state of the server. -/
structure Gated (w : GatedServer π) : Prop where
  /-- While the gate is closed, a message that does not present the secret changes nothing and is
  answered with an error. -/
  closed : w.opened = false → ∀ s, w.server.served = some s → ∀ msg ans outcome,
    presents secret msg = false → serveMessage C T J (some secret) ans msg s = some outcome →
      (finalState outcome).agent = s.agent ∧ ∀ s', outcome = .ok () s' →
        ∃ text sid, sentBetween s s' =
          [AgentSessionState.err ErrorCodes.authFailed text sid, drainComplete]
  /-- An attach with another secret or none changes nothing, whether the gate is open or not, and
  does not open it. -/
  wrong : ∀ a ans, a.bootSecret ≠ some secret →
    (∀ s outcome, w.server.served = some s →
      serveMessage C T J (some secret) ans (.attachSession a) s = some outcome →
        (finalState outcome).agent = s.agent) ∧
    ∀ w', gatedStep C T J secret w (.message (.attachSession a) ans) = some w' →
      w'.opened = true → w.opened = true
  /-- A detach or shutdown that is acknowledged closes the gate. -/
  detached : ∀ msg ans w' s s', wasDetach msg = true →
    gatedStep C T J secret w (.message msg ans) = some w' → w.server.served = some s →
      w'.server.served = some s' → (sentBetween s s').head?.any isAck = true → w'.opened = false

end

section

variable {π : Type} {C : Crypto} {T : PeerTransport π} {J : Codec} {secret : String}

/-- While the gate is closed, the agent session has no session attached. -/
def ClosedIdle (w : GatedServer π) : Prop :=
  w.opened = false → ∀ s, w.server.served = some s → s.agent.state.sessionId = none

/-- No message that ends a session presents the secret. -/
theorem presents_wasDetach {msg : ControlMessage} (h : wasDetach msg = true) :
    presents secret msg = false := by
  cases msg <;> first | rfl | cases h

/-- **The step lemma**: with the gate closed no session is attached.

**Proof sketch.** A refused message leaves the agent alone and its error does not move the gate.
A message that passes while no session is attached is an attach with the secret; it is
acknowledged, so the gate is open afterwards. A detach that closes the gate has replaced the agent
session by a fresh one. -/
theorem ClosedIdle.step {w w' : GatedServer π} (hw : ClosedIdle w) {e : ServerEvent π}
    (h : (gatedServer C T J secret).step w e = some w') : ClosedIdle w' := by
  intro hclosed s' hs'
  simp only [gatedServer, gatedStep, Option.map_eq_some_iff] at h
  obtain ⟨server, hserver, rfl⟩ := h
  cases e with
  | accept fresh =>
    simp only [serverStep] at hserver
    split at hserver
    · next agent hfree hfresh =>
      cases hserver
      obtain rfl := Option.some.inj hs'
      rcases fresh with e | f
      · cases hfresh
      · cases hfresh
        rfl
    · cases hserver
  | message msg ans =>
    simp only [serverStep, Option.bind_eq_some_iff, Option.map_eq_some_iff] at hserver
    obtain ⟨s, hs, outcome, houtcome, rfl⟩ := hserver
    rcases outcome with ⟨⟨⟩, t⟩ | ⟨e, t⟩
    · obtain rfl := Option.some.inj hs'
      simp only [hs] at hclosed
      obtain ⟨r, a, hanswer, hwire, hfresh⟩ := serveMessage_ok houtcome
      rw [sentBetween_append hwire] at hclosed
      rcases hgate : bootGate (some secret) s.state msg with _ | refusal
      · have hhandled : ∃ signals, s.agent.handle C T J ans.agent msg = some (r.reply, a) ∧
            r.signals = signals := by
          unfold answerRound at hanswer
          rw [Served.state] at hgate
          rw [hgate] at hanswer
          obtain ⟨⟨reply, a'⟩, ha, hpair⟩ := Option.map_eq_some_iff.mp hanswer
          cases hpair
          exact ⟨_, ha, rfl⟩
        obtain ⟨signals, ha, -⟩ := hhandled
        by_cases hack : isAck r.reply = true
        · by_cases hdetach : wasDetach msg = true
          · -- the agent session is a fresh one
            have hnew := hfresh (by rw [replacesAgent, hdetach, hack]; rfl) hgate
            unfold newAgentSession at hnew
            split at hnew
            · cases hnew
            · rw [← Except.ok.inj hnew]
              rfl
          · -- acknowledged, but neither an attach with the secret nor a detach
            simp only [gateAfter, Round.frames, List.head?_cons, Option.any_some, hack, if_true,
              hdetach] at hclosed
            by_cases hpresents : presents secret msg = true
            · simp [hpresents] at hclosed
            · have hopen : w.opened = false := by simpa [hpresents] using hclosed
              exact absurd (presents_of_bootGate (hw hopen s hs) hgate) hpresents
        · have hopen : w.opened = false := by
            simpa [gateAfter, Round.frames, hack] using hclosed
          have hidle := hw hopen s hs
          cases msg with
          | attachSession m => exact absurd (handle_attach_idle hidle ha) hack
          | _ => cases presents_of_bootGate hidle hgate
      · obtain ⟨hagent, hsent⟩ := serveMessage_refused hgate houtcome
        have hframes := hsent t rfl
        rw [sentBetween_append hwire] at hframes
        obtain ⟨text, sid, rfl⟩ := bootGate_refusal hgate
        have hopen : w.opened = false := by
          simpa [gateAfter, hframes, isAck, AgentSessionState.err] using hclosed
        have hsame : t.agent = s.agent := hagent
        rw [hsame]
        exact hw hopen s hs
    · cases hs'
  | disconnect =>
    simp only [serverStep] at hserver
    split_ifs at hserver
    cases hserver
    cases hs'
  | reenableUnattendedLocal =>
    simp only [serverStep, Option.map_eq_some_iff] at hserver
    obtain ⟨s, hs, rfl⟩ := hserver
    obtain rfl := Option.some.inj hs'
    exact hw hclosed s hs

/-- While the gate is closed the agent has no session, in every reachable state. -/
theorem closedIdle_of_reachable {w : GatedServer π} (h : (gatedServer C T J secret).Reachable w) :
    ClosedIdle w := by
  refine h.invariant ClosedIdle ?_ fun _ _ _ hw _ hstep => hw.step hstep
  rintro w ⟨hserved, -⟩ - s hs
  rw [hserved] at hs
  cases hs

/-- A message without the secret is refused while there is no session, and an attach always. -/
theorem bootGate_refuses {msg : ControlMessage} {s : Served π} (hmsg : presents secret msg = false)
    (hcase : s.agent.state.sessionId = none ∨ ∃ a, msg = .attachSession a) :
    ∃ refusal, bootGate (some secret) s.state msg = some refusal := by
  rcases hgate : bootGate (some secret) s.state msg with _ | refusal
  · obtain hnone | ⟨a, rfl⟩ := hcase
    · rw [presents_of_bootGate hnone hgate] at hmsg
      cases hmsg
    · rw [presents, decide_eq_true (bootGate_attach.mp hgate)] at hmsg
      cases hmsg
  · exact ⟨refusal, rfl⟩

/-- **The boot-secret gate**: in every reachable state of a server that expects a secret, no
message but an attach that presents it changes the agent before such an attach has been
acknowledged; another secret never opens the gate; and a detach closes it. -/
theorem boot_secret_gate {w : GatedServer π} (h : (gatedServer C T J secret).Reachable w) :
    Gated C T J secret w := by
  have hidle := closedIdle_of_reachable h
  refine ⟨?_, ?_, ?_⟩
  · intro hclosed s hs msg ans outcome hmsg houtcome
    obtain ⟨refusal, hgate⟩ := bootGate_refuses hmsg (.inl (hidle hclosed s hs))
    obtain ⟨hagent, hsent⟩ := serveMessage_refused hgate houtcome
    obtain ⟨text, sid, rfl⟩ := bootGate_refusal hgate
    exact ⟨hagent, fun s' hs' => ⟨text, sid, hsent s' hs'⟩⟩
  · intro a ans hsecret
    have hmsg : presents secret (.attachSession a) = false := decide_eq_false hsecret
    refine ⟨fun s outcome hs houtcome => ?_, fun w' hstep hopen => ?_⟩
    · obtain ⟨refusal, hgate⟩ := bootGate_refuses (s := s) hmsg (.inr ⟨a, rfl⟩)
      exact (serveMessage_refused hgate houtcome).1
    · simp only [gatedStep, Option.map_eq_some_iff] at hstep
      obtain ⟨server, -, rfl⟩ := hstep
      dsimp only at hopen
      split at hopen
      · next hmessage _ _ =>
        cases hmessage
        simpa [gateAfter, hmsg, wasDetach] using hopen
      · exact hopen
      · cases hopen
  · intro msg ans w' s s' hdetach hstep hs hs' hack
    simp only [gatedStep, Option.map_eq_some_iff] at hstep
    obtain ⟨server, -, rfl⟩ := hstep
    have hserved : server.served = some s' := hs'
    simp only [hs, hserved, gateAfter, hack, if_true, presents_wasDetach hdetach, hdetach]
    rfl

end

/-! ### A concrete run -/

/-- Attach with a secret. -/
def demoAttachWith (secret : Option String) : ServerEvent MockPeer :=
  demoMessage (.attachSession ⟨"a", none, ⟨true, false, []⟩, [], secret⟩)

/-- The service tries another secret, attaches with the right one, and detaches. -/
def demoGateOps : List (ServerEvent MockPeer) :=
  [.accept demoServeAnswers.fresh, demoAttachWith (some "guess"), demoAttachWith (some "boot"),
    demoMessage (.detachSession "a" none)]

/-- After the detach the gate is closed again: media is not started without the secret. -/
theorem boot_secret_gate_detachRun :
    ∃ w s outcome, (gatedServer .windowed mockTransport demoCodec "boot").Reachable w ∧
      w.server.served = some s ∧
      serveMessage .windowed mockTransport demoCodec (some "boot") demoServeAnswers
        (.startMedia "a" none) s = some outcome ∧ (finalState outcome).agent = s.agent := by
  have hrun : (((gatedServer .windowed mockTransport demoCodec "boot").runFrom
      ⟨demoServer, false⟩ demoGateOps).any fun w => !w.opened && w.server.served.any fun s =>
        (serveMessage .windowed mockTransport demoCodec (some "boot") demoServeAnswers
          (.startMedia "a" none) s).isSome) = true := by
    decide +kernel
  obtain ⟨w, hw, hchecks⟩ := (Option.any_eq_true _ _).mp hrun
  obtain ⟨hclosed, hserved⟩ := Bool.and_eq_true_iff.mp hchecks
  obtain ⟨s, hs, hsome⟩ := (Option.any_eq_true _ _).mp hserved
  obtain ⟨outcome, houtcome⟩ := Option.isSome_iff_exists.mp hsome
  have hinit : (gatedServer .windowed mockTransport demoCodec "boot").Reachable
      ⟨demoServer, false⟩ := .init ⟨rfl, rfl⟩
  have hgated := boot_secret_gate (System.reachable_of_runFrom hinit hw)
  have hunchanged := hgated.closed (by simpa using hclosed) s hs _ _ _ rfl houtcome
  exact ⟨w, s, outcome, System.reachable_of_runFrom hinit hw, hs, houtcome, hunchanged.1⟩

end RemoteLink.Host
