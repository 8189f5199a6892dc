import RemoteLink.Host.AgentInvariant

set_option autoImplicit false

/-!
# The agent and its media manager

The agent keeps its control state beside a session manager: the state is changed first, by a pure
function, and then the manager by operations that can fail. Both record whether media runs, which
session is attached, and whether input may be injected.

`startMedia` installs the media sources before it makes the local offer, so that a transport that
refuses the offer leaves the sources running while the agent reports that media is off. This is the
only way the two come apart.

## Main definitions

* `Agrees` — the control state and the manager record the same.
* `agentUses` — runs of an agent: control messages, and everything else that is done with its
  manager between them.
* `startsWhole` — a step that does not fail half way through `startMedia`.

## Main results

* `Agrees.handle_iff` — a control message keeps the agreement exactly if it is not such a failure.
* `agent_manager_agree` — the agreement in every state of every run without such a failure.
-/

namespace RemoteLink.Host

open Library Protocol Auth Net Platform

/-! ## Runs -/

/-- Whether the sources of a manager run. -/
def SessionManager.mediaStarted {π : Type} (m : SessionManager π) : Bool := m.media.isSome

/-- The operations that the agent performs itself while it handles a control message. -/
def ManagerOp.isControl {π : Type} : ManagerOp π → Bool
  | attach .. | detach | setInputPolicyEnabled _ | startMedia _ | stopMedia | shutdown => true
  | _ => false

/-- What is done with an agent: a control message, a poll, or an operation on the manager between
two messages. -/
inductive AgentUse (π : Type) where
  | handle (msg : ControlMessage) (ans : AgentAnswers)
  | pollInbound (ans : Nat → InjectAnswers)
  | between (op : ManagerOp π)

section

variable {π : Type} (C : Crypto) (T : PeerTransport π) (J : Codec)

/-- The agent after a use; `none` is a panic, or an operation that is the agent's own. -/
def AgentUse.apply (a : AgentSession π) : AgentUse π → Option (AgentSession π)
  | handle msg ans => (a.handle C T J ans msg).map Prod.snd
  | pollInbound ans => some (a.pollInbound C T J ans)
  | between op =>
    if op.isControl then none else (op.apply C T J a.manager).map fun m => { a with manager := m }

/-- The runs of an agent over any transport. -/
def agentUses : System (AgentSession π) (AgentUse π) where
  init a := ∃ peer videoKind audioKind now,
    a = .withManager (.withPeer peer videoKind audioKind now)
  step a e := e.apply C T J a

/-- Whether the transport lets the manager make its local offer: it creates one, takes it as the
local description, and exports the fingerprint if there is a key to sign it with. -/
def makesOffer (m : SessionManager π) : Bool :=
  let offered := T.createOffer m.peer
  match offered.result with
  | .error _ => false
  | .ok offer =>
    let described := T.setLocalDescription offered.peer offer
    match described.result with
    | .error _ => false
    | .ok () => m.deviceSigningKey.isNone || (T.localFingerprint described.peer).toBool

/-- `startMedia` fails half way: it opens the sources, and the fresh transport refuses the offer. -/
def failsHalfway (ans : SessionManager.MediaAnswers) (m : SessionManager π) : Bool :=
  !m.mediaStarted && (SessionManager.openMedia ans).toBool &&
    decide (T.connectionState m.peer = .new) && !makesOffer T m

/-- A step in which no accepted `StartMedia` fails half way. -/
def startsWhole (a : AgentSession π) : AgentUse π → Bool
  | .handle (.startMedia sid _) ans =>
    (a.state.requireLive sid).isSome || !failsHalfway T ans.media a.manager
  | _ => true

end

/-- The control state and the manager record the same: whether media runs, the session (a killed
one is gone from the manager), and whether input may be injected. -/
structure Agrees {π : Type} (a : AgentSession π) : Prop where
  media : a.state.mediaStarted = a.manager.mediaStarted
  session : a.manager.sessionId = if a.state.killed then none else a.state.sessionId
  policy : a.manager.policyInputEnabled = (a.state.enableInput && !a.state.killed)

/-- What of a manager the agreement is about. -/
def flagsOf {π : Type} (m : SessionManager π) : Bool × Option String × Bool :=
  (m.mediaStarted, m.sessionId, m.policyInputEnabled)

/-- What of a control state the agreement is about, as a manager has to record it. -/
def flagsFor (s : AgentSessionState) : Bool × Option String × Bool :=
  (s.mediaStarted, if s.killed then none else s.sessionId, s.enableInput && !s.killed)

/-- What an accepted command makes of it. -/
def acceptedFlags (s : AgentSessionState) : ControlMessage → Bool × Option String × Bool
  | .attachSession a => (false, some a.sessionId, false)
  | .detachSession .. | .shutdownSession .. | .killSwitch _ => (false, none, false)
  | .setPolicy p => (s.mediaStarted, (flagsFor s).2.1, p.enableInput)
  | .startMedia .. => (true, (flagsFor s).2)
  | .stopMedia _ => (false, (flagsFor s).2)
  | _ => flagsFor s

section

variable {π : Type} {C : Crypto} {T : PeerTransport π} {J : Codec} {a a' : AgentSession π}
  {m m' : SessionManager π}

/-! ## What leaves the flags of the manager as they are -/

theorem offPlane_flags : OffPlane (flagsOf (π := π)) where
  peer _ _ _ := rfl
  signals _ _ _ := rfl
  counters m count := by
    simp [flagsOf, SessionManager.mediaStarted, Option.isSome_map]

/-- What leaves the gate alone leaves the session and the policy alone. -/
theorem rest_of_gate (h : gateOf m' = gateOf m) : (flagsOf m').2 = (flagsOf m).2 := by
  have hsession : m'.sessionId = m.sessionId := congrArg Prod.fst h
  have hpolicy : m'.policyInputEnabled = m.policyInputEnabled :=
    congrArg (fun g => g.2.2.2.2.1) h
  exact Prod.ext hsession hpolicy

theorem flags_startChallenge (nonce : Bytes) :
    Keeps flagsOf (SessionManager.startIdentityChallenge T nonce : SessionM π Unit) := by
  unfold SessionManager.startIdentityChallenge
  refine .bind .of_get fun m => ?_
  split_ifs
  · exact .of_throw _
  · exact .of_throw _
  · exact .of_throw _
  · exact .bind (keeps_onPeer offPlane_flags _) fun _ => .of_modify fun _ => rfl
  · exact .of_throw _

theorem offInbound_flags : OffInbound (flagsOf (π := π)) :=
  ⟨fun _ _ _ _ => rfl, fun _ _ _ _ _ _ _ => rfl⟩

theorem flags_pollInbound (ans : Nat → InjectAnswers) :
    Keeps flagsOf (SessionManager.pollInbound C T J ans) :=
  keeps_pollInbound offInbound_flags (keeps_onPeer offPlane_flags _) (fun _ => rfl) C J ans

/-- **An operation that is not the agent's own leaves the flags alone.** -/
theorem flags_between {op : ManagerOp π} (hop : op.isControl = false)
    (h : op.apply C T J m = some m') : flagsOf m' = flagsOf m := by
  cases op with
  | attach | detach | setInputPolicyEnabled | startMedia | stopMedia | shutdown => cases hop
  | authorizeModeA record code pepper now =>
    cases h
    unfold SessionManager.authorizeModeA
    rcases Auth.authorizeModeA C record code pepper now with ⟨e | k, record'⟩ <;> rfl
  | authorizeModeB secret challenge fpHost fpViewer mac =>
    cases h
    unfold SessionManager.authorizeModeB after
    dsimp only
    split
    · rfl
    · split <;> rfl
  | authorizeUnattendedSecret secret =>
    cases h
    unfold SessionManager.authorizeUnattendedSecret after
    dsimp only
    split <;> rfl
  | startIdentityChallenge nonce =>
    cases h
    exact flags_startChallenge nonce m
  | pollInbound ans =>
    cases h
    exact flags_pollInbound ans m
  | processInputMessage ans msg =>
    cases h
    exact keeps_processInput offInbound_flags J ans msg m
  | pumpMedia ans n =>
    cases h
    exact keeps_pumpMedia offPlane_flags T ans n m
  | applySignal kind payload =>
    simp only [ManagerOp.apply, Option.map_eq_some_iff] at h
    obtain ⟨res, hres, rfl⟩ := h
    exact keeps_applySignal offPlane_flags hres
  | createLocalOfferAndQueue sid =>
    cases h
    exact keeps_createLocalOffer offPlane_flags C T J sid m
  | waitReady t =>
    cases h
    exact keeps_onPeer offPlane_flags _ m
  | setInjectorConfig config native now =>
    cases h
    unfold SessionManager.setInjectorConfig
    rcases openInjector config native now with e | injector <;> rfl
  | takeOutboundSignals | takeAcceptedInput | setDeviceSigningKey | setInjector | configure
  | transport =>
    cases h
    rfl

/-! ## Starting media -/

/-- The local offer is queued exactly if the transport lets the manager make it. -/
theorem createLocalOffer_ok_iff {sid : String} {m : SessionManager π} :
    (∃ m', SessionManager.createLocalOfferAndQueue C T J sid m = .ok () m') ↔
      makesOffer T m = true := by
  unfold SessionManager.createLocalOfferAndQueue makesOffer
  dsimp only [bind, EStateM.bind, SessionManager.onPeer]
  rcases (T.createOffer m.peer).result with e | offer
  · simp
  dsimp only
  rcases (T.setLocalDescription (T.createOffer m.peer).peer offer).result with e | u
  · simp
  dsimp only [SessionManager.fingerprintSig]
  rcases m.deviceSigningKey with _ | key
  · exact iff_of_true ⟨_, rfl⟩ rfl
  dsimp only
  rcases T.localFingerprint
    (T.setLocalDescription (T.createOffer m.peer).peer offer).peer with e | fp
  · simp [Except.toBool]
  · exact iff_of_true ⟨_, rfl⟩ rfl

/-- `startMedia` for an attached session, with its reads carried out. -/
theorem startMedia_eq {sid : String} (hsid : m.sessionId = some sid)
    (ans : SessionManager.MediaAnswers) :
    SessionManager.startMedia C T J ans m =
      if m.media.isSome then .ok () m
      else match SessionManager.openMedia ans with
        | .error e => .error e m
        | .ok plane =>
          (if T.connectionState m.peer = .new then
            SessionManager.createLocalOfferAndQueue C T J sid
          else modify (SessionManager.queuePendingIce J sid)) { m with media := some plane } := by
  unfold SessionManager.startMedia
  dsimp only [bind, EStateM.bind, get, getThe, MonadStateOf.get, EStateM.get]
  conv_lhs => rw [hsid]
  dsimp only
  split_ifs <;> rcases SessionManager.openMedia ans with e | plane <;> rfl

/-- **What `startMedia` does for an attached session**: it succeeds with running sources, or it
fails, and then the sources run exactly if it fails half way. -/
theorem startMedia_cases {sid : String} (hsid : m.sessionId = some sid)
    (ans : SessionManager.MediaAnswers) :
    (∃ m', SessionManager.startMedia C T J ans m = .ok () m' ∧ m'.mediaStarted = true ∧
      failsHalfway T ans m = false) ∨
    ∃ e m', SessionManager.startMedia C T J ans m = .error e m' ∧
      m'.mediaStarted = failsHalfway T ans m := by
  rw [startMedia_eq hsid]
  by_cases hmedia : m.media.isSome = true
  · rw [if_pos hmedia]
    exact .inl ⟨m, rfl, hmedia, by simp [failsHalfway, SessionManager.mediaStarted, hmedia]⟩
  rw [if_neg hmedia]
  have hoff : m.mediaStarted = false := by simpa [SessionManager.mediaStarted] using hmedia
  rcases hopen : SessionManager.openMedia ans with e | plane
  · exact .inr ⟨e, m, rfl, by simp [failsHalfway, hopen, hoff, Except.toBool]⟩
  -- the sources run from here on, whatever the transport answers
  dsimp only
  by_cases hnew : T.connectionState m.peer = .new
  · rw [if_pos hnew]
    have hhalf : failsHalfway T ans m = !makesOffer T { m with media := some plane } := by
      simp [failsHalfway, hopen, hoff, hnew, Except.toBool, makesOffer]
    have hstarted := congrArg Prod.fst
      (keeps_createLocalOffer offPlane_flags C T J sid { m with media := some plane })
    rcases hoffer : SessionManager.createLocalOfferAndQueue C T J sid
      { m with media := some plane } with ⟨u, m'⟩ | ⟨e, m'⟩
    · rw [after_ok hoffer] at hstarted
      have hmade := createLocalOffer_ok_iff.mp ⟨m', hoffer⟩
      exact .inl ⟨m', rfl, hstarted, by rw [hhalf, hmade]; rfl⟩
    · rw [after_error hoffer] at hstarted
      have hnot : ¬ ∃ m'', SessionManager.createLocalOfferAndQueue C T J sid
          { m with media := some plane } = .ok () m'' := by
        rw [hoffer]
        simp
      have hrefused : makesOffer T { m with media := some plane } = false :=
        Bool.eq_false_iff.mpr fun hmade => hnot (createLocalOffer_ok_iff.mpr hmade)
      exact .inr ⟨e, m', rfl, by rw [hhalf, hrefused]; exact hstarted⟩
  · rw [if_neg hnew]
    exact .inl ⟨_, rfl, rfl, by simp [failsHalfway, hnew]⟩

/-! ## One control message -/

/-- The agreement is an equation between the flags. -/
theorem agrees_iff : Agrees a ↔ flagsOf a.manager = flagsFor a.state := by
  constructor
  · intro h
    exact Prod.ext h.media.symm (Prod.ext h.session h.policy)
  · intro h
    have hrest := congrArg Prod.snd h
    exact ⟨(congrArg Prod.fst h).symm, congrArg Prod.fst hrest, congrArg Prod.snd hrest⟩

/-- A refused command leaves the flags of the state as they are. -/
theorem refused_flags {s : AgentSessionState} {msg : ControlMessage}
    (h : isPositive (s.handle msg).1 = false) : flagsFor (s.handle msg).2 = flagsFor s := by
  cases msg with
  | attachSession a =>
    simp only [AgentSessionState.handle] at h ⊢
    split_ifs at h ⊢
    · rfl
    · cases h
  | detachSession sid reason | shutdownSession sid reason | stopMedia sid =>
    simp only [AgentSessionState.handle] at h ⊢
    split at h
    · rfl
    · cases h
  | setPolicy p =>
    simp only [AgentSessionState.handle] at h ⊢
    split at h
    · rfl
    · split_ifs at h ⊢
      · rfl
      · cases h
  | startMedia sid displayId =>
    simp only [AgentSessionState.handle] at h ⊢
    split at h
    · rfl
    · cases h
  | signalForward f =>
    simp only [AgentSessionState.handle]
    split <;> rfl
  | queryStats sid? =>
    simp only [AgentSessionState.handle]
    split
    · rfl
    · split <;> rfl
  | showSessionChrome sid visible label =>
    simp only [AgentSessionState.handle]
    split
    · rfl
    · split
      · rfl
      · split <;> rfl
  | killSwitch k =>
    simp only [AgentSessionState.handle] at h ⊢
    split at h
    · rfl
    · split_ifs at h ⊢
      · cases h
      · rfl
    · cases h
  | localConfirmResult | statsPush | ack | error => rfl

/-- **What an accepted command does to the flags of the state.** -/
theorem accepted_flags {s : AgentSessionState} {msg : ControlMessage}
    (h : isPositive (s.handle msg).1 = true) : flagsFor (s.handle msg).2 = acceptedFlags s msg := by
  cases msg with
  | attachSession a =>
    simp only [AgentSessionState.handle] at h ⊢
    split_ifs at h ⊢
    · cases h
    · rfl
  | detachSession sid reason | shutdownSession sid reason | stopMedia sid =>
    simp only [AgentSessionState.handle] at h ⊢
    split at h
    · rename_i e he
      rw [requireSession_error he] at h
      cases h
    · rfl
  | setPolicy p =>
    simp only [AgentSessionState.handle] at h ⊢
    split at h
    · rename_i e he
      rw [requireLive_error he] at h
      cases h
    · rename_i hlive
      obtain ⟨-, hkilled⟩ := requireLive_none.mp hlive
      split_ifs at h ⊢
      · cases h
      · simp [flagsFor, acceptedFlags, hkilled]
  | startMedia sid displayId =>
    simp only [AgentSessionState.handle] at h ⊢
    split at h
    · rename_i e he
      rw [requireLive_error he] at h
      cases h
    · rfl
  | signalForward f =>
    simp only [AgentSessionState.handle]
    split <;> rfl
  | queryStats sid? =>
    simp only [AgentSessionState.handle]
    split
    · rfl
    · split <;> rfl
  | showSessionChrome sid visible label =>
    simp only [AgentSessionState.handle]
    split
    · rfl
    · split
      · rfl
      · split <;> rfl
  | killSwitch k =>
    simp only [AgentSessionState.handle] at h ⊢
    split at h
    · cases h
    · split_ifs at h ⊢
      · simp [flagsFor, acceptedFlags, AgentSessionState.kill]
      · cases h
    · simp [flagsFor, acceptedFlags, AgentSessionState.kill]
  | localConfirmResult | statsPush | ack | error => rfl

/-- A `StartMedia` is accepted only for the live session. -/
theorem startMedia_live {s : AgentSessionState} {sid : String} {display : Option String}
    (h : isPositive (s.handle (.startMedia sid display)).1 = true) : s.requireLive sid = none := by
  simp only [AgentSessionState.handle] at h
  split at h
  · rename_i e he
    rw [requireLive_error he] at h
    cases h
  · rename_i hlive
    exact hlive

/-- A `StartMedia` for the live session is accepted. -/
theorem startMedia_refused {s : AgentSessionState} {sid : String} {display : Option String}
    (h : isPositive (s.handle (.startMedia sid display)).1 = false) :
    (s.requireLive sid).isSome = true := by
  simp only [AgentSessionState.handle] at h
  split at h
  · rename_i e he
    rw [he]
    rfl
  · cases h

/-- **A control message keeps the agreement exactly if no `StartMedia` fails half way in it.** -/
theorem Agrees.handle_iff (ha : Agrees a) {msg reply : ControlMessage} {ans : AgentAnswers}
    (h : a.handle C T J ans msg = some (reply, a')) :
    Agrees a' ↔ startsWhole T a (.handle msg ans) = true := by
  have hflags := agrees_iff.mp ha
  unfold AgentSession.handle at h
  rcases hpositive : isPositive (a.state.handle msg).1 with _ | _
  · -- a refused command reaches the state only, and not its flags
    simp only [hpositive] at h
    cases h
    have hwhole : startsWhole T a (.handle msg ans) = true := by
      cases msg with
      | startMedia sid display => simp [startsWhole, startMedia_refused hpositive]
      | _ => rfl
    simp only [hwhole, iff_true]
    exact agrees_iff.mpr (hflags.trans (refused_flags hpositive).symm)
  have hstate := accepted_flags hpositive
  simp only [hpositive, if_true] at h
  rcases hhandled : a.state.handle msg with ⟨first, state⟩
  rw [hhandled] at h hstate
  dsimp only at h hstate
  cases msg with
  | attachSession m | detachSession sid reason | shutdownSession sid reason =>
    cases h
    simp only [startsWhole, iff_true]
    exact agrees_iff.mpr hstate.symm
  | killSwitch k =>
    cases h
    simp only [startsWhole, iff_true]
    refine agrees_iff.mpr (Eq.trans ?_ hstate.symm)
    have hpolicy := congrArg (fun f => f.2.2) hstate
    exact Prod.ext rfl (Prod.ext rfl hpolicy)
  | setPolicy p =>
    cases h
    simp only [startsWhole, iff_true]
    refine agrees_iff.mpr (Eq.trans ?_ hstate.symm)
    have hpolicy := congrArg (fun f => f.2.2) hstate
    have hsession := congrArg (fun f => f.2.1) hflags
    exact Prod.ext ha.media.symm (Prod.ext hsession hpolicy)
  | stopMedia sid =>
    cases h
    simp only [startsWhole, iff_true]
    refine agrees_iff.mpr (Eq.trans ?_ hstate.symm)
    have hrest := congrArg Prod.snd hflags
    exact Prod.ext rfl hrest
  | startMedia sid display =>
    have hlive := startMedia_live hpositive
    obtain ⟨hsid, hkilled⟩ := requireLive_none.mp hlive
    have hattached : a.manager.sessionId = some sid := by
      rw [ha.session, hkilled, hsid]
      rfl
    have hgate := keeps_startMedia C T J ans.media a.manager
    have hrest := congrArg Prod.snd hflags
    simp only [startsWhole, hlive, Option.isSome_none, Bool.false_or, Bool.not_eq_true']
    obtain ⟨m', hok, hstarted, hhalf⟩ | ⟨e, m', herror, hstarted⟩ :=
      startMedia_cases (C := C) (J := J) hattached ans.media
    · unfold AgentSession.drive at h
      dsimp only at h
      rw [hok] at h
      cases h
      rw [after_ok hok] at hgate
      simp only [hhalf, iff_true]
      refine agrees_iff.mpr (Eq.trans ?_ hstate.symm)
      exact Prod.ext hstarted ((rest_of_gate hgate).trans hrest)
    · unfold AgentSession.drive at h
      dsimp only at h
      rw [herror] at h
      cases h
      rw [after_error herror] at hgate
      rw [← hstarted]
      constructor
      · intro hagree
        exact hagree.media.symm
      · intro hoff
        have hkept := (rest_of_gate hgate).trans hrest
        exact agrees_iff.mpr (Prod.ext hoff (hkept.trans (congrArg Prod.snd hstate).symm))
  | signalForward f =>
    simp only [startsWhole, iff_true]
    simp only [AgentSession.drive] at h
    split_ifs at h
    · rw [Option.map_eq_some_iff] at h
      obtain ⟨res, hres, h⟩ := h
      have hkept := keeps_applySignal offPlane_flags hres
      rcases res with ⟨u, m⟩ | ⟨e, m⟩
      all_goals
        cases h
        exact agrees_iff.mpr ((hkept.trans hflags).trans hstate.symm)
    · cases h
      exact agrees_iff.mpr (hflags.trans hstate.symm)
  | queryStats sid? =>
    simp only [startsWhole, iff_true]
    cases first <;>
    · cases h
      exact agrees_iff.mpr (hflags.trans hstate.symm)
  | showSessionChrome | localConfirmResult | statsPush | ack | error =>
    cases h
    simp only [startsWhole, iff_true]
    exact agrees_iff.mpr (hflags.trans hstate.symm)

/-! ## Runs -/

/-- A step in which no `StartMedia` fails half way keeps the agreement. -/
theorem Agrees.step (ha : Agrees a) {e : AgentUse π} (hwhole : startsWhole T a e = true)
    (h : (agentUses C T J).step a e = some a') : Agrees a' := by
  cases e with
  | handle msg ans =>
    obtain ⟨⟨reply, b⟩, hb, rfl⟩ := Option.map_eq_some_iff.mp h
    exact (ha.handle_iff hb).mpr hwhole
  | pollInbound ans =>
    cases h
    have hflags := agrees_iff.mp ha
    have hsynced : flagsOf a.syncInputPolicy.manager = flagsFor a.state :=
      Prod.ext ha.media.symm (Prod.ext (congrArg (fun f => f.2.1) hflags) rfl)
    exact agrees_iff.mpr ((flags_pollInbound ans a.syncInputPolicy.manager).trans hsynced)
  | between op =>
    simp only [agentUses, AgentUse.apply] at h
    split_ifs at h with hop
    obtain ⟨m, hm, rfl⟩ := Option.map_eq_some_iff.mp h
    have hkept := flags_between (by simpa using hop) hm
    exact agrees_iff.mpr (hkept.trans (agrees_iff.mp ha))

/-- **The control state agrees with the manager, unless `startMedia` fails half way**: in every run
of an agent in which no `StartMedia` opens its sources and then fails to make the local offer,
state and manager record the same after every step. The next control message keeps this exactly if
it is not such a failure. -/
theorem agent_manager_agree
    (h : (agentUses C T J).ReachableVia (fun a e => startsWhole T a e = true) a) :
    (a.state.mediaStarted = a.manager.mediaStarted ∧
      a.manager.sessionId = (if a.state.killed then none else a.state.sessionId) ∧
      a.manager.policyInputEnabled = (a.state.enableInput && !a.state.killed)) ∧
    ∀ msg ans reply a', a.handle C T J ans msg = some (reply, a') →
      (Agrees a' ↔ startsWhole T a (.handle msg ans) = true) := by
  have ha : Agrees a := by
    refine h.invariant Agrees ?_ fun a e a' ha hwhole hstep => ha.step hwhole hstep
    rintro a ⟨peer, videoKind, audioKind, now, rfl⟩
    exact ⟨rfl, rfl, rfl⟩
  exact ⟨⟨ha.media, ha.session, ha.policy⟩, fun _ _ _ _ hhandle => ha.handle_iff hhandle⟩

end

/-! ### Concrete runs -/

/-- A transport that has not been used. -/
def freshPeer : MockPeer := MockPeer.new "host" (demoFingerprint 'A')

/-- The mock transport, but it cannot create an offer: so a listener answers that cannot bind. -/
def refusingTransport : PeerTransport MockPeer :=
  { mockTransport with
    createOffer := fun p => ⟨.error (.internal "live bind 127.0.0.1:0: Address in use"), p, []⟩ }

/-- Attach a session, allow its input and start media. -/
def startUses : List (AgentUse MockPeer) :=
  [.handle (.attachSession ⟨"a", none, ⟨true, false, []⟩, [], none⟩) demoAgentAnswers,
    .handle (.setPolicy ⟨"a", true, false, 0, false⟩) demoAgentAnswers,
    .handle (.startMedia "a" none) demoAgentAnswers]

/-- The agent at the start. -/
def freshAgent : AgentSession MockPeer :=
  .withManager (.withPeer freshPeer .synthetic .synthetic 0)

/-- Media is started on a transport that makes its offer, and the kill switch stops it. -/
theorem agent_manager_agree_killed :
    ∃ a, (agentUses .windowed mockTransport demoCodec).ReachableVia
        (fun a e => startsWhole mockTransport a e = true) a ∧
      a.state.killed = true ∧ a.state.sessionId = some "a" ∧ a.manager.sessionId = none := by
  have hrun : ((((agentUses .windowed mockTransport demoCodec).restrict
      (startsWhole mockTransport)).runFrom freshAgent
        (startUses ++ [.handle (.killSwitch ⟨none, false, .hotkey⟩) demoAgentAnswers])).any fun a =>
          a.state.killed && decide (a.state.sessionId = some "a")) = true := by
    decide +kernel
  obtain ⟨a, ha, hlast⟩ := (Option.any_eq_true _ _).mp hrun
  rw [Bool.and_eq_true, decide_eq_true_eq] at hlast
  have hinit : ((agentUses .windowed mockTransport demoCodec).restrict
      (startsWhole mockTransport)).Reachable freshAgent := .init ⟨_, _, _, _, rfl⟩
  have hreach := System.reachableVia_of_restrict (fun _ _ h => h)
    (System.reachable_of_runFrom hinit ha)
  have hsession := (agent_manager_agree hreach).1.2.1
  rw [hlast.1] at hsession
  exact ⟨a, hreach, hlast.1, hlast.2, hsession⟩

/-- **An offer that fails leaves the sources running while the state says that media is off.** -/
theorem agent_manager_apart :
    ¬ ∀ a, (agentUses .windowed refusingTransport demoCodec).Reachable a → Agrees a := by
  intro hclaim
  have hrun : (((agentUses .windowed refusingTransport demoCodec).runFrom freshAgent
      startUses).any fun a => !a.state.mediaStarted && a.manager.mediaStarted) = true := by
    decide +kernel
  obtain ⟨a, ha, hlast⟩ := (Option.any_eq_true _ _).mp hrun
  rw [Bool.and_eq_true, Bool.not_eq_true'] at hlast
  have hinit : (agentUses .windowed refusingTransport demoCodec).Reachable freshAgent :=
    .init ⟨_, _, _, _, rfl⟩
  have hagree := (hclaim a (System.reachable_of_runFrom hinit ha)).media
  rw [hlast.1, hlast.2] at hagree
  cases hagree

end RemoteLink.Host
