import Mathlib.Tactic.SplitIfs
import RemoteLink.Library.Fallible
import RemoteLink.Library.Runs
import RemoteLink.Host.Session
import RemoteLink.Net.Mock

set_option autoImplicit false

/-!
# The gate of input injection

What the history of a session manager has to contain before an input event is injected. The
fields of the manager that make up its gate are functions of that history, and the history is
lawful: no event is in it that the events before it do not allow.

## Main definitions

* `History.session`, `History.key`, `History.outstanding`, … — the gate as a history has it.
* `History.Allowed`, `History.Lawful` — which events may follow a history.
* `ManagerOp` — the operations of the manager, `managerSystem` their runs.
* `Tracks` — the manager's fields are those of its history.
* `Permitted` — the events since the last attach that permit an injection.

## Main results

* `managerSystem_tracks` — the fields follow the history in every run.
* `injection_gate` — an event is injected only after an authorization, a verified response to a
  challenge issued since the attach, and with the policy enabled.
-/

namespace RemoteLink.Host

open Library Protocol Auth Net Platform

/-! ## Histories -/

/-- What a manager did, newest first. -/
abbrev History (π : Type) := List (GateEvent π)

/-- Whether an event ends what was permitted before it. -/
def GateEvent.IsBoundary {π : Type} : GateEvent π → Prop
  | attached _ | detached => True
  | _ => False

/-- Whether an event issues or consumes a challenge. -/
def GateEvent.IsExchange {π : Type} : GateEvent π → Prop
  | challenged _ | answered .. => True
  | _ => False

namespace History

variable {π : Type}

/-- What an event says about the attached session. -/
def sessionStep : GateEvent π → Option (Option String)
  | .attached sid => some (some sid)
  | .detached => some none
  | _ => none

/-- What an event says about the key of the session. -/
def keyStep : GateEvent π → Option (Option SessionBindKey)
  | .attached _ | .detached => some none
  | .authorized k => some (some k)
  | _ => none

/-- What an event says about the identity bind. -/
def boundStep : GateEvent π → Option Bool
  | .attached _ | .detached => some false
  | .bound .. => some true
  | _ => none

/-- What an event says about the pending challenge. -/
def outstandingStep : GateEvent π → Option (Option DcIdentityChallenge)
  | .attached _ | .detached | .answered .. => some none
  | .challenged c => some (some c)
  | _ => none

/-- What an event says about the policy. -/
def policyStep : GateEvent π → Option Bool
  | .attached _ | .detached => some false
  | .policySet b => some b
  | _ => none

/-- The session attached at the end of a history. -/
def session (h : History π) : Option String := (h.findSome? sessionStep).join

/-- The key of the last authorization since the last boundary. -/
def key (h : History π) : Option SessionBindKey := (h.findSome? keyStep).join

/-- Whether a response has verified since the last boundary. -/
def bound (h : History π) : Bool := (h.findSome? boundStep).getD false

/-- The challenge that awaits its response. -/
def outstanding (h : History π) : Option DcIdentityChallenge :=
  (h.findSome? outstandingStep).join

/-- Whether the last policy change since the last boundary enabled input. -/
def policy (h : History π) : Bool := (h.findSome? policyStep).getD false

/-- The transport `peer` exports fingerprints under which the response verifies. -/
def Verified (C : Crypto) (T : PeerTransport π) (k : SessionBindKey) (sid : String)
    (c : DcIdentityChallenge) (r : DcIdentityResponse) (peer : π) : Prop :=
  ∃ fpHost fpViewer, T.localFingerprint peer = .ok fpHost ∧
    T.remoteFingerprint peer = .ok (some fpViewer) ∧
    verifyDcBindMac C k (utf8 sid) c.nonce (utf8 fpHost.asSignMaterial)
      (utf8 fpViewer.asSignMaterial) r.mac = .ok ()

/-- What must be the case before an event. -/
def Allowed (C : Crypto) (T : PeerTransport π) (h : History π) : GateEvent π → Prop
  | .challenged _ => (session h).isSome
  | .answered c _ => outstanding h = some c
  | .bound k sid c r peer =>
    ∃ h', h = .answered c r :: h' ∧ key h' = some k ∧ session h' = some sid ∧
      Verified C T k sid c r peer
  | .injected _ => policy h = true ∧ (key h).isSome ∧ bound h = true
  | .forced => False
  | _ => True

/-- Every event is allowed by the events before it. -/
def Lawful (C : Crypto) (T : PeerTransport π) : History π → Prop
  | [] => True
  | e :: h => Allowed C T h e ∧ Lawful C T h

end History

/-! ## The manager follows its history -/

/-- The fields of the gate are those of the history, and the history is lawful. -/
structure Tracks {π : Type} (C : Crypto) (T : PeerTransport π) (m : SessionManager π) : Prop where
  session : m.sessionId = History.session m.trace
  key : m.bindKey = History.key m.trace
  authorized : m.identity.sessionAuthorized = (History.key m.trace).isSome
  bound : m.identity.identityBound = History.bound m.trace
  outstanding : m.pendingDcChallenge = History.outstanding m.trace
  policy : m.policyInputEnabled = History.policy m.trace
  identity : ∀ sid, m.sessionId = some sid → m.identity.sessionId = sid
  attached : m.sessionId = none → m.pendingDcChallenge = none
  lawful : History.Lawful C T m.trace

/-- The part of a manager that makes up its gate. -/
def gateOf {π : Type} (m : SessionManager π) :=
  (m.sessionId, m.bindKey, m.identity, m.pendingDcChallenge, m.policyInputEnabled, m.trace)

section

variable {π : Type} {C : Crypto} {T : PeerTransport π} {m m' : SessionManager π}

/-- Whatever leaves the gate alone keeps the invariant. -/
theorem Tracks.congr (h : gateOf m' = gateOf m) (hm : Tracks C T m) : Tracks C T m' := by
  simp only [gateOf, Prod.mk.injEq] at h
  obtain ⟨hsession, hkey, hidentity, hpending, hpolicy, htrace⟩ := h
  exact {
    session := by rw [hsession, htrace]; exact hm.session
    key := by rw [hkey, htrace]; exact hm.key
    authorized := by rw [hidentity, htrace]; exact hm.authorized
    bound := by rw [hidentity, htrace]; exact hm.bound
    outstanding := by rw [hpending, htrace]; exact hm.outstanding
    policy := by rw [hpolicy, htrace]; exact hm.policy
    identity := by rw [hsession, hidentity]; exact hm.identity
    attached := by rw [hsession, hpending]; exact hm.attached
    lawful := by rw [htrace]; exact hm.lawful }

/-! ### Operations of the transport and of the media plane

They change the transport, the callbacks, the queued signals and the counters of the sources, and
nothing that is read off the rest of the manager. -/

/-- A part of the manager that the transport and the flow of media leave alone. -/
structure OffPlane {τ : Type} (f : SessionManager π → τ) : Prop where
  peer (m : SessionManager π) (peer : π) (cb : AgentPeerCallbacks) :
    f { m with peer := peer, cb := cb } = f m
  signals (m : SessionManager π) (cb : AgentPeerCallbacks) (signals : List SignalForward) :
    f { m with cb := cb, outboundSignals := signals } = f m
  counters (m : SessionManager π) (count : MediaPlane → MediaPlane) :
    f { m with media := m.media.map count } = f m

/-- The gate is such a part. -/
theorem offPlane_gate : OffPlane (gateOf (π := π)) :=
  ⟨fun _ _ _ => rfl, fun _ _ _ => rfl, fun _ _ => rfl⟩

section

variable {τ : Type} {f : SessionManager π → τ}

theorem keeps_onPeer {α : Type} (hf : OffPlane f) (g : π → Call π α) :
    Keeps f (SessionManager.onPeer g : SessionM π α) := by
  intro m
  rcases hc : (g m.peer).result with e | a
  · rw [after_error (by rw [SessionManager.onPeer, hc])]
    exact hf.peer m _ _
  · rw [after_ok (by rw [SessionManager.onPeer, hc])]
    exact hf.peer m _ _

/-- Signing the fingerprint changes nothing. -/
theorem keeps_fingerprintSig (C : Crypto) (T : PeerTransport π) (sid : String) :
    Keeps f (SessionManager.fingerprintSig C T sid) := by
  intro m
  have hsame : after (SessionManager.fingerprintSig C T sid) m = m := by
    unfold SessionManager.fingerprintSig after
    dsimp only
    rcases m.deviceSigningKey with _ | key
    · rfl
    · dsimp only
      rcases T.localFingerprint m.peer with e | fp <;> rfl
  rw [hsame]

theorem keeps_createLocalOffer (hf : OffPlane f) (C : Crypto) (T : PeerTransport π) (J : Codec)
    (sid : String) : Keeps f (SessionManager.createLocalOfferAndQueue C T J sid) := by
  unfold SessionManager.createLocalOfferAndQueue
  refine .bind (keeps_onPeer hf _) fun offer => .bind (keeps_onPeer hf _) fun _ =>
    .bind ?_ fun sig => .bind (.of_modify fun m => hf.signals m _ _) fun _ =>
      .of_modify fun m => hf.signals m _ _
  exact keeps_fingerprintSig C T sid

theorem keeps_pumpAudio (hf : OffPlane f) (T : PeerTransport π)
    (ans : SessionManager.CaptureAnswers) (slot : Nat) (is : List Nat) (sent : Nat) :
    Keeps f (SessionManager.pumpAudio T ans slot is sent) := by
  induction is generalizing sent with
  | nil => exact .of_pure _
  | cons i is ih =>
    unfold SessionManager.pumpAudio
    rcases ans.audioFrame slot i with e | _ | frame
    · exact .of_throw _
    · exact ih sent
    · dsimp only
      rcases ans.encodeAudio frame with e | packet
      · exact .of_throw _
      · exact .bind (.of_modify fun m => hf.counters m _) fun _ =>
          .bind (keeps_onPeer hf _) fun _ => ih _

theorem keeps_pumpVideo (hf : OffPlane f) (T : PeerTransport π)
    (ans : SessionManager.CaptureAnswers) (slot : Nat) :
    Keeps f (SessionManager.pumpVideo T ans slot) := by
  unfold SessionManager.pumpVideo
  rcases SessionManager.nextVideo ans slot (List.range 8) with e | _ | frame
  · exact .of_throw _
  · exact .of_pure _
  · refine .bind .of_get fun m => ?_
    rcases m.media with _ | media
    · exact .of_throw _
    · dsimp only
      rcases ans.encodeVideo frame (media.videoFramesSent % 30 = 0) with e | nalu
      · exact .of_throw _
      · exact .bind (.of_modify fun m => hf.counters m _) fun _ =>
          .bind (keeps_onPeer hf _) fun _ => .of_pure _

theorem keeps_pumpSlots (hf : OffPlane f) (T : PeerTransport π)
    (ans : SessionManager.CaptureAnswers) (slots : List Nat) (stats : PumpStats) :
    Keeps f (SessionManager.pumpSlots T ans slots stats) := by
  induction slots generalizing stats with
  | nil => exact .of_pure _
  | cons slot slots ih =>
    exact .bind (keeps_pumpAudio hf T ans slot _ _) fun _ =>
      .bind (keeps_pumpVideo hf T ans slot) fun _ => ih _

theorem keeps_pumpMedia (hf : OffPlane f) (T : PeerTransport π)
    (ans : SessionManager.CaptureAnswers) (n : Nat) :
    Keeps f (SessionManager.pumpMedia T ans n) := by
  unfold SessionManager.pumpMedia
  refine .bind .of_get fun m => ?_
  split_ifs
  · exact .of_throw _
  · exact .of_pure _
  · exact .bind (keeps_pumpSlots hf T ans _ _) fun _ =>
      .bind (.of_modify fun m => hf.peer m _ _) fun _ => .of_pure _

theorem keeps_applyDescription (hf : OffPlane f) (T : PeerTransport π) (J : Codec) (ty : SdpType)
    (payload : String) : Keeps f (SessionManager.applyDescription T J ty payload) := by
  unfold SessionManager.applyDescription
  rcases SessionManager.parseSdpPayload J payload with e | sdp
  · exact .of_throw _
  · refine .bind (keeps_onPeer hf _) fun _ => .of_modify fun m => ?_
    rcases m.sessionId with _ | sid
    · rfl
    · exact hf.signals m _ _

/-- The state after a signal, if applying it does not panic. -/
theorem keeps_applySignal (hf : OffPlane f) {J : Codec} {kind payload : String}
    {res : EStateM.Result SessionError (SessionManager π) Unit}
    (h : m.applySignal T J kind payload = some res) :
    f (finalState res) = f m := by
  unfold SessionManager.applySignal at h
  split_ifs at h with hoffer hanswer hice
  · obtain rfl := Option.some.inj h
    exact keeps_applyDescription hf T J .offer payload m
  · obtain rfl := Option.some.inj h
    exact keeps_applyDescription hf T J .answer payload m
  · rw [Option.map_eq_some_iff] at h
    obtain ⟨e | candidate, -, rfl⟩ := h
    · rfl
    · exact keeps_onPeer hf _ m
  · obtain rfl := Option.some.inj h
    rfl

end

theorem keeps_startMedia (C : Crypto) (T : PeerTransport π) (J : Codec)
    (ans : SessionManager.MediaAnswers) :
    Keeps gateOf (SessionManager.startMedia C T J ans) := by
  unfold SessionManager.startMedia
  refine .bind .of_get fun m => ?_
  cases m.sessionId with
  | none => exact .of_throw _
  | some sid =>
    dsimp only
    split
    · exact .of_pure _
    · rcases SessionManager.openMedia ans with e | plane
      · exact .of_throw _
      · refine .bind (.of_modify fun _ => rfl) fun _ => ?_
        split
        · exact keeps_createLocalOffer offPlane_gate C T J sid
        · exact .of_modify fun _ => rfl

/-! ### Steps of the gate -/

theorem Tracks.withPeer (peer : π) (vk : VideoCaptureKind) (ak : AudioCaptureKind) (now : Instant) :
    Tracks C T (SessionManager.withPeer peer vk ak now) where
  session := rfl
  key := rfl
  authorized := rfl
  bound := rfl
  outstanding := rfl
  policy := rfl
  identity := by simp [SessionManager.withPeer]
  attached := fun _ => rfl
  lawful := trivial

theorem Tracks.attach (hm : Tracks C T m) (sid : String) (native : Except InjectError Unit)
    (now : Instant) : Tracks C T (m.attach sid native now) where
  session := rfl
  key := rfl
  authorized := rfl
  bound := rfl
  outstanding := rfl
  policy := rfl
  identity := by simp [SessionManager.attach, SessionManager.note, IdentityBindState.new]
  attached := fun _ => rfl
  lawful := ⟨trivial, hm.lawful⟩

theorem Tracks.detach (hm : Tracks C T m) : Tracks C T m.detach where
  session := rfl
  key := rfl
  authorized := rfl
  bound := rfl
  outstanding := rfl
  policy := rfl
  identity := by simp [SessionManager.detach, SessionManager.note]
  attached := fun _ => rfl
  lawful := ⟨trivial, hm.lawful⟩

theorem Tracks.setPolicy (hm : Tracks C T m) (b : Bool) :
    Tracks C T (m.setInputPolicyEnabled b) where
  session := hm.session
  key := hm.key
  authorized := hm.authorized
  bound := hm.bound
  outstanding := hm.outstanding
  policy := rfl
  identity := hm.identity
  attached := hm.attached
  lawful := ⟨trivial, hm.lawful⟩

theorem Tracks.authorize (hm : Tracks C T m) (k : SessionBindKey) :
    Tracks C T (m.authorized k) where
  session := hm.session
  key := rfl
  authorized := rfl
  bound := hm.bound
  outstanding := hm.outstanding
  policy := hm.policy
  identity := hm.identity
  attached := hm.attached
  lawful := ⟨trivial, hm.lawful⟩

theorem Tracks.challenge (hm : Tracks C T m) (hsid : m.sessionId.isSome)
    (c : DcIdentityChallenge) :
    Tracks C T ({ m with pendingDcChallenge := some c }.note (.challenged c)) where
  session := hm.session
  key := hm.key
  authorized := hm.authorized
  bound := hm.bound
  outstanding := rfl
  policy := hm.policy
  identity := hm.identity
  attached := by
    intro hnone
    rw [show m.sessionId = none from hnone] at hsid
    simp at hsid
  lawful := ⟨by rw [hm.session] at hsid; exact hsid, hm.lawful⟩

/-- Taking the pending challenge. -/
theorem Tracks.answer (hm : Tracks C T m) {c : DcIdentityChallenge}
    (hc : m.pendingDcChallenge = some c) (r : DcIdentityResponse) :
    Tracks C T ({ m with pendingDcChallenge := none }.note (.answered c r)) where
  session := hm.session
  key := hm.key
  authorized := hm.authorized
  bound := hm.bound
  outstanding := rfl
  policy := hm.policy
  identity := hm.identity
  attached := fun _ => rfl
  lawful := ⟨show History.outstanding m.trace = some c from hm.outstanding ▸ hc, hm.lawful⟩

theorem Tracks.inject (hm : Tracks C T m) (hopen : m.injectionAllowed = true) (event : InputEvent)
    (injector : AnyInjector) :
    Tracks C T
      (({ m with injector := injector }.pushAcceptedInput event).note (.injected event)) where
  session := hm.session
  key := hm.key
  authorized := hm.authorized
  bound := hm.bound
  outstanding := hm.outstanding
  policy := hm.policy
  identity := hm.identity
  attached := hm.attached
  lawful := by
    simp only [SessionManager.injectionAllowed, IdentityBindState.inputAllowed,
      Bool.and_eq_true] at hopen
    obtain ⟨hpolicy, hbound, hauth⟩ := hopen
    exact ⟨⟨hm.policy ▸ hpolicy, hm.authorized ▸ hauth, hm.bound ▸ hbound⟩, hm.lawful⟩

/-- What issuing a challenge can do: refuse and leave the gate alone, or send a challenge of an
attached session. -/
theorem startIdentityChallenge_cases (T : PeerTransport π) (nonce : Bytes)
    (m : SessionManager π) :
    (∃ e m', SessionManager.startIdentityChallenge T nonce m = .error e m' ∧
      gateOf m' = gateOf m) ∨
    ∃ m', SessionManager.startIdentityChallenge T nonce m =
        .ok () ({ m' with pendingDcChallenge := some ⟨nonce⟩ }.note (.challenged ⟨nonce⟩)) ∧
      gateOf m' = gateOf m ∧ m.sessionId.isSome ∧ m.identity.sessionAuthorized = true := by
  unfold SessionManager.startIdentityChallenge
  dsimp only [bind, EStateM.bind, get, getThe, MonadStateOf.get, EStateM.get, throw, throwThe,
    MonadExceptOf.throw, EStateM.throw]
  split
  · exact .inl ⟨_, m, rfl, rfl⟩
  rename_i hsid
  split
  · exact .inl ⟨_, m, rfl, rfl⟩
  rename_i hauth
  split
  · exact .inl ⟨_, m, rfl, rfl⟩
  split
  · exact .inl ⟨_, m, rfl, rfl⟩
  have hpeer := keeps_onPeer offPlane_gate (fun peer => T.sendData peer
    ⟨identityChannelLabel, (⟨nonce⟩ : DcIdentityChallenge).encode, false⟩) m
  rcases hres : SessionManager.onPeer (fun peer => T.sendData peer
    ⟨identityChannelLabel, (⟨nonce⟩ : DcIdentityChallenge).encode, false⟩) m
    with ⟨u, m'⟩ | ⟨e, m'⟩
  · rw [after_ok hres] at hpeer
    refine .inr ⟨m', ?_, hpeer, by simpa [Option.isSome_iff_ne_none] using hsid,
      by simpa using hauth⟩
    rw [EStateM.bind, hres]
    rfl
  · rw [after_error hres] at hpeer
    refine .inl ⟨e, m', ?_, hpeer⟩
    rw [EStateM.bind, hres]

/-- What checking a response can do: fail and change nothing, or bind the identity. -/
theorem verifyResponse_cases (C : Crypto) (T : PeerTransport π) (c : DcIdentityChallenge)
    (r : DcIdentityResponse) (m : SessionManager π) :
    (∃ e, SessionManager.verifyResponse C T c r m = .error e m) ∨
    ∃ k, m.bindKey = some k ∧ History.Verified C T k m.identity.sessionId c r m.peer ∧
      SessionManager.verifyResponse C T c r m =
        .ok () ({ m with identity := m.identity.markIdentityBound }.note
          (.bound k m.identity.sessionId c r m.peer)) := by
  unfold SessionManager.verifyResponse
  rcases hk : m.bindKey with _ | k
  · exact .inl ⟨_, rfl⟩
  rcases hlocal : T.localFingerprint m.peer with e | fpHost
  · exact .inl ⟨_, rfl⟩
  rcases hremote : T.remoteFingerprint m.peer with e | _ | fpViewer
  · exact .inl ⟨_, rfl⟩
  · exact .inl ⟨_, rfl⟩
  rcases hbind : completeDcBind C m.identity k c r fpHost.asSignMaterial
    fpViewer.asSignMaterial with e | identity
  · exact .inl ⟨.auth e, by simp only [hbind]⟩
  · obtain ⟨hverify, rfl⟩ := completeDcBind_ok.mp hbind
    exact .inr ⟨k, rfl, ⟨fpHost, fpViewer, hlocal, hremote, hverify⟩, by simp only [hbind]⟩

/-! ### What arrives

Messages change the identity exchange and the record of the input, and nothing that is read off
the rest of the manager. -/

/-- What a message of the identity channel can change. -/
theorem identityData_changes (C : Crypto) (T : PeerTransport π) (data : Bytes)
    (m : SessionManager π) :
    ∃ pending identity trace,
      after (SessionManager.handleIdentityData C T data : SessionM π Unit) m =
        { m with pendingDcChallenge := pending, identity := identity, trace := trace } := by
  unfold SessionManager.handleIdentityData
  rcases DcIdentityMessage.parse data with e | c | r
  · exact ⟨_, _, _, rfl⟩
  · exact ⟨_, _, _, rfl⟩
  unfold SessionManager.handleResponse after
  dsimp only
  rcases m.pendingDcChallenge with _ | c
  · exact ⟨_, _, _, rfl⟩
  dsimp only
  obtain ⟨e, hres⟩ | ⟨k, -, -, hres⟩ := verifyResponse_cases C T c r
    ({ m with pendingDcChallenge := none }.note (.answered c r))
  · rw [hres]
    exact ⟨_, _, _, rfl⟩
  · rw [hres]
    exact ⟨_, _, _, rfl⟩

/-- What an input message can change. -/
theorem processInput_changes (J : Codec) (ans : InjectAnswers) (msg : DataMessage)
    (m : SessionManager π) :
    ∃ injector accepted rejected undecoded limited trace,
      (m.processInputMessage J ans msg).2 =
        { m with
          injector := injector, acceptedInput := accepted, rejectedInputCount := rejected
          inputDecodeErrors := undecoded, inputRateLimited := limited, trace := trace } := by
  unfold SessionManager.processInputMessage
  split
  · exact ⟨_, _, _, _, _, _, rfl⟩
  split
  · exact ⟨_, _, _, _, _, _, rfl⟩
  split
  · exact ⟨_, _, _, _, _, _, rfl⟩
  · exact ⟨_, _, _, _, _, _, rfl⟩
  · exact ⟨_, _, _, _, _, _, rfl⟩

/-- A part of the manager that is none of these. -/
structure OffInbound {τ : Type} (f : SessionManager π → τ) : Prop where
  exchange (m : SessionManager π) (pending : Option DcIdentityChallenge)
    (identity : IdentityBindState) (trace : List (GateEvent π)) :
    f { m with pendingDcChallenge := pending, identity := identity, trace := trace } = f m
  input (m : SessionManager π) (injector : AnyInjector) (accepted : List InputEvent)
    (rejected undecoded limited : UInt64) (trace : List (GateEvent π)) :
    f { m with
        injector := injector, acceptedInput := accepted, rejectedInputCount := rejected
        inputDecodeErrors := undecoded, inputRateLimited := limited, trace := trace } = f m

section

variable {τ : Type} {f : SessionManager π → τ}

theorem keeps_processInput (hf : OffInbound f) (J : Codec) (ans : InjectAnswers)
    (msg : DataMessage) (m : SessionManager π) : f (m.processInputMessage J ans msg).2 = f m := by
  obtain ⟨injector, accepted, rejected, undecoded, limited, trace, hm⟩ :=
    processInput_changes J ans msg m
  rw [hm]
  exact hf.input m injector accepted rejected undecoded limited trace

theorem keeps_identityData (hf : OffInbound f) (C : Crypto) (T : PeerTransport π) (data : Bytes) :
    Keeps f (SessionManager.handleIdentityData C T data) := by
  intro m
  obtain ⟨pending, identity, trace, hm⟩ := identityData_changes C T data m
  rw [hm]
  exact hf.exchange m pending identity trace

theorem keeps_handleInbound (hf : OffInbound f) (C : Crypto) (T : PeerTransport π) (J : Codec)
    (ans : Nat → InjectAnswers) (msgs : List DataMessage) (i : Nat) (stats : InboundStats) :
    Keeps f (SessionManager.handleInbound C T J ans msgs i stats) := by
  induction msgs generalizing i stats with
  | nil => exact .of_pure _
  | cons msg msgs ih =>
    unfold SessionManager.handleInbound
    split_ifs
    · exact .bind (keeps_identityData hf C T msg.data) fun _ => ih _ _
    · exact .bind (keeps_processInput hf J _ msg) fun _ => ih _ _
    · exact ih _ _

/-- A poll leaves alone what the transport, the taking of the messages and the messages leave
alone. -/
theorem keeps_pollInbound (hf : OffInbound f) {T : PeerTransport π}
    (hpoll : Keeps f (SessionManager.onPeer T.poll : SessionM π Unit))
    (htake : ∀ m : SessionManager π, f m.takeData.2 = f m) (C : Crypto) (J : Codec)
    (ans : Nat → InjectAnswers) : Keeps f (SessionManager.pollInbound C T J ans) := by
  unfold SessionManager.pollInbound
  exact .bind hpoll fun _ => .bind htake fun msgs => keeps_handleInbound hf C T J ans msgs 0 _

end

/-- A challenge is issued only to an attached session. -/
theorem Tracks.startChallenge (nonce : Bytes) :
    Preserves (Tracks C T) (SessionManager.startIdentityChallenge T nonce : SessionM π Unit) := by
  intro m hm
  obtain ⟨e, m', hres, hgate⟩ | ⟨m', hres, hgate, hsid, -⟩ :=
    startIdentityChallenge_cases T nonce m
  · rw [after_error hres]
    exact hm.congr hgate
  · rw [after_ok hres]
    have hsame : m'.sessionId = m.sessionId := congrArg Prod.fst hgate
    exact (hm.congr hgate).challenge (hsame ▸ hsid) _

/-- **A response**: the challenge is taken, and only a verified response binds the identity. -/
theorem Tracks.response (r : DcIdentityResponse) :
    Preserves (Tracks C T) (SessionManager.handleResponse C T r : SessionM π Unit) := by
  intro m hm
  unfold SessionManager.handleResponse after
  dsimp only
  rcases hc : m.pendingDcChallenge with _ | c
  · exact hm
  have hans := hm.answer hc r
  obtain ⟨e, hres⟩ | ⟨k, hk, hverified, hres⟩ := verifyResponse_cases C T c r
    ({ m with pendingDcChallenge := none }.note (.answered c r))
  · dsimp only
    rw [hres]
    exact hans
  · obtain ⟨sid, hsid⟩ : ∃ sid, m.sessionId = some sid := by
      rcases hopt : m.sessionId with _ | sid
      · rw [hm.attached hopt] at hc
        cases hc
      · exact ⟨sid, rfl⟩
    dsimp only
    rw [hres]
    exact {
      session := hm.session
      key := hm.key
      authorized := hm.authorized
      bound := rfl
      outstanding := rfl
      policy := hm.policy
      identity := hm.identity
      attached := fun _ => rfl
      lawful := ⟨⟨m.trace, rfl, hm.key ▸ hk, hm.session ▸ hsid.trans (by
        rw [← hm.identity sid hsid]; rfl), hverified⟩, hans.lawful⟩ }

theorem Tracks.identityData (data : Bytes) :
    Preserves (Tracks C T) (SessionManager.handleIdentityData C T data : SessionM π Unit) := by
  unfold SessionManager.handleIdentityData
  rcases DcIdentityMessage.parse data with e | c | r
  · exact .of_throw _
  · exact .of_throw _
  · exact .response r

/-- An input message is injected only through the open gate. -/
theorem Tracks.input (hm : Tracks C T m) (J : Codec) (ans : InjectAnswers) (msg : DataMessage) :
    Tracks C T (m.processInputMessage J ans msg).2 := by
  unfold SessionManager.processInputMessage
  split
  · exact hm.congr (by rfl)
  rename_i hopen
  split
  · exact hm.congr (by rfl)
  split
  · exact hm.inject (by simpa using hopen) _ _
  · exact hm.congr (by rfl)
  · exact hm.congr (by rfl)

theorem Tracks.inbound (J : Codec) (ans : Nat → InjectAnswers) (msgs : List DataMessage) (i : Nat)
    (stats : InboundStats) :
    Preserves (Tracks C T)
      (SessionManager.handleInbound C T J ans msgs i stats : SessionM π InboundStats) := by
  induction msgs generalizing i stats with
  | nil => exact .of_pure _
  | cons msg msgs ih =>
    unfold SessionManager.handleInbound
    split_ifs
    · exact .bind (.identityData msg.data) fun _ => ih _ _
    · exact .bind (.of_modifyGet fun m hm => hm.input J _ msg) fun _ => ih _ _
    · exact ih _ _

theorem Tracks.poll (J : Codec) (ans : Nat → InjectAnswers) :
    Preserves (Tracks C T) (SessionManager.pollInbound C T J ans : SessionM π InboundStats) := by
  unfold SessionManager.pollInbound
  refine .bind ((keeps_onPeer offPlane_gate _).preserves fun m m' h hm => hm.congr h) fun _ => ?_
  exact .bind (.of_modifyGet fun m hm => hm.congr (by rfl)) fun msgs => .inbound J ans msgs 0 _

end

/-! ## Runs of the manager -/

/-- The operations of a manager, with the answers of the environment. -/
inductive ManagerOp (π : Type) where
  | attach (sid : String) (native : Except InjectError Unit) (now : Instant)
  | detach
  | authorizeModeA (record : OtpRecord) (code : String) (pepper : Bytes) (nowUnix : Nat)
  | authorizeModeB (secret : HostSecret) (challenge : AuthChallenge)
      (fingerprintHost fingerprintViewer mac : Bytes)
  | authorizeUnattendedSecret (secret : HostSecret)
  | setInputPolicyEnabled (enabled : Bool)
  | startIdentityChallenge (nonce : Bytes)
  | pollInbound (ans : Nat → InjectAnswers)
  | processInputMessage (ans : InjectAnswers) (msg : DataMessage)
  | startMedia (ans : SessionManager.MediaAnswers)
  | stopMedia
  | pumpMedia (ans : SessionManager.CaptureAnswers) (videoFrames : Nat)
  | applySignal (kind payload : String)
  | createLocalOfferAndQueue (sid : String)
  | takeOutboundSignals
  | takeAcceptedInput
  | waitReady (timeoutMs : Nat)
  | shutdown
  | setDeviceSigningKey (key : Bytes)
  | setInjectorConfig (config : InjectorConfig) (native : Except InjectError Unit) (now : Instant)
  | setInjector (injector : AnyInjector)
  | configure (width height fps : Nat) (videoKind : VideoCaptureKind)
      (audioKind : AudioCaptureKind) (forceSoftware : Bool)
  /-- The transport changes by itself, or through `peer_mut`, and makes callbacks. -/
  | transport (peer : π) (callbacks : List PeerCallback)

section

variable {π : Type} (C : Crypto) (T : PeerTransport π) (J : Codec)

/-- The manager after an operation, whatever its result; `none` when the operation panics. -/
def ManagerOp.apply (m : SessionManager π) : ManagerOp π → Option (SessionManager π)
  | attach sid native now => some (m.attach sid native now)
  | detach => some m.detach
  | authorizeModeA record code pepper nowUnix =>
    some (m.authorizeModeA C record code pepper nowUnix).2.2
  | authorizeModeB secret challenge fpHost fpViewer mac =>
    some (after (SessionManager.authorizeModeB C secret challenge fpHost fpViewer mac) m)
  | authorizeUnattendedSecret secret =>
    some (after (SessionManager.authorizeUnattendedSecret secret) m)
  | setInputPolicyEnabled enabled => some (m.setInputPolicyEnabled enabled)
  | startIdentityChallenge nonce => some (after (SessionManager.startIdentityChallenge T nonce) m)
  | pollInbound ans => some (after (SessionManager.pollInbound C T J ans) m)
  | processInputMessage ans msg => some (m.processInputMessage J ans msg).2
  | startMedia ans => some (after (SessionManager.startMedia C T J ans) m)
  | stopMedia => some m.stopMedia
  | pumpMedia ans n => some (after (SessionManager.pumpMedia T ans n) m)
  | applySignal kind payload => (m.applySignal T J kind payload).map finalState
  | createLocalOfferAndQueue sid =>
    some (after (SessionManager.createLocalOfferAndQueue C T J sid) m)
  | takeOutboundSignals => some m.takeOutboundSignals.2
  | takeAcceptedInput => some m.takeAcceptedInput.2
  | waitReady timeoutMs => some (after (SessionManager.waitReady T timeoutMs) m)
  | shutdown => some (after (SessionManager.shutdown T) m)
  | setDeviceSigningKey key => some (m.setDeviceSigningKey key)
  | setInjectorConfig config native now => some (m.setInjectorConfig config native now).2
  | setInjector injector => some (m.setInjector injector)
  | configure w h fps vk ak force => some (m.configure w h fps vk ak force)
  | transport peer callbacks => some { m with peer := peer, cb := m.cb.deliver callbacks }

/-- The runs of a manager over any transport. -/
def managerSystem : System (SessionManager π) (ManagerOp π) where
  init m := ∃ peer videoKind audioKind now, m = .withPeer peer videoKind audioKind now
  step m op := op.apply C T J m

variable {C T J} {m m' : SessionManager π}

/-- Every operation keeps the gate and its history together. -/
theorem Tracks.apply (hm : Tracks C T m) {op : ManagerOp π} (h : op.apply C T J m = some m') :
    Tracks C T m' := by
  cases op <;> simp only [ManagerOp.apply, Option.some.injEq] at h
  case attach sid native now => exact h ▸ hm.attach sid native now
  case detach => exact h ▸ hm.detach
  case authorizeModeA record code pepper now =>
    subst h
    unfold SessionManager.authorizeModeA
    rcases Auth.authorizeModeA C record code pepper now with ⟨e | k, record'⟩
    · exact hm
    · exact hm.authorize k
  case authorizeModeB secret challenge fpHost fpViewer mac =>
    subst h
    unfold SessionManager.authorizeModeB after
    dsimp only
    split
    · exact hm
    · split
      · exact hm
      · exact hm.authorize _
  case authorizeUnattendedSecret secret =>
    subst h
    unfold SessionManager.authorizeUnattendedSecret after
    dsimp only
    split
    · exact hm
    · exact hm.authorize _
  case setInputPolicyEnabled b => exact h ▸ hm.setPolicy b
  case startIdentityChallenge nonce => exact h ▸ Tracks.startChallenge nonce m hm
  case pollInbound ans => exact h ▸ Tracks.poll J ans m hm
  case processInputMessage ans msg => exact h ▸ hm.input J ans msg
  case startMedia ans => exact hm.congr (h ▸ keeps_startMedia C T J ans m)
  case stopMedia => exact hm.congr (by rw [← h]; rfl)
  case pumpMedia ans n => exact hm.congr (h ▸ keeps_pumpMedia offPlane_gate T ans n m)
  case applySignal kind payload =>
    rw [Option.map_eq_some_iff] at h
    obtain ⟨res, hres, rfl⟩ := h
    exact hm.congr (keeps_applySignal offPlane_gate hres)
  case createLocalOfferAndQueue sid =>
    exact hm.congr (h ▸ keeps_createLocalOffer offPlane_gate C T J sid m)
  case takeOutboundSignals => exact hm.congr (by rw [← h]; rfl)
  case takeAcceptedInput => exact hm.congr (by rw [← h]; rfl)
  case waitReady t => exact hm.congr (h ▸ keeps_onPeer offPlane_gate _ m)
  case shutdown =>
    have hshut : Keeps gateOf (SessionManager.shutdown T : SessionM π Unit) :=
      .bind (.of_modify fun _ => rfl) fun _ => keeps_onPeer offPlane_gate _
    exact hm.congr (h ▸ hshut m)
  case setDeviceSigningKey key => exact hm.congr (by rw [← h]; rfl)
  case setInjectorConfig config native now =>
    subst h
    unfold SessionManager.setInjectorConfig
    rcases openInjector config native now with e | injector
    · exact hm
    · exact hm.congr (by rfl)
  case setInjector injector => exact hm.congr (by rw [← h]; rfl)
  case configure w ht fps vk ak force => exact hm.congr (by rw [← h]; rfl)
  case transport peer callbacks => exact hm.congr (by rw [← h]; rfl)

/-- **The gate follows its history** in every run. -/
theorem managerSystem_tracks (h : (managerSystem C T J).Reachable m) : Tracks C T m := by
  refine h.invariant (Tracks C T) ?_ fun m op m' hm _ hstep => hm.apply hstep
  intro m ⟨peer, vk, ak, now, hinit⟩
  exact hinit ▸ .withPeer peer vk ak now

end

/-! ## What a lawful history contains -/

namespace History

variable {π : Type} {C : Crypto} {T : PeerTransport π}

/-- The events of a session that permit an injection, at the end of a history. -/
def Permitted (C : Crypto) (T : PeerTransport π) (h : History π) : Prop :=
  ∃ sid since older, h = since ++ .attached sid :: older ∧ (∀ e ∈ since, ¬e.IsBoundary) ∧
    (∃ k c r peer s₁ s₂ s₃,
      since = s₁ ++ .bound k sid c r peer :: .answered c r :: (s₂ ++ .challenged c :: s₃) ∧
      (∀ e ∈ s₂, ¬e.IsExchange) ∧ .authorized k ∈ s₂ ++ .challenged c :: s₃ ∧
      Verified C T k sid c r peer) ∧
    ∃ p₁ p₂, since = p₁ ++ .policySet true :: p₂ ∧ ∀ b, .policySet b ∉ p₁

/-- A challenge is outstanding: nothing has been issued, answered, attached or detached since. -/
def Outstanding (c : DcIdentityChallenge) (h : History π) : Prop :=
  ∃ mid rest, h = mid ++ .challenged c :: rest ∧ ∀ e ∈ mid, ¬e.IsExchange ∧ ¬e.IsBoundary

theorem Lawful.suffix {l h : History π} (hl : Lawful C T (l ++ h)) : Lawful C T h := by
  induction l with
  | nil => exact hl
  | cons e l ih => exact ih hl.2

/-- The events after the last boundary say nothing else about the session. -/
theorem session_append {l h : History π} (hl : ∀ e ∈ l, ¬e.IsBoundary) :
    session (l ++ h) = session h := by
  have hnone : l.findSome? sessionStep = none := by
    rw [List.findSome?_eq_none_iff]
    intro e he
    have hb := hl e he
    cases e <;> simp_all [sessionStep, GateEvent.IsBoundary]
  rw [session, session, List.findSome?_append, hnone, Option.none_or]

theorem session_some {h : History π} {sid : String} (hs : session h = some sid) :
    ∃ since older, h = since ++ .attached sid :: older ∧ ∀ e ∈ since, ¬e.IsBoundary := by
  rw [session, Option.join_eq_some_iff, List.findSome?_eq_some_iff] at hs
  obtain ⟨since, e, older, rfl, he, hsince⟩ := hs
  have hatt : e = .attached sid := by
    cases e <;> simp_all [sessionStep]
  refine ⟨since, older, by rw [hatt], fun x hx hbound => ?_⟩
  have hx' := hsince x hx
  cases x <;> simp_all [sessionStep, GateEvent.IsBoundary]

theorem key_some {since older : History π} {sid : String} {k : SessionBindKey}
    (hk : key (since ++ .attached sid :: older) = some k) : .authorized k ∈ since := by
  rw [key, Option.join_eq_some_iff, List.findSome?_append] at hk
  rcases hfind : since.findSome? keyStep with _ | found
  · rw [hfind, Option.none_or] at hk
    have hboundary : some none = some (some k) := hk
    cases hboundary
  · rw [hfind, Option.some_or, Option.some.injEq] at hk
    rw [hk, List.findSome?_eq_some_iff] at hfind
    obtain ⟨l₁, e, l₂, rfl, he, -⟩ := hfind
    have hauth : e = .authorized k := by
      cases e <;> simp_all [keyStep]
    simp [hauth]

theorem outstanding_some {h : History π} {c : DcIdentityChallenge}
    (hc : outstanding h = some c) : Outstanding c h := by
  rw [outstanding, Option.join_eq_some_iff, List.findSome?_eq_some_iff] at hc
  obtain ⟨mid, e, rest, rfl, he, hmid⟩ := hc
  have hchal : e = .challenged c := by
    cases e <;> simp_all [outstandingStep]
  refine ⟨mid, rest, by rw [hchal], fun x hx => ?_⟩
  have hx' := hmid x hx
  cases x <;> simp_all [outstandingStep, GateEvent.IsExchange, GateEvent.IsBoundary]

theorem policy_true {since older : History π} {sid : String}
    (hp : policy (since ++ .attached sid :: older) = true)
    (hsince : ∀ e ∈ since, ¬e.IsBoundary) :
    ∃ p₁ p₂, since = p₁ ++ .policySet true :: p₂ ∧ ∀ b, .policySet b ∉ p₁ := by
  rw [policy, List.findSome?_append] at hp
  rcases hfind : since.findSome? policyStep with _ | b
  · rw [hfind, Option.none_or] at hp
    have hboundary : false = true := hp
    cases hboundary
  · rw [hfind] at hp
    obtain rfl : b = true := by simpa using hp
    rw [List.findSome?_eq_some_iff] at hfind
    obtain ⟨p₁, e, p₂, rfl, he, hp₁⟩ := hfind
    have hset : e = .policySet true := by
      have hb := hsince e (by simp)
      cases e <;> simp_all [policyStep, GateEvent.IsBoundary]
    refine ⟨p₁, p₂, by rw [hset], fun b hb => ?_⟩
    have hnone := hp₁ _ hb
    simp [policyStep] at hnone

/-- **A bound identity has been proved**: the history since the attach contains the verified
response, the challenge it answered and the authorization that installed its key.

**Proof sketch.** The last `bound` event was allowed, so the response event is right before it and
the key and the session are those of the history before that. The response event was allowed too,
so its challenge is in that history with no other exchange in between. The session was attached
before the challenge was issued, and the key was installed after the attach. -/
theorem bound_true {h : History π} (hl : Lawful C T h) (hb : bound h = true) :
    ∃ sid since older, h = since ++ .attached sid :: older ∧ (∀ e ∈ since, ¬e.IsBoundary) ∧
      ∃ k c r peer s₁ s₂ s₃,
        since = s₁ ++ .bound k sid c r peer :: .answered c r :: (s₂ ++ .challenged c :: s₃) ∧
        (∀ e ∈ s₂, ¬e.IsExchange) ∧ .authorized k ∈ s₂ ++ .challenged c :: s₃ ∧
        Verified C T k sid c r peer := by
  rcases hfind : h.findSome? boundStep with _ | b
  · rw [bound, hfind] at hb
    cases hb
  rw [bound, hfind] at hb
  obtain rfl : b = true := hb
  rw [List.findSome?_eq_some_iff] at hfind
  obtain ⟨s₁, e, t, rfl, he, hs₁⟩ := hfind
  have hs₁b : ∀ x ∈ s₁, ¬x.IsBoundary := by
    intro x hx
    have hx' := hs₁ x hx
    cases x <;> simp_all [boundStep, GateEvent.IsBoundary]
  -- the last verified response, and what was allowed before it
  obtain ⟨k, sid, c, r, peer, rfl⟩ : ∃ k sid c r peer, e = .bound k sid c r peer := by
    cases e <;> simp_all [boundStep]
  obtain ⟨⟨h', rfl, hkey, hsession, hverified⟩, hans, hlaw⟩ := Lawful.suffix hl
  obtain ⟨s₂, rest, rfl, hs₂⟩ := outstanding_some hans
  have hrest : session rest = some sid := by
    rw [session_append fun e he => (hs₂ e he).2] at hsession
    exact hsession
  obtain ⟨s₃, older, rfl, hs₃⟩ := session_some hrest
  refine ⟨sid, s₁ ++ .bound k sid c r peer :: .answered c r :: (s₂ ++ .challenged c :: s₃), older,
    by simp, ?_, k, c, r, peer, s₁, s₂, s₃, rfl, fun e he => (hs₂ e he).1, ?_, hverified⟩
  · intro x hx
    simp only [List.mem_append, List.mem_cons] at hx
    obtain hx | rfl | rfl | hx | rfl | hx := hx
    · exact hs₁b x hx
    · simp [GateEvent.IsBoundary]
    · simp [GateEvent.IsBoundary]
    · exact (hs₂ x hx).2
    · simp [GateEvent.IsBoundary]
    · exact hs₃ x hx
  · exact key_some (by simpa using hkey)

/-- An open gate has been opened by the events since the last attach. -/
theorem permitted {h : History π} (hl : Lawful C T h) (hb : bound h = true)
    (hp : policy h = true) : Permitted C T h := by
  obtain ⟨sid, since, older, rfl, hsince, hbound⟩ := bound_true hl hb
  exact ⟨sid, since, older, rfl, hsince, hbound, policy_true hp hsince⟩

end History

section

variable {π : Type} {C : Crypto} {T : PeerTransport π} {J : Codec} {m : SessionManager π}

/-- Whenever the gate of a manager is open, its history permits an injection. -/
theorem Tracks.permitted (hm : Tracks C T m) (hopen : m.injectionAllowed = true) :
    History.Permitted C T m.trace := by
  simp only [SessionManager.injectionAllowed, IdentityBindState.inputAllowed,
    Bool.and_eq_true] at hopen
  exact History.permitted hm.lawful (hm.bound ▸ hopen.2.1) (hm.policy ▸ hopen.1)

/-- A response that fails leaves the gate as it was. -/
theorem handleResponse_error {r : DcIdentityResponse} {e : SessionError}
    {m' : SessionManager π} (h : SessionManager.handleResponse C T r m = .error e m') :
    m'.injectionAllowed = m.injectionAllowed := by
  unfold SessionManager.handleResponse at h
  split at h
  · cases h
    rfl
  · obtain ⟨e', hres⟩ | ⟨k, -, -, hres⟩ := verifyResponse_cases C T _ r _
    · rw [hres] at h
      cases h
      rfl
    · rw [hres] at h
      cases h

/-- A response takes the pending challenge. -/
theorem handleResponse_pending (r : DcIdentityResponse) (m : SessionManager π) :
    (after (SessionManager.handleResponse C T r) m).pendingDcChallenge = none := by
  unfold SessionManager.handleResponse after
  dsimp only
  split
  · assumption
  · obtain ⟨e', hres⟩ | ⟨k, -, -, hres⟩ := verifyResponse_cases C T _ r _
    · rw [hres]
      rfl
    · rw [hres]
      rfl

/-- **The gate of injection.** In every run of a manager over any transport, an event is injected
only when, since the last attach, an authorization has succeeded, a response has verified under
its key against a challenge issued since the attach, and the last policy change enabled input.
Attach and detach close the gate and a failed response does not open it. Every response takes the
outstanding challenge, so no challenge is answered twice. -/
theorem injection_gate (h : (managerSystem C T J).Reachable m) :
    (∀ later event earlier, m.trace = later ++ .injected event :: earlier →
      History.Permitted C T earlier) ∧
    (∀ sid native now, (m.attach sid native now).injectionAllowed = false) ∧
    m.detach.injectionAllowed = false ∧
    (∀ r e m', SessionManager.handleResponse C T r m = .error e m' →
      m'.injectionAllowed = m.injectionAllowed) ∧
    (∀ r, (after (SessionManager.handleResponse C T r) m).pendingDcChallenge = none) ∧
    ∀ later c r earlier, m.trace = later ++ .answered c r :: earlier →
      History.Outstanding c earlier := by
  have hm := managerSystem_tracks h
  refine ⟨?_, fun _ _ _ => rfl, rfl, fun r e m' => handleResponse_error,
    fun r => handleResponse_pending r m, ?_⟩
  · intro later event earlier htrace
    have hlaw := hm.lawful
    rw [htrace] at hlaw
    obtain ⟨⟨hpolicy, -, hbound⟩, hearlier⟩ := hlaw.suffix
    exact History.permitted hearlier hbound hpolicy
  · intro later c r earlier htrace
    have hlaw := hm.lawful
    rw [htrace] at hlaw
    exact History.outstanding_some hlaw.suffix.1

end

/-! ## Concrete runs -/

/-- The fingerprint whose digits are all `c`. -/
def demoFingerprint (c : Char) : DtlsFingerprint :=
  ⟨"sha-256", String.ofList (colonPairs (List.replicate 64 c))⟩

/-- The host's side of a connected pair. -/
def demoPeer : MockPeer :=
  { MockPeer.new "host" (demoFingerprint 'A') with
    state := .connected
    remoteFp := some (demoFingerprint 'B') }

/-- The host's secret. -/
def demoSecret : HostSecret := ⟨List.replicate 16 7, by decide⟩

/-- An input event on the wire. -/
def demoInputJson : String :=
  "\x7b\"client_ts_us\":1,\"seq\":1,\"payload\":\x7b\"kind\":\"key\",\"scancode\":28," ++
    "\"extended\":false,\"pressed\":true,\"modifiers\":0\x7d\x7d"

/-- The JSON functions on the messages of the run. -/
def demoCodec : Codec where
  encodeSdp p := p.sdp
  decodeSdp _ := .error "expected value at line 1 column 1"
  encodeIce c := c.candidate
  decodeIce _ := none
  decodeIceWrap _ := none
  decodeInput s := if s = demoInputJson then some ⟨1, 1, .key 28 false true 0⟩ else none

/-- The input message of the run. -/
def demoInput : DataMessage := ⟨inputChannelLabel, utf8 demoInputJson, false⟩

/-- The viewer's message in answer to a challenge. -/
def demoResponse (nonce : Bytes) : DataMessage :=
  ⟨identityChannelLabel,
    (respondDcChallenge .windowed (.fromModeBSecret demoSecret) "sess" ⟨nonce⟩
      (demoFingerprint 'A').asSignMaterial (demoFingerprint 'B').asSignMaterial).encode, false⟩

/-- Bind the identity and enable input. -/
def demoOps : List (ManagerOp MockPeer) :=
  [.attach "sess" (.ok ()) 0, .authorizeUnattendedSecret demoSecret, .transport demoPeer [],
    .startIdentityChallenge (List.replicate 32 1),
    .transport demoPeer [.data (demoResponse (List.replicate 32 1))],
    .pollInbound fun _ => ⟨0, .ok ()⟩, .setInputPolicyEnabled true]

/-- The manager at the start of the runs below. -/
def demoManager : SessionManager MockPeer := .withPeer demoPeer .synthetic .synthetic 0

/-- The manager after one more operation. -/
def demoNext (m : SessionManager MockPeer) (op : ManagerOp MockPeer) :
    Option (SessionManager MockPeer) :=
  op.apply .windowed mockTransport demoCodec m

/-- Whether the last thing a manager did was to inject an event. -/
def hasInjected (m : SessionManager MockPeer) : Bool :=
  match m.trace with
  | .injected _ :: _ => true
  | _ => false

/-- Whether a wrong response fails and the gate stays open for an input message. -/
def injectsAfterFailure (m : SessionManager MockPeer) : Bool :=
  match SessionManager.handleResponse .windowed mockTransport ⟨List.replicate 32 0⟩ m with
  | .ok _ _ => false
  | .error _ m' => m'.injectionAllowed &&
      decide ((m'.processInputMessage demoCodec ⟨0, .ok ()⟩ demoInput).1 = .injected)

/-- A manager with a bound identity, which injects an event now, and also after a second challenge
has been answered wrongly. -/
theorem demo_bound :
    ∃ m, (managerSystem .windowed mockTransport demoCodec).Reachable m ∧
      (demoNext m (.processInputMessage ⟨0, .ok ()⟩ demoInput)).any hasInjected = true ∧
      (demoNext m (.startIdentityChallenge (List.replicate 32 2))).any injectsAfterFailure =
        true := by
  have hrun : (((managerSystem .windowed mockTransport demoCodec).runFrom demoManager
      demoOps).any fun m =>
        (demoNext m (.processInputMessage ⟨0, .ok ()⟩ demoInput)).any hasInjected &&
        (demoNext m (.startIdentityChallenge (List.replicate 32 2))).any injectsAfterFailure) =
      true := by
    decide +kernel
  obtain ⟨m, hm, hchecks⟩ := (Option.any_eq_true _ _).mp hrun
  rw [Bool.and_eq_true] at hchecks
  exact ⟨m, System.reachable_of_runFrom (.init ⟨_, _, _, _, rfl⟩) hm, hchecks⟩

/-- The gate opens: a run injects an event, and its history permitted it. -/
theorem injection_gate_boundRun :
    ∃ m event earlier, (managerSystem .windowed mockTransport demoCodec).Reachable m ∧
      m.trace = .injected event :: earlier ∧
      History.Permitted .windowed mockTransport earlier := by
  obtain ⟨m₀, hreach₀, hinjected, -⟩ := demo_bound
  obtain ⟨m, hm, hlast⟩ := (Option.any_eq_true _ _).mp hinjected
  have hstep : (managerSystem .windowed mockTransport demoCodec).step m₀
      (.processInputMessage ⟨0, .ok ()⟩ demoInput) = some m := hm
  have hreach := hreach₀.step trivial hstep
  unfold hasInjected at hlast
  split at hlast
  · rename_i event earlier htrace
    exact ⟨m, event, earlier, hreach, htrace, (injection_gate hreach).1 [] event earlier htrace⟩
  · cases hlast

/-- After a bind, a response that fails does not revoke the permission: an event is injected. -/
theorem failed_response_keeps_permission :
    ∃ m r e m', (managerSystem .windowed mockTransport demoCodec).Reachable m ∧
      SessionManager.handleResponse .windowed mockTransport r m = .error e m' ∧
      m'.injectionAllowed = true ∧
      (m'.processInputMessage demoCodec ⟨0, .ok ()⟩ demoInput).1 = .injected := by
  obtain ⟨m₀, hreach₀, -, hfailed⟩ := demo_bound
  obtain ⟨m, hm, hinject⟩ := (Option.any_eq_true _ _).mp hfailed
  have hstep : (managerSystem .windowed mockTransport demoCodec).step m₀
      (.startIdentityChallenge (List.replicate 32 2)) = some m := hm
  have hreach := hreach₀.step trivial hstep
  unfold injectsAfterFailure at hinject
  split at hinject
  · cases hinject
  · rename_i e m' hresponse
    rw [Bool.and_eq_true, decide_eq_true_eq] at hinject
    exact ⟨m, _, e, m', hreach, hresponse, hinject⟩

end RemoteLink.Host
