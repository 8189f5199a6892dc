import RemoteLink.Auth.Identity
import RemoteLink.Net.Transport
import RemoteLink.Platform.Input
import RemoteLink.Platform.Ipc

set_option autoImplicit false

/-!
# The session manager of the host agent

`SessionManager` owns a peer transport and the media sources of one host. It authorizes a
session, binds the identity of its viewer over the data channel, and injects the input that
arrives once both are done and the policy allows it.

A method that can fail is a program of `SessionM`: its changes to the manager stay when it
returns an error. The transport, the capture sources, the clock and the JSON codecs are not part
of the manager; their answers are parameters.

## Main definitions

* `SessionManager` — the manager. Its `trace` is not in the source: it records what the manager
  did, newest first, and nothing reads it.
* `SessionManager.injectionAllowed` — the gate of input injection.
* `startIdentityChallenge`, `handleIdentityData`, `pollInbound` — the identity bind.
* `startMedia`, `pumpMedia`, `applySignal` — the media plane.
-/

namespace RemoteLink.Host

open Library Protocol Auth Net Platform

/-! ## Data -/

/-- Recent events kept for diagnostics. -/
def acceptedInputCap : Nat := 64

/-- Label of the data channel of input events. -/
def inputChannelLabel : String := "input"

namespace SignalKind

def sessionOffer : String := "session_offer"
def sessionAnswer : String := "session_answer"
def iceCandidate : String := "ice_candidate"

end SignalKind

/-- The JSON body of an offer or an answer. -/
structure SdpPayload where
  sdp : String
  fingerprintSig : Option String
  deriving Repr, DecidableEq

/-- The JSON functions the manager calls. -/
structure Codec where
  encodeSdp : SdpPayload → String
  decodeSdp : String → Except String SdpPayload
  encodeIce : IceCandidate → String
  decodeIce : String → Option IceCandidate
  decodeIceWrap : String → Option IceCandidate
  decodeInput : String → Option InputEvent

/-- Errors of the session plane. -/
inductive SessionError where
  | transport (e : NetError)
  | media (detail : String)
  | signaling (detail : String)
  | invalidState (detail : String)
  | auth (e : AuthError)
  | inputRejected (detail : String)
  deriving Repr, DecidableEq

/-- The text of an error. -/
def SessionError.display : SessionError → String
  | transport e => "transport: " ++ e.display
  | media detail => "media: " ++ detail
  | signaling detail => "signaling: " ++ detail
  | invalidState detail => "invalid state: " ++ detail
  | auth e => "auth: " ++ e.display
  | inputRejected detail => "input rejected: " ++ detail

/-- What one pump sent. -/
structure PumpStats where
  videoSent : Nat
  audioSent : Nat
  skippedNotConnected : Bool
  deriving Repr, DecidableEq

/-- What one poll processed. -/
structure InboundStats where
  identityMessages : Nat
  inputAccepted : Nat
  inputRejected : Nat
  inputDecodeErrors : Nat
  inputRateLimited : Nat
  deriving Repr, DecidableEq

/-- What became of one input message. -/
inductive InputProcessOutcome where
  | injected
  | rejectedGate
  | decodeError
  | rateLimited
  | injectError
  deriving Repr, DecidableEq

/-- Running capture and encode. -/
structure MediaPlane where
  videoFramesSent : Nat
  audioPacketsSent : Nat
  videoBackend : String
  audioBackend : String
  encodeBackend : String
  deriving Repr, DecidableEq

/-- Callbacks of the transport that wait for the manager. -/
structure AgentPeerCallbacks where
  ice : List IceCandidate
  states : List ConnectionState
  data : List DataMessage

/-- One callback into the sink. -/
def AgentPeerCallbacks.receive (cb : AgentPeerCallbacks) : PeerCallback → AgentPeerCallbacks
  | .iceCandidate c => { cb with ice := cb.ice ++ [c] }
  | .connectionState s => { cb with states := cb.states ++ [s] }
  | .track _ => cb
  | .data m => { cb with data := cb.data ++ [m] }

/-- Several callbacks, in order. -/
def AgentPeerCallbacks.deliver (cb : AgentPeerCallbacks) (cs : List PeerCallback) :
    AgentPeerCallbacks :=
  cs.foldl AgentPeerCallbacks.receive cb

/-- Video capture backends. -/
inductive VideoCaptureKind where
  | synthetic
  | linuxMock
  | linuxPlatform
  | windowsMock
  | windowsDxgi
  deriving Repr, DecidableEq

/-- Audio capture backends. -/
inductive AudioCaptureKind where
  | synthetic
  | linuxMockMonitor
  | linuxPreferNative
  | linuxNativeOnly
  | windowsWasapiStub
  | windowsWasapiPreferNative
  | windowsWasapiNativeOnly
  deriving Repr, DecidableEq

/-- A step of the manager that matters to its gate. -/
inductive GateEvent (π : Type) where
  | attached (sid : String)
  | detached
  | authorized (key : SessionBindKey)
  | policySet (enabled : Bool)
  | challenged (c : DcIdentityChallenge)
  /-- A response has been received and the challenge that was pending has been taken. -/
  | answered (c : DcIdentityChallenge) (r : DcIdentityResponse)
  /-- The response verified; `peer` is the transport whose fingerprints were used. -/
  | bound (key : SessionBindKey) (sid : String) (c : DcIdentityChallenge)
      (r : DcIdentityResponse) (peer : π)
  | injected (event : InputEvent)
  | forced

/-- The session manager. -/
structure SessionManager (π : Type) where
  sessionId : Option String
  peer : π
  cb : AgentPeerCallbacks
  media : Option MediaPlane
  outboundSignals : List SignalForward
  synthWidth : Nat
  synthHeight : Nat
  synthFps : Nat
  videoKind : VideoCaptureKind
  audioKind : AudioCaptureKind
  identity : IdentityBindState
  deviceSigningKey : Option Bytes
  bindKey : Option SessionBindKey
  pendingDcChallenge : Option DcIdentityChallenge
  acceptedInput : List InputEvent
  rejectedInputCount : UInt64
  inputDecodeErrors : UInt64
  inputRateLimited : UInt64
  policyInputEnabled : Bool
  injectorConfig : InjectorConfig
  injector : AnyInjector
  forceSoftware : Bool
  trace : List (GateEvent π)

/-- A method that can fail; its changes stay when it does. -/
abbrev SessionM (π : Type) : Type → Type := EStateM SessionError (SessionManager π)

namespace SessionManager

variable {π α : Type}

/-- A manager that owns the given transport. -/
def withPeer (peer : π) (videoKind : VideoCaptureKind) (audioKind : AudioCaptureKind)
    (now : Instant) : SessionManager π where
  sessionId := none
  peer := peer
  cb := ⟨[], [], []⟩
  media := none
  outboundSignals := []
  synthWidth := 64
  synthHeight := 36
  synthFps := 30
  videoKind := videoKind
  audioKind := audioKind
  identity := .empty
  deviceSigningKey := none
  bindKey := none
  pendingDcChallenge := none
  acceptedInput := []
  rejectedInputCount := 0
  inputDecodeErrors := 0
  inputRateLimited := 0
  policyInputEnabled := false
  injectorConfig := .synthetic
  injector := .new .stub maxInputEventsPerSec now
  forceSoftware := false
  trace := []

/-- Record a step. -/
def note (m : SessionManager π) (e : GateEvent π) : SessionManager π :=
  { m with trace := e :: m.trace }

/-- Call the transport. The callbacks it makes land in the sink that it shares with the manager. -/
def onPeer (f : π → Call π α) : SessionM π α := fun m =>
  let c := f m.peer
  let m := { m with peer := c.peer, cb := m.cb.deliver c.callbacks }
  match c.result with
  | .ok a => .ok a m
  | .error e => .error (.transport e) m

/-! ## The gate -/

/-- The policy and kill gate. -/
def setInputPolicyEnabled (m : SessionManager π) (enabled : Bool) : SessionManager π :=
  { m with policyInputEnabled := enabled }.note (.policySet enabled)

/-- Whether identity, authorization and policy allow injection. -/
def injectionAllowed (m : SessionManager π) : Bool :=
  m.policyInputEnabled && m.identity.inputAllowed

/-- A helper for tests: mark the session authorized and bound without a challenge. -/
def forceIdentityBoundForTests (m : SessionManager π) : SessionManager π :=
  { m with identity := m.identity.markAuthorized.markIdentityBound }.note .forced

/-- Keep an accepted event in the ring. -/
def pushAcceptedInput (m : SessionManager π) (event : InputEvent) : SessionManager π :=
  { m with acceptedInput :=
      m.acceptedInput.drop (m.acceptedInput.length + 1 - acceptedInputCap) ++ [event] }

/-- Bind to a session id; media and identity start afresh. The injector is opened again, as the
stub when its configuration fails. -/
def attach (m : SessionManager π) (sid : String) (native : Except InjectError Unit)
    (now : Instant) : SessionManager π :=
  { m with
    sessionId := some sid
    media := none
    outboundSignals := []
    identity := .new sid
    bindKey := none
    pendingDcChallenge := none
    acceptedInput := []
    rejectedInputCount := 0
    inputDecodeErrors := 0
    inputRateLimited := 0
    policyInputEnabled := false
    injector :=
      match openInjector m.injectorConfig native now with
      | .ok injector => injector
      | .error _ => .new .stub maxInputEventsPerSec now }.note (.attached sid)

/-- Stop the media sources; the transport stays open. -/
def stopMedia (m : SessionManager π) : SessionManager π := { m with media := none }

/-- Clear the session and stop media. -/
def detach (m : SessionManager π) : SessionManager π :=
  { m.stopMedia with
    sessionId := none
    outboundSignals := []
    identity := .empty
    bindKey := none
    pendingDcChallenge := none
    acceptedInput := []
    rejectedInputCount := 0
    inputDecodeErrors := 0
    inputRateLimited := 0
    policyInputEnabled := false }.note .detached

/-! ## Configuration -/

/-- Install the device key that signs fingerprints. -/
def setDeviceSigningKey (m : SessionManager π) (key : Bytes) : SessionManager π :=
  { m with deviceSigningKey := some key }

/-- Open the injector from a configuration and remember it for the next attach. -/
def setInjectorConfig (m : SessionManager π) (config : InjectorConfig)
    (native : Except InjectError Unit) (now : Instant) :
    Except InjectError Unit × SessionManager π :=
  match openInjector config native now with
  | .error e => (.error e, m)
  | .ok injector => (.ok (), { m with injector := injector, injectorConfig := config })

/-- Replace the injector until the next attach. -/
def setInjector (m : SessionManager π) (injector : AnyInjector) : SessionManager π :=
  { m with injector := injector }

/-- Select the capture sources and the encoder. -/
def configure (m : SessionManager π) (width height fps : Nat) (videoKind : VideoCaptureKind)
    (audioKind : AudioCaptureKind) (forceSoftware : Bool) : SessionManager π :=
  { m with
    synthWidth := width
    synthHeight := height
    synthFps := fps
    videoKind := videoKind
    audioKind := audioKind
    forceSoftware := forceSoftware }

/-- Drain the diagnostic ring. -/
def takeAcceptedInput (m : SessionManager π) : List InputEvent × SessionManager π :=
  (m.acceptedInput, { m with acceptedInput := [] })

/-! ## Authorization -/

/-- Install the key of a successful authorization. -/
def authorized (m : SessionManager π) (key : SessionBindKey) : SessionManager π :=
  { m with bindKey := some key, identity := m.identity.markAuthorized }.note (.authorized key)

/-- Mode A: verify and consume the code of the host. -/
def authorizeModeA (C : Crypto) (m : SessionManager π) (record : OtpRecord) (code : String)
    (pepper : Bytes) (nowUnix : Nat) : Except SessionError Unit × OtpRecord × SessionManager π :=
  match Auth.authorizeModeA C record code pepper nowUnix with
  | (.error e, record) => (.error (.auth e), record, m)
  | (.ok key, record) => (.ok (), record, m.authorized key)

/-- Mode B: verify the viewer's response to the host's challenge. -/
def authorizeModeB (C : Crypto) (secret : HostSecret) (challenge : AuthChallenge)
    (fingerprintHost fingerprintViewer mac : Bytes) : SessionM π Unit := fun m =>
  match m.sessionId with
  | none => .error (.invalidState "no session attached") m
  | some sid =>
    match Auth.authorizeModeB C secret challenge sid fingerprintHost fingerprintViewer mac with
    | .error e => .error (.auth e) m
    | .ok key => .ok () (m.authorized key)

/-- Mode B without a challenge before DTLS: the secret becomes the key. -/
def authorizeUnattendedSecret (secret : HostSecret) : SessionM π Unit := fun m =>
  match m.sessionId with
  | none => .error (.invalidState "no session attached") m
  | some _ => .ok () (m.authorized (.fromModeBSecret secret))

/-! ## The identity bind -/

/-- Issue a challenge with a random nonce. -/
def startIdentityChallenge (T : PeerTransport π) (nonce : Bytes) : SessionM π Unit := do
  let m ← get
  if m.sessionId.isNone then throw (.invalidState "no session attached")
  else if ¬m.identity.sessionAuthorized then throw (.auth .sessionNotAuthorized)
  else if m.bindKey.isNone then
    throw (.invalidState "no session bind key (authorize Mode A/B first)")
  else if T.connectionState m.peer ≠ .connected then
    throw (.invalidState "peer not connected for identity challenge")
  else
    let challenge : DcIdentityChallenge := ⟨nonce⟩
    onPeer fun peer => T.sendData peer ⟨identityChannelLabel, challenge.encode, false⟩
    modify fun m =>
      { m with pendingDcChallenge := some challenge }.note (.challenged challenge)

/-- Check a response against the challenge it answers, with the fingerprints of the transport. -/
def verifyResponse (C : Crypto) (T : PeerTransport π) (c : DcIdentityChallenge)
    (r : DcIdentityResponse) : SessionM π Unit := fun m =>
  match m.bindKey with
  | none => .error (.invalidState "missing bind key for dc verify") m
  | some key =>
    match T.localFingerprint m.peer, T.remoteFingerprint m.peer with
    | .error e, _ => .error (.transport e) m
    | .ok _, .error e => .error (.transport e) m
    | .ok _, .ok none => .error (.invalidState "remote fingerprint unknown") m
    | .ok fpHost, .ok (some fpViewer) =>
      match completeDcBind C m.identity key c r fpHost.asSignMaterial
        fpViewer.asSignMaterial with
      | .error e => .error (.auth e) m
      | .ok identity =>
        .ok () ({ m with identity := identity }.note
          (.bound key m.identity.sessionId c r m.peer))

/-- Handle a response: the pending challenge is taken, whatever the outcome. -/
def handleResponse (C : Crypto) (T : PeerTransport π) (r : DcIdentityResponse) :
    SessionM π Unit := fun m =>
  match m.pendingDcChallenge with
  | none => .error (.auth (.identityBind "dc response without pending challenge")) m
  | some c => verifyResponse C T c r ({ m with pendingDcChallenge := none }.note (.answered c r))

/-- Handle a message of the identity channel. -/
def handleIdentityData (C : Crypto) (T : PeerTransport π) (data : Bytes) : SessionM π Unit :=
  match DcIdentityMessage.parse data with
  | .error e => throw (.auth e)
  | .ok (.response r) => handleResponse C T r
  | .ok (.challenge _) => throw (.auth (.identityBind "host does not expect dc_challenge"))

/-! ## Input -/

/-- Process one message of the input channel. -/
def processInputMessage (J : Codec) (ans : InjectAnswers) (msg : DataMessage)
    (m : SessionManager π) : InputProcessOutcome × SessionManager π :=
  if ¬m.injectionAllowed then
    (.rejectedGate, { m with rejectedInputCount := saturatingSucc m.rejectedInputCount })
  else
    match (fromUtf8 msg.data).bind J.decodeInput with
    | none => (.decodeError, { m with inputDecodeErrors := saturatingSucc m.inputDecodeErrors })
    | some event =>
      match m.injector.tryInject ans event with
      | (.ok true, injector) =>
        (.injected, ({ m with injector := injector }.pushAcceptedInput event).note (.injected event))
      | (.ok false, injector) =>
        (.rateLimited,
          { m with
            injector := injector, inputRateLimited := saturatingSucc m.inputRateLimited })
      | (.error _, injector) =>
        (.injectError,
          { m with
            injector := injector, rejectedInputCount := saturatingSucc m.rejectedInputCount })

/-- Count an input message. -/
def InboundStats.count (stats : InboundStats) : InputProcessOutcome → InboundStats
  | .injected => { stats with inputAccepted := stats.inputAccepted + 1 }
  | .rateLimited => { stats with inputRateLimited := stats.inputRateLimited + 1 }
  | .rejectedGate | .injectError => { stats with inputRejected := stats.inputRejected + 1 }
  | .decodeError => { stats with inputDecodeErrors := stats.inputDecodeErrors + 1 }

/-- Handle the messages taken from the sink. An identity error drops the rest of them. `ans i` are
the answers while the `i`-th message is handled. -/
def handleInbound (C : Crypto) (T : PeerTransport π) (J : Codec) (ans : Nat → InjectAnswers) :
    List DataMessage → Nat → InboundStats → SessionM π InboundStats
  | [], _, stats => pure stats
  | msg :: msgs, i, stats => do
    if msg.label = identityChannelLabel then
      handleIdentityData C T msg.data
      handleInbound C T J ans msgs (i + 1)
        { stats with identityMessages := stats.identityMessages + 1 }
    else if msg.label = inputChannelLabel then
      let outcome ← modifyGet (processInputMessage J (ans i) msg)
      handleInbound C T J ans msgs (i + 1) (InboundStats.count stats outcome)
    else
      handleInbound C T J ans msgs (i + 1) stats

/-- Take the messages that wait in the sink. -/
def takeData (m : SessionManager π) : List DataMessage × SessionManager π :=
  (m.cb.data, { m with cb.data := [] })

/-- Poll the transport and handle what has arrived. -/
def pollInbound (C : Crypto) (T : PeerTransport π) (J : Codec) (ans : Nat → InjectAnswers) :
    SessionM π InboundStats := do
  onPeer T.poll
  let messages ← modifyGet takeData
  handleInbound C T J ans messages 0 ⟨0, 0, 0, 0, 0⟩

/-! ## Signals -/

/-- Queue the local candidates that wait in the sink. -/
def queuePendingIce (J : Codec) (sid : String) (m : SessionManager π) : SessionManager π :=
  { m with
    cb.ice := []
    outboundSignals := m.outboundSignals ++
      m.cb.ice.map fun c => ⟨sid, SignalKind.iceCandidate, J.encodeIce c, .agent⟩ }

/-- The signature that goes with an offer, when the host has a device key. -/
def fingerprintSig (C : Crypto) (T : PeerTransport π) (sid : String) :
    SessionM π (Option String) := fun m =>
  match m.deviceSigningKey with
  | none => .ok none m
  | some key =>
    match T.localFingerprint m.peer with
    | .error e => .error (.transport e) m
    | .ok fp => .ok (some (signSessionFingerprint C key sid fp.asSignMaterial)) m

/-- Create the local offer and queue it with its candidates. -/
def createLocalOfferAndQueue (C : Crypto) (T : PeerTransport π) (J : Codec) (sid : String) :
    SessionM π Unit := do
  let offer ← onPeer T.createOffer
  onPeer fun peer => T.setLocalDescription peer offer
  let sig ← fingerprintSig C T sid
  modify fun m =>
    { m with outboundSignals := m.outboundSignals ++
        [⟨sid, SignalKind.sessionOffer, J.encodeSdp ⟨offer.sdp, sig⟩, .agent⟩] }
  modify (queuePendingIce J sid)

/-- Parse an SDP payload: JSON, or the bare description. -/
def parseSdpPayload (J : Codec) (payload : String) : Except SessionError SdpPayload :=
  let trimmed := Text.trim payload
  if Text.startsWith ['\x7b'] trimmed.toList then
    match J.decodeSdp trimmed with
    | .ok p => .ok p
    | .error e => .error (.signaling s!"sdp json: {e}")
  else if trimmed ≠ "" then .ok ⟨payload, none⟩
  else .error (.signaling "empty sdp payload")

/-- The first `n` bytes of a string; `none` when they do not end at a character. -/
def byteSlice (s : String) (n : Nat) : Option String := fromUtf8 ((utf8 s).take n)

/-- Parse an ICE payload: JSON, nested JSON, or the bare candidate. `none` is a panic: the error
text slices the payload at 64 bytes. -/
def parseIcePayload (J : Codec) (payload : String) : Option (Except SessionError IceCandidate) :=
  let trimmed := Text.trim payload
  match J.decodeIce trimmed with
  | some c => some (.ok c)
  | none =>
    match J.decodeIceWrap trimmed with
    | some c => some (.ok c)
    | none =>
      if Text.startsWith "candidate:".toList trimmed.toList then
        some (.ok ⟨trimmed, none, none, none⟩)
      else
        (byteSlice trimmed (min trimmed.utf8ByteSize 64)).map fun shown =>
          .error (.signaling s!"unrecognized ice payload: {shown}")

/-- Apply a remote description. -/
def applyDescription (T : PeerTransport π) (J : Codec) (sdpType : SdpType) (payload : String) :
    SessionM π Unit := do
  match parseSdpPayload J payload with
  | .error e => throw e
  | .ok sdp =>
    onPeer fun peer => T.setRemoteDescription peer ⟨sdpType, sdp.sdp⟩
    modify fun m =>
      match m.sessionId with
      | some sid => queuePendingIce J sid m
      | none => m

/-- Apply a signal to the transport. `none` is the panic of `parseIcePayload`. -/
def applySignal (T : PeerTransport π) (J : Codec) (kind payload : String)
    (m : SessionManager π) : Option (EStateM.Result SessionError (SessionManager π) Unit) :=
  if kind = SignalKind.sessionOffer then some (applyDescription T J .offer payload m)
  else if kind = SignalKind.sessionAnswer then some (applyDescription T J .answer payload m)
  else if kind = SignalKind.iceCandidate then
    (parseIcePayload J payload).map fun
      | .error e => .error e m
      | .ok candidate => onPeer (fun peer => T.addIceCandidate peer candidate) m
  else
    some (.error (.signaling ("unsupported signal kind " ++ "\x60" ++ kind ++ "\x60" ++
      " for peer transport")) m)

/-- Take the queued signals. -/
def takeOutboundSignals (m : SessionManager π) : List SignalForward × SessionManager π :=
  (m.outboundSignals, { m with outboundSignals := [] })

/-! ## Media -/

/-- The answers of the platform to opening capture and encode: the name of the backend. -/
structure MediaAnswers where
  openVideo : Except String String
  openAudio : Except String String
  openEncoder : Except String String

/-- Open the sources and the encoder. -/
def openMedia (ans : MediaAnswers) : Except SessionError MediaPlane :=
  match ans.openVideo, ans.openAudio, ans.openEncoder with
  | .error e, _, _ => .error (.media e)
  | .ok _, .error e, _ => .error (.media e)
  | .ok _, .ok _, .error e => .error (.media e)
  | .ok video, .ok audio, .ok encode => .ok ⟨0, 0, video, audio, encode⟩

/-- Start capture and encode. A fresh transport also makes the local offer. -/
def startMedia (C : Crypto) (T : PeerTransport π) (J : Codec) (ans : MediaAnswers) :
    SessionM π Unit := do
  let m ← get
  match m.sessionId with
  | none => throw (.invalidState "no session attached")
  | some sid =>
    if m.media.isSome then pure ()
    else
      match openMedia ans with
      | .error e => throw e
      | .ok plane =>
        modify fun m => { m with media := some plane }
        if T.connectionState m.peer = .new then createLocalOfferAndQueue C T J sid
        else modify (queuePendingIce J sid)

/-- Stop media and close the transport. -/
def shutdown (T : PeerTransport π) : SessionM π Unit := do
  modify stopMedia
  onPeer T.close

/-- Wait until the transport can send. -/
def waitReady (T : PeerTransport π) (timeoutMs : Nat) : SessionM π Unit :=
  onPeer fun peer => T.waitReady peer timeoutMs

/-- What capture and encode yield while media is pumped, for each slot and each try in it. -/
structure CaptureAnswers where
  audioFrame : Nat → Nat → Except String (Option Bytes)
  encodeAudio : Bytes → Except String AudioPacket
  videoFrame : Nat → Nat → Except String (Option Bytes)
  encodeVideo : (frame : Bytes) → (forceKey : Bool) → Except String VideoNalu

/-- Update the running media plane. -/
def modifyMedia (f : MediaPlane → MediaPlane) : SessionM π Unit :=
  modify fun m => { m with media := m.media.map f }

/-- Send the audio packets of one slot. -/
def pumpAudio (T : PeerTransport π) (ans : CaptureAnswers) (slot : Nat) :
    List Nat → Nat → SessionM π Nat
  | [], sent => pure sent
  | i :: is, sent => do
    match ans.audioFrame slot i with
    | .error e => throw (.media e)
    | .ok none => pumpAudio T ans slot is sent
    | .ok (some frame) =>
      match ans.encodeAudio frame with
      | .error e => throw (.media e)
      | .ok packet =>
        modifyMedia fun p => { p with audioPacketsSent := p.audioPacketsSent + 1 }
        onPeer fun peer => T.sendAudio peer packet
        pumpAudio T ans slot is (sent + 1)

/-- The video frame of one slot: the first of several tries that yields one. -/
def nextVideo (ans : CaptureAnswers) (slot : Nat) : List Nat → Except String (Option Bytes)
  | [] => .ok none
  | i :: is =>
    match ans.videoFrame slot i with
    | .error e => .error e
    | .ok (some frame) => .ok (some frame)
    | .ok none => nextVideo ans slot is

/-- Send the video frame of one slot, if there is one. -/
def pumpVideo (T : PeerTransport π) (ans : CaptureAnswers) (slot : Nat) : SessionM π Nat := do
  match nextVideo ans slot (List.range 8) with
  | .error e => throw (.media e)
  | .ok none => pure 0
  | .ok (some frame) =>
    let m ← get
    match m.media with
    | none => throw (.invalidState "media not started")
    | some media =>
      match ans.encodeVideo frame (media.videoFramesSent % 30 = 0) with
      | .error e => throw (.media e)
      | .ok nalu =>
        modifyMedia fun p => { p with videoFramesSent := p.videoFramesSent + 1 }
        onPeer fun peer => T.sendVideoNalu peer nalu
        pure 1

/-- Send the media of the given slots. -/
def pumpSlots (T : PeerTransport π) (ans : CaptureAnswers) :
    List Nat → PumpStats → SessionM π PumpStats
  | [], stats => pure stats
  | slot :: slots, stats => do
    let audio ← pumpAudio T ans slot (List.range 3) 0
    let video ← pumpVideo T ans slot
    pumpSlots T ans slots
      { stats with audioSent := stats.audioSent + audio, videoSent := stats.videoSent + video }

/-- Poll the transport and ignore an error. -/
def pollQuietly (T : PeerTransport π) (m : SessionManager π) : SessionManager π :=
  let c := T.poll m.peer
  { m with peer := c.peer, cb := m.cb.deliver c.callbacks }

/-- Send video frames with their audio while connected. -/
def pumpMedia (T : PeerTransport π) (ans : CaptureAnswers) (videoFrames : Nat) :
    SessionM π PumpStats := do
  let m ← get
  if m.media.isNone then throw (.invalidState "media not started")
  else if T.connectionState m.peer ≠ .connected then return ⟨0, 0, true⟩
  else
    let stats ← pumpSlots T ans (List.range videoFrames) ⟨0, 0, false⟩
    modify (pollQuietly T)
    return stats

/-- The counters since media was started. -/
def mediaCounters (m : SessionManager π) : Nat × Nat :=
  match m.media with
  | some p => (p.videoFramesSent, p.audioPacketsSent)
  | none => (0, 0)

end SessionManager

end RemoteLink.Host
