import RemoteLink.Library.Fallible
import RemoteLink.Library.Runs
import RemoteLink.Viewer.Connect
import RemoteLink.Viewer.State

set_option autoImplicit false

/-!
# The viewer session

`ViewerSession` owns the answering transport of one viewer: it answers the host's offer, verifies
the host's signature over the DTLS fingerprint, answers the identity challenge on the data
channel, and keeps the connection machine in step with what the transport reports. What the
transport reports waits in a buffer until the session drains it.

A method that can fail is a program of `ViewerM`: its changes stay when it returns an error. The
transport, and the decoders and queues that media goes through, are parameters.

## Main definitions

* `ViewerSession` — the session. `Attachment.reported` and `Attachment.answered` are not in the
  source: they record what the attached transport reported and which challenges were answered on
  it, and nothing reads them.
* `fingerprintSignMaterialFromSdp` — the fingerprint in an offer.
* `beginConnect`, `attachTransport`, `acceptOfferWithSig`, `poll`, `close` — the methods.
* `viewerSystem` — the sequences of calls, with any transport.
-/

namespace RemoteLink.Viewer

open Library Protocol Auth Net

/-! ## Data -/

/-- Callbacks of the transport that wait for the session. -/
structure EventBuf where
  ice : List IceCandidate
  states : List ConnectionState
  tracks : List IncomingTrackData
  data : List DataMessage

namespace EventBuf

def empty : EventBuf := ⟨[], [], [], []⟩

/-- One callback into the buffer. -/
def receive (buf : EventBuf) : PeerCallback → EventBuf
  | .iceCandidate c => { buf with ice := buf.ice ++ [c] }
  | .connectionState s => { buf with states := buf.states ++ [s] }
  | .track t => { buf with tracks := buf.tracks ++ [t] }
  | .data m => { buf with data := buf.data ++ [m] }

/-- Several callbacks, in order. -/
def deliver (buf : EventBuf) (cs : List PeerCallback) : EventBuf := cs.foldl receive buf

end EventBuf

/-- The connection states among callbacks. -/
def statesOf (cs : List PeerCallback) : List ConnectionState :=
  cs.filterMap fun
    | .connectionState s => some s
    | _ => none

/-- Bind status shown to the user. -/
inductive BindStatus where
  | unbound
  | authorizedPending
  | bound
  deriving Repr, DecidableEq

/-- Counters and flags shown to the user. -/
structure SessionStats where
  localIce : UInt64
  dataRx : UInt64
  identityMessages : UInt64
  identityBound : Bool
  bindStatus : BindStatus
  deriving Repr, DecidableEq

def SessionStats.default : SessionStats := ⟨0, 0, 0, false, .unbound⟩

/-- An attached transport, with what it has reported, oldest first, and the challenges that have
been answered on it. -/
structure Attachment (π : Type) where
  peer : π
  reported : List ConnectionState
  answered : List DcIdentityChallenge

/-- A challenge has been answered. -/
def Attachment.answer {π : Type} (challenge : DcIdentityChallenge) (a : Attachment π) :
    Attachment π :=
  { a with answered := a.answered ++ [challenge] }

/-- The transport has called back. -/
def Attachment.report {π : Type} (cs : List PeerCallback) (a : Attachment π) : Attachment π :=
  { a with reported := a.reported ++ statesOf cs }

/-- Decoders, queues and recordings of received media. -/
structure MediaSink (μ : Type) where
  /-- Take a media unit; `true` when it was decoded or queued. -/
  accept : μ → IncomingTrackData → Bool × μ
  /-- Start afresh for a new connect. -/
  restart : μ → μ
  /-- Flush the playout. -/
  flush : μ → μ

/-- The viewer session. -/
structure ViewerSession (π μ : Type) where
  machine : ConnectionMachine
  transport : Option (Attachment π)
  callbacks : EventBuf
  media : μ
  pendingLocalIce : List IceCandidate
  sessionId : Option String
  stats : SessionStats
  hostVerifyingKey : Option Bytes
  bindKey : Option SessionBindKey
  identity : IdentityBindState
  hostFpSignMaterial : Option String
  requireIdentityForInput : Bool

/-- A method that can fail; its changes stay when it does. -/
abbrev ViewerM (π μ : Type) : Type → Type := EStateM ViewerError (ViewerSession π μ)

/-- The fingerprint of an offer in the form that is signed: the first SHA-256 attribute. Trimming a
line also drops its carriage return. -/
def fingerprintSignMaterialFromSdp (sdp : String) : Option String :=
  let label := "a=fingerprint:".toList
  (sdp.toList.splitOn '\n').findSome? fun line =>
    let line := Text.trimChars line
    if Text.startsWith label line then
      match ((line.drop label.length).splitOnP Text.isWhitespace).filter (· ≠ []) with
      | algo :: value :: _ =>
        let algo := Text.toAsciiLowercase (String.ofList algo)
        let value := Text.toAsciiUppercase (String.ofList value)
        if algo = "sha-256" ∧ value ≠ "" then some (algo ++ " " ++ value) else none
      | _ => none
    else none

namespace ViewerSession

variable {π μ α : Type}

/-- A fresh session. -/
def new (media : μ) : ViewerSession π μ where
  machine := .new
  transport := none
  callbacks := .empty
  media := media
  pendingLocalIce := []
  sessionId := none
  stats := .default
  hostVerifyingKey := none
  bindKey := none
  identity := .empty
  hostFpSignMaterial := none
  requireIdentityForInput := false

/-- Callbacks of the attached transport. -/
def called (s : ViewerSession π μ) (cs : List PeerCallback) : ViewerSession π μ :=
  { s with
    callbacks := s.callbacks.deliver cs
    transport := s.transport.map (Attachment.report cs) }

/-- Call the attached transport. -/
def onTransport (f : π → Call π α) : ViewerM π μ α := fun s =>
  match s.transport with
  | none => .error (.invalidState "attached transport" "no transport") s
  | some a =>
    let c := f a.peer
    let s := { s with transport := some { a with peer := c.peer } }.called c.callbacks
    match c.result with
    | .ok x => .ok x s
    | .error e => .error (.transport e) s

/-- Ask the attached transport. -/
def askTransport (f : π → Except NetError α) : ViewerM π μ α := fun s =>
  match s.transport with
  | none => .error (.invalidState "attached transport" "no transport") s
  | some a =>
    match f a.peer with
    | .ok x => .ok x s
    | .error e => .error (.transport e) s

/-- Show the bind flags. -/
def syncBindStatus (s : ViewerSession π μ) : ViewerSession π μ :=
  { s with stats := { s.stats with
      identityBound := s.identity.identityBound
      bindStatus :=
        if s.identity.identityBound then .bound
        else if s.identity.sessionAuthorized then .authorizedPending
        else .unbound } }

/-! ## Attaching -/

/-- Close and drop the transport, and forget what it left behind. -/
def teardownTransport (T : PeerTransport π) (s : ViewerSession π μ) : ViewerSession π μ :=
  let s := match s.transport with
    | some a => { s with transport := none, callbacks := s.callbacks.deliver (T.close a.peer).callbacks }
    | none => s
  { s with pendingLocalIce := [], callbacks := .empty }

/-- Attach a transport in place of any previous one. -/
def attachTransport (T : PeerTransport π) (peer : π) (s : ViewerSession π μ) : ViewerSession π μ :=
  { s.teardownTransport T with transport := some ⟨peer, [], []⟩ }

/-- Check the credentials and start afresh. The two keys stay. -/
def beginConnect (T : PeerTransport π) (S : MediaSink μ) (req : ConnectRequest) :
    ViewerM π μ ConnectStubResult := fun s =>
  match connectStub req with
  | .error e => .error e s
  | .ok stub =>
    let s := s.teardownTransport T
    .ok stub { s with
      machine := s.machine.beginConnect req.hostPublicId
      sessionId := some stub.sessionId
      identity := .new stub.sessionId
      hostFpSignMaterial := none
      stats := .default
      media := S.restart s.media }.syncBindStatus

/-- Close the transport and the session. -/
def close (T : PeerTransport π) (S : MediaSink μ) (s : ViewerSession π μ) : ViewerSession π μ :=
  let s := s.teardownTransport T
  { s with machine := s.machine.close, media := S.flush s.media }

/-- Install the key enrolled for the host. -/
def setHostVerifyingKey (key : Bytes) (s : ViewerSession π μ) : ViewerSession π μ :=
  { s with hostVerifyingKey := some key }

/-- Install the session's bind key. -/
def setBindKey (key : SessionBindKey) (s : ViewerSession π μ) : ViewerSession π μ :=
  { s with bindKey := some key }

/-- Require the identity bind before input. -/
def setRequireIdentityForInput (require : Bool) (s : ViewerSession π μ) : ViewerSession π μ :=
  { s with requireIdentityForInput := require }

/-- Mode A or B succeeded on the viewer's side. -/
def markSessionAuthorized (s : ViewerSession π μ) : ViewerSession π μ :=
  { s with identity := s.identity.markAuthorized }.syncBindStatus

/-! ## Draining the buffer -/

/-- Handle a received media unit. -/
def handleTrack (S : MediaSink μ) (s : ViewerSession π μ) (data : IncomingTrackData) :
    ViewerSession π μ :=
  let (accepted, media) := S.accept s.media data
  { s with media, machine := if accepted then s.machine.onMediaReceived else s.machine }

/-- A challenge has been answered: the identity is bound. -/
def markBound (challenge : DcIdentityChallenge) (s : ViewerSession π μ) : ViewerSession π μ :=
  { s with
    identity := s.identity.markIdentityBound
    transport := s.transport.map (Attachment.answer challenge) }.syncBindStatus

/-- Answer a challenge with the fingerprints of the transport, and mark the identity bound. -/
def answerChallenge (C : Crypto) (T : PeerTransport π) (challenge : DcIdentityChallenge) :
    ViewerM π μ Unit := do
  let s ← get
  match s.bindKey with
  | none => throw (.invalidState "session bind key" "no bind key for dc challenge")
  | some bindKey =>
    match s.sessionId with
    | none => throw (.invalidState "session id" "none")
    | some sid =>
      match ← askTransport T.remoteFingerprint with
      | none => throw (.invalidState "remote host fingerprint" "unknown")
      | some fpHost =>
        let fpViewer ← askTransport T.localFingerprint
        let response := respondDcChallenge C bindKey sid challenge fpHost.asSignMaterial
          fpViewer.asSignMaterial
        onTransport fun peer => T.sendData peer ⟨identityChannelLabel, response.encode, false⟩
        modify (markBound challenge)

/-- Handle a message of the identity channel. -/
def handleIdentityMessage (C : Crypto) (T : PeerTransport π) (data : Bytes) : ViewerM π μ Unit :=
  match DcIdentityMessage.parse data with
  | .error e => throw (.auth e)
  | .ok parsed => do
    modify fun s => { s with stats := { s.stats with
      identityMessages := saturatingSucc s.stats.identityMessages } }
    match parsed with
    | .challenge challenge => answerChallenge C T challenge
    | .response _ => throw (.invalidState "dc_challenge from host" "dc_response")

/-- Handle identity messages; an error drops the rest of them. -/
def handleIdentityMessages (C : Crypto) (T : PeerTransport π) : List Bytes → ViewerM π μ Unit
  | [] => pure ()
  | data :: rest => do
    handleIdentityMessage C T data
    handleIdentityMessages C T rest

/-- Take the buffer: keep the candidates, follow the states, then the media, and count the data. -/
def takeEvents (S : MediaSink μ) (s : ViewerSession π μ) : ViewerSession π μ :=
  let buf := s.callbacks
  let s := { s with
    callbacks := .empty
    pendingLocalIce := s.pendingLocalIce ++ buf.ice
    stats := { s.stats with
      localIce := buf.ice.foldl (fun n _ => saturatingSucc n) s.stats.localIce
      dataRx := buf.data.foldl (fun n _ => saturatingSucc n) s.stats.dataRx }
    machine := buf.states.foldl ConnectionMachine.onTransportState s.machine }
  buf.tracks.foldl (handleTrack S) s

/-- Drain the buffer, and handle the identity messages in it. -/
def drainCallbackBuf (C : Crypto) (T : PeerTransport π) (S : MediaSink μ) : ViewerM π μ Unit := do
  let s ← get
  modify (takeEvents S)
  handleIdentityMessages C T
    ((s.callbacks.data.filter fun m => m.label = identityChannelLabel).map DataMessage.data)

/-! ## Offers -/

/-- Check a signature that came with an offer. -/
def checkOfferSig (C : Crypto) (sig : String) : ViewerM π μ Unit := fun s =>
  match s.hostVerifyingKey with
  | none => .error (.invalidState "host verifying key" "none (set_host_verifying_key)") s
  | some vk =>
    match s.sessionId with
    | none => .error (.invalidState "session id" "none") s
    | some sid =>
      match s.hostFpSignMaterial with
      | none => .error (.invalidState "host fingerprint in SDP" "missing a=fingerprint") s
      | some material =>
        match verifySessionFingerprint C vk sid material sig with
        | .error e => .error (.auth e) s
        | .ok () => .ok () s

/-- Remember the fingerprint of an offer, if it has one. -/
def rememberFingerprint (offer : SessionDescription) (s : ViewerSession π μ) : ViewerSession π μ :=
  { s with hostFpSignMaterial :=
      (fingerprintSignMaterialFromSdp offer.sdp).or s.hostFpSignMaterial }

/-- Apply an offer and answer it. -/
def answerOffer (C : Crypto) (T : PeerTransport π) (S : MediaSink μ) (offer : SessionDescription) :
    ViewerM π μ SessionDescription := do
  let s ← get
  match s.transport with
  | none => throw (.invalidState "attached transport" "no transport")
  | some _ =>
    modify fun s => { s with machine := s.machine.beginAnswer }
    onTransport fun peer => T.setRemoteDescription peer offer
    let fp ← askTransport T.remoteFingerprint
    modify fun s => { s with
      hostFpSignMaterial := (fp.map DtlsFingerprint.asSignMaterial).or s.hostFpSignMaterial }
    let answer ← onTransport T.createAnswer
    onTransport fun peer => T.setLocalDescription peer answer
    drainCallbackBuf C T S
    return answer

/-- Check the signature if there is one. -/
def checkPresentSig (C : Crypto) (sig : Option String) : ViewerM π μ Unit :=
  match sig.filter (· ≠ "") with
  | some sig => checkOfferSig C sig
  | none => pure ()

/-- Answer an offer; a signature that came with it is checked first. -/
def acceptOfferWithSig (C : Crypto) (T : PeerTransport π) (S : MediaSink μ)
    (offer : SessionDescription) (sig : Option String) : ViewerM π μ SessionDescription := do
  modify (rememberFingerprint offer)
  checkPresentSig C sig
  answerOffer C T S offer

/-- Answer an offer without a signature. -/
def acceptOffer (C : Crypto) (T : PeerTransport π) (S : MediaSink μ) (offer : SessionDescription) :
    ViewerM π μ SessionDescription :=
  acceptOfferWithSig C T S offer none

/-! ## Running -/

/-- Add a remote candidate. -/
def addRemoteIce (C : Crypto) (T : PeerTransport π) (S : MediaSink μ) (candidate : IceCandidate) :
    ViewerM π μ Unit := do
  onTransport fun peer => T.addIceCandidate peer candidate
  drainCallbackBuf C T S

/-- Poll the transport, if there is one. -/
def pollTransport (T : PeerTransport π) : ViewerM π μ Unit := fun s =>
  match s.transport with
  | some _ => onTransport T.poll s
  | none => .ok () s

/-- Poll, and handle what has arrived. -/
def poll (C : Crypto) (T : PeerTransport π) (S : MediaSink μ) : ViewerM π μ Unit := do
  pollTransport T
  drainCallbackBuf C T S
  modify syncBindStatus

/-- Take the local candidates for signaling. -/
def takePendingLocalIce (s : ViewerSession π μ) : List IceCandidate × ViewerSession π μ :=
  (s.pendingLocalIce, { s with pendingLocalIce := [] })

/-- Whether input may be sent. -/
def ensureCanSendInput (s : ViewerSession π μ) : Except ViewerError Unit :=
  if ¬s.machine.phase.linked then
    .error (.invalidState "connected or streaming" s.machine.phase.asStr)
  else if s.requireIdentityForInput ∧ ¬s.identity.identityBound then
    .error (.invalidState "identity_bound" "identity not bound")
  else .ok ()

/-- Send an input message over the transport. -/
def sendInput (T : PeerTransport π) (msg : DataMessage) : ViewerM π μ Unit := do
  let s ← get
  match s.ensureCanSendInput with
  | .error e => throw e
  | .ok () => onTransport fun peer => T.sendData peer msg

end ViewerSession

/-! ## The system -/

/-- A call of the session, or callbacks that its transport makes between calls. -/
inductive ViewerEvent (π : Type) where
  | setHostVerifyingKey (key : Bytes)
  | setBindKey (key : SessionBindKey)
  | setRequireIdentityForInput (require : Bool)
  | markSessionAuthorized
  | beginConnect (req : ConnectRequest)
  | attachTransport (peer : π)
  | acceptOffer (offer : SessionDescription) (sig : Option String)
  | addRemoteIce (candidate : IceCandidate)
  | takePendingLocalIce
  | sendInput (msg : DataMessage)
  | poll
  | close
  | callback (cs : List PeerCallback)

open ViewerSession in
/-- The session after an event. -/
def ViewerEvent.perform {π μ : Type} (C : Crypto) (T : PeerTransport π) (S : MediaSink μ)
    (s : ViewerSession π μ) : ViewerEvent π → ViewerSession π μ
  | .setHostVerifyingKey key => s.setHostVerifyingKey key
  | .setBindKey key => s.setBindKey key
  | .setRequireIdentityForInput require => s.setRequireIdentityForInput require
  | .markSessionAuthorized => s.markSessionAuthorized
  | .beginConnect req => after (ViewerSession.beginConnect T S req) s
  | .attachTransport peer => s.attachTransport T peer
  | .acceptOffer offer sig => after (acceptOfferWithSig C T S offer sig) s
  | .addRemoteIce candidate => after (ViewerSession.addRemoteIce C T S candidate) s
  | .takePendingLocalIce => s.takePendingLocalIce.2
  | .sendInput msg => after (ViewerSession.sendInput T msg) s
  | .poll => after (ViewerSession.poll C T S) s
  | .close => s.close T S
  | .callback cs => if s.transport.isSome then s.called cs else s

/-- All sequences of calls on a session that starts with the given media state. -/
def viewerSystem {π μ : Type} (C : Crypto) (T : PeerTransport π) (S : MediaSink μ) (media : μ) :
    System (ViewerSession π μ) (ViewerEvent π) where
  init s := s = .new media
  step s e := some (e.perform C T S s)

/-- A sink that takes every media unit and keeps nothing, for evaluating the model. -/
def MediaSink.discard : MediaSink Unit where
  accept _ _ := (true, ())
  restart _ := ()
  flush _ := ()

end RemoteLink.Viewer
