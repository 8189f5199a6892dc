import RemoteLink.Host.ControlLoop
import RemoteLink.Host.LiveOtp
import RemoteLink.Library.Announced
import RemoteLink.Signaling.Client

set_option autoImplicit false

/-!
# The host service

The host that connects to the server and serves one session after another, with media in its own
process or on a remote agent. The handlers and the service loop are programs of operations; what
the signaling connection, the clock, the tray, the transport and the agent answer is left to the
machine that runs them.

An operation carries what its caller makes of an answer that ends the session: the text of the
error, if the caller gives up on it. The loops are unfolded to a finite depth.

## Main definitions

* `HostAction`, `HostAnswer` — the operations and their answers.
* `HostCall`, `HostM` — an operation with the texts on which its caller gives up, and a part of the
  host.
* `handleOneSessionLocal`, `handleOneSessionAgent` — the handlers of one session.
* `runWsHostService` — the service loop.
-/

namespace RemoteLink.Host

open Library Protocol Auth Net Platform Signaling

/-! ## Operations -/

/-- The configuration of the service. A value of zero stands for live sessions in `videoFrames`, and
for no limit in `maxSessions`. -/
structure WsHostConfig where
  videoFrames : Nat
  maxSessions : Nat
  reconnect : Bool
  mintOtp : Bool
  agentControl : Bool
  tray : Bool
  bootSecret : Option String
  unattendedSecret : Option String
  deriving Repr, DecidableEq

/-- The identity of the host at the server. -/
structure EnrolledHost where
  publicId : String
  accessToken : String
  deriving Repr, DecidableEq

/-- What the tray is told. -/
inductive TrayCall where
  | setIdentity (publicId : String)
  | setOtp (code : String)
  | beginSession (sid : String)
  | markSessionActive
  | endSession
  | applyKill
  deriving Repr, DecidableEq

/-- An operation of the host. `waitingForIncoming` is the note that the host waits for a session;
`noted` stands for no operation, where a caller gives up on what it has computed itself. -/
inductive HostAction where
  | enroll
  | enableUnattended (secret : String)
  | mintLocal
  | postOtpHash (publicId accessToken : String) (hash : OtpHash) (ttlSecs : Nat)
  | connect
  | send (msg : SignalMessage)
  | recv (timeoutMs : Nat)
  | close
  | takeSeq
  | setNextSeq (seq : UInt64)
  | waitingForIncoming
  | expired
  | tray (call : TrayCall)
  | takeEndSession
  | takeExit
  | createOfferer
  | configureSessionMedia (live : Bool)
  | attach (sid : String)
  | startMedia
  | mockDesktop
  | takeOutboundSignals
  | pollPeer
  | applySignal (kind payload : String)
  | waitReady (timeoutMs : Nat)
  | authorize (mode : SessionMode)
  | pollInbound
  | identityBound
  | connectionState
  | forceIdentityBoundForTests
  | setInputPolicyEnabled (enabled : Bool)
  | pumpMedia (videoFrames : Nat)
  | shutdown
  | localFingerprint
  | agentConnect
  | agentRequest (msg : ControlMessage)
  | noted

/-- The answer to an operation. -/
@[reducible] def HostAnswer : HostAction → Type
  | .enroll => Except String EnrolledHost
  | .enableUnattended _ => Except String Unit
  | .mintLocal => Except String (String × OtpHash)
  | .postOtpHash .. => Except String Unit
  | .connect | .send _ => Except SignalingError Unit
  | .recv _ => Except SignalingError SignalMessage
  | .takeSeq => UInt64
  | .expired | .takeEndSession | .takeExit | .identityBound => Bool
  | .createOfferer => Except NetError Unit
  | .startMedia | .applySignal .. | .waitReady _ => Except SessionError Unit
  | .takeOutboundSignals => List SignalForward
  | .authorize _ => Except String Unit
  | .connectionState => ConnectionState
  | .pumpMedia _ => Except SessionError PumpStats
  | .localFingerprint => Except NetError DtlsFingerprint
  | .agentConnect => Except ControlLoopError Unit
  | .agentRequest _ => Except ControlLoopError (ControlMessage × List ControlMessage)
  | .close | .setNextSeq _ | .waitingForIncoming | .tray _ | .configureSessionMedia _ | .attach _
  | .mockDesktop | .pollPeer | .pollInbound | .forceIdentityBoundForTests
  | .setInputPolicyEnabled _ | .shutdown | .noted => Unit

/-- An operation with the texts on which its caller gives up. -/
abbrev HostCall := Announced HostAction HostAnswer String

/-- A part of the host. -/
abbrev HostM : Type → Type := Routine HostAction HostAnswer String

/-- The texts of messages in errors, and the JSON functions. -/
structure HostText where
  codec : Codec
  debugSignal : SignalMessage → String
  debugControl : ControlMessage → String

section Calls

variable {α ε : Type}

/-- One operation of the host, whose answer its caller goes on with. -/
abbrev call (action : HostAction) : HostM (HostAnswer action) := Routine.call action

/-- One operation of the host; its caller gives up where `f` yields an error. -/
abbrev use (action : HostAction) (f : HostAnswer action → Except String α) : HostM α :=
  Routine.use action f

/-- Whether a deadline has passed. -/
def expired : HostM Bool := call .expired

/-- The state of the transport. -/
def connectionState : HostM ConnectionState := call .connectionState

/-- Whether the viewer has answered the identity challenge. -/
def identityBound : HostM Bool := call .identityBound

/-- The caller gives up. -/
def giveUp (text : String) : HostM α := use .noted fun _ => .error text

/-- One operation that may fail; its error ends the session, with its text behind a prefix. -/
def orFail (before : String) (display : ε → String) : Except ε α → Except String α :=
  Except.mapError fun e => before ++ display e

/-- Tell the tray, if there is one. -/
def tellTray (cfg : WsHostConfig) (told : TrayCall) : HostM Unit :=
  if cfg.tray then call (.tray told) else pure ()

/-- Whether the tray asks to end the session. -/
def trayEndsSession (cfg : WsHostConfig) : HostM Bool :=
  if cfg.tray then call .takeEndSession else pure false

/-- Whether the tray asks the host to exit. -/
def trayExits (cfg : WsHostConfig) : HostM Bool :=
  if cfg.tray then call .takeExit else pure false

end Calls

section Handlers

variable (cfg : WsHostConfig) (X : HostText)

/-! ## Accepting a session -/

/-- Send a message; a failure ends the session. -/
def sendOrFail (before : String) (msg : SignalMessage) : HostM Unit :=
  use (.send msg) (orFail before SignalingError.display)

/-- Receive until a session comes in, or the wait is over. -/
def recvIncoming : Nat → HostM (String × UInt64 × SessionMode)
  | 0 => Prog.halt
  | n + 1 => do
    use .expired fun (elapsed : Bool) =>
      if elapsed then
        .error ("wait incoming: " ++ (SignalingError.timeout "recv_until deadline exceeded").display)
      else .ok ()
    let msg ← use (.recv 0) (orFail "wait incoming: " SignalingError.display)
    match msg with
    | .sessionIncoming sid seq _ mode _ => return (sid, seq, mode)
    | _ => recvIncoming n

/-- Wait for a session and accept it. -/
def acceptIncomingSession (n : Nat) : HostM (String × SessionMode) := do
  call .waitingForIncoming
  let (sid, incomingSeq, mode) ← recvIncoming n
  call (.setNextSeq (saturatingSucc incomingSeq))
  let acceptSeq ← call .takeSeq
  sendOrFail "accept: " (.sessionAccept sid acceptSeq)
  return (sid, mode)

/-- Tell the server that the session is over. -/
def endWssSession (sid reason : String) : HostM Unit := do
  let endSeq ← call .takeSeq
  let _ ← call (.send (.sessionEnd sid endSeq reason))

/-! ## Serving a session in this process -/

/-- The candidate of a payload. -/
def parsedIce (payload : String) : HostM IceCandidate :=
  match SessionManager.parseIcePayload X.codec payload with
  | none => Prog.halt
  | some (.error e) => giveUp e.display
  | some (.ok c) => pure c

/-- Send the host's candidates. -/
def sendIce (before sid : String) : List SignalForward → HostM Unit
  | [] => pure ()
  | s :: rest => do
    let candidate ← parsedIce X s.payload
    let iceSeq ← call .takeSeq
    sendOrFail before (.iceCandidate sid iceSeq candidate)
    sendIce before sid rest

/-- The signals that carry candidates. -/
def iceSignals (signals : List SignalForward) : List SignalForward :=
  signals.filter fun s => s.kind = SignalKind.iceCandidate

/-- Apply a signal of the viewer. -/
def applyOrFail (before kind payload : String) : HostM Unit :=
  use (.applySignal kind payload) (orFail before SessionError.display)

/-- A message of the viewer within the deadline for its answer, `none` when none has come yet. -/
def recvAnswering : HostM (Option SignalMessage) :=
  use (.recv 250) fun
    | .ok msg => .ok (some msg)
    | .error (.timeout _) => .ok none
    | .error e => .error ("recv: " ++ e.display)

/-- Wait for the viewer's answer, and apply it with the candidates that come before it. -/
def awaitAnswerLocal : Nat → HostM Unit
  | 0 => Prog.halt
  | n + 1 => do
    use .expired fun (elapsed : Bool) =>
      if elapsed then .error "timeout waiting for session_answer" else .ok ()
    let msg ← recvAnswering
    match msg with
    | some (.sessionAnswer _ _ sdp) =>
      applyOrFail "apply answer: " SignalKind.sessionAnswer (X.codec.encodeSdp ⟨sdp, none⟩)
    | some (.iceCandidate _ _ candidate) => do
      applyOrFail "apply ice: " SignalKind.iceCandidate (X.codec.encodeIce candidate)
      awaitAnswerLocal n
    | _ => awaitAnswerLocal n

/-- A candidate that has been received is applied. -/
def applyReceivedIce : Except SignalingError SignalMessage → HostM Unit
  | .ok (.iceCandidate _ _ candidate) =>
    applyOrFail "apply ice: " SignalKind.iceCandidate (X.codec.encodeIce candidate)
  | _ => pure ()

/-- Exchange candidates until the transport is connected or the deadline has passed. -/
def trickleIceLocal (sid : String) : Nat → HostM Unit
  | 0 => Prog.halt
  | n + 1 => do
    if ← expired then return ()
    if ← trayEndsSession cfg then giveUp "session ended from tray"
    else
      call .pollPeer
      let signals ← call .takeOutboundSignals
      sendIce X "send host ice: " sid (iceSignals signals)
      let received ← call (.recv 50)
      applyReceivedIce X received
      if (← connectionState) = .connected then return ()
      else trickleIceLocal sid n

/-- Send the offer, wait for the answer, and exchange candidates. -/
def relayOfferAnswerIceLocal (n : Nat) (sid : String) (offer : SdpPayload)
    (pendingHostIce : List SignalForward) : HostM Unit := do
  let offerSeq ← call .takeSeq
  sendOrFail "send offer: "
    (.sessionOffer sid offerSeq offer.sdp (offer.fingerprintSig.getD ""))
  awaitAnswerLocal X n
  call .pollPeer
  let signals ← call .takeOutboundSignals
  sendIce X "send host ice: " sid (pendingHostIce ++ iceSignals signals)
  trickleIceLocal cfg X sid n

/-- What a message of the server means while media is live: the reason for which the session
ends, if it does. -/
def receiveLive : Except SignalingError SignalMessage → HostM (Option String)
  | .ok (.sessionEnd _ _ reason) =>
    pure (some (if reason = "" then "viewer_session_end" else reason))
  | .ok (.iceCandidate _ _ candidate) => do
    let _ ← call (.applySignal SignalKind.iceCandidate (X.codec.encodeIce candidate))
    return none
  | .ok _ | .error (.timeout _) => pure none
  | .error e => pure (if e.isStaleSignalSeq then none else some ("signaling:" ++ e.display))

/-- Add up what was sent. -/
def PumpStats.add (totals s : PumpStats) : PumpStats :=
  { totals with
    videoSent := totals.videoSent + s.videoSent, audioSent := totals.audioSent + s.audioSent }

/-- Whether pumping goes on after an error: there is nothing to capture. -/
def isIdle (text : String) : Bool :=
  Text.contains text "idle" || Text.contains text "audio source ended"

/-- Pump media until somebody ends the session. -/
def pumpLiveLocal : Nat → PumpStats → HostM (PumpStats × String)
  | 0, _ => Prog.halt
  | n + 1, totals => do
    if ← trayEndsSession cfg then return (totals, "tray_end_session")
    else if (← connectionState) ≠ .connected then return (totals, "peer_disconnected")
    else
      let received ← call (.recv 5)
      match ← receiveLive X received with
      | some reason => return (totals, reason)
      | none => do
        call .pollInbound
        let pumped ← call (.pumpMedia 1)
        match (pumped : Except SessionError PumpStats) with
        | .ok s =>
          if s.skippedNotConnected then return (PumpStats.add totals s, "peer_disconnected")
          else pumpLiveLocal n (PumpStats.add totals s)
        | .error e =>
          if isIdle e.display then pumpLiveLocal n totals
          else return (totals, "pump:" ++ e.display)

/-- Pump the configured number of frames, or live media. -/
def driveLocalMedia (n : Nat) : HostM (PumpStats × String) :=
  if cfg.videoFrames > 0 then do
    let pump ← use (.pumpMedia cfg.videoFrames) (orFail "pump: " SessionError.display)
    return (pump, "host_media_complete")
  else pumpLiveLocal cfg X n ⟨0, 0, false⟩

/-- Start media; a live session falls back to the mock desktop. -/
def startMediaOrMock : HostM Unit :=
  if cfg.videoFrames = 0 then do
    let started ← call .startMedia
    match (started : Except SessionError Unit) with
    | .ok () => pure ()
    | .error _ => do
      call .mockDesktop
      use .startMedia (orFail "start_media (mock fallback): " SessionError.display)
  else use .startMedia (orFail "start_media: " SessionError.display)

/-- The offer among the signals of the manager. -/
def localOffer (outbound : List SignalForward) : Except String SdpPayload :=
  match outbound.find? fun s => s.kind = SignalKind.sessionOffer with
  | none => .error "no session_offer from SessionManager"
  | some s => (SessionManager.parseSdpPayload X.codec s.payload).mapError SessionError.display

/-- Poll until the identity is bound, at most the given number of times. -/
def awaitBind : Nat → HostM Unit
  | 0 => pure ()
  | k + 1 => do
    call .pollInbound
    if ← identityBound then pure () else awaitBind k

/-- Authorize a live session and give the viewer a moment to answer the challenge. When the
authorization fails, input is opened all the same. -/
def authorizeOrOpen (mode : SessionMode) : HostM Unit := do
  let auth ← call (.authorize mode)
  match (auth : Except String Unit) with
  | .ok () => awaitBind 40
  | .error _ => do
    call .forceIdentityBoundForTests
    call (.setInputPolicyEnabled true)

/-- After an error the tray is told, and the error goes on. -/
def tellTrayOnError {α : Type} (told : String → TrayCall) (p : HostM α) : HostM α := do
  match ← Prog.attempt p with
  | .ok a => pure a
  | .error text => do
    tellTray cfg (told text)
    throw text

/-- A session that has been accepted, up to the transport: start media, send the offer, and wait
until the transport is ready. -/
def openSessionLocal (n : Nat) (sid : String) : HostM Unit := do
  tellTray cfg (.beginSession sid)
  use .createOfferer (orFail "create offerer: " NetError.display)
  call (.configureSessionMedia (cfg.videoFrames = 0))
  call (.attach sid)
  startMediaOrMock cfg
  let (offer, pendingHostIce) ← use .takeOutboundSignals fun outbound =>
    (localOffer X outbound).map fun offer => (offer, iceSignals outbound)
  tellTrayOnError cfg (fun text => if Text.contains text "tray" then .applyKill else .endSession)
    (relayOfferAnswerIceLocal cfg X n sid offer pendingHostIce)
  tellTrayOnError cfg (fun _ => .endSession)
    (use (.waitReady 10000) (orFail "wait_ready: " SessionError.display))
  tellTray cfg .markSessionActive

/-- A session that has been accepted, up to the end of its media: what was sent, and the reason for
which the session ends. -/
def runSessionLocal (n : Nat) (sid : String) (mode : SessionMode) :
    HostM (PumpStats × String) := do
  openSessionLocal cfg X n sid
  if cfg.videoFrames = 0 then authorizeOrOpen mode else pure ()
  driveLocalMedia cfg X n

/-- The end of a session in this process: media that was not sent is an error. -/
def concludeSessionLocal (sid : String) (pump : PumpStats) (endReason : String) : HostM Unit := do
  if pump.skippedNotConnected ∨ (cfg.videoFrames > 0 ∧ pump.videoSent = 0) then
    call .shutdown
    tellTray cfg .endSession
    giveUp s!"pump failed (skipped={pump.skippedNotConnected} video_sent={pump.videoSent})"
  else
    let _ ← use .localFingerprint (Except.mapError NetError.display)
    endWssSession sid endReason
    call .shutdown
    tellTray cfg .endSession

/-- Serve one session in this process. -/
def handleOneSessionLocal (n : Nat) : HostM Unit := do
  let (sid, mode) ← acceptIncomingSession n
  let (pump, endReason) ← runSessionLocal cfg X n sid mode
  concludeSessionLocal cfg sid pump endReason

/-! ## Serving a session on the agent -/

/-- The signals among the messages of the agent. -/
def forwardedSignals (messages : List ControlMessage) : List SignalForward :=
  messages.filterMap fun
    | .signalForward s => some s
    | _ => none

/-- A signal for the agent. -/
def signalToAgent (sid kind payload : String) : ControlMessage :=
  .signalForward ⟨sid, kind, payload, .service⟩

/-- What starts a session on the agent. -/
def buildSessionStartSequence (sid : String) (enableInput : Bool) (bootSecret : Option String) :
    List ControlMessage :=
  [.attachSession ⟨sid, none, ⟨false, false, []⟩, [], bootSecret⟩,
    .setPolicy ⟨sid, enableInput, false, 0, false⟩, .startMedia sid none]

/-- A request that the agent has to acknowledge; the messages that come with its reply. -/
def ackedRequest (before : String) (rejected : ControlMessage → String) (msg : ControlMessage) :
    HostM (List ControlMessage) :=
  use (.agentRequest msg) fun
    | .error e => .error (before ++ e.display)
    | .ok (reply, more) => if isAck reply then .ok more else .error (rejected reply)

/-- The refusal of a message that starts a session. -/
def startRefused (msg reply : ControlMessage) : ControlLoopError :=
  let detail := "agent rejected " ++ msg.methodName ++ ": " ++ X.debugControl reply
  match reply with
  | .error e => if e.code = ErrorCodes.authFailed then .auth detail else .protocol detail
  | _ => .protocol detail

/-- Send what starts a session, and collect what the agent sends. -/
def startSession : List ControlMessage → HostM (List ControlMessage)
  | [] => pure []
  | msg :: rest => do
    let outbound ← ackedRequest "agent start_session: "
      (fun reply => "agent start_session: " ++ (startRefused X msg reply).display) msg
    let more ← startSession rest
    return outbound ++ more

/-- The last offer among the signals of the agent. -/
def agentOffer (outbound : List ControlMessage) : Except String SdpPayload := do
  let offers ← ((forwardedSignals outbound).filter fun s =>
    s.kind = SignalKind.sessionOffer).mapM fun s =>
      (SessionManager.parseSdpPayload X.codec s.payload).mapError fun e =>
        "parse offer: " ++ e.display
  match offers.getLast? with
  | some offer => .ok offer
  | none => .error "agent did not emit session_offer"

/-- A result that has been computed; its error ends the session. -/
def orGiveUp {α : Type} : Except String α → HostM α
  | .error text => giveUp text
  | .ok a => pure a

/-- Send the candidates of the agent. -/
def forwardAgentIceToWss (sid : String) (messages : List ControlMessage) : HostM Unit :=
  sendIce X "send agent ice: " sid (iceSignals (forwardedSignals messages))

/-- Hand the viewer's answer to the agent; the candidates that come back. -/
def answerAgent (sid sdp : String) : HostM (List SignalForward) := do
  let more ← ackedRequest "agent answer: "
    (fun reply => "agent rejected answer: " ++ X.debugControl reply)
    (signalToAgent sid SignalKind.sessionAnswer (X.codec.encodeSdp ⟨sdp, none⟩))
  return iceSignals (forwardedSignals more)

/-- Wait for the viewer's answer: the candidates that the agent sends for it, `none` when the
deadline passes, and the candidates of the viewer that came before. -/
def awaitAnswerAgent (sid : String) :
    Nat → List IceCandidate → HostM (Option (List SignalForward) × List IceCandidate)
  | 0, _ => Prog.halt
  | n + 1, early => do
    if ← expired then return (none, early)
    else
      match ← recvAnswering with
      | some (.sessionAnswer _ _ sdp) => do
        let hostIce ← answerAgent X sid sdp
        return (some hostIce, early)
      | some (.iceCandidate _ _ candidate) => awaitAnswerAgent sid n (early ++ [candidate])
      | _ => awaitAnswerAgent sid n early

/-- Hand a candidate of the viewer to the agent. -/
def viewerIce (sid : String) (candidate : IceCandidate) : HostM Unit := do
  let more ← ackedRequest "agent ice: "
    (fun reply => "agent rejected ice: " ++ X.debugControl reply)
    (signalToAgent sid SignalKind.iceCandidate (X.codec.encodeIce candidate))
  forwardAgentIceToWss X sid more

/-- Hand over the candidates that came before the answer. -/
def earlyViewerIce (sid : String) : List IceCandidate → HostM Unit
  | [] => pure ()
  | candidate :: rest => do
    viewerIce X sid candidate
    earlyViewerIce sid rest

/-- A candidate that has been received is handed to the agent. -/
def relayReceivedIce (sid : String) : Except SignalingError SignalMessage → HostM Unit
  | .ok (.iceCandidate _ _ candidate) => viewerIce X sid candidate
  | _ => pure ()

/-- Ask the agent for its stats. -/
def queryStats (sid : String) : HostM (ControlMessage × List ControlMessage) :=
  use (.agentRequest (.queryStats (some sid))) (orFail "agent query_stats: "
    ControlLoopError.display)

/-- Whether stats say that the transport of the agent is connected. -/
def statsConnected : ControlMessage → Bool
  | .statsPush s => s.icePath = some "connected"
  | _ => false

/-- Whether stats say that the agent has sent video. -/
def statsVideo : ControlMessage → Bool
  | .statsPush s => s.videoBitrateBps.getD 0 > 0
  | _ => false

/-- Detach the agent; the reply is ignored. -/
def detachAgent (sid reason : String) : HostM Unit := do
  let _ ← call (.agentRequest (.detachSession sid (some reason)))

/-- Detach the agent and give up. -/
def abandonAgent {α : Type} (sid reason text : String) (told : TrayCall) : HostM α := do
  detachAgent sid reason
  tellTray cfg told
  giveUp text

/-- Exchange candidates until the agent is connected and sends video, or the deadline has passed:
whether it is connected and whether it sends video. -/
def trickleIceAgent (sid : String) : Nat → Bool → Bool → HostM (Bool × Bool)
  | 0, _, _ => Prog.halt
  | n + 1, connected, video => do
    if ← expired then return (connected, video)
    else if ← trayEndsSession cfg then
      abandonAgent cfg sid "tray_end_session" "session ended from tray" .applyKill
    else
      let received ← call (.recv 40)
      relayReceivedIce X sid received
      let (stats, more) ← queryStats sid
      forwardAgentIceToWss X sid more
      let connected := connected || statsConnected stats
      let video := video || statsVideo stats
      if connected && video then return (connected, video)
      else trickleIceAgent sid n connected video

/-- Whether the agent sends video; a burst asks once more. -/
def settledVideo (sid : String) (video : Bool) : HostM Bool :=
  if video = false ∧ cfg.videoFrames > 0 then do
    let (stats, _) ← queryStats sid
    return statsVideo stats
  else pure video

/-- A candidate while media is live; the reason for which the session ends, if it does. -/
def liveViewerIce (sid : String) (candidate : IceCandidate) : HostM (Option String) := do
  let answer ← use (.agentRequest (signalToAgent sid SignalKind.iceCandidate
    (X.codec.encodeIce candidate))) (orFail "agent ice: " ControlLoopError.display)
  if isAck answer.1 then do
    Routine.ignoring (forwardAgentIceToWss X sid answer.2)
    return none
  else return some "agent_rejected_ice"

/-- What a message of the server means while the agent's media is live. -/
def receiveAgentLive (sid : String) :
    Except SignalingError SignalMessage → HostM (Option String)
  | .ok (.sessionEnd _ _ reason) =>
    pure (some (if reason = "" then "viewer_session_end" else reason))
  | .ok (.iceCandidate _ _ candidate) => liveViewerIce X sid candidate
  | .ok _ | .error (.timeout _) => pure none
  | .error e => pure (some ("signaling:" ++ e.display))

/-- Keep the agent going until somebody ends the session. -/
def driveAgentLive (sid : String) : Nat → HostM String
  | 0 => Prog.halt
  | n + 1 => do
    if ← trayEndsSession cfg then return "tray_end_session"
    else
      let received ← call (.recv 40)
      match ← receiveAgentLive X sid received with
      | some reason => return reason
      | none => do
        let _ ← call (.agentRequest (.queryStats (some sid)))
        driveAgentLive sid n

/-- The agent's part of a session after the viewer's answer, up to live media; the reason for which
the session ends. -/
def driveAgentMedia (n : Nat) (sid : String) (hostIce : List SignalForward)
    (early : List IceCandidate) : HostM String := do
  sendIce X "send host ice: " sid hostIce
  earlyViewerIce X sid early
  let (connected, video) ← trickleIceAgent cfg X sid n false false
  if connected = false then
    abandonAgent cfg sid "agent_not_connected" "agent media plane never reached Connected"
      .endSession
  else
    tellTray cfg .markSessionActive
    let video ← settledVideo cfg sid video
    if video = false then
      abandonAgent cfg sid "agent_no_video" "agent connected but pumped no video" .endSession
    else if cfg.videoFrames = 0 then driveAgentLive cfg X sid n
    else return "host_media_complete"

/-- A session that has been accepted, up to the end of the agent's media: the reason for which it
ends. -/
def runSessionAgent (n : Nat) (sid : String) : HostM String := do
  tellTray cfg (.beginSession sid)
  let outbound ← startSession X (buildSessionStartSequence sid false cfg.bootSecret)
  let offer ← orGiveUp (agentOffer X outbound)
  let offerSeq ← call .takeSeq
  sendOrFail "send offer: "
    (.sessionOffer sid offerSeq offer.sdp (offer.fingerprintSig.getD ""))
  match ← awaitAnswerAgent X sid n [] with
  | (none, _) =>
    abandonAgent cfg sid "answer_timeout" "timeout waiting for session_answer" .endSession
  | (some hostIce, early) =>
    driveAgentMedia cfg X n sid (iceSignals (forwardedSignals outbound) ++ hostIce) early

/-- Serve one session on the agent. -/
def handleOneSessionAgent (n : Nat) : HostM Unit := do
  let (sid, _) ← acceptIncomingSession n
  let endReason ← runSessionAgent cfg X n sid
  detachAgent sid endReason
  endWssSession sid endReason
  tellTray cfg .endSession

/-! ## The service -/

/-- Open a window, post its hash and show its code. -/
def maybeMintOtp (enrolled : EnrolledHost) : HostM Unit :=
  if cfg.mintOtp then do
    let (code, hash) ← use .mintLocal id
    use (.postOtpHash enrolled.publicId enrolled.accessToken hash
      defaultHostOtpTtlSecs)
      (Except.mapError ("post otp hash: " ++ ·))
    tellTray cfg (.setOtp code)
  else pure ()

/-- After a completed live session a new code is minted; a failure is only reported. -/
def remintAfter (enrolled : EnrolledHost) : HostM Unit :=
  if cfg.videoFrames = 0 ∧ cfg.mintOtp then Routine.ignoring (maybeMintOtp cfg enrolled)
  else pure ()

/-- Whether the number of sessions is reached. -/
def WsHostConfig.isDone (cfg : WsHostConfig) (completed : Nat) : Bool :=
  cfg.maxSessions ≠ 0 && completed ≥ cfg.maxSessions

/-- Whether the service goes on after an error. -/
def WsHostConfig.isMulti (cfg : WsHostConfig) : Bool :=
  cfg.reconnect || cfg.maxSessions = 0 || cfg.maxSessions > 1

/-- Whether an error is taken for the end of a session from the tray. -/
def isTrayEnd (text : String) : Bool := Text.contains text "ended from tray"

/-- Whether an error is taken for a failure of a connection. -/
def isConnectionFailure (text : String) : Bool :=
  Text.contains text "connection closed" || Text.contains text "connect" ||
    Text.contains text "ws " || Text.contains text "agent control"

/-- Whether an error is taken for a wait that has timed out. -/
def isWaitTimeout (text : String) : Bool :=
  Text.contains text "wait incoming" || Text.contains text "timeout"

/-- Close the connection with a result. -/
def closing (completed : Nat) (result : Except String Unit) :
    HostM (Nat × Except String Unit) := do
  call .close
  return (completed, result)

/-- Serve one session. -/
def handleOneSession (n : Nat) : HostM Unit :=
  if cfg.agentControl then handleOneSessionAgent cfg X n else handleOneSessionLocal cfg X n

/-- What follows an error: the next session on this connection, or a result. -/
def afterFailure (completed : Nat) (text : String) (again : HostM (Nat × Except String Unit)) :
    HostM (Nat × Except String Unit) :=
  if isTrayEnd text then do
    if ← trayExits cfg then closing completed (.ok ())
    else if cfg.isMulti then again
    else closing completed (.ok ())
  else if cfg.isMulti then
    if isConnectionFailure text then closing completed (.error text)
    else if isWaitTimeout text then again
    else closing completed (.error text)
  else closing completed (.error text)

/-- Serve sessions on one connection: the number of completed sessions and the result. A new code
is minted after a completed session only, since after an error the loop continues or returns. -/
def serveSessions (enrolled : EnrolledHost) : Nat → Nat → HostM (Nat × Except String Unit)
  | 0, _ => Prog.halt
  | n + 1, completed => do
    if cfg.isDone completed then closing completed (.ok ())
    else
      match ← Prog.attempt (handleOneSession cfg X n) with
      | .ok () => do
        remintAfter cfg enrolled
        if ← trayExits cfg then closing (completed + 1) (.ok ())
        else serveSessions enrolled n (completed + 1)
      | .error text => afterFailure cfg completed text (serveSessions enrolled n completed)

/-- What the server must answer to a hello. -/
def helloAnswer : Except SignalingError SignalMessage → Except String Unit
  | .ok (.helloOk ..) => .ok ()
  | .ok (.error code message) =>
    .error ("hello: " ++ (SignalingError.server code message).display)
  | .ok other =>
    .error ("hello: " ++
      (SignalingError.protocol ("expected hello_ok, got " ++ X.debugSignal other)).display)
  | .error e => .error ("hello: " ++ e.display)

/-- Connect to the server. -/
def connectHost (enrolled : EnrolledHost) : HostM Unit := do
  use .connect (orFail "ws connect: " SignalingError.display)
  sendOrFail "hello: " (.hello .host Signaling.protocolVersion ⟨enrolled.accessToken⟩)
  use (.recv 10000) (helloAnswer X)

/-- Connect, and serve sessions until the connection is lost or enough are completed. -/
def serveConnection (enrolled : EnrolledHost) (n completed : Nat) :
    HostM (Nat × Except String Unit) := do
  match ← Prog.attempt (connectHost X enrolled) with
  | .error text => return (completed, .error text)
  | .ok () => serveSessions cfg X enrolled n completed

/-- Connect again after an error, if the service reconnects. -/
def serveConnections (enrolled : EnrolledHost) : Nat → Nat → HostM Nat
  | 0, _ => Prog.halt
  | n + 1, completed => do
    if cfg.isDone completed then return completed
    else
      match ← serveConnection cfg X enrolled n completed with
      | (completed, .ok ()) => return completed
      | (completed, .error text) =>
        if cfg.reconnect then serveConnections enrolled n completed else throw text

/-- Open unattended access, if it is configured. -/
def enableConfigured : HostM Unit :=
  match cfg.unattendedSecret with
  | some secret => use (.enableUnattended secret) id
  | none => pure ()

/-- The agent, if media runs on it. -/
def connectAgent : HostM Unit :=
  if cfg.agentControl then use .agentConnect (orFail "agent control connect: "
    ControlLoopError.display)
  else pure ()

/-- What precedes the first connection. -/
def startHost : HostM EnrolledHost := do
  let enrolled ← use .enroll id
  tellTray cfg (.setIdentity enrolled.publicId)
  enableConfigured cfg
  maybeMintOtp cfg enrolled
  connectAgent cfg
  return enrolled

/-- The host service: the number of sessions it has completed. -/
def runWsHostService (n : Nat) : HostM Nat := do
  let enrolled ← startHost cfg
  serveConnections cfg X enrolled n 0

end Handlers

end RemoteLink.Host
