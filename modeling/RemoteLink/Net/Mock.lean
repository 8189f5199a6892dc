import RemoteLink.Net.Transport

set_option autoImplicit false

/-!
# The mock transport

One side of the in-process loopback pair that stands in for WebRTC. Two paired peers exchange
media and data over queues; signaling drives a small state machine.

## Main definitions

* `MockPeer` — one side of a pair, with the queue it fills and the queue it drains.
* `parseFingerprintFromSdp` — the fingerprint of a remote description.
* `mockTransport` — the operations of one side.
-/

namespace RemoteLink.Net

open Library Protocol

/-- One side of a mock pair. `outbound` is what this side has sent and the other has not yet
received, `none` once the channel has been torn down; `inbound` is what waits for this side. -/
structure MockPeer where
  label : String
  localFp : DtlsFingerprint
  remoteFp : Option DtlsFingerprint
  state : ConnectionState
  localDesc : Option SessionDescription
  remoteDesc : Option SessionDescription
  paired : Bool
  outbound : Option (List Sent)
  inbound : List Sent
  /-- Whether the sender of `inbound` is still there. -/
  inboundOpen : Bool
  closed : Bool
  iceRestartCount : Nat
  deriving Repr, DecidableEq

/-- The fingerprint attribute of a description: the first one with an algorithm and a value. -/
def parseFingerprintFromSdp (sdp : String) : Option DtlsFingerprint :=
  let label := "a=fingerprint:".toList
  (sdp.toList.splitOn '\n').findSome? (fun line =>
    let line := Text.trimChars line
    if Text.startsWith label line then
      match ((line.drop label.length).splitOnP Text.isWhitespace).filter (· ≠ []) with
      | _ :: value :: _ => some (DtlsFingerprint.sha256 (String.ofList value)).toOption
      | _ => none
    else none) |>.join

namespace MockPeer

/-- A side of a fresh pair. -/
def new (label : String) (localFp : DtlsFingerprint) : MockPeer :=
  ⟨label, localFp, none, .new, none, none, true, some [], [], true, false, 0⟩

/-- Whether the peer has been closed. -/
def isClosed (p : MockPeer) : Bool := p.closed || decide (p.state = .closed)

/-- The synthetic description of a peer. -/
def mockSdp (p : MockPeer) (ty : SdpType) : SessionDescription :=
  ⟨ty, "v=0\r\n" ++ "o=- 0 0 IN IP4 127.0.0.1\r\n" ++ s!"s=RemoteLinkMock-{p.label}\r\n" ++
    "t=0 0\r\n" ++ s!"a=fingerprint:{p.localFp.sdpAttribute}\r\n" ++ "a=setup:actpass\r\n" ++
    "m=video 9 UDP/TLS/RTP/SAVPF 96\r\n" ++ "a=rtpmap:96 H264/90000\r\n" ++
    "m=audio 9 UDP/TLS/RTP/SAVPF 111\r\n" ++ "a=rtpmap:111 opus/48000/2\r\n" ++
    "m=application 9 UDP/DTLS/SCTP webrtc-datachannel\r\n" ++ "a=sctp-port:5000\r\n"⟩

/-- The local candidate a peer emits. -/
def hostCandidate (p : MockPeer) : IceCandidate :=
  ⟨s!"candidate:1 1 UDP 2122252543 127.0.0.1 {40000 + p.iceRestartCount} typ host", some "0",
    some 0, some s!"mock{p.iceRestartCount}"⟩

/-- Enter a state and report it. -/
def emitState (p : MockPeer) (s : ConnectionState) : MockPeer × List PeerCallback :=
  ({ p with state := s }, [.connectionState s])

/-- Leave the fresh state when a description is set. -/
def leaveNew (p : MockPeer) : MockPeer × List PeerCallback :=
  if p.state = .new then p.emitState .connecting else (p, [])

/-- Connect when both descriptions are there. -/
def tryConnect (p : MockPeer) : MockPeer × List PeerCallback :=
  match p.localDesc, p.remoteDesc with
  | some _, some remote =>
    if p.paired then
      let p := { p with remoteFp := (parseFingerprintFromSdp remote.sdp).or p.remoteFp }
      if p.state = .connected ∨ p.state = .closed ∨ p.state = .disconnected then (p, [])
      else p.emitState .connected
    else (p, [])
  | _, _ => (p, [])

/-- Put a message on the wire. -/
def sendWire (p : MockPeer) (m : Sent) : Call MockPeer Unit :=
  if p.isClosed then ⟨.error .closed, p, []⟩
  else if p.state ≠ .connected then ⟨.error (.invalidState "connected" p.state.asStr), p, []⟩
  else if ¬p.paired then ⟨.error (.invalidState "paired mock peer" "standalone"), p, []⟩
  else
    match p.outbound with
    | none => ⟨.error (.sendFailed "peer disconnected"), p, []⟩
    | some queue => ⟨.ok (), { p with outbound := some (queue ++ [m]) }, []⟩

/-- The callback that delivers a message. -/
def deliver : Sent → PeerCallback
  | .video n => .track (.video n)
  | .audio a => .track (.audio a)
  | .data m => .data m

/-- Deliver what waits, then observe a hang-up. -/
def poll (p : MockPeer) : Call MockPeer Unit :=
  if p.isClosed then ⟨.error .closed, p, []⟩
  else if ¬p.paired then ⟨.ok (), p, []⟩
  else
    let delivered := p.inbound.map deliver
    let p := { p with inbound := [] }
    if ¬p.inboundOpen ∧ (p.state = .connected ∨ p.state = .connecting) then
      let (p, cs) := p.emitState .disconnected
      ⟨.ok (), p, delivered ++ cs⟩
    else ⟨.ok (), p, delivered⟩

/-- Apply a description: `set` stores it, `offered` are the candidates it emits. -/
def describe (p : MockPeer) (set : MockPeer → MockPeer) (offered : List PeerCallback) :
    Call MockPeer Unit :=
  let (p, entered) := (set p).leaveNew
  let (p, connected) := p.tryConnect
  ⟨.ok (), p, entered ++ offered ++ connected⟩

end MockPeer

/-- The operations of one side of a mock pair. -/
def mockTransport : PeerTransport MockPeer where
  connectionState p := p.state
  createOffer p := if p.isClosed then ⟨.error .closed, p, []⟩ else ⟨.ok (p.mockSdp .offer), p, []⟩
  createAnswer p :=
    if p.isClosed then ⟨.error .closed, p, []⟩
    else if p.remoteDesc.isNone then
      ⟨.error (.invalidState "remote offer set" "no remote description"), p, []⟩
    else ⟨.ok (p.mockSdp .answer), p, []⟩
  setLocalDescription p d :=
    if p.isClosed then ⟨.error .closed, p, []⟩
    else p.describe (fun p => { p with localDesc := some d }) [.iceCandidate p.hostCandidate]
  setRemoteDescription p d :=
    if p.isClosed then ⟨.error .closed, p, []⟩
    else if d.sdp = "" then ⟨.error (.invalidDescription "empty sdp"), p, []⟩
    else p.describe (fun p => { p with remoteDesc := some d }) []
  addIceCandidate p c :=
    if p.isClosed then ⟨.error .closed, p, []⟩
    else if c.candidate = "" then ⟨.error (.invalidCandidate "empty candidate"), p, []⟩
    else
      let (p, cs) := p.tryConnect
      ⟨.ok (), p, cs⟩
  localFingerprint p := .ok p.localFp
  remoteFingerprint p := .ok p.remoteFp
  sendVideoNalu p n := p.sendWire (.video n)
  sendAudio p a := p.sendWire (.audio a)
  sendData p m := p.sendWire (.data m)
  poll p := p.poll
  waitReady p _ :=
    -- the deadline passes when polling leaves the peer neither connected nor ended
    let c := p.poll
    match c.result with
    | .error _ => c
    | .ok () =>
      if c.peer.state = .connected then c
      else if c.peer.state = .failed ∨ c.peer.state = .closed ∨ c.peer.state = .disconnected then
        { c with result := .error (.internal s!"wait_ready: ended in {c.peer.state.asStr}") }
      else
        { c with result := .error (.internal s!"wait_ready timeout (state={c.peer.state.asStr})") }
  close p :=
    if p.closed then ⟨.ok (), p, []⟩
    else
      let (p, cs) := { p with closed := true, outbound := none, inboundOpen := false }.emitState .closed
      ⟨.ok (), p, cs⟩

end RemoteLink.Net
