import RemoteLink.Library.Fallible
import RemoteLink.Library.Runs
import RemoteLink.Net.LiveWire

set_option autoImplicit false

/-!
# The live transport

A peer connection over one TCP stream. The offerer listens, the answerer dials once both
descriptions are set; each side sends a Hello with its fingerprint, and the connection counts as
established when the Hello of the other side has been checked against its description. Frames
wait in the queue of the reader until the session polls.

A method is a program of `LiveM`: its changes stay when it returns an error. What the operating
system answers during a call comes with the call; the JSON library and the resolver are parameters.

## Main definitions

* `LivePeer` — the transport. `LivePeer.trace` is not in the source: it records the callbacks made
  and the Hellos handled, and nothing reads it.
* `LiveSdp.parse`, `LiveSdp.fingerprintOf` — the description of a peer and its fingerprint.
* `onHello`, `handleBatch`, `poll` — what a poll does with the frames that wait.
* `liveSystem` — the sequences of calls, of bytes that arrive and of turns of the reader.
-/

namespace RemoteLink.Net

open Library Protocol

/-! ## Descriptions -/

/-- The address of a socket. -/
structure SocketAddr where
  ip : String
  port : UInt16
  deriving Repr, DecidableEq

def SocketAddr.display (a : SocketAddr) : String :=
  if ':' ∈ a.ip.toList then s!"[{a.ip}]:{a.port}" else s!"{a.ip}:{a.port}"

/-- The description of a live peer. -/
structure LiveSdp where
  sdpTypeLabel : String
  v : UInt32
  role : String
  listen : Option String
  fingerprint : String
  ufrag : String
  pwd : String
  deriving Repr, DecidableEq

/-- The JSON library and the resolver. -/
structure LiveNet where
  fromJson : String → Except String LiveSdp
  toJson : LiveSdp → Except String String
  resolve : String → Except String (List SocketAddr)
  parseAddr : String → Option SocketAddr

namespace LiveSdp

/-- The JSON body of a description: all of it, or its first line that starts with a brace. -/
def jsonBody (sdp : String) : Option (List Char) :=
  let trimmed := Text.trimChars sdp.toList
  if Text.startsWith ['\x7b'] trimmed then some trimmed
  else ((trimmed.splitOn '\n').map Text.trimChars).find? (Text.startsWith ['\x7b'])

/-- Parse a description. -/
def parse (N : LiveNet) (sdp : String) : Except NetError LiveSdp :=
  match jsonBody sdp with
  | none => .error (.invalidDescription "live SDP: no JSON body")
  | some json =>
    match N.fromJson (String.ofList json) with
    | .error e => .error (.invalidDescription s!"live SDP JSON: {e}")
    | .ok parsed =>
      if parsed.sdpTypeLabel ≠ "remotelink-live" then
        .error (.invalidDescription s!"expected type remotelink-live, got {parsed.sdpTypeLabel}")
      else if parsed.v ≠ 1 then
        .error (.invalidDescription s!"unsupported live SDP version {parsed.v}")
      else .ok parsed

/-- The address a peer listens on, if it names one. -/
def listenAddr (N : LiveNet) (live : LiveSdp) : Except NetError (Option SocketAddr) :=
  match live.listen with
  | none => .ok none
  | some s =>
    match N.resolve s with
    | .error e => .error (.invalidDescription s!"bad listen addr \x60{s}\x60: {e}")
    | .ok [] => .error (.invalidDescription s!"listen addr \x60{s}\x60 resolved empty")
    | .ok (addr :: _) => .ok (some addr)

/-- The fingerprint of a peer, with or without its algorithm. -/
def sha256 (live : LiveSdp) : Except NetError DtlsFingerprint :=
  let label := "sha-256 ".toList
  let text := live.fingerprint.toList
  if Text.startsWith label text then
    DtlsFingerprint.sha256 (String.ofList (text.drop label.length))
  else DtlsFingerprint.sha256 live.fingerprint

/-- The fingerprint in a description. -/
def fingerprintOf (N : LiveNet) (sdp : String) : Except NetError DtlsFingerprint :=
  (parse N sdp).bind sha256

end LiveSdp

/-- The address in a host candidate: the two words before `typ`. -/
def parseIceHostAddr (N : LiveNet) (candidate : String) : Option SocketAddr :=
  let parts := (candidate.toList.splitOnP Text.isWhitespace).filter (· ≠ [])
  let i := parts.findIdx (· = "typ".toList)
  if i < parts.length ∧ i ≥ 2 then
    N.parseAddr (String.ofList (parts.getD (i - 2) [] ++ ':' :: parts.getD (i - 1) []))
  else none

/-! ## The peer -/

/-- How waiting for the accept thread ends. -/
inductive AcceptOutcome where
  | stream
  | failed (e : String)
  | timeout
  | disconnected
  deriving Repr, DecidableEq

/-- What the operating system answers during one call. -/
structure LiveIo where
  bind : Except String Unit
  localAddr : Except String SocketAddr
  /-- The ephemeral address an answerer advertises. -/
  answerAddr : Option SocketAddr
  spawn : Except String Unit
  accept : AcceptOutcome
  dial : Except String Unit
  nodelay : Except String Unit
  clone : Except String Unit
  /-- Where a write breaks off, and its error. -/
  broken : Option (Nat × String)

/-- A callback, or a Hello that is handled. -/
inductive Seen where
  | hello (hex : String)
  | callback (c : PeerCallback)
  deriving Repr, DecidableEq

/-- An entry of the trace, with the remote description at that moment. -/
structure Handled where
  seen : Seen
  remote : Option SessionDescription
  deriving Repr, DecidableEq

/-- A live peer. -/
structure LivePeer where
  role : PeerRole
  bind : String
  advertiseHost : Option String
  localFp : DtlsFingerprint
  remoteFp : Option DtlsFingerprint
  /-- The fingerprint a Hello is checked against. -/
  expectedRemoteFp : Option DtlsFingerprint
  state : ConnectionState
  localDesc : Option SessionDescription
  remoteDesc : Option SessionDescription
  remoteListen : Option SocketAddr
  listenAddr : Option SocketAddr
  /-- Whether the accept thread's stream can still be received. -/
  acceptRx : Bool
  acceptStarted : Bool
  /-- What has been written to the stream, when there is one. -/
  writer : Option Bytes
  inbound : Option Inbound
  closed : Bool
  ufrag : String
  pwd : String
  trace : List Handled
  deriving Repr, DecidableEq

/-- A method that can fail; its changes stay when it does. -/
abbrev LiveM : Type → Type := EStateM NetError LivePeer

namespace LivePeer

/-- A peer that neither listens nor is connected. -/
def new (role : PeerRole) (bind : String) (advertiseHost : Option String) (localFp : DtlsFingerprint)
    (ufrag pwd : String) : LivePeer :=
  { role, bind, advertiseHost, localFp, ufrag, pwd
    remoteFp := none, expectedRemoteFp := none, state := .new, localDesc := none, remoteDesc := none
    remoteListen := none, listenAddr := none, acceptRx := false, acceptStarted := false
    writer := none, inbound := none, closed := false, trace := [] }

/-- Record what is handled. -/
def note (x : Seen) (p : LivePeer) : LivePeer := { p with trace := p.trace ++ [⟨x, p.remoteDesc⟩] }

/-- Make a callback. -/
def call (c : PeerCallback) (p : LivePeer) : LivePeer := p.note (.callback c)

/-- Enter a state and report it. -/
def emitState (state : ConnectionState) (p : LivePeer) : LivePeer :=
  { p with state }.call (.connectionState state)

/-- The host that is advertised for an address. -/
def hostOf (p : LivePeer) (addr : SocketAddr) : String := p.advertiseHost.getD addr.ip

/-- The description of the peer itself. -/
def buildLiveSdp (listen : Option SocketAddr) (p : LivePeer) : LiveSdp where
  sdpTypeLabel := "remotelink-live"
  v := 1
  role := p.role.asStr
  listen := listen.map fun a => s!"{p.hostOf a}:{a.port}"
  fingerprint := p.localFp.sdpAttribute
  ufrag := p.ufrag
  pwd := p.pwd

/-- The candidate of the peer itself. -/
def hostCandidate (addr : SocketAddr) (p : LivePeer) : IceCandidate :=
  let tcptype := match p.role with
    | .offerer => "passive"
    | .answerer => "active"
  ⟨s!"candidate:1 1 TCP 2122252543 {p.hostOf addr} {addr.port} typ host tcptype {tcptype}",
    some "0", some 0, some p.ufrag⟩

/-- Report the candidate of the peer itself. -/
def emitLocalHostCandidate (addr : SocketAddr) (p : LivePeer) : LivePeer :=
  p.call (.iceCandidate (p.hostCandidate addr))

/-- Whether the peer has been closed. -/
def isClosed (p : LivePeer) : Bool := p.closed || decide (p.state = .closed)

/-- Leave the fresh state. -/
def leaveNew (p : LivePeer) : LivePeer := if p.state = .new then p.emitState .connecting else p

/-- The stream is gone. -/
def disconnect (p : LivePeer) : LivePeer :=
  if p.state = .connected ∨ p.state = .connecting then p.emitState .disconnected else p

/-- A Hello has been accepted. -/
def connect (fp : DtlsFingerprint) (p : LivePeer) : LivePeer :=
  let p := { p with remoteFp := some fp }
  if p.state ≠ .connected ∧ p.state ≠ .closed ∧ p.state ≠ .disconnected then p.emitState .connected
  else p

/-! ## Establishing the stream -/

def ensureOpen : LiveM Unit := fun p => if p.isClosed then .error .closed p else .ok () p

/-- A description in its JSON form. -/
def sessionDesc (N : LiveNet) (ty : SdpType) (live : LiveSdp) : Except NetError SessionDescription :=
  match N.toJson live with
  | .error e => .error (.internal s!"serialize live SDP: {e}")
  | .ok sdp => .ok ⟨ty, sdp⟩

/-- Start the thread that accepts one stream. -/
def spawnAccept (io : LiveIo) : LiveM Unit := do
  let p ← get
  if p.acceptStarted then pure ()
  else
    ofExcept (io.spawn.mapError fun e => .internal s!"spawn accept: {e}")
    modify fun p => { p with acceptRx := true, acceptStarted := true }

/-- Listen, and accept when this is the offerer. -/
def bindListener (io : LiveIo) : LiveM SocketAddr := do
  let p ← get
  match p.listenAddr with
  | some addr => return addr
  | none =>
    ofExcept (io.bind.mapError fun e => .internal s!"live bind {p.bind}: {e}")
    let addr ← ofExcept (io.localAddr.mapError fun e => .internal s!"local_addr: {e}")
    modify fun p => { p with listenAddr := some addr }
    if p.role = .offerer then spawnAccept io
    return addr

/-- Take a stream: send the Hello and start the reader. -/
def attachStream (io : LiveIo) : LiveM Unit := do
  ofExcept (io.nodelay.mapError fun e => .internal s!"set_nodelay: {e}")
  ofExcept (io.clone.mapError fun e => .internal s!"try_clone: {e}")
  let p ← get
  let hello ← ofExcept (encodeHello p.localFp p.role)
  let (sent, written) := writeFrame kindControl hello io.broken
  ofExcept sent
  ofExcept (io.spawn.mapError fun e => .internal s!"spawn reader: {e}")
  modify fun p => { p with writer := some written, inbound := some .fresh }

/-- Take the stream of the accept thread. -/
def finishAccept (io : LiveIo) : LiveM Unit := do
  let p ← get
  if ¬p.acceptRx then throw (.invalidState "offerer accept thread" "no accept_rx")
  else
    match io.accept with
    | .failed e => throw (.internal s!"live accept failed: {e}")
    | .timeout => throw (.internal "live offerer: accept timed out waiting for answerer")
    | .disconnected => throw (.internal "live offerer: accept thread disconnected")
    | .stream =>
      modify fun p => { p with acceptRx := false }
      attachStream io

/-- Dial the offerer. -/
def dialRemote (io : LiveIo) : LiveM Unit := do
  let p ← get
  match p.remoteListen with
  | none => throw (.invalidState "remote offer listen address" "no remote listen")
  | some addr =>
    ofExcept (io.dial.mapError fun e => .internal s!"live connect {addr.display}: {e}")
    attachStream io

/-- Establish the stream once both descriptions are known. -/
def tryEstablish (io : LiveIo) : LiveM Unit := do
  let p ← get
  if p.writer.isSome ∨ p.localDesc.isNone ∨ p.remoteDesc.isNone ∨ p.isClosed then pure ()
  else
    match p.role with
    | .offerer => finishAccept io
    | .answerer => dialRemote io

/-! ## Descriptions and candidates -/

def createOffer (N : LiveNet) (io : LiveIo) : LiveM SessionDescription := do
  ensureOpen
  let p ← get
  if p.role ≠ .offerer then throw (.invalidState "offerer role" p.role.asStr)
  else
    let addr ← bindListener io
    ofExcept (sessionDesc N .offer (p.buildLiveSdp (some addr)))

def createAnswer (N : LiveNet) (io : LiveIo) : LiveM SessionDescription := do
  ensureOpen
  let p ← get
  if p.role ≠ .answerer then throw (.invalidState "answerer role" p.role.asStr)
  else if p.remoteDesc.isNone then throw (.invalidState "remote offer set" "no remote description")
  else
    modify fun p => { p with listenAddr := io.answerAddr.or p.listenAddr }
    ofExcept (sessionDesc N .answer (p.buildLiveSdp io.answerAddr))

/-- Report the candidate, if there is an address. -/
def reportCandidate (p : LivePeer) : LivePeer :=
  match p.listenAddr with
  | some addr => p.emitLocalHostCandidate addr
  | none => p

/-- Refuse an empty description. -/
def checkNotEmpty (desc : SessionDescription) : Except NetError Unit :=
  if desc.sdp = "" then .error (.invalidDescription "empty sdp") else .ok ()

def setLocalDescription (N : LiveNet) (desc : SessionDescription) (io : LiveIo) : LiveM Unit := do
  ensureOpen
  ofExcept (checkNotEmpty desc)
  let _ ← ofExcept (LiveSdp.parse N desc.sdp)
  modify fun p => { p with localDesc := some desc }.leaveNew.reportCandidate
  tryEstablish io

/-- Take the fingerprint and the address of a parsed description. -/
def takeOver (N : LiveNet) (live : LiveSdp) : LiveM Unit := do
  let fp ← ofExcept live.sha256
  modify fun p => { p with expectedRemoteFp := some fp }
  let addr ← ofExcept (live.listenAddr N)
  modify fun p => { p with remoteListen := addr.or p.remoteListen }

/-- Take the fingerprint and the address of a remote description. -/
def applyRemoteSdp (N : LiveNet) (desc : SessionDescription) : LiveM Unit := do
  let live ← ofExcept (LiveSdp.parse N desc.sdp)
  takeOver N live

def setRemoteDescription (N : LiveNet) (desc : SessionDescription) (io : LiveIo) : LiveM Unit := do
  ensureOpen
  ofExcept (checkNotEmpty desc)
  applyRemoteSdp N desc
  modify fun p => { p with remoteDesc := some desc }.leaveNew
  tryEstablish io

def addIceCandidate (N : LiveNet) (candidate : IceCandidate) (io : LiveIo) : LiveM Unit := do
  ensureOpen
  if candidate.candidate = "" then throw (.invalidCandidate "empty candidate")
  else
    modify fun p => { p with
      remoteListen := p.remoteListen.or (parseIceHostAddr N candidate.candidate) }
    tryEstablish io

/-- Report the candidate again, and leave and enter the connected state. -/
def restarted (p : LivePeer) : LivePeer :=
  match p.listenAddr with
  | none => p
  | some addr =>
    if p.state = .connected then
      ((p.emitState .connecting).emitLocalHostCandidate addr).emitState .connected
    else p.emitLocalHostCandidate addr

def restartIce : LiveM Unit := do
  ensureOpen
  modify restarted

/-! ## Traffic -/

/-- The bytes that a write has put onto the stream. -/
def wrote (bytes : Bytes) (p : LivePeer) : LivePeer :=
  { p with writer := p.writer.map (· ++ bytes) }

/-- Send a frame once connected. -/
def sendFrame (kind : UInt8) (body : Bytes) (io : LiveIo) : LiveM Unit := do
  ensureOpen
  let p ← get
  if p.state ≠ .connected then throw (.invalidState "connected" p.state.asStr)
  else if p.writer.isNone then throw (.invalidState "connected stream" "no writer")
  else
    let (sent, bytes) := writeFrame kind body io.broken
    modify (wrote bytes)
    ofExcept sent

/-- Send media or data. -/
def send (m : Sent) (io : LiveIo) : LiveM Unit :=
  match m with
  | .video n => sendFrame kindVideo (encodeVideo n) io
  | .audio a => sendFrame kindAudio (encodeAudio a) io
  | .data m => do
    let body ← ofExcept (encodeData m)
    sendFrame kindData body io

/-- Check the fingerprint of a Hello, and connect. -/
def onHello (hex : String) : LiveM Unit := fun p =>
  let p := p.note (.hello hex)
  match DtlsFingerprint.sha256 hex with
  | .error e => .error e p
  | .ok fp =>
    match p.expectedRemoteFp.filter (· ≠ fp) with
    | some expected =>
      .error (.invalidFingerprint
        s!"remote hello fingerprint mismatch: sdp={expected.value} hello={fp.value}") p
    | none => .ok () (p.connect fp)

/-- Handle the messages that were waiting; `false` when a close among them drops the rest. -/
def handleBatch : List WireMsg → LiveM Bool
  | [] => pure true
  | .video v :: rest => do
    modify (call (.track (.video v)))
    handleBatch rest
  | .audio a :: rest => do
    modify (call (.track (.audio a)))
    handleBatch rest
  | .data d :: rest => do
    modify (call (.data d))
    handleBatch rest
  | .hello hex :: rest => do
    onHello hex
    handleBatch rest
  | .peerClose :: _ => do
    modify disconnect
    return false

/-- Handle a batch; after all of it, notice that the reader is gone. -/
def pollBatch (batch : List WireMsg) (peerGone : Bool) : LiveM Unit := do
  if (← handleBatch batch) ∧ peerGone then modify disconnect

/-- Take what waits, and handle it. -/
def poll : LiveM Unit := fun p =>
  if p.isClosed then .error .closed p
  else
    match p.inbound with
    | none => .ok () p
    | some i => pollBatch i.queue (!i.reading) { p with inbound := some { i with queue := [] } }

/-- Close the stream and the peer. -/
def close (p : LivePeer) : LivePeer :=
  if p.closed then p
  else { p with closed := true, writer := none, inbound := none, acceptRx := false }.emitState .closed

/-- What happens to the receiving side, if there is one. -/
def onInbound (f : Inbound → Inbound) (p : LivePeer) : LivePeer :=
  { p with inbound := p.inbound.map f }

end LivePeer

/-! ## The system -/

/-- A call, bytes that arrive, the end of the stream, or a turn of the reader. -/
inductive LiveEvent where
  | createOffer (io : LiveIo)
  | createAnswer (io : LiveIo)
  | setLocalDescription (desc : SessionDescription) (io : LiveIo)
  | setRemoteDescription (desc : SessionDescription) (io : LiveIo)
  | addIceCandidate (candidate : IceCandidate) (io : LiveIo)
  | restartIce
  | send (m : Sent) (io : LiveIo)
  | poll
  | close
  | arrive (chunk : Bytes)
  | hangUp
  | read

/-- The peer after an event. -/
def LiveEvent.perform (N : LiveNet) (p : LivePeer) : LiveEvent → LivePeer
  | .createOffer io => after (LivePeer.createOffer N io) p
  | .createAnswer io => after (LivePeer.createAnswer N io) p
  | .setLocalDescription desc io => after (LivePeer.setLocalDescription N desc io) p
  | .setRemoteDescription desc io => after (LivePeer.setRemoteDescription N desc io) p
  | .addIceCandidate candidate io => after (LivePeer.addIceCandidate N candidate io) p
  | .restartIce => after LivePeer.restartIce p
  | .send m io => after (LivePeer.send m io) p
  | .poll => after LivePeer.poll p
  | .close => p.close
  | .arrive chunk => p.onInbound (·.arrive chunk)
  | .hangUp => p.onInbound Inbound.hangUp
  | .read => p.onInbound Inbound.read

/-- All runs of a peer with the given configuration. -/
def liveSystem (N : LiveNet) : System LivePeer LiveEvent where
  init p := ∃ role bind advertiseHost localFp ufrag pwd,
    p = .new role bind advertiseHost localFp ufrag pwd
  step p e := some (e.perform N p)

end RemoteLink.Net
