import RemoteLink.Library.Bytes
import RemoteLink.Protocol.Message

set_option autoImplicit false

/-!
# Peer transports

The boundary between a session and the WebRTC stack (or the mock) that carries it. A transport
is a value of some type `π` with the operations of `PeerTransport`; a call may succeed or fail,
changes the transport, and makes callbacks on the way.

## Main definitions

* `NetError` — the errors of the layer with their texts.
* `DtlsFingerprint` — a certificate fingerprint and its canonical text.
* `PeerTransport` — the operations of a transport of type `π`.
* `PeerTransport.logged` — the same transport, with a record of what it was given to send.
-/

namespace RemoteLink.Net

open Library Protocol

/-! ## Errors and descriptions -/

/-- Errors of the transport layer. -/
inductive NetError where
  | invalidDescription (detail : String)
  | invalidCandidate (detail : String)
  | invalidFingerprint (detail : String)
  | invalidState (expected actual : String)
  | sendFailed (detail : String)
  | closed
  | backendUnavailable (detail : String)
  | internal (detail : String)
  deriving Repr, DecidableEq

/-- The text of an error. -/
def NetError.display : NetError → String
  | invalidDescription detail => s!"invalid session description: {detail}"
  | invalidCandidate detail => s!"invalid ICE candidate: {detail}"
  | invalidFingerprint detail => s!"invalid DTLS fingerprint: {detail}"
  | invalidState expected actual => s!"invalid state: expected {expected}, was {actual}"
  | sendFailed detail => s!"send failed: {detail}"
  | closed => "transport closed"
  | backendUnavailable detail => s!"backend unavailable: {detail}"
  | internal detail => s!"internal: {detail}"

/-- The kind of a session description. -/
inductive SdpType where
  | offer
  | answer
  | pranswer
  | rollback
  deriving Repr, DecidableEq

/-- A session description. -/
structure SessionDescription where
  sdpType : SdpType
  sdp : String
  deriving Repr, DecidableEq

/-- State of a peer connection. -/
inductive ConnectionState where
  | new
  | connecting
  | connected
  | disconnected
  | failed
  | closed
  deriving Repr, DecidableEq

/-- The label of a connection state. -/
def ConnectionState.asStr : ConnectionState → String
  | new => "new"
  | connecting => "connecting"
  | connected => "connected"
  | disconnected => "disconnected"
  | failed => "failed"
  | closed => "closed"

/-! ## Fingerprints -/

/-- A DTLS certificate fingerprint. -/
structure DtlsFingerprint where
  algorithm : String
  value : String
  deriving Repr, DecidableEq

/-- Whether a character is a hexadecimal digit. -/
def isHexDigit (c : Char) : Bool :=
  c.isDigit || (decide ('a' ≤ c) && decide (c ≤ 'f')) || (decide ('A' ≤ c) && decide (c ≤ 'F'))

/-- Digits in pairs, in upper case and separated by colons. -/
def colonPairs : List Char → List Char
  | a :: b :: [] => [Text.upperAscii a, Text.upperAscii b]
  | a :: b :: rest => Text.upperAscii a :: Text.upperAscii b :: ':' :: colonPairs rest
  | _ => []

/-- A SHA-256 fingerprint from 64 hexadecimal digits, with or without separators. -/
def DtlsFingerprint.sha256 (value : String) : Except NetError DtlsFingerprint :=
  let cleaned := value.toList.filter isHexDigit
  if cleaned.length ≠ 64 then
    .error (.invalidFingerprint s!"expected 64 hex digits (32 bytes), got {cleaned.length}")
  else .ok ⟨"sha-256", String.ofList (colonPairs cleaned)⟩

/-- The value of the SDP attribute. -/
def DtlsFingerprint.sdpAttribute (fp : DtlsFingerprint) : String :=
  fp.algorithm ++ " " ++ fp.value

/-- The canonical text that is signed and bound. -/
def DtlsFingerprint.asSignMaterial (fp : DtlsFingerprint) : String :=
  Text.toAsciiLowercase fp.algorithm ++ " " ++ Text.toAsciiUppercase fp.value

/-- The 32 bytes of the fingerprint. -/
def DtlsFingerprint.digestBytes (fp : DtlsFingerprint) : Except NetError Bytes :=
  let cleaned := fp.value.toList.filter isHexDigit
  if cleaned.length ≠ 64 then
    .error (.invalidFingerprint s!"value is not 32 bytes: {cleaned.length} hex digits")
  else (hexPairs (utf8 (String.ofList cleaned))).mapError fun e =>
    .invalidFingerprint s!"hex parse: {e}"

/-! ## Media and data -/

/-- Framing of encoded video. -/
inductive NaluFormat where
  | annexB
  | avcc
  deriving Repr, DecidableEq

/-- An encoded video access unit; times are in nanoseconds. -/
structure VideoNalu where
  ptsHostMono : Nat
  rtpTs : Option UInt32
  keyframe : Bool
  format : NaluFormat
  data : Bytes
  deriving Repr, DecidableEq

/-- An encoded audio packet. -/
structure AudioPacket where
  ptsHostMono : Nat
  rtpTs : Option UInt32
  sampleRate : UInt32
  channels : UInt16
  data : Bytes
  deriving Repr, DecidableEq

/-- A data channel message. -/
structure DataMessage where
  label : String
  data : Bytes
  unordered : Bool
  deriving Repr, DecidableEq

/-- A received media unit. -/
inductive IncomingTrackData where
  | video (nalu : VideoNalu)
  | audio (packet : AudioPacket)
  deriving Repr, DecidableEq

/-- A call of `PeerTransportCallbacks`. -/
inductive PeerCallback where
  | iceCandidate (candidate : IceCandidate)
  | connectionState (state : ConnectionState)
  | track (data : IncomingTrackData)
  | data (message : DataMessage)
  deriving Repr, DecidableEq

/-! ## Transports -/

/-- What a call does: its result, the transport after it, and the callbacks it made. -/
structure Call (π α : Type) where
  result : Except NetError α
  peer : π
  callbacks : List PeerCallback

/-- The operations of a transport. -/
structure PeerTransport (π : Type) where
  connectionState : π → ConnectionState
  createOffer : π → Call π SessionDescription
  createAnswer : π → Call π SessionDescription
  setLocalDescription : π → SessionDescription → Call π Unit
  setRemoteDescription : π → SessionDescription → Call π Unit
  addIceCandidate : π → IceCandidate → Call π Unit
  localFingerprint : π → Except NetError DtlsFingerprint
  remoteFingerprint : π → Except NetError (Option DtlsFingerprint)
  sendVideoNalu : π → VideoNalu → Call π Unit
  sendAudio : π → AudioPacket → Call π Unit
  sendData : π → DataMessage → Call π Unit
  poll : π → Call π Unit
  /-- Block until the transport is ready or the timeout (in milliseconds) has passed. -/
  waitReady : π → Nat → Call π Unit
  close : π → Call π Unit

/-- Something given to a transport to send. -/
inductive Sent where
  | video (nalu : VideoNalu)
  | audio (packet : AudioPacket)
  | data (message : DataMessage)
  deriving Repr, DecidableEq

/-- A transport with a record of what it has sent, newest first. -/
structure Logged (π : Type) where
  peer : π
  sent : List Sent

namespace PeerTransport

variable {π α : Type}

/-- A call that sends nothing. -/
def silent (l : Logged π) (c : Call π α) : Call (Logged π) α :=
  ⟨c.result, { l with peer := c.peer }, c.callbacks⟩

/-- A call that sends `m` if it succeeds. -/
def sending (l : Logged π) (m : Sent) (c : Call π Unit) : Call (Logged π) Unit :=
  match c.result with
  | .ok () => ⟨.ok (), ⟨c.peer, m :: l.sent⟩, c.callbacks⟩
  | .error e => ⟨.error e, { l with peer := c.peer }, c.callbacks⟩

/-- The transport that records what it has sent. -/
def logged (T : PeerTransport π) : PeerTransport (Logged π) where
  connectionState l := T.connectionState l.peer
  createOffer l := silent l (T.createOffer l.peer)
  createAnswer l := silent l (T.createAnswer l.peer)
  setLocalDescription l d := silent l (T.setLocalDescription l.peer d)
  setRemoteDescription l d := silent l (T.setRemoteDescription l.peer d)
  addIceCandidate l c := silent l (T.addIceCandidate l.peer c)
  localFingerprint l := T.localFingerprint l.peer
  remoteFingerprint l := T.remoteFingerprint l.peer
  sendVideoNalu l n := sending l (.video n) (T.sendVideoNalu l.peer n)
  sendAudio l p := sending l (.audio p) (T.sendAudio l.peer p)
  sendData l m := sending l (.data m) (T.sendData l.peer m)
  poll l := silent l (T.poll l.peer)
  waitReady l t := silent l (T.waitReady l.peer t)
  close l := silent l (T.close l.peer)

@[simp] theorem silent_sent (l : Logged π) (c : Call π α) : (silent l c).peer.sent = l.sent := rfl

@[simp] theorem logged_connectionState (T : PeerTransport π) (l : Logged π) :
    T.logged.connectionState l = T.connectionState l.peer := rfl

end PeerTransport

end RemoteLink.Net
