import RemoteLink.Net.Transport

set_option autoImplicit false

/-!
# Frames of the live transport

The live transport carries media and data over one TCP connection, in frames: a big-endian length
of four bytes, a byte for the kind, and a payload. A thread reads the socket, decodes the frames and
puts their messages in a queue.

## Main definitions

* `WireMsg` — a message of the reader.
* `encodeHello`, `encodeVideo`, `encodeAudio`, `encodeData` with their decoders — the payloads.
* `writeFrame` — one frame onto the stream.
* `Inbound.read` — one turn of the reader's loop.
-/

namespace RemoteLink.Net

open Library Protocol

/-- The two ends of a connection: the host offers, the viewer answers. -/
inductive PeerRole where
  | offerer
  | answerer
  deriving Repr, DecidableEq

def PeerRole.asStr : PeerRole → String
  | offerer => "offerer"
  | answerer => "answerer"

/-- A message of the reader. -/
inductive WireMsg where
  | video (nalu : VideoNalu)
  | audio (packet : AudioPacket)
  | data (message : DataMessage)
  /-- The remote has closed, or the stream has ended. -/
  | peerClose
  /-- The remote's fingerprint, as digits without separators. -/
  | hello (fingerprintHex : String)
  deriving Repr, DecidableEq

/-! ## Kinds and limits -/

def kindVideo : UInt8 := 1

def kindAudio : UInt8 := 2

def kindData : UInt8 := 3

def kindControl : UInt8 := 4

def ctrlHello : UInt8 := 1

def ctrlClose : UInt8 := 2

/-- The longest frame body, 16 MiB. -/
def maxFrameBody : Nat := 16777216

/-- Nanoseconds in a millisecond. -/
def nanosPerMilli : Nat := 1000000

/-- The timestamp that stands for none. -/
def noTimestamp : UInt32 := 4294967295

/-! ## Payloads -/

def flag (b : Bool) : UInt8 := if b then 1 else 0

def roleByte : PeerRole → UInt8
  | .offerer => 1
  | .answerer => 2

def formatByte : NaluFormat → UInt8
  | .annexB => 0
  | .avcc => 1

/-- The payload of a Hello: the digest and the role. -/
def encodeHello (fp : DtlsFingerprint) (role : PeerRole) : Except NetError Bytes :=
  fp.digestBytes.map fun digest => ctrlHello :: digest ++ [roleByte role]

/-- The digest of a Hello, as digits. -/
def decodeHello (payload : Bytes) : Except NetError String :=
  if payload.length < 32 then .error (.internal "hello too short")
  else .ok (bytesToHex (payload.take 32))

/-- The timestamp field. -/
def encodeTimestamp (rtpTs : Option UInt32) : Bytes := be 4 (rtpTs.getD noTimestamp).toNat

def decodeTimestamp (bytes : Bytes) : Option UInt32 :=
  let raw := UInt32.ofNat (ofBe bytes)
  if raw = noTimestamp then none else some raw

/-- The presentation time, in milliseconds, cut to 64 bits. -/
def encodePts (pts : Nat) : Bytes := be 8 (pts / nanosPerMilli)

def decodePts (bytes : Bytes) : Nat := ofBe bytes * nanosPerMilli

def encodeVideo (n : VideoNalu) : Bytes :=
  encodePts n.ptsHostMono ++ encodeTimestamp n.rtpTs ++ [flag n.keyframe, formatByte n.format] ++
    n.data

def decodeVideo (p : Bytes) : Except NetError VideoNalu :=
  if p.length < 14 then .error (.internal "video frame too short")
  else .ok {
    ptsHostMono := decodePts (p.take 8)
    rtpTs := decodeTimestamp ((p.drop 8).take 4)
    keyframe := decide (p.getD 12 0 ≠ 0)
    format := if p.getD 13 0 = 0 then .annexB else .avcc
    data := p.drop 14 }

def encodeAudio (a : AudioPacket) : Bytes :=
  encodePts a.ptsHostMono ++ encodeTimestamp a.rtpTs ++ be 4 a.sampleRate.toNat ++
    be 2 a.channels.toNat ++ a.data

def decodeAudio (p : Bytes) : Except NetError AudioPacket :=
  if p.length < 18 then .error (.internal "audio frame too short")
  else .ok {
    ptsHostMono := decodePts (p.take 8)
    rtpTs := decodeTimestamp ((p.drop 8).take 4)
    sampleRate := UInt32.ofNat (ofBe ((p.drop 12).take 4))
    channels := UInt16.ofNat (ofBe ((p.drop 16).take 2))
    data := p.drop 18 }

def encodeData (m : DataMessage) : Except NetError Bytes :=
  let label := utf8 m.label
  if label.length > 65535 then .error (.sendFailed "data label too long")
  else .ok (flag m.unordered :: be 2 label.length ++ label ++ m.data)

def decodeData (p : Bytes) : Except NetError DataMessage :=
  if p.length < 3 then .error (.internal "data frame too short")
  else
    let labelLen := ofBe ((p.drop 1).take 2)
    if p.length < 3 + labelLen then .error (.internal "data label truncated")
    else .ok {
      label := fromUtf8Lossy ((p.drop 3).take labelLen)
      data := p.drop (3 + labelLen)
      unordered := decide (p.getD 0 0 ≠ 0) }

/-! ## Writing -/

/-- A frame; the length of the body is cut to 32 bits. -/
def frame (kind : UInt8) (body : Bytes) : Bytes :=
  be 4 (1 + body.length % u32Size) ++ kind :: body

/-- The text for a write that the socket broke off after `n` of `total` bytes. -/
def writeFailure (n total : Nat) (e : String) : String :=
  if n < 4 then s!"write len: {e}"
  else if n < 5 then s!"write kind: {e}"
  else if n < total then s!"write body: {e}"
  else s!"flush: {e}"

/-- Write one frame: the result, and what has gone onto the stream. The socket may break off after
some number of bytes. -/
def writeFrame (kind : UInt8) (body : Bytes) (broken : Option (Nat × String)) :
    Except NetError Unit × Bytes :=
  let len := 1 + body.length % u32Size
  if len ≥ u32Size then (.error (.sendFailed "frame too large"), [])
  else if len > maxFrameBody then
    (.error (.sendFailed s!"frame body {len} exceeds max {maxFrameBody}"), [])
  else
    let bytes := frame kind body
    match broken with
    | none => (.ok (), bytes)
    | some (n, e) => (.error (.sendFailed (writeFailure n bytes.length e)), bytes.take n)

/-! ## Reading -/

/-- The message of a control frame. -/
def readControl : Bytes → Option WireMsg
  | [] => none
  | op :: payload =>
    if op = ctrlHello then (decodeHello payload).toOption.map .hello
    else if op = ctrlClose then some .peerClose
    else none

/-- The message of a frame body, `none` when the frame is skipped. -/
def readMsg : Bytes → Option WireMsg
  | [] => none
  | kind :: payload =>
    if kind = kindVideo then (decodeVideo payload).toOption.map .video
    else if kind = kindAudio then (decodeAudio payload).toOption.map .audio
    else if kind = kindData then (decodeData payload).toOption.map .data
    else if kind = kindControl then readControl payload
    else none

/-- What the bytes that have arrived begin with. -/
inductive FrameRead where
  | frame (body rest : Bytes)
  | badLength
  | short
  deriving Repr, DecidableEq

/-- Read one frame. -/
def readFrame (arrived : Bytes) : FrameRead :=
  if arrived.length < 4 then .short
  else
    let len := ofBe (arrived.take 4)
    if len = 0 ∨ len > maxFrameBody then .badLength
    else if arrived.length < 4 + len then .short
    else .frame ((arrived.drop 4).take len) (arrived.drop (4 + len))

/-- The receiving side of a stream. -/
structure Inbound where
  /-- Messages of the reader that wait for the session. -/
  queue : List WireMsg
  /-- Bytes that have arrived and are not read. -/
  arrived : Bytes
  /-- Whether the stream has ended. -/
  ended : Bool
  /-- Whether the reader runs. -/
  reading : Bool
  deriving Repr, DecidableEq

namespace Inbound

/-- The receiving side of a new stream. -/
def fresh : Inbound := ⟨[], [], false, true⟩

/-- Bytes arrive. -/
def arrive (chunk : Bytes) (i : Inbound) : Inbound :=
  if i.ended then i else { i with arrived := i.arrived ++ chunk }

/-- The stream ends. -/
def hangUp (i : Inbound) : Inbound := { i with ended := true }

/-- The reader gives up. -/
def stop (i : Inbound) : Inbound := { i with queue := i.queue ++ [.peerClose], reading := false }

/-- One turn of the reader's loop, which blocks while a frame is not complete. -/
def read (i : Inbound) : Inbound :=
  if ¬i.reading then i
  else
    match readFrame i.arrived with
    | .frame body rest => { i with queue := i.queue ++ (readMsg body).toList, arrived := rest }
    | .badLength => i.stop
    | .short => if i.ended then i.stop else i

end Inbound

end RemoteLink.Net
