import RemoteLink.Library.HashMap
import RemoteLink.Protocol.Message

set_option autoImplicit false

/-!
# The session registry

The in-memory registry of the signaling server: live connections, host presence, sessions and
the single-session busy lock of each host. Every method of the source holds the registry's one
mutex from its first read to its last write, so each is a pure function of the registry. A
method that reads the clock takes the reading `now` as an argument.

Times and durations are integers in nanoseconds. The viewer tokens are left out: no operation
on sessions reads them.

## Main definitions

* `RegistryInner` — the maps behind the mutex and the outbound messages sent so far.
* `RegistryInner.bindPeer`, `RegistryInner.unregisterConn`, `RegistryInner.reapExpired`,
  `RegistryInner.createPendingSession`, `RegistryInner.acceptSession`,
  `RegistryInner.rejectSession`, `RegistryInner.endSession`, `RegistryInner.forceDisconnect`,
  `RegistryInner.relayMediaSignal` — the methods of `SessionRegistry`.

## Main results

* `RegistryInner.sessions_close`, `RegistryInner.sessions_reap` — what closing and reaping
  leave among the sessions.
* `RegistryInner.hostPending_ok` — what a passed host check establishes.
-/

namespace RemoteLink.Server

open RemoteLink.Library RemoteLink.Protocol

/-! ## Data model -/

/-- A point in time, in nanoseconds. -/
abbrev Time := Int

/-- The nanoseconds in a second. -/
def second : Int := 1000000000

/-- Connection identifier. -/
abbrev ConnId := Nat

/-- Session lifecycle state. -/
inductive SessionState where
  | pending
  | active
  | closed
  deriving Repr, DecidableEq, Inhabited

/-- The `{:?}` text of a session state. -/
def SessionState.debug : SessionState → String
  | .pending => "Pending"
  | .active => "Active"
  | .closed => "Closed"

/-- How long a pending session may hold the busy lock by default. -/
def pendingSessionTtl : Int := 2 * 60 * second

/-- How long an active session may live by default. -/
def activeSessionTtl : Int := 8 * 60 * 60 * second

/-- In-memory session record. -/
structure Session where
  sessionId : String
  hostPublicId : String
  hostDeviceId : Int
  hostConn : ConnId
  viewerConn : ConnId
  mode : SessionMode
  state : SessionState
  nextSignalSeq : UInt64
  createdAt : Time
  expiresAt : Time
  deriving Repr, DecidableEq

/-- The session after the host `publicId` moved from the socket `old` to `conn`. -/
def Session.transfer (s : Session) (old conn : ConnId) (publicId : String) : Session :=
  { s with hostConn := if s.hostConn = old ∧ s.hostPublicId = publicId then conn else s.hostConn }

/-- Peer bound to a live connection by its `hello`. -/
structure PeerIdentity where
  role : Role
  devicePublicId : Option String
  deviceId : Option Int
  anonymous : Bool
  deriving Repr, DecidableEq

/-- Status of an enrolled device. -/
inductive DeviceStatus where
  | active
  | disabled
  | deleted
  deriving Repr, DecidableEq

/-- The fields of a device row that the signaling code reads. -/
structure Device where
  id : Int
  publicId : String
  status : DeviceStatus
  deriving Repr, DecidableEq

/-- The registry's end of a connection's outbound channel: sending succeeds while the
connection task still holds the receiver. -/
structure ConnTx where
  rxOpen : Bool
  deriving Repr, DecidableEq

/-- The registry behind its mutex. `sent` lists the messages put on outbound channels so far,
oldest first, each with its connection. -/
structure RegistryInner where
  conns : HashMap ConnId ConnTx
  hostByPublicId : HashMap String ConnId
  peers : HashMap ConnId PeerIdentity
  sessions : HashMap String Session
  hostBusy : HashMap String String
  nextConnId : ConnId
  sent : List (ConnId × SignalMessage)

/-- Parameters of `RegistryInner.createPendingSession`. -/
structure CreatePendingSession where
  viewerConn : ConnId
  sessionId : String
  hostPublicId : String
  hostDevice : Device
  mode : SessionMode
  signalSeq : UInt64
  viewerInfo : Value

/-- The `viewer_info` the server fills in for a viewer. -/
def defaultViewerInfo (peer : PeerIdentity) : Value :=
  .object [("anonymous", .bool peer.anonymous),
    ("device_public_id", (peer.devicePublicId.map Value.string).getD .null)]

/-- The `{:?}` text of an optional string, without the escapes of unprintable characters. -/
def debugOption : Option String → String
  | some s => s!"Some({s.quote})"
  | none => "None"

namespace RegistryInner

/-- The empty registry. The connection counter starts at one. -/
def empty : RegistryInner where
  conns := ∅
  hostByPublicId := ∅
  peers := ∅
  sessions := ∅
  hostBusy := ∅
  nextConnId := 1
  sent := []

/-! ## Sending -/

/-- `tx.send(msg).is_ok()` on the channel of `conn`, and the registry afterwards. -/
def trySend (g : RegistryInner) (conn : ConnId) (msg : SignalMessage) : Bool × RegistryInner :=
  match g.conns.lookup conn with
  | some tx => if tx.rxOpen then (true, { g with sent := g.sent ++ [(conn, msg)] }) else (false, g)
  | none => (false, g)

/-- Send and ignore whether it worked. -/
def push (g : RegistryInner) (conn : ConnId) (msg : SignalMessage) : RegistryInner :=
  (g.trySend conn msg).2

/-- Send a message to a live connection; `false` if it is gone. -/
def sendTo (g : RegistryInner) (conn : ConnId) (msg : SignalMessage) : Bool × RegistryInner :=
  g.trySend conn msg

/-! ## Closing and reaping sessions -/

/-- Close a session, release the busy lock and notify both peers. -/
def closeSessionLocked (g : RegistryInner) (sessionId reason : String) : RegistryInner :=
  match g.sessions.lookup sessionId with
  | none => g
  | some session =>
    let g := { g with
      sessions := g.sessions.erase sessionId
      hostBusy := g.hostBusy.erase session.hostPublicId }
    if session.state = .closed then g
    else
      let msg := SignalMessage.sessionEnd sessionId session.nextSignalSeq reason
      (g.push session.hostConn msg).push session.viewerConn msg

/-- Close every session of a list with the same reason. -/
def closeAll (g : RegistryInner) (sids : List String) (reason : String) : RegistryInner :=
  sids.foldl (fun g sid => g.closeSessionLocked sid reason) g

/-- The live sessions whose expiry has passed. -/
def expired (g : RegistryInner) (now : Time) : List String :=
  g.sessions.keysWhere fun _ s => decide (s.state ≠ .closed ∧ s.expiresAt ≤ now)

/-- Reap the sessions past their expiry; their number and the registry afterwards. -/
def reapExpired (g : RegistryInner) (now : Time) : Nat × RegistryInner :=
  let expired := g.expired now
  (expired.length, g.closeAll expired "session_ttl")

/-! ## Connections -/

/-- Register a new connection. -/
def registerConn (g : RegistryInner) : ConnId × RegistryInner :=
  let id := g.nextConnId
  (id, { g with nextConnId := id + 1, conns := g.conns.insert id { rxOpen := true } })

/-- The connection task drops the receiver of its outbound channel. -/
def dropReceiver (g : RegistryInner) (conn : ConnId) : RegistryInner :=
  { g with conns := g.conns.mapVals fun c tx => if c = conn then { rxOpen := false } else tx }

/-- Drop a connection and close the sessions that still reference it. -/
def unregisterConn (g : RegistryInner) (conn : ConnId) : RegistryInner :=
  let g := { g with conns := g.conns.erase conn, peers := g.peers.erase conn }
  let hostIds := g.hostByPublicId.keysWhere fun _ cid => decide (cid = conn)
  let g := { g with hostByPublicId := g.hostByPublicId.eraseAll hostIds }
  let affected := g.sessions.keysWhere fun _ s =>
    decide (s.hostConn = conn ∨ s.viewerConn = conn)
  g.closeAll affected "peer_disconnected"

/-- Evict the connection that was published for `publicId`: its sessions move to `conn`, and the
old connection is told and dropped. -/
def evict (g : RegistryInner) (old conn : ConnId) (publicId : String) : RegistryInner :=
  let g := { g with
    sessions := g.sessions.mapVals fun _ s => s.transfer old conn publicId }
  let g := g.push old (.error "connection_replaced" "host reconnected on another socket")
  { g with conns := g.conns.erase old, peers := g.peers.erase old }

/-- Publish `conn` for the host `publicId`, evicting the connection published before. -/
def publishHost (g : RegistryInner) (conn : ConnId) (publicId : String) : RegistryInner :=
  let old? := g.hostByPublicId.lookup publicId
  let g := { g with hostByPublicId := g.hostByPublicId.insert publicId conn }
  match old? with
  | some old => if old = conn then g else g.evict old conn publicId
  | none => g

/-- Bind an identity after a successful `hello`. Hosts are published for presence. -/
def bindPeer (g : RegistryInner) (conn : ConnId) (identity : PeerIdentity) : RegistryInner :=
  let g := match identity.role, identity.devicePublicId with
    | .host, some publicId => g.publishHost conn publicId
    | _, _ => g
  { g with peers := g.peers.insert conn identity }

/-! ## Session operations -/

/-- The reply to a `signal_seq` below the next one expected. -/
def staleSignalSeq (signalSeq next : UInt64) : SignalMessage :=
  .error "stale_signal_seq" s!"signal_seq {signalSeq} < next {next}"

/-- The record of a new pending session. -/
def pendingSession (pendingTtl : Int) (req : CreatePendingSession) (hostConn : ConnId)
    (nextSignalSeq : UInt64) (now : Time) : Session where
  sessionId := req.sessionId
  hostPublicId := req.hostPublicId
  hostDeviceId := req.hostDevice.id
  hostConn := hostConn
  viewerConn := req.viewerConn
  mode := req.mode
  state := .pending
  nextSignalSeq := nextSignalSeq
  createdAt := now
  expiresAt := now + pendingTtl

/-- The message that tells the host about a new pending session. -/
def incomingMessage (req : CreatePendingSession) (incomingSeq : UInt64) : SignalMessage :=
  .sessionIncoming req.sessionId incomingSeq req.viewerInfo req.mode .skipped

/-- Store a pending session with its busy lock and notify the host; both are rolled back when
the host cannot be reached. -/
def insertPending (g : RegistryInner) (req : CreatePendingSession) (session : Session)
    (incomingSeq : UInt64) : Except SignalMessage Unit × RegistryInner :=
  let g := { g with
    hostBusy := g.hostBusy.insert req.hostPublicId req.sessionId
    sessions := g.sessions.insert req.sessionId session }
  let (delivered, g) := g.trySend session.hostConn (incomingMessage req incomingSeq)
  if delivered then (.ok (), g)
  else
    let g := match g.sessions.lookup req.sessionId with
      | some s => { g with
          sessions := g.sessions.erase req.sessionId
          hostBusy := g.hostBusy.erase s.hostPublicId }
      | none => g
    (.error (.error "host_offline" "host disconnected before session_incoming"), g)

/-- Create a pending session and notify the host, or answer the viewer with an error. -/
def createPendingSession (g : RegistryInner) (pendingTtl : Int) (req : CreatePendingSession)
    (now : Time) : Except SignalMessage Unit × RegistryInner :=
  let g := (g.reapExpired now).2
  if (g.sessions.lookup req.sessionId).isSome then
    (.error (.error "conflict" s!"session_id {req.sessionId} already exists"), g)
  else if (g.hostBusy.lookup req.hostPublicId).isSome then
    (.error (.sessionReject req.sessionId (saturatingSucc req.signalSeq) .busy), g)
  else match g.hostByPublicId.lookup req.hostPublicId with
    | none =>
      (.error (.error "host_offline" s!"host {req.hostPublicId} is not connected"), g)
    | some hostConn =>
      match checkedSucc req.signalSeq with
      | none => (.error (.error "bad_request" "signal_seq overflow; start a new session"), g)
      | some incomingSeq =>
        match checkedSucc incomingSeq with
        | none => (.error (.error "bad_request" "signal_seq overflow; start a new session"), g)
        | some nextSignalSeq =>
          g.insertPending req (pendingSession pendingTtl req hostConn nextSignalSeq now)
            incomingSeq

/-- The checks that `acceptSession` and `rejectSession` share: the session is known, pending,
owned by the host connection, and the sequence number is not stale. -/
def hostPending (g : RegistryInner) (hostConn : ConnId) (sessionId : String)
    (signalSeq : UInt64) : Except SignalMessage Session :=
  match g.sessions.lookup sessionId with
  | none => .error (.error "not_found" "unknown session_id")
  | some session =>
    if session.hostConn ≠ hostConn then
      .error (.error "unauthorized" "not the host for this session")
    else if session.state ≠ .pending then
      .error (.error "invalid_state" s!"session is {session.state.debug}, expected pending")
    else if signalSeq < session.nextSignalSeq then
      .error (staleSignalSeq signalSeq session.nextSignalSeq)
    else .ok session

/-- Host accept: mark the session active and tell the viewer. -/
def acceptSession (g : RegistryInner) (activeTtl : Int) (hostConn : ConnId) (sessionId : String)
    (signalSeq : UInt64) (now : Time) : Except SignalMessage Unit × RegistryInner :=
  let g := (g.reapExpired now).2
  match g.hostPending hostConn sessionId signalSeq with
  | .error e => (.error e, g)
  | .ok session =>
    let session := { session with
      state := .active
      expiresAt := now + activeTtl
      nextSignalSeq := saturatingSucc signalSeq }
    let g := { g with sessions := g.sessions.insert sessionId session }
    (.ok (), g.push session.viewerConn (.sessionAccept sessionId signalSeq))

/-- Host reject: remove the session, release the busy lock and tell the viewer. -/
def rejectSession (g : RegistryInner) (hostConn : ConnId) (sessionId : String)
    (signalSeq : UInt64) (reason : RejectReason) (now : Time) :
    Except SignalMessage Unit × RegistryInner :=
  let g := (g.reapExpired now).2
  match g.hostPending hostConn sessionId signalSeq with
  | .error e => (.error e, g)
  | .ok session =>
    let g := { g with
      hostBusy := g.hostBusy.erase session.hostPublicId
      sessions := g.sessions.erase sessionId }
    (.ok (), g.push session.viewerConn (.sessionReject sessionId signalSeq reason))

/-- Either peer ends a session: remove it, release the busy lock and tell the other side. -/
def endSession (g : RegistryInner) (conn : ConnId) (sessionId : String) (signalSeq : UInt64)
    (reason : String) (now : Time) : Except SignalMessage Unit × RegistryInner :=
  let g := (g.reapExpired now).2
  match g.sessions.lookup sessionId with
  | none => (.error (.error "not_found" "unknown session_id"), g)
  | some session =>
    if session.hostConn ≠ conn ∧ session.viewerConn ≠ conn then
      (.error (.error "unauthorized" "not a party to this session"), g)
    else if session.state = .closed then (.ok (), g)
    else if signalSeq < session.nextSignalSeq then
      (.error (staleSignalSeq signalSeq session.nextSignalSeq), g)
    else
      let g := { g with
        hostBusy := g.hostBusy.erase session.hostPublicId
        sessions := g.sessions.erase sessionId }
      let peer := if session.hostConn = conn then session.viewerConn else session.hostConn
      (.ok (), g.push peer (.sessionEnd sessionId signalSeq reason))

/-- Operator force-disconnect: `true` when a live session was closed. -/
def forceDisconnect (g : RegistryInner) (sessionId reason : String) (now : Time) :
    Bool × RegistryInner :=
  let g := (g.reapExpired now).2
  match g.sessions.lookup sessionId with
  | none => (false, g)
  | some session =>
    if session.state = .closed then (false, { g with sessions := g.sessions.erase sessionId })
    else (true, g.closeSessionLocked sessionId reason)

/-- The session and sequence number of the messages that are relayed. -/
def relayKey? : SignalMessage → Option (String × UInt64)
  | .sessionOffer sid seq .. | .sessionAnswer sid seq .. | .iceCandidate sid seq ..
  | .mediaRestart sid seq | .renegotiate sid seq | .authChallenge sid seq ..
  | .authResponse sid seq .. | .stats sid seq .. => some (sid, seq)
  | _ => none

/-- The role gate of the relay: only the host offers, only the viewer answers. -/
def relayRoleError (msg : SignalMessage) (isHost : Bool) : Option SignalMessage :=
  match msg with
  | .sessionOffer .. =>
    if isHost then none else some (.error "unauthorized" "only the host may send session_offer")
  | .sessionAnswer .. =>
    if isHost then some (.error "unauthorized" "only the viewer may send session_answer")
    else none
  | _ => none

/-- Whether a message is an ICE candidate; a stale one is dropped without an error. -/
def isIceCandidate : SignalMessage → Bool
  | .iceCandidate .. => true
  | _ => false

/-- Forward an accepted relay message to the other party. -/
def forward (g : RegistryInner) (from_ : ConnId) (sessionId : String) (signalSeq : UInt64)
    (session : Session) (msg : SignalMessage) : Except SignalMessage Unit × RegistryInner :=
  let peer := if session.hostConn = from_ then session.viewerConn else session.hostConn
  let session := { session with nextSignalSeq := saturatingSucc signalSeq }
  let g := { g with sessions := g.sessions.insert sessionId session }
  if (g.conns.lookup peer).isSome then
    let (delivered, g) := g.trySend peer msg
    if delivered then (.ok (), g)
    else (.error (.error "peer_offline" "peer disconnected; could not relay media signal"), g)
  else (.error (.error "peer_offline" "peer not connected; could not relay media signal"), g)

/-- Relay an active-session signal to the other party. -/
def relayMediaSignal (g : RegistryInner) (from_ : ConnId) (msg : SignalMessage) (now : Time) :
    Except SignalMessage Unit × RegistryInner :=
  match relayKey? msg with
  | none => (.error (.error "protocol_error"
      s!"relay_media_signal: unsupported type (session_id={debugOption msg.sessionId?})"), g)
  | some (sessionId, signalSeq) =>
    let g := (g.reapExpired now).2
    match g.sessions.lookup sessionId with
    | none => (.error (.error "not_found" "unknown session_id"), g)
    | some session =>
      if session.hostConn ≠ from_ ∧ session.viewerConn ≠ from_ then
        (.error (.error "unauthorized" "not a party to this session"), g)
      else if session.state ≠ .active then
        (.error (.error "invalid_state"
          s!"session is {session.state.debug}, expected active for media relay"), g)
      else if signalSeq < session.nextSignalSeq then
        if isIceCandidate msg then (.ok (), g)
        else (.error (staleSignalSeq signalSeq session.nextSignalSeq), g)
      else match relayRoleError msg (decide (session.hostConn = from_)) with
        | some e => (.error e, g)
        | none => g.forward from_ sessionId signalSeq session msg

/-! ## What sending, closing and reaping change -/

@[simp] theorem trySend_snd (g : RegistryInner) (c : ConnId) (m : SignalMessage) :
    (g.trySend c m).2 = g.push c m := rfl

/-- Sending only ever extends the list of sent messages. -/
theorem push_eq (g : RegistryInner) (c : ConnId) (m : SignalMessage) :
    ∃ l, g.push c m = { g with sent := g.sent ++ l } := by
  unfold push trySend
  rcases g.conns.lookup c with _ | tx
  · exact ⟨[], by simp⟩
  · by_cases hrx : tx.rxOpen
    · exact ⟨[(c, m)], by simp [hrx]⟩
    · exact ⟨[], by simp [hrx]⟩

section Push

variable (g : RegistryInner) (c : ConnId) (m : SignalMessage)

@[simp] theorem push_conns : (g.push c m).conns = g.conns := by
  obtain ⟨l, hl⟩ := g.push_eq c m
  rw [hl]

@[simp] theorem push_hostByPublicId : (g.push c m).hostByPublicId = g.hostByPublicId := by
  obtain ⟨l, hl⟩ := g.push_eq c m
  rw [hl]

@[simp] theorem push_peers : (g.push c m).peers = g.peers := by
  obtain ⟨l, hl⟩ := g.push_eq c m
  rw [hl]

@[simp] theorem push_sessions : (g.push c m).sessions = g.sessions := by
  obtain ⟨l, hl⟩ := g.push_eq c m
  rw [hl]

@[simp] theorem push_hostBusy : (g.push c m).hostBusy = g.hostBusy := by
  obtain ⟨l, hl⟩ := g.push_eq c m
  rw [hl]

@[simp] theorem push_nextConnId : (g.push c m).nextConnId = g.nextConnId := by
  obtain ⟨l, hl⟩ := g.push_eq c m
  rw [hl]

end Push

section Evict

variable (g : RegistryInner) (old conn : ConnId) (publicId : String)

@[simp] theorem evict_sessions : (g.evict old conn publicId).sessions =
    g.sessions.mapVals fun _ s => s.transfer old conn publicId := by
  simp [evict]

@[simp] theorem evict_hostBusy : (g.evict old conn publicId).hostBusy = g.hostBusy := by
  simp [evict]

@[simp] theorem evict_hostByPublicId :
    (g.evict old conn publicId).hostByPublicId = g.hostByPublicId := by
  simp [evict]

@[simp] theorem evict_conns : (g.evict old conn publicId).conns = g.conns.erase old := by
  simp [evict]

@[simp] theorem evict_nextConnId : (g.evict old conn publicId).nextConnId = g.nextConnId := by
  simp [evict]

end Evict

/-- Closing a session removes it and nothing else from the sessions. -/
theorem sessions_close (g : RegistryInner) (sid reason k : String) :
    (g.closeSessionLocked sid reason).sessions.lookup k =
      if k = sid then none else g.sessions.lookup k := by
  unfold closeSessionLocked
  rcases hs : g.sessions.lookup sid with _ | s
  · split_ifs with hk
    · exact hk ▸ hs
    · rfl
  · dsimp only
    rw [← HashMap.lookup_erase_if]
    split_ifs
    · rfl
    · simp only [push_sessions]

/-- Closing sessions touches neither connections nor presence. -/
theorem close_frame (g : RegistryInner) (sid reason : String) :
    (g.closeSessionLocked sid reason).conns = g.conns ∧
    (g.closeSessionLocked sid reason).hostByPublicId = g.hostByPublicId ∧
    (g.closeSessionLocked sid reason).peers = g.peers ∧
    (g.closeSessionLocked sid reason).nextConnId = g.nextConnId := by
  unfold closeSessionLocked
  rcases g.sessions.lookup sid with _ | s
  · exact ⟨rfl, rfl, rfl, rfl⟩
  · dsimp only
    split_ifs
    · exact ⟨rfl, rfl, rfl, rfl⟩
    · simp

theorem sessions_closeAll (g : RegistryInner) (sids : List String) (reason k : String) :
    (g.closeAll sids reason).sessions.lookup k =
      if k ∈ sids then none else g.sessions.lookup k := by
  induction sids generalizing g with
  | nil => simp [closeAll]
  | cons sid sids ih =>
    have hcons : g.closeAll (sid :: sids) reason =
        (g.closeSessionLocked sid reason).closeAll sids reason := rfl
    rw [hcons, ih, sessions_close]
    by_cases hk : k ∈ sids
    · simp [hk]
    · simp [hk]

theorem closeAll_frame (g : RegistryInner) (sids : List String) (reason : String) :
    (g.closeAll sids reason).conns = g.conns ∧
    (g.closeAll sids reason).hostByPublicId = g.hostByPublicId ∧
    (g.closeAll sids reason).peers = g.peers ∧
    (g.closeAll sids reason).nextConnId = g.nextConnId := by
  induction sids generalizing g with
  | nil => exact ⟨rfl, rfl, rfl, rfl⟩
  | cons sid sids ih =>
    obtain ⟨h1, h2, h3, h4⟩ := g.close_frame sid reason
    obtain ⟨i1, i2, i3, i4⟩ := ih (g.closeSessionLocked sid reason)
    exact ⟨i1.trans h1, i2.trans h2, i3.trans h3, i4.trans h4⟩

/-- What closing leaves in the sessions and the busy map does not depend on the connections. -/
theorem close_congr {g g' : RegistryInner} (hs : g.sessions = g'.sessions)
    (hb : g.hostBusy = g'.hostBusy) (sid reason : String) :
    (g.closeSessionLocked sid reason).sessions = (g'.closeSessionLocked sid reason).sessions ∧
    (g.closeSessionLocked sid reason).hostBusy = (g'.closeSessionLocked sid reason).hostBusy := by
  unfold closeSessionLocked
  rw [hs]
  rcases g'.sessions.lookup sid with _ | s
  · exact ⟨hs, hb⟩
  · dsimp only
    split_ifs
    · simp [hb]
    · simp [hb]

theorem closeAll_congr {g g' : RegistryInner} (hs : g.sessions = g'.sessions)
    (hb : g.hostBusy = g'.hostBusy) (sids : List String) (reason : String) :
    (g.closeAll sids reason).sessions = (g'.closeAll sids reason).sessions ∧
    (g.closeAll sids reason).hostBusy = (g'.closeAll sids reason).hostBusy := by
  induction sids generalizing g g' with
  | nil => exact ⟨hs, hb⟩
  | cons sid sids ih =>
    obtain ⟨h1, h2⟩ := close_congr hs hb sid reason
    exact ih h1 h2

/-- A session is reaped exactly when it is live and its expiry has passed. -/
theorem mem_expired {g : RegistryInner} {now : Time} {sid : String} :
    sid ∈ g.expired now ↔
      ∃ s, g.sessions.lookup sid = some s ∧ s.state ≠ .closed ∧ s.expiresAt ≤ now := by
  simp [expired, HashMap.mem_keysWhere]

theorem sessions_reap (g : RegistryInner) (now : Time) (sid : String) :
    (g.reapExpired now).2.sessions.lookup sid =
      if sid ∈ g.expired now then none else g.sessions.lookup sid :=
  sessions_closeAll g (g.expired now) "session_ttl" sid

/-- A session that survives reaping was stored before, unchanged. -/
theorem lookup_of_reap {g : RegistryInner} {now : Time} {sid : String} {s : Session}
    (h : (g.reapExpired now).2.sessions.lookup sid = some s) :
    g.sessions.lookup sid = some s ∧ sid ∉ g.expired now := by
  rw [sessions_reap] at h
  split_ifs at h with he
  exact ⟨h, he⟩

theorem reap_frame (g : RegistryInner) (now : Time) :
    (g.reapExpired now).2.conns = g.conns ∧
    (g.reapExpired now).2.hostByPublicId = g.hostByPublicId ∧
    (g.reapExpired now).2.peers = g.peers ∧
    (g.reapExpired now).2.nextConnId = g.nextConnId :=
  g.closeAll_frame _ _

/-! ## What the host checks establish -/

/-- A session that passes the host's checks is stored, pending and owned by that host. -/
theorem hostPending_ok {g : RegistryInner} {c : ConnId} {sid : String} {seq : UInt64}
    {s : Session} (h : g.hostPending c sid seq = .ok s) :
    g.sessions.lookup sid = some s ∧ s.hostConn = c ∧ s.state = .pending ∧
      ¬seq < s.nextSignalSeq := by
  unfold hostPending at h
  rcases hs : g.sessions.lookup sid with _ | s'
  · simp [hs] at h
  · rw [hs] at h
    dsimp only at h
    split_ifs at h with h1 h2 h3
    obtain rfl := Except.ok.inj h
    exact ⟨rfl, not_not.mp h1, not_not.mp h2, h3⟩

/-! ## Where a stored session comes from -/

section Origin

variable {g : RegistryInner} {now : Time} {k sid : String} {x : Session}

/-- A session stored after one was erased was stored before. -/
theorem lookup_of_erase (h : (g.sessions.erase sid).lookup k = some x) :
    g.sessions.lookup k = some x := by
  rw [HashMap.lookup_erase_if] at h
  split_ifs at h
  exact h

/-- A session stored after a stored one was overwritten was stored before, and a pending one
unchanged if the overwriting record is not pending. -/
theorem lookup_of_update {s s' : Session} (hs : g.sessions.lookup sid = some s)
    (hs' : s'.state ≠ .pending) (h : (g.sessions.insert sid s').lookup k = some x) :
    ∃ x₀, g.sessions.lookup k = some x₀ ∧ (x.state = .pending → x₀ = x) := by
  rw [HashMap.lookup_insert_if] at h
  split_ifs at h with hk
  · exact ⟨s, hk ▸ hs, fun hp => absurd (Option.some.inj h ▸ hp) hs'⟩
  · exact ⟨x, h, fun _ => rfl⟩

/-- Binding a peer leaves every session where it was, up to its host connection. -/
theorem lookup_of_bindPeer {conn : ConnId} {identity : PeerIdentity}
    (h : (g.bindPeer conn identity).sessions.lookup k = some x) :
    ∃ x₀ old publicId, g.sessions.lookup k = some x₀ ∧ (x = x₀ ∨
      x = x₀.transfer old conn publicId) := by
  have hpub : ∀ publicId, (g.publishHost conn publicId).sessions.lookup k = some x →
      ∃ x₀ old publicId, g.sessions.lookup k = some x₀ ∧ (x = x₀ ∨
        x = x₀.transfer old conn publicId) := by
    intro publicId hx
    unfold publishHost at hx
    rcases hold : g.hostByPublicId.lookup publicId with _ | old
    · simp only [hold] at hx
      exact ⟨x, conn, publicId, hx, .inl rfl⟩
    · simp only [hold] at hx
      split_ifs at hx
      · exact ⟨x, conn, publicId, hx, .inl rfl⟩
      · rw [evict_sessions, HashMap.lookup_mapVals, Option.map_eq_some_iff] at hx
        obtain ⟨x₀, hx₀, rfl⟩ := hx
        exact ⟨x₀, old, publicId, hx₀, .inr rfl⟩
  obtain ⟨role, devicePublicId, deviceId, anonymous⟩ := identity
  rcases role with _ | _
  · rcases devicePublicId with _ | publicId
    · exact ⟨x, conn, k, h, .inl rfl⟩
    · exact hpub publicId h
  · exact ⟨x, conn, k, h, .inl rfl⟩

theorem lookup_of_insertPending {req : CreatePendingSession} {s : Session} {seq : UInt64}
    (h : (g.insertPending req s seq).2.sessions.lookup k = some x) :
    (k = req.sessionId ∧ x = s) ∨ g.sessions.lookup k = some x := by
  have hins : (g.sessions.insert req.sessionId s).lookup k = some x →
      (k = req.sessionId ∧ x = s) ∨ g.sessions.lookup k = some x := by
    intro hx
    rw [HashMap.lookup_insert_if] at hx
    split_ifs at hx with hk
    · exact .inl ⟨hk, (Option.some.inj hx).symm⟩
    · exact .inr hx
  unfold insertPending at h
  dsimp only at h
  split_ifs at h
  · exact hins (by simpa using h)
  · rcases hs : AList.lookup req.sessionId (RegistryInner.sessions _) with _ | t
    · rw [hs] at h
      exact hins (by simpa using h)
    · rw [hs] at h
      exact hins (by simpa using lookup_of_erase h)

theorem lookup_of_create {ttl : Int} {req : CreatePendingSession}
    (h : (g.createPendingSession ttl req now).2.sessions.lookup k = some x) :
    (∃ hostConn seq, req.sessionId = k ∧ x = pendingSession ttl req hostConn seq now) ∨
      (g.reapExpired now).2.sessions.lookup k = some x := by
  unfold createPendingSession at h
  dsimp only at h
  split_ifs at h
  · exact .inr h
  · exact .inr h
  · rcases hhost : (g.reapExpired now).2.hostByPublicId.lookup req.hostPublicId with _ | hostConn
    · simp only [hhost] at h
      exact .inr h
    · rcases hseq : checkedSucc req.signalSeq with _ | incoming
      · simp only [hhost, hseq] at h
        exact .inr h
      · rcases hnext : checkedSucc incoming with _ | next
        · simp only [hhost, hseq, hnext] at h
          exact .inr h
        · simp only [hhost, hseq, hnext] at h
          rcases lookup_of_insertPending h with ⟨hk, hx⟩ | hx
          · exact .inl ⟨hostConn, next, hk.symm, hx⟩
          · exact .inr hx

/-- A create that succeeds stores the fresh session under an id that was free. -/
theorem create_ok {ttl : Int} {req : CreatePendingSession}
    (h : (g.createPendingSession ttl req now).1 = .ok ()) : ∃ hostConn seq,
    (g.createPendingSession ttl req now).2.sessions = (g.reapExpired now).2.sessions.insert
      req.sessionId (pendingSession ttl req hostConn seq now) := by
  unfold createPendingSession at h ⊢
  dsimp only at h ⊢
  split_ifs at h ⊢
  · rcases hhost : (g.reapExpired now).2.hostByPublicId.lookup req.hostPublicId with _ | hostConn
    · simp [hhost] at h
    · rcases hseq : checkedSucc req.signalSeq with _ | incoming
      · simp [hhost, hseq] at h
      · rcases hnext : checkedSucc incoming with _ | next
        · simp [hhost, hseq, hnext] at h
        · simp only [hhost, hseq, hnext] at h ⊢
          unfold insertPending at h ⊢
          dsimp only at h ⊢
          split_ifs at h ⊢
          exact ⟨hostConn, next, by simp⟩

/-- A create that fails stores nothing new. -/
theorem lookup_of_create_error {ttl : Int} {req : CreatePendingSession} {e : SignalMessage}
    (herr : (g.createPendingSession ttl req now).1 = .error e)
    (h : (g.createPendingSession ttl req now).2.sessions.lookup k = some x) :
    (g.reapExpired now).2.sessions.lookup k = some x := by
  unfold createPendingSession at h herr
  dsimp only at h herr
  split_ifs at h herr
  · exact h
  · exact h
  · rcases hhost : (g.reapExpired now).2.hostByPublicId.lookup req.hostPublicId with _ | hostConn
    · simp only [hhost] at h
      exact h
    · rcases hseq : checkedSucc req.signalSeq with _ | incoming
      · simp only [hhost, hseq] at h
        exact h
      · rcases hnext : checkedSucc incoming with _ | next
        · simp only [hhost, hseq, hnext] at h
          exact h
        · simp only [hhost, hseq, hnext] at h herr
          unfold insertPending at h herr
          dsimp only at h herr
          split_ifs at h herr
          -- the rollback erases what was inserted
          simp only [trySend_snd, push_sessions, AList.lookup_insert] at h
          rw [HashMap.lookup_erase_if] at h
          split_ifs at h with hk
          exact (AList.lookup_insert_ne hk).symm.trans h

theorem lookup_of_accept {ttl : Int} {conn : ConnId} {seq : UInt64}
    (h : (g.acceptSession ttl conn sid seq now).2.sessions.lookup k = some x) :
    ∃ x₀, (g.reapExpired now).2.sessions.lookup k = some x₀ ∧ (x.state = .pending → x₀ = x) := by
  unfold acceptSession at h
  rcases hp : (g.reapExpired now).2.hostPending conn sid seq with e | s
  · simp only [hp] at h
    exact ⟨x, h, fun _ => rfl⟩
  · simp only [hp, push_sessions] at h
    exact lookup_of_update (hostPending_ok hp).1 (by simp) h

/-- An accept that succeeds found the session pending and owned by the host, and makes it active. -/
theorem accept_ok {ttl : Int} {conn : ConnId} {seq : UInt64}
    (h : (g.acceptSession ttl conn sid seq now).1 = .ok ()) : ∃ s s' : Session,
    g.sessions.lookup sid = some s ∧ s.hostConn = conn ∧ s.state = .pending ∧
      (g.acceptSession ttl conn sid seq now).2.sessions.lookup sid = some s' ∧
      s'.state = .active := by
  unfold acceptSession at h ⊢
  dsimp only at h ⊢
  rcases hp : (g.reapExpired now).2.hostPending conn sid seq with e | s
  · simp [hp] at h
  · obtain ⟨hs, hconn, hstate, -⟩ := hostPending_ok hp
    refine ⟨s, { s with
      state := .active, expiresAt := now + ttl, nextSignalSeq := saturatingSucc seq },
      (lookup_of_reap hs).1, hconn, hstate, ?_, rfl⟩
    simp

theorem lookup_of_reject {conn : ConnId} {seq : UInt64} {reason : RejectReason}
    (h : (g.rejectSession conn sid seq reason now).2.sessions.lookup k = some x) :
    (g.reapExpired now).2.sessions.lookup k = some x := by
  unfold rejectSession at h
  rcases hp : (g.reapExpired now).2.hostPending conn sid seq with e | s
  · simpa only [hp] using h
  · simp only [hp, push_sessions] at h
    exact lookup_of_erase h

theorem lookup_of_end {conn : ConnId} {seq : UInt64} {reason : String}
    (h : (g.endSession conn sid seq reason now).2.sessions.lookup k = some x) :
    (g.reapExpired now).2.sessions.lookup k = some x := by
  unfold endSession at h
  rcases hs : (g.reapExpired now).2.sessions.lookup sid with _ | s
  · simpa only [hs] using h
  · simp only [hs] at h
    generalize (if s.hostConn = conn then s.viewerConn else s.hostConn) = peer at h
    split_ifs at h
    · exact h
    · exact h
    · exact h
    · simp only [push_sessions] at h
      exact lookup_of_erase h

theorem lookup_of_forceDisconnect {reason : String}
    (h : (g.forceDisconnect sid reason now).2.sessions.lookup k = some x) :
    (g.reapExpired now).2.sessions.lookup k = some x := by
  unfold forceDisconnect at h
  rcases hs : (g.reapExpired now).2.sessions.lookup sid with _ | s
  · simpa only [hs] using h
  · simp only [hs] at h
    split_ifs at h
    · exact lookup_of_erase h
    · rw [sessions_close] at h
      split_ifs at h
      exact h

theorem lookup_of_forward {s : Session} (hs : g.sessions.lookup sid = some s)
    (hactive : s.state = .active) {from_ : ConnId} {seq : UInt64} {msg : SignalMessage}
    (h : (g.forward from_ sid seq s msg).2.sessions.lookup k = some x) :
    ∃ x₀, g.sessions.lookup k = some x₀ ∧ (x.state = .pending → x₀ = x) := by
  have hnp : ({ s with nextSignalSeq := saturatingSucc seq } : Session).state ≠ .pending := by
    intro hc
    rw [show s.state = .pending from hc] at hactive
    cases hactive
  unfold forward at h
  generalize (if s.hostConn = from_ then s.viewerConn else s.hostConn) = peer at h
  dsimp only at h
  split_ifs at h
  · exact lookup_of_update hs hnp (by simpa using h)
  · exact lookup_of_update hs hnp (by simpa using h)
  · exact lookup_of_update hs hnp h

theorem lookup_of_relay {from_ : ConnId} {msg : SignalMessage} {key : String × UInt64}
    (hkey : relayKey? msg = some key)
    (h : (g.relayMediaSignal from_ msg now).2.sessions.lookup k = some x) :
    ∃ x₀, (g.reapExpired now).2.sessions.lookup k = some x₀ ∧ (x.state = .pending → x₀ = x) := by
  obtain ⟨sid, seq⟩ := key
  unfold relayMediaSignal at h
  simp only [hkey] at h
  rcases hs : (g.reapExpired now).2.sessions.lookup sid with _ | s
  · simp only [hs] at h
    exact ⟨x, h, fun _ => rfl⟩
  · simp only [hs] at h
    split_ifs at h with _ hactive
    · exact ⟨x, h, fun _ => rfl⟩
    · exact ⟨x, h, fun _ => rfl⟩
    · exact ⟨x, h, fun _ => rfl⟩
    · exact ⟨x, h, fun _ => rfl⟩
    · rcases hrole : relayRoleError msg (decide (s.hostConn = from_)) with _ | e
      · simp only [hrole] at h
        exact lookup_of_forward hs (not_not.mp hactive) h
      · simp only [hrole] at h
        exact ⟨x, h, fun _ => rfl⟩

end Origin

/-! ## Presence -/

/-- What binding publishes: the new host connection, and what was published before. -/
theorem lookup_hostByPublicId_bindPeer {g : RegistryInner} {conn c : ConnId}
    {identity : PeerIdentity} {host : String}
    (h : (g.bindPeer conn identity).hostByPublicId.lookup host = some c) :
    (c = conn ∧ identity.role = .host ∧ identity.devicePublicId = some host) ∨
      g.hostByPublicId.lookup host = some c := by
  obtain ⟨role, devicePublicId, deviceId, anonymous⟩ := identity
  rcases role with _ | _
  · rcases devicePublicId with _ | publicId
    · exact .inr h
    · have hpub : (g.publishHost conn publicId).hostByPublicId =
          g.hostByPublicId.insert publicId conn := by
        unfold publishHost
        dsimp only
        rcases g.hostByPublicId.lookup publicId with _ | old
        · rfl
        · dsimp only
          split_ifs
          · rfl
          · simp
      have h' : (g.publishHost conn publicId).hostByPublicId.lookup host = some c := h
      rw [hpub, HashMap.lookup_insert_if] at h'
      split_ifs at h' with hid
      · exact .inl ⟨(Option.some.inj h').symm, rfl, hid ▸ rfl⟩
      · exact .inr h'
  · exact .inr h

/-- Unregistering withdraws a connection and publishes nothing. -/
theorem lookup_hostByPublicId_unregister {g : RegistryInner} {conn c : ConnId} {host : String}
    (h : (g.unregisterConn conn).hostByPublicId.lookup host = some c) :
    c ≠ conn ∧ g.hostByPublicId.lookup host = some c := by
  unfold unregisterConn at h
  dsimp only at h
  rw [(closeAll_frame _ _ _).2.1] at h
  dsimp only at h
  rw [HashMap.lookup_eraseAll] at h
  split_ifs at h with hmem
  refine ⟨?_, h⟩
  rintro rfl
  exact hmem (HashMap.mem_keysWhere.mpr ⟨c, h, by simp⟩)

/-! ## Session operations leave presence alone -/

section Presence

variable (g : RegistryInner) (now : Time)

@[simp] theorem reap_hostByPublicId : (g.reapExpired now).2.hostByPublicId = g.hostByPublicId :=
  (g.reap_frame now).2.1

theorem insertPending_hostByPublicId (req : CreatePendingSession) (s : Session) (seq : UInt64) :
    (g.insertPending req s seq).2.hostByPublicId = g.hostByPublicId := by
  unfold insertPending
  dsimp only
  split_ifs
  · simp
  · rcases AList.lookup req.sessionId (RegistryInner.sessions _) with _ | t
    · simp
    · simp

theorem create_hostByPublicId (ttl : Int) (req : CreatePendingSession) :
    (g.createPendingSession ttl req now).2.hostByPublicId = g.hostByPublicId := by
  unfold createPendingSession
  dsimp only
  split_ifs
  · simp
  · simp
  · rcases (g.reapExpired now).2.hostByPublicId.lookup req.hostPublicId with _ | hostConn
    · simp
    · rcases checkedSucc req.signalSeq with _ | incoming
      · simp
      · dsimp only
        rcases checkedSucc incoming with _ | next
        · simp
        · exact (insertPending_hostByPublicId _ _ _ _).trans (reap_hostByPublicId _ _)

theorem accept_hostByPublicId (ttl : Int) (conn : ConnId) (sid : String) (seq : UInt64) :
    (g.acceptSession ttl conn sid seq now).2.hostByPublicId = g.hostByPublicId := by
  unfold acceptSession
  dsimp only
  rcases (g.reapExpired now).2.hostPending conn sid seq with e | s
  · simp
  · simp

theorem reject_hostByPublicId (conn : ConnId) (sid : String) (seq : UInt64)
    (reason : RejectReason) :
    (g.rejectSession conn sid seq reason now).2.hostByPublicId = g.hostByPublicId := by
  unfold rejectSession
  dsimp only
  rcases (g.reapExpired now).2.hostPending conn sid seq with e | s
  · simp
  · simp

theorem end_hostByPublicId (conn : ConnId) (sid : String) (seq : UInt64) (reason : String) :
    (g.endSession conn sid seq reason now).2.hostByPublicId = g.hostByPublicId := by
  unfold endSession
  dsimp only
  rcases (g.reapExpired now).2.sessions.lookup sid with _ | s
  · simp
  · dsimp only
    generalize (if s.hostConn = conn then s.viewerConn else s.hostConn) = peer
    split_ifs
    · simp
    · simp
    · simp
    · simp

theorem forceDisconnect_hostByPublicId (sid reason : String) :
    (g.forceDisconnect sid reason now).2.hostByPublicId = g.hostByPublicId := by
  unfold forceDisconnect
  dsimp only
  rcases (g.reapExpired now).2.sessions.lookup sid with _ | s
  · simp
  · dsimp only
    split_ifs
    · simp
    · rw [(close_frame _ sid reason).2.1]
      simp

theorem relay_hostByPublicId (from_ : ConnId) (msg : SignalMessage) :
    (g.relayMediaSignal from_ msg now).2.hostByPublicId = g.hostByPublicId := by
  unfold relayMediaSignal
  rcases relayKey? msg with _ | ⟨sid, seq⟩
  · rfl
  · dsimp only
    rcases (g.reapExpired now).2.sessions.lookup sid with _ | s
    · simp
    · dsimp only
      split_ifs
      · simp
      · simp
      · simp
      · simp
      · rcases relayRoleError msg (decide (s.hostConn = from_)) with _ | e
        · dsimp only
          unfold forward
          generalize (if s.hostConn = from_ then s.viewerConn else s.hostConn) = peer
          dsimp only
          split_ifs
          · simp
          · simp
          · simp
        · simp

end Presence

end RegistryInner

end RemoteLink.Server
