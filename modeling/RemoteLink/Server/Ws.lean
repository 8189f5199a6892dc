import RemoteLink.Library.Text
import RemoteLink.Server.Otp
import RemoteLink.Server.SessionInvariant

set_option autoImplicit false

/-!
# The signaling WebSocket route

The connection tasks of `GET /v1/ws` over the shared registry and OTP store. A task runs one
frame at a time, but every lock it takes is a step of its own, so the steps of different tasks
interleave as they do in the server. What the repository, the rate limiters, the blocklist and
the clock answer is part of the event; audit records are left out.

## Main definitions

* `Stage`, `ConnTask` — where a connection task stands between two lock sections.
* `WsWorld` — registry, OTP store and tasks, with a log of admitted and accepted intents.
* `handleText` — the first lock section of a text frame.
* `proceed` — the next lock section of a task.
* `wsSystem` — all interleavings of the tasks with minting, expiry and operator disconnects.
-/

namespace RemoteLink.Server

open RemoteLink.Library RemoteLink.Protocol RemoteLink.Auth

/-! ## Answers of the surroundings -/

/-- What the clock and the services around the route answer during one lock section. A rate
limiter answers with the text of its error, the repository and the blocklist with `.error` when
they fail. -/
structure Answers where
  now : Time
  serverTime : String
  iceServers : Value
  ipLimit : Option String
  hostLimit : Option String
  viewerToken : Bool
  credential : Except Unit (Option (Device × Time))
  device : Except Unit (Option Device)
  blocked : Except Unit Bool

/-- The fixed parameters of a server: crypto, OTP pepper, session lifetimes and the primary key
the repository holds for each public id. -/
structure ServerConfig where
  crypto : Crypto
  otpPepper : Bytes
  ttls : Ttls
  deviceId : String → Int

/-- The repository's rows carry the primary key of their public id, and a lookup by public id
returns the row of that public id. -/
def Answers.consistent (cfg : ServerConfig) (ans : Answers) (hostPublicId : String) : Bool :=
  (match ans.device with
    | .ok (some d) => decide (d.publicId = hostPublicId ∧ d.id = cfg.deviceId hostPublicId)
    | _ => true) &&
  match ans.credential with
    | .ok (some (d, _)) => decide (d.id = cfg.deviceId d.publicId)
    | _ => true

/-- One incoming WebSocket frame; a text frame comes with the result of `decode_message`. -/
inductive Frame where
  | text (decoded : Except String SignalMessage)
  | binary
  | pingPong
  | close

/-! ## Hello -/

/-- Highest protocol version the server speaks. -/
def protocolVersion : UInt32 := 1

/-- The device of an access token. -/
def resolveDeviceToken (ans : Answers) : Except SignalMessage Device :=
  match ans.credential with
  | .error () => .error (.error "internal" "internal error")
  | .ok none => .error (.error "unauthorized" "invalid device_token")
  | .ok (some (device, accessExpiresAt)) =>
    if accessExpiresAt < ans.now then .error (.error "unauthorized" "device_token expired")
    else .ok device

/-- The identity behind a `hello`. -/
def authenticate (role : Role) (auth : HelloAuth) (ans : Answers) :
    Except SignalMessage PeerIdentity :=
  let token := Text.trim auth.deviceToken
  match role with
  | .host =>
    if token.isEmpty then .error (.error "unauthorized" "host hello requires device_token")
    else match resolveDeviceToken ans with
      | .error e => .error e
      | .ok device =>
        if device.status ≠ .active then .error (.error "unauthorized" "device is not active")
        else .ok ⟨role, some device.publicId, some device.id, false⟩
  | .viewer =>
    if token.isEmpty then .ok ⟨role, none, none, true⟩
    else if ans.viewerToken then .ok ⟨role, none, none, false⟩
    else match resolveDeviceToken ans with
      | .ok device =>
        if device.status = .active then .ok ⟨role, some device.publicId, some device.id, false⟩
        else .error (.error "unauthorized" "invalid viewer device_token")
      | .error _ => .error (.error "unauthorized" "invalid viewer device_token")

/-- The checks on the first frame of a connection, up to the identity. -/
def expectHello (frame : Frame) (ans : Answers) : Except SignalMessage PeerIdentity :=
  match frame with
  | .close => .error (.error "protocol_error" "connection closed before hello")
  | .binary | .pingPong => .error (.error "protocol_error" "first message must be text hello")
  | .text (.error e) => .error (.error "protocol_error" s!"invalid hello: {e}")
  | .text (.ok (.hello role version auth)) =>
    if version = 0 ∨ protocolVersion < version then
      .error (.error "protocol_version"
        s!"unsupported protocol_version {version} (server max {protocolVersion})")
    else match ans.ipLimit with
      | some lock => .error (.error "rate_limited" lock)
      | none => authenticate role auth ans
  | .text (.ok _) => .error (.error "protocol_error" "first message must be hello")

/-! ## Connection tasks -/

/-- A `session_intent` under way. -/
structure Intent where
  sessionId : String
  signalSeq : UInt64
  hostPublicId : String
  mode : SessionMode
  prefilter : Value

/-- What the OTP prefilter checked for an intent: the row as it stood, the code and the time. -/
structure Checked where
  row : StoredOtp
  code : String
  time : Time

/-- An intent that was admitted: a pending session was created for it. -/
structure Admitted where
  sessionId : String
  hostPublicId : String
  mode : SessionMode
  checked : Option Checked

/-- Where a connection task stands. `replying` and `closing` are the last lock sections of a
failed frame and of the task. -/
inductive Stage where
  | awaitHello
  | greeting
  | ready
  | prefiltering (intent : Intent) (device : Device) (code : String) (now : Time)
  | creating (intent : Intent) (device : Device) (checked : Option Checked)
  | consuming (sessionId : String) (checked : Option Checked)
  | replying (msg : SignalMessage) (andClose : Bool)
  | closing

/-- A connection task with the identity its `hello` established. -/
structure ConnTask where
  identity : Option PeerIdentity
  stage : Stage

/-- The server: registry, OTP store and connection tasks. The last four fields only record
history: the intent behind each stored session, every admitted intent, the checked rows whose
sessions were accepted, and the rows consumed, each with the session. -/
structure WsWorld where
  registry : RegistryInner
  otp : OtpStore
  tasks : HashMap ConnId ConnTask
  intentOf : HashMap String Admitted
  admitted : List Admitted
  accepted : List (Nat × String)
  consumed : List (Nat × String)

namespace WsWorld

/-- The server before the first connection. -/
def empty : WsWorld := ⟨.empty, .empty, ∅, ∅, [], [], []⟩

/-- The checked row of the intent behind a session. -/
def checkedOf (w : WsWorld) (sessionId : String) : Option Checked :=
  (w.intentOf.lookup sessionId).bind Admitted.checked

/-- The log of accepted rows after the accept of a session. -/
def acceptedWith (w : WsWorld) (sessionId : String) : List (Nat × String) :=
  match w.checkedOf sessionId with
  | some c => w.accepted ++ [(c.row.id, sessionId)]
  | none => w.accepted

/-- Move a task to another stage. -/
def goto (w : WsWorld) (conn : ConnId) (identity : Option PeerIdentity) (stage : Stage) :
    WsWorld :=
  { w with tasks := w.tasks.insert conn ⟨identity, stage⟩ }

/-- Finish a frame with its result: an error is sent back in a lock section of its own. -/
def finish (w : WsWorld) (conn : ConnId) (identity : Option PeerIdentity)
    (result : Except SignalMessage Unit) : WsWorld :=
  w.goto conn identity (match result with
    | .ok () => .ready
    | .error e => .replying e false)

end WsWorld

/-! ## Text frames -/

/-- The code a viewer put into an intent's prefilter. -/
def prefilterCode (prefilter : Value) : Option String :=
  (((prefilter.get "otp").bind Value.asStr).map Text.trim).filter fun s => !s.isEmpty

/-- The checks of a `session_intent` before the OTP gate; the host's device row if they pass. -/
def checkIntent (identity : PeerIdentity) (intent : Intent) (ans : Answers) :
    Except SignalMessage Device :=
  if identity.role ≠ .viewer then
    .error (.error "unauthorized" "only viewers may send session_intent")
  else if intent.sessionId.isEmpty then .error (.error "bad_request" "session_id is required")
  else if intent.hostPublicId.isEmpty then
    .error (.error "bad_request" "host_public_id is required")
  else match ans.ipLimit with
    | some e => .error (.error "rate_limited" e)
    | none => match ans.device with
      | .error () => .error (.error "internal" "internal error")
      | .ok none => .error (.error "not_found" "unknown host_public_id")
      | .ok (some device) =>
        if device.status ≠ .active then .error (.error "not_found" "host is not available")
        else match ans.blocked with
          | .error () => .error (.error "internal" "internal error")
          | .ok true => .error (.error "blocked" "viewer is blocked by the host")
          | .ok false => .ok device

/-- The OTP gate's first look at the store: which stage an intent that passed its checks
continues with. -/
def otpGate (w : WsWorld) (intent : Intent) (device : Device) (now : Time) : Stage :=
  if intent.mode = .otp then
    match prefilterCode intent.prefilter with
    | some code =>
      if (w.otp.activeForHost device.id now).isSome then .prefiltering intent device code now
      else .creating intent device none
    | none =>
      if (w.otp.activeForHost device.id now).isSome then
        .replying (.error "auth" "OTP required for this host") false
      else .creating intent device none
  else .creating intent device none

/-- The first lock section of a text frame after `hello`. -/
def handleText (cfg : ServerConfig) (w : WsWorld) (conn : ConnId) (identity : PeerIdentity)
    (decoded : Except String SignalMessage) (ans : Answers) : WsWorld :=
  match decoded with
  | .error e =>
    w.finish conn (some identity) (.error (.error "protocol_error" s!"invalid message: {e}"))
  | .ok msg => match msg with
    | .hello .. => w.finish conn (some identity)
        (.error (.error "protocol_error" "hello already completed for this connection"))
    | .sessionIntent sessionId signalSeq hostPublicId mode prefilter =>
      let intent : Intent := ⟨sessionId, signalSeq, hostPublicId, mode, prefilter⟩
      match checkIntent identity intent ans with
      | .error e => w.finish conn (some identity) (.error e)
      | .ok device => w.goto conn (some identity) (otpGate w intent device ans.now)
    | .sessionAccept sessionId signalSeq =>
      if identity.role ≠ .host then
        w.finish conn (some identity)
          (.error (.error "unauthorized" "only hosts may send session_accept"))
      else
        let (result, registry) :=
          w.registry.acceptSession cfg.ttls.active conn sessionId signalSeq ans.now
        match result with
        | .error e => { w with registry }.finish conn (some identity) (.error e)
        | .ok () =>
          { w with registry, accepted := w.acceptedWith sessionId }.goto conn (some identity)
            (.consuming sessionId (w.checkedOf sessionId))
    | .sessionReject sessionId signalSeq reason =>
      if identity.role ≠ .host then
        w.finish conn (some identity)
          (.error (.error "unauthorized" "only hosts may send session_reject"))
      else
        let (result, registry) :=
          w.registry.rejectSession conn sessionId signalSeq reason ans.now
        { w with registry }.finish conn (some identity) result
    | .sessionOffer .. | .sessionAnswer .. | .iceCandidate .. | .mediaRestart ..
    | .renegotiate .. | .authChallenge .. | .authResponse .. | .stats .. =>
      let (result, registry) := w.registry.relayMediaSignal conn msg ans.now
      { w with registry }.finish conn (some identity) result
    | .sessionEnd sessionId signalSeq reason =>
      let (result, registry) := w.registry.endSession conn sessionId signalSeq reason ans.now
      { w with registry }.finish conn (some identity) result
    | .helloOk .. | .sessionIncoming .. | .error .. => w.finish conn (some identity)
        (.error (.error "protocol_error" "message type is server→client only"))

/-! ## Later lock sections -/

/-- The OTP prefilter of an intent. -/
def prefilterStep (cfg : ServerConfig) (w : WsWorld) (conn : ConnId)
    (identity : Option PeerIdentity) (intent : Intent) (device : Device) (code : String)
    (now : Time) : WsWorld :=
  let seen := (w.otp.prefilterRow now (w.otp.idsOf device.id).reverse).map Prod.snd
  let (result, otp) :=
    w.otp.prefilterBind cfg.crypto device.id code cfg.otpPepper intent.sessionId now
  if result = .ok then
    { w with otp }.goto conn identity
      (.creating intent device (seen.map fun row => ⟨row, code, now⟩))
  else { w with otp }.goto conn identity
    (.replying (.error "auth" "OTP prefilter failed") false)

/-- The host budget and the registry's part of an intent. -/
def createStep (cfg : ServerConfig) (w : WsWorld) (conn : ConnId) (identity : PeerIdentity)
    (intent : Intent) (device : Device) (checked : Option Checked) (ans : Answers) : WsWorld :=
  match ans.hostLimit with
  | some e => w.finish conn (some identity) (.error (.error "rate_limited" e))
  | none =>
    let req : CreatePendingSession := {
      viewerConn := conn
      sessionId := intent.sessionId
      hostPublicId := intent.hostPublicId
      hostDevice := device
      mode := intent.mode
      signalSeq := intent.signalSeq
      viewerInfo := defaultViewerInfo identity }
    let (result, registry) := w.registry.createPendingSession cfg.ttls.pending req ans.now
    match result with
    | .error e => { w with registry }.finish conn (some identity) (.error e)
    | .ok () =>
      let a : Admitted := ⟨intent.sessionId, intent.hostPublicId, intent.mode, checked⟩
      { w with
        registry
        intentOf := w.intentOf.insert intent.sessionId a
        admitted := w.admitted ++ [a] }.finish conn (some identity) (.ok ())

/-- Consume the row bound to an accepted session; the result is ignored. -/
def consumeStep (w : WsWorld) (conn : ConnId) (identity : PeerIdentity) (sessionId : String)
    (now : Time) : WsWorld :=
  match identity.deviceId with
  | none => w.finish conn (some identity) (.ok ())
  | some deviceId =>
    let (result, otp) := w.otp.consumeForSession deviceId sessionId now
    let bound := w.otp.boundRow sessionId (w.otp.idsOf deviceId)
    let consumed := match result, bound with
      | .ok (), some (id, _) => w.consumed ++ [(id, sessionId)]
      | _, _ => w.consumed
    { w with otp, consumed }.finish conn (some identity) (.ok ())

/-- The feature flags of `hello_ok`. -/
def featureFlags (iceServers : Value) : Value :=
  .object [("max_protocol_version", .number (toString protocolVersion)),
    ("sdp_relay", .bool true), ("ice_servers", iceServers)]

/-- The next lock section of a task that is in the middle of a frame. -/
def proceed (cfg : ServerConfig) (w : WsWorld) (conn : ConnId) (task : ConnTask)
    (ans : Answers) : Option WsWorld :=
  match task.stage, task.identity with
  | .greeting, identity =>
    let (sent, registry) :=
      w.registry.sendTo conn (.helloOk ans.serverTime (featureFlags ans.iceServers))
    some ({ w with registry }.goto conn identity (if sent then .ready else
      .replying (.error "internal" "failed to send hello_ok") true))
  | .prefiltering intent device code now, identity =>
    some (prefilterStep cfg w conn identity intent device code now)
  | .creating intent device checked, some identity =>
    some (createStep cfg w conn identity intent device checked ans)
  | .consuming sessionId _, some identity =>
    some (consumeStep w conn identity sessionId ans.now)
  | .replying msg andClose, identity =>
    let (_, registry) := w.registry.sendTo conn msg
    some ({ w with registry }.goto conn identity (if andClose then .closing else .ready))
  | .closing, _ =>
    some { w with registry := w.registry.unregisterConn conn, tasks := w.tasks.erase conn }
  | _, _ => none

/-! ## The system -/

/-- An event of the server. -/
inductive WsEvent where
  | connect
  | frame (conn : ConnId) (frame : Frame) (ans : Answers)
  | proceed (conn : ConnId) (ans : Answers)
  | dropReceiver (conn : ConnId)
  | mintOtp (host : Int) (hash : OtpHash) (ttlSecs : Nat) (now : Time)
  | reapExpired (now : Time)
  | forceDisconnect (sessionId reason : String) (now : Time)

/-- The host an intent frame is addressed to; empty for every other frame. -/
def frameHost : Frame → String
  | .text (.ok (.sessionIntent _ _ hostPublicId _ _)) => hostPublicId
  | _ => ""

/-- Handle a frame that a waiting task reads. -/
def handleFrame (cfg : ServerConfig) (w : WsWorld) (conn : ConnId) (task : ConnTask)
    (frame : Frame) (ans : Answers) : Option WsWorld :=
  match task.stage, task.identity with
  | .awaitHello, _ => some <|
    match expectHello frame ans with
    | .error e => w.goto conn none (.replying e true)
    | .ok identity =>
      { w with registry := w.registry.bindPeer conn identity }.goto conn (some identity) .greeting
  | .ready, some identity => some <|
    match frame with
    | .text decoded => handleText cfg w conn identity decoded ans
    | .binary => w.finish conn (some identity)
        (.error (.error "protocol_error" "binary frames are not supported"))
    | .pingPong => w
    | .close => w.goto conn (some identity) .closing
  | _, _ => none

/-- One step of the server. -/
def wsStep (cfg : ServerConfig) (w : WsWorld) : WsEvent → Option WsWorld
  | .connect =>
    let (conn, registry) := w.registry.registerConn
    some ({ w with registry }.goto conn none .awaitHello)
  | .frame conn frame ans =>
    if ans.consistent cfg (frameHost frame) then
      (w.tasks.lookup conn).bind fun task => handleFrame cfg w conn task frame ans
    else none
  | .proceed conn ans =>
    (w.tasks.lookup conn).bind fun task => proceed cfg w conn task ans
  | .dropReceiver conn => some { w with registry := w.registry.dropReceiver conn }
  | .mintOtp host hash ttlSecs now =>
    if 0 < ttlSecs ∧ ttlSecs ≤ maxOtpTtlSecs then
      some { w with otp := (w.otp.storeHash host hash (now + ttlSecs * second) now).2 }
    else none
  | .reapExpired now => some { w with registry := (w.registry.reapExpired now).2 }
  | .forceDisconnect sessionId reason now =>
    some { w with registry := (w.registry.forceDisconnect sessionId reason now).2 }

/-- All interleavings of the connection tasks, minting, expiry and operator disconnects. -/
def wsSystem (cfg : ServerConfig) : System WsWorld WsEvent where
  init w := w = .empty
  step := wsStep cfg

end RemoteLink.Server
