import RemoteLink.Library.Json
import RemoteLink.Platform.Ipc

set_option autoImplicit false

/-!
# The codec of the control plane

A control message travels as a frame: a big-endian length of 32 bits and a JSON body with the
protocol version and the message. The size limits are stated for the fields of the message, the
limit of the frame for the body, where the characters of a string may take up to six bytes each.

## Main definitions

* `ControlMessage.validateFieldLimits` — the limits of the fields.
* `ControlEnvelope.toJson`, `ControlEnvelope.ofJson` — the body as a JSON value, and back.
* `encodeControl`, `decodeControl` — the frame of a message, and back.

## Main results

* `ofJson_toJson` — the body of a message is read as the message, but for numbers that JSON cannot
  express.
* `control_codec_exact` — when a message within the limits survives the codec.
* `control_codec_fails` — a signal of quotation marks does not fit into a frame.
-/

namespace RemoteLink.Platform

open Library

/-! ## Field limits -/

/-- Bytes of a session id. -/
def maxSessionIdLen : Nat := 128

/-- Bytes of a short string. -/
def maxShortStringLen : Nat := 512

/-- Bytes of a signaling payload. -/
def maxSignalPayloadLen : Nat := 131072

/-- Relay addresses of an attach. -/
def maxTurnUris : Nat := 16

/-- Bytes of a relay address. -/
def maxTurnUriLen : Nat := 512

/-- Extra feature flags. -/
def maxFeatureExtra : Nat := 32

/-- Bytes of the boot secret. -/
def maxBootSecretLen : Nat := 256

/-- A field is over its limit. -/
structure FieldLimitError where
  field : String
  got : Nat
  max : Nat
  deriving Repr, DecidableEq

/-- The limit of a count. -/
def checkCount (field : String) (got max : Nat) : Except FieldLimitError Unit :=
  if max < got then .error ⟨field, got, max⟩ else .ok ()

/-- The limit of a string. -/
def checkStr (field value : String) (max : Nat) : Except FieldLimitError Unit :=
  checkCount field value.utf8ByteSize max

/-- The limit of a string that may be absent. -/
def checkOpt (field : String) (value : Option String) (max : Nat) : Except FieldLimitError Unit :=
  match value with
  | some v => checkStr field v max
  | none => .ok ()

/-- The limit of each of several strings. -/
def checkEach (field : String) (values : List String) (max : Nat) : Except FieldLimitError Unit :=
  values.forM fun v => checkStr field v max

/-- Check the fields of a message. -/
def ControlMessage.validateFieldLimits : ControlMessage → Except FieldLimitError Unit
  | attachSession m => do
    checkStr "session_id" m.sessionId maxSessionIdLen
    checkOpt "viewer_label" m.viewerLabel maxShortStringLen
    checkOpt "boot_secret" m.bootSecret maxBootSecretLen
    checkCount "turn_uris" m.turnUris.length maxTurnUris
    checkEach "turn_uris[]" m.turnUris maxTurnUriLen
    checkCount "feature_flags.extra" m.featureFlags.extra.length maxFeatureExtra
    checkEach "feature_flags.extra[]" m.featureFlags.extra maxShortStringLen
  | detachSession sid reason | shutdownSession sid reason | localConfirmResult sid _ reason => do
    checkStr "session_id" sid maxSessionIdLen
    checkOpt "reason" reason maxShortStringLen
  | signalForward m => do
    checkStr "session_id" m.sessionId maxSessionIdLen
    checkStr "kind" m.kind maxShortStringLen
    checkStr "payload" m.payload maxSignalPayloadLen
  | setPolicy m => checkStr "session_id" m.sessionId maxSessionIdLen
  | startMedia sid display => do
    checkStr "session_id" sid maxSessionIdLen
    checkOpt "display_id" display maxShortStringLen
  | stopMedia sid => checkStr "session_id" sid maxSessionIdLen
  | queryStats sid => checkOpt "session_id" sid maxSessionIdLen
  | statsPush m => do
    checkStr "session_id" m.sessionId maxSessionIdLen
    checkOpt "ice_path" m.icePath maxShortStringLen
  | showSessionChrome sid _ label => do
    checkStr "session_id" sid maxSessionIdLen
    checkOpt "label" label maxShortStringLen
  | killSwitch m => checkOpt "session_id" m.sessionId maxSessionIdLen
  | ack m => do
    checkOpt "for_method" m.forMethod maxShortStringLen
    checkOpt "session_id" m.sessionId maxSessionIdLen
  | error m => do
    checkStr "code" m.code maxShortStringLen
    checkStr "message" m.message maxShortStringLen
    checkOpt "session_id" m.sessionId maxSessionIdLen

/-! ## The body of a frame -/

/-- The JSON library: the text of a finite number, the syntax of a text, and the number of an
integer. -/
structure SerdeJson where
  float : F64 → Bytes
  parse : Bytes → Except String Json
  ofInt : Int → F64

/-- Whether a number is neither infinite nor undefined. -/
def isFinite (b : F64) : Bool := decide (b.toNat / 4503599627370496 % 2048 ≠ 2047)

/-- A number as JSON; null when JSON cannot express it. -/
def f64ToJson (b : F64) : Json := if isFinite b then .float b else .null

/-- A number from JSON. -/
def f64OfJson (S : SerdeJson) : Json → Except String F64
  | .float b => .ok b
  | .int n => .ok (S.ofInt n)
  | _ => .error "invalid type, expected f64"

/-- A 32-bit number as JSON. -/
def u32ToJson (n : UInt32) : Json := .int n.toNat

/-- The names of the hops. -/
def SignalHop.asStr : SignalHop → String
  | service => "service"
  | agent => "agent"

/-- The names of the sources. -/
def KillSwitchSource.asStr : KillSwitchSource → String
  | unspecified => "unspecified"
  | hotkey => "hotkey"
  | tray => "tray"
  | policy => "policy"

/-- A hop from JSON. -/
def SignalHop.ofJson : Json → Except String SignalHop :=
  Json.variant [("service", service), ("agent", agent)]

/-- A source from JSON. -/
def KillSwitchSource.ofJson : Json → Except String KillSwitchSource :=
  Json.variant [("unspecified", unspecified), ("hotkey", hotkey), ("tray", tray),
    ("policy", policy)]

/-- Feature flags as JSON; extra flags are left out when there are none. -/
def FeatureFlags.toJson (f : FeatureFlags) : Json :=
  .obj ([("synthetic_media", .bool f.syntheticMedia), ("stats_export", .bool f.statsExport)] ++
    if f.extra.isEmpty then [] else [("extra", .arr (f.extra.map .str))])

/-- The parameters of a method. -/
def ControlMessage.params : ControlMessage → Json
  | attachSession m =>
    .obj ([("session_id", .str m.sessionId)] ++ Json.optional "viewer_label" .str m.viewerLabel ++
      [("feature_flags", m.featureFlags.toJson), ("turn_uris", .arr (m.turnUris.map .str))] ++
      Json.optional "boot_secret" .str m.bootSecret)
  | detachSession sid reason | shutdownSession sid reason =>
    .obj ([("session_id", .str sid)] ++ Json.optional "reason" .str reason)
  | signalForward m =>
    .obj [("session_id", .str m.sessionId), ("kind", .str m.kind), ("payload", .str m.payload),
      ("from", .str m.origin.asStr)]
  | setPolicy m =>
    .obj [("session_id", .str m.sessionId), ("enable_input", .bool m.enableInput),
      ("unattended", .bool m.unattended), ("max_bitrate_bps", u32ToJson m.maxBitrateBps),
      ("disable_hw_encode", .bool m.disableHwEncode)]
  | startMedia sid display =>
    .obj ([("session_id", .str sid)] ++ Json.optional "display_id" .str display)
  | stopMedia sid => .obj [("session_id", .str sid)]
  | queryStats sid => .obj (Json.optional "session_id" .str sid)
  | statsPush m =>
    .obj ([("session_id", .str m.sessionId)] ++ Json.optional "rtt_ms" f64ToJson m.rttMs ++
      Json.optional "video_bitrate_bps" u32ToJson m.videoBitrateBps ++
      Json.optional "audio_bitrate_bps" u32ToJson m.audioBitrateBps ++
      Json.optional "ice_path" .str m.icePath ++ Json.optional "av_skew_ms" f64ToJson m.avSkewMs ++
      Json.optional "fps" f64ToJson m.fps ++ Json.optional "loss" f64ToJson m.loss)
  | showSessionChrome sid visible label =>
    .obj ([("session_id", .str sid), ("visible", .bool visible)] ++
      Json.optional "label" .str label)
  | killSwitch m =>
    .obj (Json.optional "session_id" .str m.sessionId ++
      [("disable_unattended", .bool m.disableUnattended), ("source", .str m.source.asStr)])
  | localConfirmResult sid accepted reason =>
    .obj ([("session_id", .str sid), ("accepted", .bool accepted)] ++
      Json.optional "reason" .str reason)
  | ack m =>
    .obj (Json.optional "for_method" .str m.forMethod ++
      Json.optional "session_id" .str m.sessionId)
  | error m =>
    .obj ([("code", .str m.code), ("message", .str m.message)] ++
      Json.optional "session_id" .str m.sessionId)

/-- A message with its protocol version. -/
structure ControlEnvelope where
  v : UInt32
  message : ControlMessage

/-- The version of the protocol. -/
def controlIpcVersion : UInt32 := 1

/-- Wrap a message at the current version. -/
def ControlEnvelope.new (message : ControlMessage) : ControlEnvelope := ⟨controlIpcVersion, message⟩

/-- The body of a frame. -/
def ControlEnvelope.toJson (e : ControlEnvelope) : Json :=
  .obj [("v", u32ToJson e.v), ("message", .obj [("method", .str e.message.methodName),
    ("params", e.message.params)])]

/-! ## Reading the body -/

/-- A string that may be absent. -/
def optStr (i : Nat) (name : String) : Json → Except String (Option String) :=
  Json.defaulted i name none (Json.nullable Json.asStr)

/-- A number that may be absent. -/
def optF64 (S : SerdeJson) (i : Nat) (name : String) : Json → Except String (Option F64) :=
  Json.defaulted i name none (Json.nullable (f64OfJson S))

/-- A 32-bit number that may be absent. -/
def optU32 (i : Nat) (name : String) : Json → Except String (Option UInt32) :=
  Json.defaulted i name none (Json.nullable Json.asU32)

/-- Feature flags from JSON. -/
def FeatureFlags.ofJson (v : Json) : Except String FeatureFlags := do
  v.record 3
  return ⟨← v.defaulted 0 "synthetic_media" false Json.asBool,
    ← v.defaulted 1 "stats_export" false Json.asBool,
    ← v.defaulted 2 "extra" [] (Json.list Json.asStr)⟩

namespace ControlMessage

/-- The parameters of an attach. -/
def readAttachSession (v : Json) : Except String ControlMessage := do
  v.record 5
  return .attachSession ⟨← v.required 0 "session_id" Json.asStr, ← optStr 1 "viewer_label" v,
    ← v.defaulted 2 "feature_flags" ⟨false, false, []⟩ FeatureFlags.ofJson,
    ← v.defaulted 3 "turn_uris" [] (Json.list Json.asStr), ← optStr 4 "boot_secret" v⟩

/-- The parameters of a method with a session and one optional string. -/
def readSession (make : String → Option String → ControlMessage) (name : String) (v : Json) :
    Except String ControlMessage := do
  v.record 2
  return make (← v.required 0 "session_id" Json.asStr) (← optStr 1 name v)

/-- The parameters of a method with a session, a truth value and one optional string. -/
def readFlagged (make : String → Bool → Option String → ControlMessage) (flag name : String)
    (v : Json) : Except String ControlMessage := do
  v.record 3
  return make (← v.required 0 "session_id" Json.asStr) (← v.required 1 flag Json.asBool)
    (← optStr 2 name v)

/-- The parameters of a signal. -/
def readSignalForward (v : Json) : Except String ControlMessage := do
  v.record 4
  return .signalForward ⟨← v.required 0 "session_id" Json.asStr, ← v.required 1 "kind" Json.asStr,
    ← v.required 2 "payload" Json.asStr, ← v.required 3 "from" SignalHop.ofJson⟩

/-- The parameters of a policy. -/
def readSetPolicy (v : Json) : Except String ControlMessage := do
  v.record 5
  return .setPolicy ⟨← v.required 0 "session_id" Json.asStr,
    ← v.defaulted 1 "enable_input" false Json.asBool,
    ← v.defaulted 2 "unattended" false Json.asBool,
    ← v.defaulted 3 "max_bitrate_bps" 0 Json.asU32,
    ← v.defaulted 4 "disable_hw_encode" false Json.asBool⟩

/-- The parameters of the end of media. -/
def readStopMedia (v : Json) : Except String ControlMessage := do
  v.record 1
  return .stopMedia (← v.required 0 "session_id" Json.asStr)

/-- The parameters of a query. -/
def readQueryStats (v : Json) : Except String ControlMessage := do
  v.record 1
  return .queryStats (← optStr 0 "session_id" v)

/-- The parameters of a snapshot. -/
def readStatsPush (S : SerdeJson) (v : Json) : Except String ControlMessage := do
  v.record 8
  return .statsPush ⟨← v.required 0 "session_id" Json.asStr, ← optF64 S 1 "rtt_ms" v,
    ← optU32 2 "video_bitrate_bps" v, ← optU32 3 "audio_bitrate_bps" v, ← optStr 4 "ice_path" v,
    ← optF64 S 5 "av_skew_ms" v, ← optF64 S 6 "fps" v, ← optF64 S 7 "loss" v⟩

/-- The parameters of a kill switch. -/
def readKillSwitch (v : Json) : Except String ControlMessage := do
  v.record 3
  return .killSwitch ⟨← optStr 0 "session_id" v,
    ← v.defaulted 1 "disable_unattended" false Json.asBool,
    ← v.defaulted 2 "source" .unspecified KillSwitchSource.ofJson⟩

/-- The parameters of an acknowledgement. -/
def readAck (v : Json) : Except String ControlMessage := do
  v.record 2
  return .ack ⟨← optStr 0 "for_method" v, ← optStr 1 "session_id" v⟩

/-- The parameters of an error. -/
def readError (v : Json) : Except String ControlMessage := do
  v.record 3
  return .error ⟨← v.required 0 "code" Json.asStr, ← v.required 1 "message" Json.asStr,
    ← optStr 2 "session_id" v⟩

/-- The methods by their wire names. -/
def methods (S : SerdeJson) : List (String × (Json → Except String ControlMessage)) :=
  [("attach_session", readAttachSession), ("detach_session", readSession .detachSession "reason"),
    ("signal_forward", readSignalForward), ("set_policy", readSetPolicy),
    ("start_media", readSession .startMedia "display_id"), ("stop_media", readStopMedia),
    ("query_stats", readQueryStats), ("stats_push", readStatsPush S),
    ("show_session_chrome", readFlagged .showSessionChrome "visible" "label"),
    ("shutdown_session", readSession .shutdownSession "reason"), ("kill_switch", readKillSwitch),
    ("local_confirm_result", readFlagged .localConfirmResult "accepted" "reason"),
    ("ack", readAck), ("error", readError)]

/-- A message from JSON: the method names how its parameters are read. -/
def ofJson (S : SerdeJson) (v : Json) : Except String ControlMessage := do
  v.record 2
  let read ← v.required 0 "method" (Json.variant (methods S))
  v.required 1 "params" read

end ControlMessage

/-- A message with its version from JSON. -/
def ControlEnvelope.ofJson (S : SerdeJson) (v : Json) : Except String ControlEnvelope := do
  v.record 2
  return ⟨← v.required 0 "v" Json.asU32, ← v.required 1 "message" (ControlMessage.ofJson S)⟩

/-! ## Frames -/

/-- The bytes that a body may have. -/
def maxFramePayload : Nat := 262144

/-- Errors of streams that the codec passes on. -/
inductive IoError where
  | unexpectedEof
  | other (detail : String)
  deriving Repr, DecidableEq

/-- Errors of the codec. -/
inductive CodecError where
  | payloadTooLarge (len : Nat)
  | incomplete (need have_ : Nat)
  | headerTruncated
  | unsupportedVersion (v : UInt32)
  | fieldLimit (e : FieldLimitError)
  | jsonDecode (detail : String)
  | io (e : IoError)
  deriving Repr, DecidableEq

/-- The text of an error of a field. -/
def FieldLimitError.display (e : FieldLimitError) : String :=
  "field \x60" ++ e.field ++ s!"\x60 too large: {e.got} (max {e.max})"

/-- The text of an error of a stream. -/
def IoError.display : IoError → String
  | unexpectedEof => "failed to fill whole buffer"
  | other detail => detail

/-- The text of an error. -/
def CodecError.display : CodecError → String
  | payloadTooLarge len => s!"frame payload too large: {len} bytes (max {maxFramePayload})"
  | incomplete need have_ => s!"incomplete frame: need {need} bytes, have {have_}"
  | headerTruncated => "frame header truncated"
  | unsupportedVersion v => s!"unsupported control IPC version {v} (want 1)"
  | fieldLimit e => e.display
  | jsonDecode detail => s!"json decode: {detail}"
  | io e => s!"io: {e.display}"

/-- A frame around a body. -/
def encodeFrame (payload : Bytes) : Except CodecError Bytes :=
  if u32Size ≤ payload.length then .error (.payloadTooLarge (u32Size - 1))
  else if maxFramePayload < payload.length then .error (.payloadTooLarge payload.length)
  else .ok (be32 payload.length ++ payload)

/-- Read a body as a value. -/
def fromSlice {α : Type} (S : SerdeJson) (ofJson : Json → Except String α) (payload : Bytes) :
    Except CodecError α :=
  match S.parse payload >>= ofJson with
  | .ok value => .ok value
  | .error e => .error (.jsonDecode e)

/-- The value of the frame that a buffer starts with, and how many bytes the frame has. -/
def decodeFrame {α : Type} (S : SerdeJson) (ofJson : Json → Except String α) (buf : Bytes) :
    Except CodecError (α × Nat) :=
  if buf.length < 4 then .error .headerTruncated
  else
    let len := ofBe (buf.take 4)
    if maxFramePayload < len then .error (.payloadTooLarge len)
    else if buf.length < 4 + len then .error (.incomplete (4 + len) buf.length)
    else (fromSlice S ofJson ((buf.drop 4).take len)).map (·, 4 + len)

/-- The checks of a decoded envelope. -/
def checkEnvelope (e : ControlEnvelope) : Except CodecError ControlMessage :=
  if e.v ≠ controlIpcVersion then .error (.unsupportedVersion e.v)
  else match e.message.validateFieldLimits with
    | .error e => .error (.fieldLimit e)
    | .ok () => .ok e.message

/-- The body of a message. -/
def controlBody (S : SerdeJson) (msg : ControlMessage) : Bytes :=
  Json.write S.float (ControlEnvelope.new msg).toJson

/-- The frame of a message. -/
def encodeControl (S : SerdeJson) (msg : ControlMessage) : Except CodecError Bytes :=
  match msg.validateFieldLimits with
  | .error e => .error (.fieldLimit e)
  | .ok () => encodeFrame (controlBody S msg)

/-- The message of the frame that a buffer starts with. -/
def decodeControl (S : SerdeJson) (buf : Bytes) : Except CodecError (ControlMessage × Nat) := do
  let (env, consumed) ← decodeFrame S (ControlEnvelope.ofJson S) buf
  let message ← checkEnvelope env
  return (message, consumed)

/-! ## The body is read as it was written -/

/-- A message without the numbers that JSON cannot express. -/
def ControlMessage.dropNonFinite : ControlMessage → ControlMessage
  | statsPush m => statsPush
    { m with
      rttMs := m.rttMs.filter isFinite
      avSkewMs := m.avSkewMs.filter isFinite
      fps := m.fps.filter isFinite
      loss := m.loss.filter isFinite }
  | m => m

section

variable {S : SerdeJson}

@[simp] theorem asU32_u32ToJson (n : UInt32) : Json.asU32 (u32ToJson n) = .ok n := by
  have hlt : n.toNat < 4294967296 := n.toNat_lt
  have hrange : (0 : Int) ≤ n.toNat ∧ (n.toNat : Int) < u32Size := by
    unfold u32Size
    omega
  simp only [u32ToJson, Json.asU32, hrange, and_self, if_true, Int.toNat_natCast,
    UInt32.ofNat_toNat]

@[simp] theorem ofJson_hop (h : SignalHop) : SignalHop.ofJson (.str h.asStr) = .ok h := by
  cases h <;> rfl

@[simp] theorem ofJson_source (k : KillSwitchSource) :
    KillSwitchSource.ofJson (.str k.asStr) = .ok k := by
  cases k <;> rfl

@[simp] theorem list_str (ss : List String) :
    Json.list Json.asStr (.arr (ss.map .str)) = .ok ss := by
  have hmap : (ss.map Json.str).mapM Json.asStr = .ok ss := by
    induction ss with
    | nil => rfl
    | cons s ss ih =>
      simp only [List.map_cons, List.mapM_cons, ih, Json.asStr, bind, Except.bind, pure,
        Except.pure]
  exact hmap

@[simp] theorem single_str (name : String) (o : Option String) :
    Json.single name (.ok none) (Json.nullable Json.asStr) (o.map Json.str).toList = .ok o :=
  Json.single_optional (fun _ => rfl) o

@[simp] theorem single_u32 (name : String) (o : Option UInt32) :
    Json.single name (.ok none) (Json.nullable Json.asU32) (o.map u32ToJson).toList = .ok o :=
  Json.single_optional (fun n => by
    have hread : Json.nullable Json.asU32 (u32ToJson n) =
        (Json.asU32 (u32ToJson n)).map some := rfl
    rw [hread, asU32_u32ToJson]
    rfl) o

/-- A number that JSON cannot express is lost. -/
@[simp] theorem single_f64 (name : String) (o : Option F64) :
    Json.single name (.ok none) (Json.nullable (f64OfJson S)) (o.map f64ToJson).toList =
      .ok (o.filter isFinite) := by
  rcases o with _ | b
  · rfl
  · by_cases hfinite : isFinite b = true
    · simp [f64ToJson, hfinite, Json.nullable, f64OfJson, Except.map, Option.filter]
    · simp [f64ToJson, hfinite, Json.nullable, Option.filter]

@[simp] theorem ofJson_featureFlags (f : FeatureFlags) : FeatureFlags.ofJson f.toJson = .ok f := by
  obtain ⟨synthetic, stats, _ | ⟨flag, flags⟩⟩ := f
  · rfl
  · have hlist := list_str (flag :: flags)
    simp only [List.map_cons] at hlist
    simp [FeatureFlags.ofJson, FeatureFlags.toJson, Json.record, Json.defaulted, Json.asBool, hlist,
      pure, Except.pure]

/-- The method that a message is written with reads its parameters. -/
theorem methods_read (msg : ControlMessage) :
    ∃ read, Json.variant (ControlMessage.methods S) (.str msg.methodName) = .ok read ∧
      read msg.params = .ok msg.dropNonFinite := by
  cases msg <;> refine ⟨_, rfl, ?_⟩ <;>
  simp [ControlMessage.params, ControlMessage.dropNonFinite, ControlMessage.readAttachSession,
    ControlMessage.readSession, ControlMessage.readFlagged, ControlMessage.readSignalForward,
    ControlMessage.readSetPolicy, ControlMessage.readStopMedia, ControlMessage.readQueryStats,
    ControlMessage.readStatsPush, ControlMessage.readKillSwitch, ControlMessage.readAck,
    ControlMessage.readError, Json.record, Json.required, Json.defaulted, optStr, optF64, optU32,
    Json.asStr, Json.asBool, pure, Except.pure]

/-- **A body is read as the message that it was written for**, but for numbers that JSON cannot
express. -/
theorem ofJson_toJson (msg : ControlMessage) :
    ControlEnvelope.ofJson S (ControlEnvelope.new msg).toJson =
      .ok (.new msg.dropNonFinite) := by
  obtain ⟨read, hmethod, hparams⟩ := methods_read (S := S) msg
  have hmessage : ControlMessage.ofJson S
      (.obj [("method", .str msg.methodName), ("params", msg.params)]) = .ok msg.dropNonFinite := by
    simp [ControlMessage.ofJson, Json.record, Json.required, hmethod, hparams]
  simp [ControlEnvelope.ofJson, ControlEnvelope.toJson, ControlEnvelope.new, Json.record,
    Json.required, hmessage, pure, Except.pure]

end

/-! ## How long a body gets -/

/-- The bytes of a signal around its strings. -/
def signalOverhead : SignalHop → Nat
  | .service => 112
  | .agent => 110

/-- Whether the body of a message fits into a frame: a signal does only if its strings do once
they are escaped. -/
def EscapedFits : ControlMessage → Prop
  | .signalForward m => Json.escapedLength m.sessionId + Json.escapedLength m.kind +
      Json.escapedLength m.payload + signalOverhead m.origin ≤ maxFramePayload
  | _ => True

/-- The numbers of a message. -/
def ControlMessage.numbers : ControlMessage → List F64
  | statsPush m => [m.rttMs, m.avSkewMs, m.fps, m.loss].filterMap id
  | _ => []

/-- Whether JSON can express the numbers of a message. -/
def FiniteNumbers (msg : ControlMessage) : Prop := ∀ b ∈ msg.numbers, isFinite b = true

section

variable {S : SerdeJson}

theorem checkCount_ok {field : String} {got max : Nat} :
    checkCount field got max = .ok () ↔ got ≤ max := by
  unfold checkCount
  split_ifs with h
  · simp [h]
  · simpa using h

theorem checkOpt_ok {field : String} {value : Option String} {max : Nat} :
    checkOpt field value max = .ok () ↔ ∀ v ∈ value, v.utf8ByteSize ≤ max := by
  rcases value with _ | v
  · simp [checkOpt]
  · simp [checkOpt, checkStr, checkCount_ok]

/-- Checks in sequence pass when each of them does. -/
theorem checks_ok {p q : Except FieldLimitError Unit} :
    (p >>= fun _ => q) = .ok () ↔ p = .ok () ∧ q = .ok () := by
  rcases p with e | ⟨⟩
  · simp [bind, Except.bind]
  · simp [bind, Except.bind]

theorem checkEach_ok {field : String} {values : List String} {max : Nat} :
    checkEach field values max = .ok () ↔ ∀ v ∈ values, v.utf8ByteSize ≤ max := by
  induction values with
  | nil => simp [checkEach, pure, Except.pure]
  | cons v vs ih =>
    have hcons : checkEach field (v :: vs) max =
        (checkStr field v max >>= fun _ => checkEach field vs max) := rfl
    rw [hcons, checks_ok, ih, checkStr, checkCount_ok, List.forall_mem_cons]

/-- **The body of a signal** is as long as its escaped strings and what stands around them. -/
theorem length_body_signalForward (m : SignalForward) :
    (controlBody S (.signalForward m)).length = Json.escapedLength m.sessionId +
      Json.escapedLength m.kind + Json.escapedLength m.payload + signalOverhead m.origin := by
  have hkeys : Json.escapedLength "v" = 1 ∧ Json.escapedLength "message" = 7 ∧
      Json.escapedLength "method" = 6 ∧ Json.escapedLength "signal_forward" = 14 ∧
      Json.escapedLength "params" = 6 ∧ Json.escapedLength "session_id" = 10 ∧
      Json.escapedLength "kind" = 4 ∧ Json.escapedLength "payload" = 7 ∧
      Json.escapedLength "from" = 4 ∧ (utf8 (Int.repr 1)).length = 1 := by
    decide
  obtain ⟨h₁, h₂, h₃, h₄, h₅, h₆, h₇, h₈, h₉, h₁₀⟩ := hkeys
  have hhop : signalOverhead m.origin = Json.escapedLength m.origin.asStr + 105 := by
    cases m.origin <;> decide
  simp only [controlBody, ControlEnvelope.toJson, ControlEnvelope.new, ControlMessage.params,
    ControlMessage.methodName, Json.write, Json.writeMembers, Json.commaSep, u32ToJson]
  simp only [List.length_cons, List.length_append, List.length_nil, Json.length_quoted]
  have hversion : (utf8 (toString (controlIpcVersion.toNat : Int))).length = 1 := h₁₀
  omega

/-- A body is its parameters with their method and the version. -/
theorem length_body_le (msg : ControlMessage) :
    (controlBody S msg).length ≤ (Json.write S.float msg.params).length + 200 := by
  have hmethod : Json.escapedLength msg.methodName ≤ 20 := by
    cases msg <;> simp only [ControlMessage.methodName] <;> decide
  have hkeys : Json.escapedLength "v" = 1 ∧ Json.escapedLength "message" = 7 ∧
      Json.escapedLength "method" = 6 ∧ Json.escapedLength "params" = 6 ∧
      (utf8 (Int.repr 1)).length = 1 := by
    decide
  obtain ⟨h₁, h₂, h₃, h₄, h₅⟩ := hkeys
  simp only [controlBody, ControlEnvelope.toJson, ControlEnvelope.new, Json.write,
    Json.writeMembers, Json.commaSep, u32ToJson]
  simp only [List.length_cons, List.length_append, List.length_nil, Json.length_quoted]
  have hversion : (utf8 (toString (controlIpcVersion.toNat : Int))).length = 1 := h₅
  omega

/-- The text of a number is short. -/
def ShortNumbers (S : SerdeJson) : Prop := ∀ b, isFinite b = true → (S.float b).length ≤ 24

theorem length_str_le {s : String} {n : Nat} (h : s.utf8ByteSize ≤ n) :
    (Json.write S.float (.str s)).length ≤ 6 * n + 2 := by
  have hescaped := Json.escapedLength_le s
  rw [Json.write, Json.length_quoted]
  omega

theorem length_strs_le {ss : List String} {n k : Nat} (hcount : ss.length ≤ k)
    (h : ∀ s ∈ ss, s.utf8ByteSize ≤ n) :
    (Json.write S.float (.arr (ss.map .str))).length ≤ k * (6 * n + 3) + 2 := by
  have hitems : ∀ v ∈ ss.map Json.str, (Json.write S.float v).length ≤ 6 * n + 2 := by
    intro v hv
    obtain ⟨s, hs, rfl⟩ := List.mem_map.mp hv
    exact length_str_le (h s hs)
  have harr := Json.length_write_arr_le (ss.map Json.str) hitems
  have hmul : ss.length * (6 * n + 2 + 1) ≤ k * (6 * n + 3) :=
    Nat.mul_le_mul_right (6 * n + 3) hcount
  rw [List.length_map] at harr
  omega

theorem length_bool_le (b : Bool) : (Json.write S.float (.bool b)).length ≤ 5 := by
  cases b <;> exact Nat.le_of_ble_eq_true rfl

theorem length_f64_le (hS : ShortNumbers S) (b : F64) :
    (Json.write S.float (f64ToJson b)).length ≤ 24 := by
  unfold f64ToJson
  split_ifs with hfinite
  · exact hS b hfinite
  · exact Nat.le_of_ble_eq_true rfl

/-- A member with a string that may be absent. -/
theorem weight_optStr_le {k : String} {o : Option String} {n : Nat}
    (h : ∀ s ∈ o, s.utf8ByteSize ≤ n) :
    Json.weight S.float (Json.optional k .str o) ≤ Json.escapedLength k + 6 * n + 6 := by
  rw [Json.weight_optional]
  rcases o with _ | s
  · exact Nat.zero_le _
  · have hs : (Json.write S.float (.str s)).length ≤ 6 * n + 2 := length_str_le (h s rfl)
    simp only [Option.elim]
    omega

/-- A member with a number that may be absent. -/
theorem weight_optNum_le {α : Type} {k : String} {f : α → Json} {o : Option α} {n : Nat}
    (h : ∀ x, (Json.write S.float (f x)).length ≤ n) :
    Json.weight S.float (Json.optional k f o) ≤ Json.escapedLength k + n + 4 := by
  rw [Json.weight_optional]
  rcases o with _ | x
  · exact Nat.zero_le _
  · have hx := h x
    simp only [Option.elim]
    omega

/-- Feature flags within their limits. -/
theorem length_featureFlags_le {f : FeatureFlags} (hcount : f.extra.length ≤ 32)
    (h : ∀ s ∈ f.extra, s.utf8ByteSize ≤ 512) :
    (Json.write S.float f.toJson).length ≤ 98600 := by
  have hkeys : Json.escapedLength "synthetic_media" = 15 ∧ Json.escapedLength "stats_export" = 12 ∧
      Json.escapedLength "extra" = 5 := by
    decide
  obtain ⟨h₁, h₂, h₃⟩ := hkeys
  have hsynthetic := length_bool_le (S := S) f.syntheticMedia
  have hstats := length_bool_le (S := S) f.statsExport
  have hextra := length_strs_le (S := S) hcount h
  have hobj := Json.length_write_obj_le (F := S.float)
    ([("synthetic_media", .bool f.syntheticMedia), ("stats_export", .bool f.statsExport)] ++
      if f.extra.isEmpty then [] else [("extra", .arr (f.extra.map .str))])
  unfold FeatureFlags.toJson
  split_ifs at hobj ⊢ <;> simp only [Json.weight_append, Json.weight_cons, Json.weight_nil] at hobj <;>
    omega

/-- **The parameters of every method but a signal fit**, whatever their strings are made of. -/
theorem length_params_le (hS : ShortNumbers S) {msg : ControlMessage}
    (hvalid : msg.validateFieldLimits = .ok ()) (hsignal : ∀ m, msg ≠ .signalForward m) :
    (Json.write S.float msg.params).length ≤ 200000 := by
  have hkeys : ∀ k ∈ ["session_id", "viewer_label", "feature_flags", "turn_uris", "boot_secret",
      "reason", "enable_input", "unattended", "max_bitrate_bps", "disable_hw_encode", "display_id",
      "rtt_ms", "video_bitrate_bps", "audio_bitrate_bps", "ice_path", "av_skew_ms", "fps", "loss",
      "visible", "label", "disable_unattended", "source", "accepted", "for_method", "code",
      "message"], Json.escapedLength k ≤ 20 := by
    decide
  simp only [List.forall_mem_cons, List.not_mem_nil, false_imp_iff, implies_true, and_true] at hkeys
  cases msg with
  | attachSession m =>
    simp only [ControlMessage.validateFieldLimits, checks_ok, checkStr, checkCount_ok, checkOpt_ok,
      checkEach_ok] at hvalid
    obtain ⟨hsid, hlabel, hsecret, huris, huri, hextras, hextra⟩ := hvalid
    have h₁ := length_str_le (S := S) hsid
    have h₂ := weight_optStr_le (S := S) (k := "viewer_label") hlabel
    have h₃ := weight_optStr_le (S := S) (k := "boot_secret") hsecret
    have h₄ := length_strs_le (S := S) huris huri
    have h₅ := length_featureFlags_le (S := S) hextras hextra
    refine Nat.le_trans (Json.length_write_obj_le _) ?_
    simp only [Json.weight_append, Json.weight_cons, Json.weight_nil]
    unfold maxSessionIdLen maxShortStringLen maxBootSecretLen maxTurnUris maxTurnUriLen at *
    omega
  | detachSession sid reason | shutdownSession sid reason | startMedia sid reason =>
    simp only [ControlMessage.validateFieldLimits, checks_ok, checkStr, checkCount_ok,
      checkOpt_ok] at hvalid
    have h₁ := length_str_le (S := S) hvalid.1
    have h₂ := weight_optStr_le (S := S) (k := "reason") hvalid.2
    have h₃ := weight_optStr_le (S := S) (k := "display_id") hvalid.2
    refine Nat.le_trans (Json.length_write_obj_le _) ?_
    simp only [Json.weight_append, Json.weight_cons, Json.weight_nil]
    unfold maxSessionIdLen maxShortStringLen at *
    omega
  | showSessionChrome sid flag text | localConfirmResult sid flag text =>
    simp only [ControlMessage.validateFieldLimits, checks_ok, checkStr, checkCount_ok,
      checkOpt_ok] at hvalid
    have h₁ := length_str_le (S := S) hvalid.1
    have h₂ := weight_optStr_le (S := S) (k := "label") hvalid.2
    have h₃ := weight_optStr_le (S := S) (k := "reason") hvalid.2
    have h₄ := length_bool_le (S := S) flag
    refine Nat.le_trans (Json.length_write_obj_le _) ?_
    simp only [Json.weight_append, Json.weight_cons, Json.weight_nil]
    unfold maxSessionIdLen maxShortStringLen at *
    omega
  | signalForward m => exact absurd rfl (hsignal m)
  | setPolicy m =>
    simp only [ControlMessage.validateFieldLimits, checkStr, checkCount_ok] at hvalid
    have h₁ := length_str_le (S := S) hvalid
    have h₂ := length_bool_le (S := S) m.enableInput
    have h₃ := length_bool_le (S := S) m.unattended
    have h₄ := length_bool_le (S := S) m.disableHwEncode
    have h₅ : (Json.write S.float (u32ToJson m.maxBitrateBps)).length ≤ 10 :=
      Json.length_write_u32_le m.maxBitrateBps
    refine Nat.le_trans (Json.length_write_obj_le _) ?_
    simp only [Json.weight_cons, Json.weight_nil]
    unfold maxSessionIdLen at *
    omega
  | stopMedia sid =>
    simp only [ControlMessage.validateFieldLimits, checkStr, checkCount_ok] at hvalid
    have h₁ := length_str_le (S := S) hvalid
    refine Nat.le_trans (Json.length_write_obj_le _) ?_
    simp only [Json.weight_cons, Json.weight_nil]
    unfold maxSessionIdLen at *
    omega
  | queryStats sid =>
    simp only [ControlMessage.validateFieldLimits, checkOpt_ok] at hvalid
    have h₁ := weight_optStr_le (S := S) (k := "session_id") hvalid
    refine Nat.le_trans (Json.length_write_obj_le _) ?_
    unfold maxSessionIdLen at *
    omega
  | statsPush m =>
    simp only [ControlMessage.validateFieldLimits, checks_ok, checkStr, checkCount_ok,
      checkOpt_ok] at hvalid
    have h₁ := length_str_le (S := S) hvalid.1
    have h₂ := weight_optStr_le (S := S) (k := "ice_path") hvalid.2
    have h₃ := weight_optNum_le (k := "rtt_ms") (o := m.rttMs) (length_f64_le hS)
    have h₄ := weight_optNum_le (k := "av_skew_ms") (o := m.avSkewMs) (length_f64_le hS)
    have h₅ := weight_optNum_le (k := "fps") (o := m.fps) (length_f64_le hS)
    have h₆ := weight_optNum_le (k := "loss") (o := m.loss) (length_f64_le hS)
    have h₇ := weight_optNum_le (S := S) (f := u32ToJson) (k := "video_bitrate_bps")
      (o := m.videoBitrateBps) Json.length_write_u32_le
    have h₈ := weight_optNum_le (S := S) (f := u32ToJson) (k := "audio_bitrate_bps")
      (o := m.audioBitrateBps) Json.length_write_u32_le
    refine Nat.le_trans (Json.length_write_obj_le _) ?_
    simp only [Json.weight_append, Json.weight_cons, Json.weight_nil]
    unfold maxSessionIdLen maxShortStringLen at *
    omega
  | killSwitch m =>
    simp only [ControlMessage.validateFieldLimits, checkOpt_ok] at hvalid
    have h₁ := weight_optStr_le (S := S) (k := "session_id") hvalid
    have h₂ := length_bool_le (S := S) m.disableUnattended
    have h₃ : (Json.write S.float (.str m.source.asStr)).length ≤ 6 * 20 + 2 :=
      length_str_le (by cases m.source <;> decide)
    refine Nat.le_trans (Json.length_write_obj_le _) ?_
    simp only [Json.weight_append, Json.weight_cons, Json.weight_nil]
    unfold maxSessionIdLen at *
    omega
  | ack m =>
    simp only [ControlMessage.validateFieldLimits, checks_ok, checkOpt_ok] at hvalid
    have h₁ := weight_optStr_le (S := S) (k := "for_method") hvalid.1
    have h₂ := weight_optStr_le (S := S) (k := "session_id") hvalid.2
    refine Nat.le_trans (Json.length_write_obj_le _) ?_
    simp only [Json.weight_append]
    unfold maxSessionIdLen maxShortStringLen at *
    omega
  | error m =>
    simp only [ControlMessage.validateFieldLimits, checks_ok, checkStr, checkCount_ok,
      checkOpt_ok] at hvalid
    have h₁ := length_str_le (S := S) hvalid.1
    have h₂ := length_str_le (S := S) hvalid.2.1
    have h₃ := weight_optStr_le (S := S) (k := "session_id") hvalid.2.2
    refine Nat.le_trans (Json.length_write_obj_le _) ?_
    simp only [Json.weight_append, Json.weight_cons, Json.weight_nil]
    unfold maxSessionIdLen maxShortStringLen at *
    omega

/-- **A body within the limits of its fields fits exactly if its strings do once escaped.** -/
theorem length_body_iff (hS : ShortNumbers S) {msg : ControlMessage}
    (hvalid : msg.validateFieldLimits = .ok ()) :
    (controlBody S msg).length ≤ maxFramePayload ↔ EscapedFits msg := by
  by_cases hsignal : ∃ m, msg = .signalForward m
  · obtain ⟨m, rfl⟩ := hsignal
    rw [length_body_signalForward]
    rfl
  · have hne : ∀ m, msg ≠ .signalForward m := fun m hm => hsignal ⟨m, hm⟩
    have hfits : EscapedFits msg := by
      cases msg with
      | signalForward m => exact absurd rfl (hne m)
      | _ => trivial
    have hbody := length_body_le (S := S) msg
    have hparams := length_params_le hS hvalid hne
    refine ⟨fun _ => hfits, fun _ => ?_⟩
    unfold maxFramePayload
    omega

/-! ## Frames are read as they were written -/

/-- A body that is not too large is framed. -/
theorem encodeFrame_ok {payload : Bytes} :
    (∃ bytes, encodeFrame payload = .ok bytes) ↔ payload.length ≤ maxFramePayload := by
  unfold encodeFrame maxFramePayload u32Size
  split_ifs <;> simp <;> omega

/-- The frame of a body. -/
theorem encodeFrame_eq {payload frame : Bytes} (h : encodeFrame payload = .ok frame) :
    frame = be32 payload.length ++ payload ∧ payload.length ≤ maxFramePayload := by
  have hfits := encodeFrame_ok.mp ⟨frame, h⟩
  unfold encodeFrame at h
  split_ifs at h
  exact ⟨(Except.ok.inj h).symm, hfits⟩

/-- **A frame is read back**, whatever follows it. -/
theorem decodeFrame_append {α : Type} (S : SerdeJson) (ofJson : Json → Except String α)
    {payload : Bytes} (hfits : payload.length ≤ maxFramePayload) (rest : Bytes) :
    decodeFrame S ofJson (be32 payload.length ++ payload ++ rest) =
      (fromSlice S ofJson payload).map (·, 4 + payload.length) := by
  have hheader : (be32 payload.length).length = 4 := rfl
  have hlen : ofBe ((be32 payload.length ++ payload ++ rest).take 4) = payload.length := by
    rw [List.append_assoc, List.take_left' hheader]
    refine ofBe_be32 ?_
    unfold maxFramePayload at hfits
    unfold u32Size
    omega
  have htotal : (be32 payload.length ++ payload ++ rest).length =
      4 + payload.length + rest.length := by
    simp only [List.length_append, hheader]
  unfold decodeFrame
  rw [if_neg (by omega)]
  dsimp only
  rw [hlen, if_neg (by omega), if_neg (by omega), List.append_assoc, List.drop_left' hheader,
    List.take_left' rfl]

/-- A decoded message is within the limits of its fields. -/
theorem decodeControl_valid {buf : Bytes} {msg : ControlMessage} {n : Nat}
    (h : decodeControl S buf = .ok (msg, n)) : msg.validateFieldLimits = .ok () := by
  unfold decodeControl checkEnvelope at h
  rcases hframe : decodeFrame S (ControlEnvelope.ofJson S) buf with e | ⟨env, consumed⟩
  · simp [hframe, bind, Except.bind] at h
  · simp only [hframe, bind, Except.bind] at h
    split_ifs at h
    rcases hvalid : env.message.validateFieldLimits with e | ⟨⟩
    · simp [hvalid] at h
    · simp only [hvalid, pure, Except.pure, Except.ok.injEq, Prod.mk.injEq] at h
      rw [← h.1, hvalid]

/-- Numbers are not limited. -/
theorem validate_dropNonFinite (msg : ControlMessage) :
    msg.dropNonFinite.validateFieldLimits = msg.validateFieldLimits := by
  cases msg <;> rfl

/-- Nothing is dropped exactly when JSON can express the numbers. -/
theorem dropNonFinite_eq_iff {msg : ControlMessage} :
    msg.dropNonFinite = msg ↔ FiniteNumbers msg := by
  have hfilter : ∀ o : Option F64, o.filter isFinite = o ↔ ∀ b ∈ o, isFinite b = true := by
    intro o
    rcases o with _ | b
    · simp
    · by_cases hb : isFinite b = true <;> simp [Option.filter, hb]
  cases msg with
  | statsPush m =>
    obtain ⟨sid, rtt, video, audio, path, skew, fps, loss⟩ := m
    simp only [ControlMessage.dropNonFinite, ControlMessage.statsPush.injEq, StatsPush.mk.injEq,
      hfilter, FiniteNumbers, ControlMessage.numbers, true_and, List.mem_filterMap, List.mem_cons,
      List.not_mem_nil, or_false, id]
    constructor
    · rintro ⟨h₁, h₂, h₃, h₄⟩ b ⟨o, rfl | rfl | rfl | rfl, hb⟩
      · exact h₁ b hb
      · exact h₂ b hb
      · exact h₃ b hb
      · exact h₄ b hb
    · exact fun h => ⟨fun b hb => h b ⟨_, .inl rfl, hb⟩, fun b hb => h b ⟨_, .inr (.inl rfl), hb⟩,
        fun b hb => h b ⟨_, .inr (.inr (.inl rfl)), hb⟩,
        fun b hb => h b ⟨_, .inr (.inr (.inr rfl)), hb⟩⟩
  | _ => simp [ControlMessage.dropNonFinite, FiniteNumbers, ControlMessage.numbers]

/-- A message whose body fits is encoded, and decodes to itself without the numbers that JSON cannot
express. -/
theorem decodeControl_encodeControl {msg : ControlMessage} {frame : Bytes}
    (hvalid : msg.validateFieldLimits = .ok ())
    (hparse : S.parse (controlBody S msg) = .ok (ControlEnvelope.new msg).toJson)
    (h : encodeControl S msg = .ok frame) :
    decodeControl S frame = .ok (msg.dropNonFinite, frame.length) := by
  simp only [encodeControl, hvalid] at h
  obtain ⟨rfl, hfits⟩ := encodeFrame_eq h
  have hbody : fromSlice S (ControlEnvelope.ofJson S) (controlBody S msg) =
      .ok (.new msg.dropNonFinite) := by
    unfold fromSlice
    rw [hparse, Json.ok_bind, ofJson_toJson]
  have hframe := decodeFrame_append S (ControlEnvelope.ofJson S) hfits []
  rw [List.append_nil, hbody] at hframe
  have hcheck : checkEnvelope (.new msg.dropNonFinite) = .ok msg.dropNonFinite := by
    simp [checkEnvelope, ControlEnvelope.new, validate_dropNonFinite, hvalid]
  simp only [decodeControl, hframe, Except.map, bind, Except.bind, hcheck, pure, Except.pure]
  simp only [be32, List.cons_append, List.nil_append, List.length_cons]
  exact congrArg (fun n => Except.ok (msg.dropNonFinite, n)) (by omega)

/-- **When the codec keeps a message**: with a correct JSON library, a message within the limits of
its fields is encoded and decodes to itself exactly if its strings fit once escaped and its numbers
are finite. What decodes is always within the limits. -/
theorem control_codec_exact (hS : ShortNumbers S) :
    (∀ msg : ControlMessage, msg.validateFieldLimits = .ok () →
      S.parse (controlBody S msg) = .ok (ControlEnvelope.new msg).toJson →
        ((∃ frame, encodeControl S msg = .ok frame ∧
            decodeControl S frame = .ok (msg, frame.length)) ↔
          EscapedFits msg ∧ FiniteNumbers msg)) ∧
      ∀ buf msg n, decodeControl S buf = .ok (msg, n) → msg.validateFieldLimits = .ok () := by
  refine ⟨fun msg hvalid hparse => ⟨?_, ?_⟩, fun buf msg n => decodeControl_valid⟩
  · rintro ⟨frame, hencode, hdecode⟩
    have hback := decodeControl_encodeControl hvalid hparse hencode
    rw [hback] at hdecode
    obtain ⟨hsame, -⟩ := Prod.mk.inj (Except.ok.inj hdecode)
    have hframe : encodeFrame (controlBody S msg) = .ok frame := by
      simpa only [encodeControl, hvalid] using hencode
    exact ⟨(length_body_iff hS hvalid).mp (encodeFrame_eq hframe).2, dropNonFinite_eq_iff.mp hsame⟩
  · rintro ⟨hfits, hfinite⟩
    obtain ⟨frame, hframe⟩ := encodeFrame_ok.mpr ((length_body_iff hS hvalid).mpr hfits)
    have hencode : encodeControl S msg = .ok frame := by
      simpa only [encodeControl, hvalid] using hframe
    have hback := decodeControl_encodeControl hvalid hparse hencode
    rw [dropNonFinite_eq_iff.mpr hfinite] at hback
    exact ⟨frame, hencode, hback⟩

end

/-! ### Concrete messages -/

/-- A JSON library that has read one value. -/
def demoJson (msg : ControlMessage) : SerdeJson where
  float _ := utf8 "0.0"
  parse _ := .ok (ControlEnvelope.new msg).toJson
  ofInt _ := 0

theorem shortNumbers_demoJson (msg : ControlMessage) : ShortNumbers (demoJson msg) := by
  intro b hb
  show (utf8 "0.0").length ≤ 24
  decide

/-- The end mark of a round survives the codec. -/
theorem control_codec_exact_ack : ∃ frame,
    encodeControl (demoJson (.ack ⟨some "drain_complete", none⟩))
        (.ack ⟨some "drain_complete", none⟩) = .ok frame ∧
      decodeControl (demoJson (.ack ⟨some "drain_complete", none⟩)) frame =
        .ok (.ack ⟨some "drain_complete", none⟩, frame.length) := by
  have hexact := (control_codec_exact (shortNumbers_demoJson _)).1
    (.ack ⟨some "drain_complete", none⟩) rfl rfl
  exact hexact.mpr ⟨trivial, by simp [FiniteNumbers, ControlMessage.numbers]⟩

/-- A payload of quotation marks. -/
def quotes (n : Nat) : String := String.ofList (List.replicate n '"')

theorem utf8ByteSize_quotes (n : Nat) : (quotes n).utf8ByteSize = n := by
  rw [Json.utf8ByteSize_eq_sum, quotes, String.toList_ofList, List.map_replicate,
    List.sum_replicate]
  exact Nat.mul_one n

theorem escapedLength_quotes (n : Nat) : Json.escapedLength (quotes n) = n * 2 := by
  rw [Json.escapedLength, quotes, String.toList_ofList, List.map_replicate, List.sum_replicate]
  rfl

/-- A payload as long as it may be, whose characters all take two bytes once escaped. -/
theorem exists_doubled :
    ∃ payload : String, payload.utf8ByteSize = 131072 ∧ Json.escapedLength payload = 262144 :=
  ⟨quotes 131072, utf8ByteSize_quotes 131072, escapedLength_quotes 131072⟩

/-- A signal with such a payload is not encoded. -/
theorem encodeControl_doubled {payload : String} (hescaped : Json.escapedLength payload = 262144)
    {S : SerdeJson} {m : SignalForward} (hpayload : m.payload = payload)
    (hvalid : (ControlMessage.signalForward m).validateFieldLimits = .ok ()) (frame : Bytes) :
    encodeControl S (.signalForward m) ≠ .ok frame := by
  intro hencode
  simp only [encodeControl, hvalid] at hencode
  have hfits := (encodeFrame_eq hencode).2
  rw [length_body_signalForward, hpayload, hescaped] at hfits
  have hoverhead : 110 ≤ signalOverhead m.origin := by
    cases m.origin <;> decide
  unfold maxFramePayload at hfits
  omega

/-- **Quotation marks double**: a signal within the limits of its fields does not fit. -/
theorem control_codec_fails :
    ¬ ∀ (S : SerdeJson) (msg : ControlMessage), ShortNumbers S →
      msg.validateFieldLimits = .ok () →
      S.parse (controlBody S msg) = .ok (ControlEnvelope.new msg).toJson →
        ∃ frame, encodeControl S msg = .ok frame ∧
          decodeControl S frame = .ok (msg, frame.length) := by
  intro hclaim
  obtain ⟨payload, hsize, hescaped⟩ := exists_doubled
  have hvalid : (ControlMessage.signalForward
      ⟨"s", "session_offer", payload, .service⟩).validateFieldLimits = .ok () := by
    simp only [ControlMessage.validateFieldLimits, checks_ok, checkStr, checkCount_ok, hsize]
    decide
  obtain ⟨frame, hencode, -⟩ := hclaim (demoJson (.signalForward
    ⟨"s", "session_offer", payload, .service⟩)) _ (shortNumbers_demoJson _) hvalid rfl
  exact encodeControl_doubled hescaped rfl hvalid frame hencode

end RemoteLink.Platform
