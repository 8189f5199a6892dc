import RemoteLink.Protocol.Message

set_option autoImplicit false

/-!
# Control messages between service and agent

The control plane of the host: commands of the service to the session agent, and its replies.
There are no messages that carry media.

## Main definitions

* `ControlMessage` — the fourteen methods.
* `ControlMessage.methodName` — the wire name of a method.
-/

namespace RemoteLink.Platform

/-- A 64-bit float as its bits. -/
abbrev F64 := UInt64

/-- Which process last produced a signal. -/
inductive SignalHop where
  | service
  | agent
  deriving Repr, DecidableEq

/-- A signaling payload that the control plane does not interpret. -/
structure SignalForward where
  sessionId : String
  kind : String
  payload : String
  origin : SignalHop
  deriving Repr, DecidableEq

/-- Feature flags delivered at attach time. -/
structure FeatureFlags where
  syntheticMedia : Bool
  statsExport : Bool
  extra : List String
  deriving Repr, DecidableEq

/-- Bind the agent to a session. -/
structure AttachSession where
  sessionId : String
  viewerLabel : Option String
  featureFlags : FeatureFlags
  turnUris : List String
  bootSecret : Option String
  deriving Repr, DecidableEq

/-- Session policy. -/
structure SetPolicy where
  sessionId : String
  enableInput : Bool
  unattended : Bool
  maxBitrateBps : UInt32
  disableHwEncode : Bool
  deriving Repr, DecidableEq

/-- A stats snapshot. -/
structure StatsPush where
  sessionId : String
  rttMs : Option F64
  videoBitrateBps : Option UInt32
  audioBitrateBps : Option UInt32
  icePath : Option String
  avSkewMs : Option F64
  fps : Option F64
  loss : Option F64
  deriving Repr, DecidableEq

/-- Who triggered the kill switch. -/
inductive KillSwitchSource where
  | unspecified
  | hotkey
  | tray
  | policy
  deriving Repr, DecidableEq

/-- Immediate disconnect; `sessionId = none` means every session. -/
structure KillSwitch where
  sessionId : Option String
  disableUnattended : Bool
  source : KillSwitchSource
  deriving Repr, DecidableEq

/-- A positive acknowledgement. -/
structure Ack where
  forMethod : Option String
  sessionId : Option String
  deriving Repr, DecidableEq

/-- An error reply. -/
structure ControlError where
  code : String
  message : String
  sessionId : Option String
  deriving Repr, DecidableEq

/-- A message of the control plane. -/
inductive ControlMessage where
  | attachSession (m : AttachSession)
  | detachSession (sessionId : String) (reason : Option String)
  | signalForward (m : SignalForward)
  | setPolicy (m : SetPolicy)
  | startMedia (sessionId : String) (displayId : Option String)
  | stopMedia (sessionId : String)
  | queryStats (sessionId : Option String)
  | statsPush (m : StatsPush)
  | showSessionChrome (sessionId : String) (visible : Bool) (label : Option String)
  | shutdownSession (sessionId : String) (reason : Option String)
  | killSwitch (m : KillSwitch)
  | localConfirmResult (sessionId : String) (accepted : Bool) (reason : Option String)
  | ack (m : Ack)
  | error (m : ControlError)
  deriving Repr, DecidableEq

/-- The wire name of a method. -/
def ControlMessage.methodName : ControlMessage → String
  | attachSession .. => "attach_session"
  | detachSession .. => "detach_session"
  | signalForward .. => "signal_forward"
  | setPolicy .. => "set_policy"
  | startMedia .. => "start_media"
  | stopMedia .. => "stop_media"
  | queryStats .. => "query_stats"
  | statsPush .. => "stats_push"
  | showSessionChrome .. => "show_session_chrome"
  | shutdownSession .. => "shutdown_session"
  | killSwitch .. => "kill_switch"
  | localConfirmResult .. => "local_confirm_result"
  | ack .. => "ack"
  | error .. => "error"

/-- Method names that must never appear on the control plane. -/
def forbiddenMediaMethods : List String :=
  ["push_video_nalu", "push_audio_frame", "push_pcm", "on_rtcp_feedback", "inject_rtcp",
    "raw_frame", "media_bytes"]

/-- No method of the control plane carries media. -/
theorem methodName_not_forbidden (m : ControlMessage) :
    m.methodName ∉ forbiddenMediaMethods := by
  cases m <;> simp [ControlMessage.methodName, forbiddenMediaMethods]

end RemoteLink.Platform
