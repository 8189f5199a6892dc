import RemoteLink.Library.Text
import RemoteLink.Net.Transport

set_option autoImplicit false

/-!
# Selecting a transport

A transport is named on the command line or in the environment.

## Main definitions

* `TransportMode`, `TransportMode.asStr`, `TransportMode.fromStr` — the modes and their names.
* `TransportConfig.fromEnv`, `TransportConfig.parse` — the mode that is asked for.

## Main results

* `TransportMode.fromStr_asStr` — a mode is read back from its name.
-/

namespace RemoteLink.Net

open Library

/-- Named transport backend selection. -/
inductive TransportMode where
  | mock
  | live
  | webrtc
  | auto
  deriving Repr, DecidableEq

namespace TransportMode

/-- The label of a mode. -/
def asStr : TransportMode → String
  | mock => "mock"
  | live => "live"
  | webrtc => "webrtc"
  | auto => "auto"

/-- The mode with a name. -/
def fromStr (s : String) : Except NetError TransportMode :=
  let name := Text.toAsciiLowercase (Text.trim s)
  if name = "mock" ∨ name = "synthetic" then .ok .mock
  else if name = "live" ∨ name = "tcp" ∨ name = "loopback" then .ok .live
  else if name = "webrtc" ∨ name = "webrtc-rs" ∨ name = "webrtc_rs" then .ok .webrtc
  else if name = "auto" then .ok .auto
  else .error (.backendUnavailable
    s!"unknown transport mode \x60{name}\x60 (expected mock|live|webrtc|auto)")

/-- **A mode is read back from its name.** -/
theorem fromStr_asStr (mode : TransportMode) : fromStr mode.asStr = .ok mode := by
  cases mode <;> decide +kernel

end TransportMode

/-- The configuration of a transport. -/
structure TransportConfig where
  mode : TransportMode := .mock
  deriving Repr, DecidableEq

namespace TransportConfig

/-- The mode that the environment names; the mock without a name, or with one that is unknown. -/
def fromEnv (env : String → Option String) : TransportConfig :=
  match env "REMOTELINK_TRANSPORT" with
  | some v =>
    if Text.trim v = "" then {}
    else match TransportMode.fromStr v with
      | .ok mode => ⟨mode⟩
      | .error _ => {}
  | none => {}

/-- The configuration with the mode of a name. -/
def parse (s : String) : Except NetError TransportConfig :=
  (TransportMode.fromStr s).map TransportConfig.mk

end TransportConfig

end RemoteLink.Net
