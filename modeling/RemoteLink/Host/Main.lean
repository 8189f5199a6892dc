import RemoteLink.Host.ControlLoop
import RemoteLink.Host.Enrollment
import RemoteLink.Library.CommandLine
import RemoteLink.Net.Factory

set_option autoImplicit false

/-!
# The command line of the host

The host binary reads its role, its transport and the configuration of its service from its
arguments, and from the environment where an argument is missing.

## Main definitions

* `HostRole`, `parseRole`, `parseTransport` — what is asked for.
* `ControlEndpoint`, `parseControlEndpoint` — where the agent listens.
* `HostConfig`, `parseWsHostConfig` — the configuration of the service.
* `HostRun`, `hostMain` — what the binary runs.

## Main results

* `parseTransport_eq` — the transport is an option like the others.
* `parseUnsigned_toString` — a number is read back from its digits.
-/

namespace RemoteLink.Host

open Library Net

/-- The environment variables of a process. -/
abbrev Environment := String → Option String

/-! ## Roles and transports -/

/-- What the binary is started as. -/
inductive HostRole where
  | service
  | agent
  | ws
  | colocate
  | ipcColocate
  | killSwitchDemo
  | help
  deriving Repr, DecidableEq

/-- The role with a name. A name that is unknown asks for help. -/
def roleFromStr (s : String) : HostRole :=
  if s = "service" then .service
  else if s = "agent" then .agent
  else if s = "ws" ∨ s = "ws-agent" ∨ s = "signaling" then .ws
  else if s = "colocate" ∨ s = "synthetic" then .colocate
  else if s = "ipc-colocate" ∨ s = "ipc_colocate" ∨ s = "control-ipc" then .ipcColocate
  else if s = "kill-switch" ∨ s = "kill_switch" then .killSwitchDemo
  else .help

/-- The role that the first argument about one asks for. -/
def parseRole : List String → HostRole
  | [] => .service
  | arg :: rest =>
    if arg = "-h" ∨ arg = "--help" then .help
    else if arg = "--kill-switch" then .killSwitchDemo
    else if arg = "--role" then roleFromStr (rest.head?.getD "")
    else match CommandLine.stripPrefix "--role=" arg with
      | some value => roleFromStr value
      | none => parseRole rest

/-- The value of an option. -/
def flagValue (args : List String) (name : String) : Option String := CommandLine.value name args

/-- A transport by its name, and the mock for a name that is unknown. -/
def transportOr (value : String) : TransportConfig :=
  match TransportConfig.parse value with
  | .ok cfg => cfg
  | .error _ => {}

/-- The transport: the one of the arguments, or else the one of the environment. A name at the end
of the arguments has no value. -/
def parseTransport (env : Environment) : List String → TransportConfig
  | [] => .fromEnv env
  | arg :: rest =>
    if arg = "--transport" then
      match rest with
      | value :: _ => transportOr value
      | [] => .fromEnv env
    else match CommandLine.stripPrefix "--transport=" arg with
      | some value => transportOr value
      | none => parseTransport env rest

/-- The transport is looked up like an option. -/
theorem parseTransport_eq (env : Environment) (args : List String) :
    parseTransport env args =
      match flagValue args "--transport" with
      | some value => transportOr value
      | none => .fromEnv env := by
  induction args with
  | nil => rfl
  | cons arg rest ih =>
    unfold parseTransport flagValue CommandLine.value
    by_cases harg : arg = "--transport"
    · rw [if_pos harg, if_pos harg]
      cases rest <;> rfl
    · rw [if_neg harg, if_neg harg]
      change (match CommandLine.stripPrefix "--transport=" arg with
        | some value => transportOr value
        | none => parseTransport env rest) = match
          (match CommandLine.stripPrefix "--transport=" arg with
          | some value => some value
          | none => CommandLine.value "--transport" rest) with
        | some value => transportOr value
        | none => .fromEnv env
      cases CommandLine.stripPrefix "--transport=" arg with
      | none => exact ih
      | some value => rfl

/-! ## Control endpoints -/

/-- Where the agent is controlled. -/
inductive ControlEndpoint where
  | tcpLocalhost (port : Nat)
  | namedPipe (path : String)
  deriving Repr, DecidableEq

/-- A text without the sign in front of it. -/
def withoutPlus : List Char → List Char
  | '+' :: rest => rest
  | cs => cs

/-- The value of a text of digits, if it is below a bound. -/
def parseUnsigned (bound : Nat) (s : String) : Option Nat :=
  let digits := withoutPlus s.toList
  if digits ≠ [] ∧ digits.all (·.isDigit) = true then
    let n := Nat.ofDigitChars 10 digits 0
    if n < bound then some n else none
  else none

/-- The start of the path of a pipe. -/
def pipeRoot : String := "\\\\.\\pipe\\"

/-- The path of a pipe. -/
def normalizePipePath (nameOrPath : String) : String :=
  let s := String.ofList ((Text.trim nameOrPath).toList.map fun c => if c = '/' then '\\' else c)
  if (CommandLine.stripPrefix pipeRoot (Text.toAsciiLowercase s)).isSome then s
  else match (CommandLine.stripPrefix pipeRoot s).or
      (CommandLine.stripPrefix "\\\\.\\PIPE\\" s) with
    | some rest => pipeRoot ++ rest
    | none => pipeRoot ++ String.ofList (s.toList.dropWhile (· = '\\'))

/-- The pipe where the agent is controlled by default. -/
def defaultNamedPipe : ControlEndpoint := .namedPipe (normalizePipePath "remotelink-host-control")

/-- The endpoint of a port, with or without the name of its protocol. -/
def parseTcpEndpoint (s : String) : Except ControlLoopError ControlEndpoint :=
  let port := ((CommandLine.stripPrefix "tcp:" s).or (CommandLine.stripPrefix "TCP:" s)).getD s
  match parseUnsigned 65536 port with
  | some port => .ok (.tcpLocalhost port)
  | none => .error (.protocol
    s!"invalid control endpoint \x60{s}\x60 (expected tcp:PORT or pipe[:name])")

/-- Read an endpoint. There are pipes on Windows only. -/
def parseControlEndpoint (windows : Bool) (text : String) :
    Except ControlLoopError ControlEndpoint :=
  let s := Text.trim text
  let lower := Text.toAsciiLowercase s
  if s = "" then
    .error (.protocol "empty control endpoint (expected tcp:PORT or pipe[:name])")
  else if windows then
    if lower = "pipe" ∨ lower = "named-pipe" then .ok defaultNamedPipe
    else match (CommandLine.stripPrefix "pipe:" s).or (CommandLine.stripPrefix "PIPE:" s) with
      | some name =>
        if Text.trim name = "" then .ok defaultNamedPipe
        else .ok (.namedPipe (normalizePipePath (Text.trim name)))
      | none =>
        if (CommandLine.stripPrefix pipeRoot lower).isSome ∨
            (CommandLine.stripPrefix "//./pipe/" lower).isSome then
          .ok (.namedPipe (normalizePipePath s))
        else parseTcpEndpoint s
  else if lower = "pipe" ∨ lower = "named-pipe" ∨
      (CommandLine.stripPrefix "pipe:" lower).isSome ∨
      (CommandLine.stripPrefix pipeRoot lower).isSome then
    .error (.protocol "named pipe control endpoints are only supported on Windows")
  else parseTcpEndpoint s

/-- A number is read back from its digits. -/
theorem parseUnsigned_toString {bound n : Nat} (h : n < bound) :
    parseUnsigned bound (toString n) = some n := by
  have hdigits : ∀ c ∈ Nat.toDigits 10 n, c.isDigit = true := fun c hc =>
    Nat.isDigit_of_mem_toDigits (by decide) (by decide) hc
  have hchars : withoutPlus (toString n).toList = Nat.toDigits 10 n := by
    rw [show (toString n).toList = Nat.toDigits 10 n from Nat.toList_repr]
    unfold withoutPlus
    split
    · rename_i rest hplus
      have hsign := hdigits '+' (hplus ▸ List.mem_cons_self)
      cases hsign
    · rfl
  unfold parseUnsigned
  rw [hchars]
  dsimp only
  rw [if_pos ⟨Nat.toDigits_ne_nil, List.all_eq_true.mpr hdigits⟩, Nat.ofDigitChars_ten_toDigits,
    if_pos h]

/-! ## The configuration of the service -/

/-- The configuration of the service; the two durations are in seconds. A value of zero stands for
live sessions in `videoFrames`, and for no limit in `maxSessions`. -/
structure HostConfig where
  server : String
  displayName : String
  transport : TransportMode
  videoFrames : Nat
  waitIncoming : Nat
  existing : Option ExistingHostCreds
  maxSessions : Nat
  reconnect : Bool
  reconnectBackoff : Nat
  credsPath : String
  loadCreds : Bool
  saveCreds : Bool
  mintOtp : Bool
  agentControl : Option ControlEndpoint
  tray : Bool
  osTray : Bool
  statusPath : Option String
  bootSecret : Option String
  unattendedSecret : Option String
  deriving Repr, DecidableEq

namespace HostConfig

/-- The configuration without arguments, on Windows or not. -/
def default (windows : Bool) : HostConfig where
  server := "http://127.0.0.1:18080"
  displayName := "remotelink-host"
  transport := .live
  videoFrames := 5
  waitIncoming := 120
  existing := none
  maxSessions := 1
  reconnect := false
  reconnectBackoff := 2
  credsPath := ".remotelink-host.json"
  loadCreds := true
  saveCreds := true
  mintOtp := true
  agentControl := none
  tray := true
  osTray := windows
  statusPath := none
  bootSecret := none
  unattendedSecret := none

/-- What the loop of the service reads. -/
def service (cfg : HostConfig) : WsHostConfig where
  videoFrames := cfg.videoFrames
  maxSessions := cfg.maxSessions
  reconnect := cfg.reconnect
  mintOtp := cfg.mintOtp
  agentControl := cfg.agentControl.isSome
  tray := cfg.tray
  bootSecret := cfg.bootSecret
  unattendedSecret := cfg.unattendedSecret

end HostConfig

/-- A text that is not empty. -/
def nonEmpty (s : String) : Option String := if s = "" then none else some s

/-- An option, or else a variable that is not empty. -/
def flagOrSetVar (args : List String) (env : Environment) (flag var : String) : Option String :=
  (flagValue args flag).or ((env var).bind nonEmpty)

/-- An option, or else a variable. -/
def flagOrVar (args : List String) (env : Environment) (flag var : String) : Option String :=
  (flagValue args flag).or (env var)

/-- The configuration that the arguments and the environment ask for. -/
def parseWsHostConfig (windows : Bool) (env : Environment) (args : List String)
    (transport : TransportMode) : HostConfig :=
  let base := HostConfig.default windows
  let noTray := decide ("--no-tray" ∈ args)
  let osTray := decide ("--os-tray" ∈ args)
  { base with
    transport := transport
    server := (flagOrSetVar args env "--server" "REMOTELINK_SERVER").getD base.server
    displayName := (flagValue args "--display-name").getD base.displayName
    videoFrames :=
      ((flagValue args "--frames").bind (parseUnsigned 4294967296)).getD base.videoFrames
    maxSessions :=
      ((flagValue args "--sessions").bind (parseUnsigned 4294967296)).getD base.maxSessions
    credsPath := (flagOrSetVar args env "--creds" "REMOTELINK_HOST_CREDS").getD base.credsPath
    saveCreds := base.saveCreds && !decide ("--no-save-creds" ∈ args)
    loadCreds := base.loadCreds && !decide ("--no-load-creds" ∈ args ∨ "--fresh" ∈ args)
    mintOtp := decide ("--mint-otp" ∈ args) || base.mintOtp && !decide ("--no-otp" ∈ args)
    reconnect := (base.reconnect || decide ("--reconnect" ∈ args ∨ "--loop" ∈ args)) &&
      !decide ("--no-reconnect" ∈ args)
    agentControl := (flagOrVar args env "--agent-control" "REMOTELINK_AGENT_CONTROL").bind
      fun endpoint => (parseControlEndpoint windows endpoint).toOption
    tray := osTray || decide ("--tray" ∈ args) || base.tray && !noTray
    osTray := (osTray || base.osTray && !noTray) && !decide ("--no-os-tray" ∈ args)
    statusPath := (flagValue args "--status-path").or base.statusPath
    bootSecret := (flagOrVar args env "--boot-secret" "REMOTELINK_BOOT_SECRET").bind nonEmpty
    unattendedSecret :=
      (flagOrVar args env "--unattended-secret" "REMOTELINK_UNATTENDED_SECRET").bind nonEmpty }

/-! ## The binary -/

/-- What the binary runs. -/
inductive HostRun where
  /-- The service without a server. -/
  | skeleton
  /-- The service. -/
  | wsHost (cfg : HostConfig)
  /-- The agent, controlled at an endpoint. -/
  | agentControl (endpoint : ControlEndpoint) (mode : TransportMode) (bootSecret : Option String)
  /-- The agent by itself. -/
  | agent (mode : TransportMode)
  /-- No agent: the endpoint cannot be read. -/
  | noAgent (e : ControlLoopError)
  | ipcColocate
  | colocate
  | killSwitchDemo
  | usage
  deriving Repr

/-- The service that a server is given for: its sessions are unlimited by default, and it reconnects
unless it is told not to. -/
def serviceConfig (args : List String) (cfg : HostConfig) : HostConfig :=
  let unlimited := decide (cfg.maxSessions = 1) &&
    !args.any fun arg => (CommandLine.stripPrefix "--sessions" arg).isSome
  let cfg := if unlimited then { cfg with maxSessions := 0, reconnect := true } else cfg
  if "--no-reconnect" ∈ args then cfg else { cfg with reconnect := true }

/-- What the binary runs for its arguments. -/
def hostMain (windows : Bool) (env : Environment) (args : List String) : HostRun :=
  let mode := (parseTransport env args).mode
  match parseRole args with
  | .service =>
    if (flagOrSetVar args env "--server" "REMOTELINK_SERVER").isSome then
      .wsHost (serviceConfig args (parseWsHostConfig windows env args mode))
    else .skeleton
  | .agent =>
    match flagOrVar args env "--control-listen" "REMOTELINK_CONTROL_LISTEN" with
    | some text =>
      match parseControlEndpoint windows text with
      | .ok endpoint =>
        .agentControl endpoint mode
          ((flagOrVar args env "--boot-secret" "REMOTELINK_BOOT_SECRET").bind nonEmpty)
      | .error e => .noAgent e
    | none => .agent mode
  | .ipcColocate => .ipcColocate
  | .ws => .wsHost (parseWsHostConfig windows env args mode)
  | .colocate => .colocate
  | .killSwitchDemo => .killSwitchDemo
  | .help => .usage

end RemoteLink.Host
