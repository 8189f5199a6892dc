import RemoteLink.Host.Main

set_option autoImplicit false

/-!
# The host that the desktop starts

The desktop runs the host as a child process. What the user has chosen goes into the arguments of
the child, where the host reads it again, and into one variable of its environment.

## Main definitions

* `HostLaunch` — what a host is started with.
* `HostLaunch.command`, `HostLaunch.environment` — the arguments and the environment of the child.
* `HostLaunch.config` — the configuration that is asked for.

## Main results

* `mem_command` — no text that is passed on is read as a switch.
* `hostMain_command` — the child is a service with the configuration that is asked for.
-/

namespace RemoteLink.Desktop

open Library Library.CommandLine Net Host

/-- What a host is started with. -/
structure HostLaunch where
  server : String
  displayName : String
  transport : TransportMode
  statusPath : String
  credsPath : String
  stunUrls : String
  unattendedSecret : Option String
  deriving Repr, DecidableEq

namespace HostLaunch

/-- The secret that is passed on: none that is blank. -/
def secret (L : HostLaunch) : Option String :=
  L.unattendedSecret.filter fun s => decide (Text.trim s ≠ "")

/-- The arguments of the child. -/
def args (L : HostLaunch) : List Arg :=
  [.option "--role" "service",
    .option "--server" L.server,
    .option "--transport" L.transport.asStr,
    .option "--display-name" L.displayName,
    .option "--creds" L.credsPath,
    .option "--status-path" L.statusPath,
    .option "--sessions" "0",
    .option "--frames" "0",
    .switch "--reconnect",
    .switch "--tray",
    .switch "--no-os-tray",
    .switch "--mint-otp"] ++ L.secret.toList.map (.option "--unattended-secret")

/-- The texts of the arguments. -/
def command (L : HostLaunch) : List String := L.args.map Arg.render

/-- The environment of the child: the one of the desktop, but for the servers of WebRTC. -/
def environment (L : HostLaunch) (env : Environment) : Environment := fun var =>
  if var = "REMOTELINK_WEBRTC_STUN" then nonEmpty (Text.trim L.stunUrls) else env var

/-- **The configuration that is asked for.** The control of an agent, its secret and, where none is
passed on, the unattended secret are taken from the environment of the desktop. -/
def config (L : HostLaunch) (windows : Bool) (env : Environment) : HostConfig :=
  { HostConfig.default windows with
    server := L.server
    displayName := L.displayName
    transport := L.transport
    videoFrames := 0
    maxSessions := 0
    reconnect := true
    credsPath := L.credsPath
    agentControl := (env "REMOTELINK_AGENT_CONTROL").bind fun endpoint =>
      (parseControlEndpoint windows endpoint).toOption
    osTray := false
    statusPath := some L.statusPath
    bootSecret := (env "REMOTELINK_BOOT_SECRET").bind nonEmpty
    unattendedSecret := L.secret.or ((env "REMOTELINK_UNATTENDED_SECRET").bind nonEmpty) }

variable (L : HostLaunch) {name : String}

/-- A secret that is passed on is not empty. -/
theorem nonEmpty_of_secret {s : String} (h : L.secret = some s) : nonEmpty s = some s := by
  refine if_neg ?_
  rintro rfl
  have hblank := (Option.filter_eq_some_iff.mp h).2
  exact absurd hblank (by decide)

/-- The names of the options and switches have no equals sign. -/
theorem args_plain : ∀ a ∈ L.args, a.Plain := by
  have hnames : ∀ n ∈ L.args.map Arg.name, '=' ∉ n.toList := by
    rcases hsecret : L.secret with _ | s
    · rw [args, hsecret]
      change ∀ n ∈ ["--role", "--server", "--transport", "--display-name", "--creds",
        "--status-path", "--sessions", "--frames", "--reconnect", "--tray", "--no-os-tray",
        "--mint-otp"], '=' ∉ n.toList
      decide
    · rw [args, hsecret]
      change ∀ n ∈ ["--role", "--server", "--transport", "--display-name", "--creds",
        "--status-path", "--sessions", "--frames", "--reconnect", "--tray", "--no-os-tray",
        "--mint-otp", "--unattended-secret"], '=' ∉ n.toList
      decide
  exact fun a ha => hnames _ (List.mem_map_of_mem ha)

/-- The switches of the child. -/
theorem switch_mem_args :
    .switch name ∈ L.args ↔ name ∈ ["--reconnect", "--tray", "--no-os-tray", "--mint-otp"] := by
  rcases hsecret : L.secret with _ | s <;> simp [args, hsecret]

/-- **No text that is passed on is read as a switch.** -/
theorem mem_command (hname : '=' ∉ name.toList) :
    name ∈ L.command ↔ name ∈ ["--reconnect", "--tray", "--no-os-tray", "--mint-otp"] :=
  (mem_map_render hname).trans L.switch_mem_args

/-- No text that is passed on is read as another option. -/
theorem flagValue_command (hname : '=' ∉ name.toList)
    (hswitch : name ∉ ["--reconnect", "--tray", "--no-os-tray", "--mint-otp"]) :
    flagValue L.command name = L.args.findSome? (Arg.valueOf name) :=
  value_map_render hname L.args_plain fun h => hswitch (L.switch_mem_args.mp h)

/-- What the child reads for its options. -/
theorem flagValues : flagValue L.command "--server" = some L.server ∧
    flagValue L.command "--transport" = some L.transport.asStr ∧
    flagValue L.command "--display-name" = some L.displayName ∧
    flagValue L.command "--creds" = some L.credsPath ∧
    flagValue L.command "--status-path" = some L.statusPath ∧
    flagValue L.command "--sessions" = some "0" ∧ flagValue L.command "--frames" = some "0" ∧
    flagValue L.command "--unattended-secret" = L.secret := by
  refine ⟨?_, ?_, ?_, ?_, ?_, ?_, ?_, ?_⟩ <;>
    rw [L.flagValue_command (by decide) (by decide)]
  case refine_8 =>
    rcases hsecret : L.secret with _ | s <;> simp [args, hsecret, List.findSome?_cons]
  all_goals simp [args]

/-- What the child does not find among its arguments. -/
theorem flagValue_none (h : name ∈ ["--agent-control", "--boot-secret"]) :
    flagValue L.command name = none := by
  obtain ⟨hname, hswitch⟩ : '=' ∉ name.toList ∧
      name ∉ ["--reconnect", "--tray", "--no-os-tray", "--mint-otp"] := by
    revert name
    decide
  rw [L.flagValue_command hname hswitch]
  simp only [List.mem_cons, List.not_mem_nil, or_false] at h
  rcases hsecret : L.secret with _ | s <;> rcases h with rfl | rfl <;>
    simp [args, hsecret, List.findSome?_cons]

/-- The configuration that the child reads. -/
theorem parseWsHostConfig_command (windows : Bool) (env : Environment) :
    parseWsHostConfig windows (L.environment env) L.command L.transport =
      L.config windows env := by
  obtain ⟨hserver, -, hdisplay, hcreds, hstatus, hsessions, hframes, hsecret⟩ := L.flagValues
  have hzero : parseUnsigned 4294967296 "0" = some 0 :=
    parseUnsigned_toString (n := 0) (by decide)
  have hgiven : ∀ name ∈ ["--reconnect", "--tray", "--no-os-tray", "--mint-otp"],
      name ∈ L.command := fun name h => (L.mem_command (by revert name; decide)).mpr h
  have hmissing : ∀ name ∈ ["--no-tray", "--os-tray", "--no-save-creds", "--no-load-creds",
      "--fresh", "--no-otp", "--loop", "--no-reconnect"], name ∉ L.command := fun name h =>
    (L.mem_command (by revert name; decide)).not.mpr (by revert name; decide)
  have henv : ∀ var ∈ ["REMOTELINK_AGENT_CONTROL", "REMOTELINK_BOOT_SECRET",
      "REMOTELINK_UNATTENDED_SECRET"], L.environment env var = env var := fun var h =>
    if_neg (by revert var; decide)
  simp only [List.forall_mem_cons] at hgiven hmissing henv
  have hunattended : (L.secret.or (env "REMOTELINK_UNATTENDED_SECRET")).bind nonEmpty =
      L.secret.or ((env "REMOTELINK_UNATTENDED_SECRET").bind nonEmpty) := by
    rcases hsome : L.secret with _ | s
    · rfl
    · exact L.nonEmpty_of_secret hsome
  unfold parseWsHostConfig flagOrSetVar flagOrVar
  rw [hserver, hdisplay, hcreds, hstatus, hsessions, hframes, hsecret,
    L.flagValue_none (by decide), L.flagValue_none (by decide)]
  simp only [hgiven, hmissing, henv, hzero, hunattended, decide_true, decide_false, or_false,
    Bool.not_true, Bool.not_false, Bool.and_true, Bool.and_false, Bool.or_true, Bool.false_or,
    Bool.true_or, Option.some_or, Option.none_or, Option.bind_some, Option.getD_some]
  rfl

end HostLaunch

/-- **The child is a service with the configuration that is asked for**, whatever the texts are that
the user has chosen. -/
theorem hostMain_command (windows : Bool) (env : Environment) (L : HostLaunch) :
    hostMain windows (L.environment env) L.command = .wsHost (L.config windows env) := by
  obtain ⟨hserver, hmode, -⟩ := L.flagValues
  have hrole : parseRole L.command = .service := rfl
  have htransport : (parseTransport (L.environment env) L.command).mode = L.transport := by
    rw [parseTransport_eq, hmode]
    simp [transportOr, TransportConfig.parse, TransportMode.fromStr_asStr, Except.map]
  have hreconnect : "--no-reconnect" ∉ L.command :=
    (L.mem_command (by decide)).not.mpr (by decide)
  unfold hostMain flagOrSetVar
  dsimp only
  rw [hrole, htransport, hserver, L.parseWsHostConfig_command]
  simp [serviceConfig, hreconnect, HostLaunch.config]

end RemoteLink.Desktop
