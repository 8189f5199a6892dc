import RemoteLink.Media.SkewController
import RemoteLink.Net.MockHandshake

set_option autoImplicit false

/-!
# Chaos profiles

The nightly agent drops packets on a mock pair, reconnects pairs and forces the skew controller out
of its dead band, and raises an alarm when what it expects does not come about. Floating-point
numbers are rational here; a panic is the error of a profile, with its message.

## Main definitions

* `ChaosEnv` — the random generator, the formats of numbers and the profiles of other crates.
* `runDropPackets`, `runReconnect`, `runAudioDesync` — the profiles.
* `runProfiles` — the profiles that were asked for, with their seeds, and the report.

## Main results

* `chaos_alarms` — when exactly the profiles raise an alarm, whatever is drawn.
-/

namespace RemoteLink.Agents

open Library Media Net

/-! ## Configuration -/

/-- The profiles. -/
inductive ProfileName where
  | dropPackets
  | reconnect
  | audioDesync
  | protocolFuzz
  deriving Repr, DecidableEq

namespace ProfileName

/-- The name of a profile. -/
def asStr : ProfileName → String
  | dropPackets => "drop_packets"
  | reconnect => "reconnect"
  | audioDesync => "audio_desync"
  | protocolFuzz => "protocol_fuzz"

/-- The profile of a name. -/
def parse (s : String) : Option ProfileName :=
  if s = "drop_packets" then some dropPackets
  else if s = "reconnect" then some reconnect
  else if s = "audio_desync" then some audioDesync
  else if s = "protocol_fuzz" then some protocolFuzz
  else none

/-- All profiles, in the order of a nightly run. -/
def all : List ProfileName := [dropPackets, reconnect, audioDesync, protocolFuzz]

end ProfileName

/-- How bad a defect is. -/
inductive Severity where
  | critical
  | high
  | medium
  | low
  | info
  deriving Repr, DecidableEq

/-- How a profile ends. -/
inductive ProfileStatus where
  | pass
  | fail
  | skip
  deriving Repr, DecidableEq

/-- The parameters of the profiles. -/
structure ChaosProfileConfig where
  seed : UInt64
  iterations : UInt32
  dropRate : ℚ
  skewInjectMs : ℚ
  reconnectCycles : UInt32

/-- The parameters and the profiles of a nightly run. -/
structure BugHuntConfig where
  chaos : ChaosProfileConfig
  enabledProfiles : List String

/-- What a profile has measured. -/
inductive Metrics where
  | none
  | panicked
  | dropPackets (attempted dropped sent received sendErrors : Nat) (dropRateTarget : ℚ)
  | completed (completed : Nat)
  | reconnect (cycles completed mediaOk iceRestartCount : Nat)
  | audioDesync (skewInjectMs deadbandMs : ℚ) (ahead behind : SkewDecision)
      (offsetAfterAheadMs : ℚ)

/-- The outcome of a profile. -/
structure ProfileOutcome where
  profile : ProfileName
  rootSeed : Option UInt64
  seed : UInt64
  status : ProfileStatus
  severity : Option Severity
  summary : String
  metrics : Metrics
  repro : Option String

/-- What a run depends on besides its options: whether arithmetic is checked for overflow, the
numbers that a generator draws from a seed, how numbers are written, and the fuzzing of the
decoders. -/
structure ChaosEnv where
  overflowChecks : Bool
  draw : UInt64 → Nat → ℚ
  showFloat : ℚ → String
  showFixed : ℚ → String
  runProtocolFuzz : ChaosProfileConfig → Except String ProfileOutcome

/-! ## Profiles -/

/-- The pair that the profiles use. -/
def newPair : Except String PairWorld :=
  match DtlsFingerprint.sha256 "AAAAAAAAAAAAAAAAAAAAAAAAAAAAAAAAAAAAAAAAAAAAAAAAAAAAAAAAAAAAAAAA",
    DtlsFingerprint.sha256 "BBBBBBBBBBBBBBBBBBBBBBBBBBBBBBBBBBBBBBBBBBBBBBBBBBBBBBBBBBBBBBBB" with
  | .ok fpA, .ok fpB => .ok (.fresh "host" "viewer" fpA fpB)
  | .error _, _ => .error "host fp"
  | .ok _, .error _ => .error "viewer fp"

/-- The tracks that a recording has. -/
def recordedTracks (cs : List PeerCallback) : List IncomingTrackData :=
  cs.filterMap fun
    | .track data => some data
    | _ => none

/-- The data messages that a recording has. -/
def recordedData (cs : List PeerCallback) : List DataMessage :=
  cs.filterMap fun
    | .data message => some message
    | _ => none

/-- A product of numbers of 32 bits. -/
def mulU32 (overflowChecks : Bool) (m n : Nat) : Except String UInt32 :=
  if overflowChecks = true ∧ 2 ^ 32 ≤ m * n then .error "attempt to multiply with overflow"
  else .ok (UInt32.ofNat (m * n))

/-- A failure of a profile. -/
def failure (profile : ProfileName) (severity : Severity) (seed : UInt64) (summary : String)
    (metrics : Metrics) : ProfileOutcome :=
  ⟨profile, none, seed, .fail, some severity, summary, metrics, some s!"seed={seed}"⟩

section Drop

/-- What is to be sent in an iteration. -/
def dropFrame (overflowChecks : Bool) (i : Nat) : Except String PeerOp :=
  if i % 2 = 0 then
    (mulU32 overflowChecks i 3000).map fun rtpTs =>
      .sendVideoNalu ⟨i * 33 * 1000000, some rtpTs, decide (i % 30 = 0), .annexB,
        [0, 0, 0, 1, 0x65, UInt8.ofNat (i % 256)]⟩
  else
    (mulU32 overflowChecks i 960).map fun rtpTs =>
      .sendAudio ⟨i * 20 * 1000000, some rtpTs, 48000, 2, [0xde, 0xad, UInt8.ofNat (i % 256), 0xbe]⟩

/-- The counts of the iterations so far. -/
structure DropTally where
  world : PairWorld
  attempted : Nat
  dropped : Nat
  sent : Nat
  sendErrors : Nat

/-- An iteration: the packet is dropped, or sent. -/
def dropStep (overflowChecks : Bool) (skip : Nat → Bool) (t : DropTally) (i : Nat) :
    Except String DropTally :=
  if skip i then .ok { t with attempted := t.attempted + 1, dropped := t.dropped + 1 }
  else
    (dropFrame overflowChecks i).map fun op =>
      match (t.world.pair.call .a op).result with
      | .ok () => { t with
          world := t.world.step .a op
          attempted := t.attempted + 1
          sent := t.sent + 1 }
      | .error _ => { t with
          world := t.world.step .a op
          attempted := t.attempted + 1
          sendErrors := t.sendErrors + 1 }

variable (env : ChaosEnv) (cfg : ChaosProfileConfig)

/-- Whether the packet of an iteration is dropped. -/
def skips (i : Nat) : Bool := decide (env.draw cfg.seed i < clampRat cfg.dropRate 0 1)

/-- The number of iterations. -/
def iterationCount : Nat := max cfg.iterations.toNat 1

/-- The outcome for the counts and what was received. -/
def dropOutcome (t : DropTally) (received : Nat) : ProfileOutcome :=
  let dropRate := clampRat cfg.dropRate 0 1
  let metrics := Metrics.dropPackets t.attempted t.dropped t.sent received t.sendErrors dropRate
  let repro :=
    s!"seed={cfg.seed} drop_rate={env.showFloat dropRate} iterations={iterationCount cfg}"
  if t.sendErrors = 0 ∧ received = t.sent ∧ t.dropped + t.sent = t.attempted then
    ⟨.dropPackets, none, cfg.seed, .pass, none,
      s!"flaky send: dropped {t.dropped}/{t.attempted}, delivered {received}/{t.sent}",
      metrics, some repro⟩
  else
    ⟨.dropPackets, none, cfg.seed, .fail, some .high,
      s!"invariant broken: sent={t.sent} received={received} errors={t.sendErrors} dropped=" ++
        s!"{t.dropped}", metrics, some repro⟩

/-- Drop packets at random on their way to a mock pair. -/
def runDropPackets : Except String ProfileOutcome := do
  let fail := fun summary => failure .dropPackets .high cfg.seed summary .none
  let w ← newPair
  match w.handshake with
  | .error e => return fail s!"handshake failed: {e.display}"
  | .ok w =>
    if w.pair.peerA.state ≠ .connected then return fail "host not connected after handshake"
    let t ← (List.range (iterationCount cfg)).foldlM
      (dropStep env.overflowChecks (skips env cfg)) ⟨w, 0, 0, 0, 0⟩
    match t.world.flush with
    | .error e => return fail s!"flush failed: {e.display}"
    | .ok w => return dropOutcome env cfg t (recordedTracks (w.heard .b)).length

end Drop

section Reconnect

/-- A connection state, as it is printed. -/
def stateDebug : ConnectionState → String
  | .new => "New"
  | .connecting => "Connecting"
  | .connected => "Connected"
  | .disconnected => "Disconnected"
  | .failed => "Failed"
  | .closed => "Closed"

/-- A condition that must hold, or else there is a summary of the failure. -/
def expect (condition : Bool) (summary : String) : Except String Unit :=
  if condition then .ok () else .error summary

/-- The step of a cycle that must succeed. -/
def inCycle {α : Type} (cycle : Nat) (what : String) (x : Except NetError α) : Except String α :=
  x.mapError fun e => s!"cycle {cycle}: {what}: {e.display}"

/-- A cycle: a fresh pair connects, something is sent and received, and the host closes. The error
is the summary of the failure. -/
def reconnectCycle (w : PairWorld) (cycle : Nat) : Except String Unit := do
  let w ← inCycle cycle "handshake failed" w.handshake
  expect (decide (w.pair.peerA.state = .connected ∧ w.pair.peerB.state = .connected))
    s!"cycle {cycle}: not connected after handshake"
  let w ← inCycle cycle "send_data" (w.call .a
    (.sendData ⟨"input", utf8 ("\x7b\"cycle\":" ++ s!"{cycle}" ++ "\x7d"), true⟩))
  let w ← inCycle cycle "send_audio" (w.call .a
    (.sendAudio ⟨20 * 1000000, some 960, 48000, 2, [1, 2, 3, 4]⟩))
  let w ← inCycle cycle "flush" w.flush
  expect (!(recordedData (w.heard .b)).isEmpty && !(recordedTracks (w.heard .b)).isEmpty)
    s!"cycle {cycle}: media not delivered before teardown"
  let w ← inCycle cycle "close host" (w.call .a .close)
  expect (decide (w.pair.peerA.state = .closed)) s!"cycle {cycle}: host not Closed after close()"
  -- the result of the poll does not matter
  let w := w.step .b .poll
  expect (decide (w.pair.peerB.state = .disconnected ∨ w.pair.peerB.state = .closed))
    s!"cycle {cycle}: viewer expected Disconnected/Closed, got {stateDebug w.pair.peerB.state}"

/-- The cycles, one after another: how many were completed, and the summary of a failure. -/
def reconnectLoop (w : PairWorld) : List Nat → Nat → Except (Nat × String) Nat
  | [], completed => .ok completed
  | cycle :: cycles, completed =>
    match reconnectCycle w cycle with
    | .error summary => .error (completed, summary)
    | .ok () => reconnectLoop w cycles (completed + 1)

/-- A restart of ICE within a session. -/
def iceRestart (w : PairWorld) : Except String Nat := do
  let w ← w.handshake.mapError fun e => s!"ice-restart setup handshake: {e.display}"
  let w ← (w.call .a .restartIce).mapError fun e => s!"restart_ice: {e.display}"
  expect (decide (w.pair.peerA.iceRestartCount = 1))
    s!"ice_restart_count={w.pair.peerA.iceRestartCount}, expected 1"
  expect (decide (w.pair.peerA.state = .connected)) "host not Connected after ICE restart"
  return w.pair.peerA.iceRestartCount

/-- Tear pairs down and set them up again, and restart ICE. -/
def runReconnect (cfg : ChaosProfileConfig) : Except String ProfileOutcome := do
  let cycles := max cfg.reconnectCycles.toNat 1
  let w ← newPair
  match reconnectLoop w (List.range cycles) 0 with
  | .error (completed, summary) =>
    return failure .reconnect .high cfg.seed summary (.completed completed)
  | .ok completed =>
    match iceRestart w with
    | .error summary => return failure .reconnect .high cfg.seed summary (.completed completed)
    | .ok restarts =>
      return ⟨.reconnect, none, cfg.seed, .pass, none,
        s!"completed {completed} teardown/restart cycles; media_ok={completed}; ice restart ok",
        .reconnect cycles completed completed restarts,
        some s!"seed={cfg.seed} reconnect_cycles={cycles}"⟩

end Reconnect

section Desync

variable (env : ChaosEnv) (cfg : ChaosProfileConfig)

/-- The skew that is forced. -/
def injectMs : ℚ := max |cfg.skewInjectMs| 1

/-- Force the controller out of its dead band in both directions, and reset it. The error is the
summary of the failure. -/
def desyncChecks (inject : ℚ) : Except String (SkewDecision × SkewDecision × ℚ) := do
  let ctrl := SkewController.new .default
  let deadband := ctrl.cfg.deadbandMs
  let (inside, ctrl) := ctrl.update ⟨100, 100 + deadband * (1 / 2)⟩ 0
  expect (inside.inDeadband && decide (inside.delayAdjustMs = 0))
    (s!"deadband violated: in_deadband={inside.inDeadband} delay=" ++
      env.showFloat inside.delayAdjustMs)
  let (ahead, ctrl) := ctrl.update ⟨1000 + inject, 1000⟩ 0
  expect (!ahead.inDeadband) "expected leave deadband on audio-ahead inject"
  expect (decide (0 < ahead.skewMs)) s!"expected positive skew, got {env.showFloat ahead.skewMs}"
  expect (decide (0 < ahead.delayAdjustMs))
    s!"expected positive delay step on audio-ahead, got {env.showFloat ahead.delayAdjustMs}"
  expect (decide (1 < ahead.resampleRatio)) ("expected resample_ratio > 1 (slow audio), got " ++
    env.showFloat ahead.resampleRatio)
  expect (decide (ahead.resampleRatio ≤ 1 + ctrl.cfg.maxStretch + 1 / 1000000000))
    (s!"resample_ratio {env.showFloat ahead.resampleRatio} exceeds max_stretch " ++
      env.showFloat ctrl.cfg.maxStretch)
  let offsetAfterAhead := ctrl.delayOffsetMs
  let (behind, ctrl) := ctrl.update ⟨2000, 2000 + inject⟩ 10000
  expect (decide (behind.skewMs < 0)) s!"expected negative skew, got {env.showFloat behind.skewMs}"
  expect (decide (behind.delayAdjustMs < 0))
    s!"expected negative delay step on audio-behind, got {env.showFloat behind.delayAdjustMs}"
  expect (decide (behind.resampleRatio < 1)) ("expected resample_ratio < 1 (speed audio), got " ++
    env.showFloat behind.resampleRatio)
  let ctrl := ctrl.reset
  expect (decide (ctrl.delayOffsetMs = 0))
    s!"reset left delay_offset_ms={env.showFloat ctrl.delayOffsetMs}"
  return (ahead, behind, offsetAfterAhead)

/-- Force a skew upon the controller. -/
def runAudioDesync : ProfileOutcome :=
  let inject := injectMs cfg
  match desyncChecks env inject with
  | .error summary => failure .audioDesync .medium cfg.seed summary .none
  | .ok (ahead, behind, offsetAfterAhead) =>
    ⟨.audioDesync, none, cfg.seed, .pass, none,
      s!"skew inject ±{env.showFloat inject} ms: ahead delay=" ++
        s!"{env.showFloat ahead.delayAdjustMs}, ratio={env.showFixed ahead.resampleRatio}; " ++
        s!"behind delay={env.showFloat behind.delayAdjustMs}, " ++
        s!"ratio={env.showFixed behind.resampleRatio}",
      .audioDesync inject SkewConfig.default.deadbandMs ahead behind offsetAfterAhead,
      some s!"seed={cfg.seed} skew_inject_ms={env.showFloat inject}"⟩

end Desync

/-! ## Runs -/

/-- Run a profile. -/
def runProfile (env : ChaosEnv) (cfg : ChaosProfileConfig) :
    ProfileName → Except String ProfileOutcome
  | .dropPackets => runDropPackets env cfg
  | .reconnect => runReconnect cfg
  | .audioDesync => .ok (runAudioDesync env cfg)
  | .protocolFuzz => env.runProtocolFuzz cfg

/-- Run a profile; a panic is a failure. -/
def runProfileCatchUnwind (env : ChaosEnv) (cfg : ChaosProfileConfig) (name : ProfileName) :
    ProfileOutcome :=
  match runProfile env cfg name with
  | .ok outcome => outcome
  | .error message =>
    ⟨name, none, cfg.seed, .fail, some .high, s!"profile panicked: {message}", .panicked,
      some s!"effective_seed={cfg.seed} profile={name.asStr}"⟩

/-- Attach both seeds to an outcome. -/
def ProfileOutcome.withSeeds (o : ProfileOutcome) (rootSeed effectiveSeed : UInt64) :
    ProfileOutcome :=
  let base := s!"root_seed={rootSeed} effective_seed={effectiveSeed} profile={o.profile.asStr}"
  { o with
    rootSeed := some rootSeed
    seed := effectiveSeed
    repro := some (match o.repro with
      | some extra => if extra = "" then base else base ++ "; " ++ extra
      | none => base) }

/-- The options of a run. -/
structure RunOptions where
  profiles : List ProfileName
  config : BugHuntConfig
  effectiveSeed : Option UInt64

/-- The profiles to run. -/
def resolveProfiles (requested : List ProfileName) (config : BugHuntConfig) : List ProfileName :=
  if requested ≠ [] then requested
  else if config.enabledProfiles ≠ [] then config.enabledProfiles.filterMap ProfileName.parse
  else ProfileName.all

/-- A mix of the root seed for a profile. -/
def deriveSeed (root : UInt64) (name : ProfileName) : UInt64 :=
  let tag := (utf8 name.asStr).foldl (fun a b => a * 31 + b.toUInt64) 0
  root * 0x9E3779B97F4A7C15 + tag

/-- The seed of a profile: the one that was given, or a derived one if there are several. -/
def resolveEffectiveSeed (rootSeed : UInt64) (profile : ProfileName) (profileCount : Nat)
    (explicitEffective : Option UInt64) : UInt64 :=
  match explicitEffective with
  | some s => s
  | none => if 1 < profileCount then deriveSeed rootSeed profile else rootSeed

/-- The report of a run. -/
structure NightlyReport where
  seed : UInt64
  total : Nat
  passed : Nat
  failed : Nat
  skipped : Nat
  outcomes : List ProfileOutcome

/-- The counts of the outcomes. -/
def buildReport (chaos : ChaosProfileConfig) (outcomes : List ProfileOutcome) : NightlyReport where
  seed := chaos.seed
  total := outcomes.length
  passed := outcomes.countP fun o => decide (o.status = .pass)
  failed := outcomes.countP fun o => decide (o.status = .fail)
  skipped := outcomes.countP fun o => decide (o.status = .skip)
  outcomes := outcomes

/-- Run the profiles that were asked for. -/
def runProfiles (env : ChaosEnv) (opts : RunOptions) : NightlyReport :=
  let profiles := resolveProfiles opts.profiles opts.config
  let chaos := opts.config.chaos
  buildReport chaos (profiles.map fun name =>
    let effective := resolveEffectiveSeed chaos.seed name profiles.length opts.effectiveSeed
    let outcome := runProfileCatchUnwind env { chaos with seed := effective } name
    outcome.withSeeds chaos.seed effective)

/-! ## Dropping packets -/

/-- The mock pair of the profiles can be made. -/
theorem newPair_ok : ∃ fpA fpB, newPair = .ok (.fresh "host" "viewer" fpA fpB) := by
  have hfp : ∀ value, ((DtlsFingerprint.sha256 value).toOption.isSome) = true →
      ∃ fp, DtlsFingerprint.sha256 value = .ok fp := by
    intro value h
    cases hfp : DtlsFingerprint.sha256 value with
    | ok fp => exact ⟨fp, rfl⟩
    | error e =>
      rw [hfp] at h
      cases h
  obtain ⟨fpA, hA⟩ := hfp
    "AAAAAAAAAAAAAAAAAAAAAAAAAAAAAAAAAAAAAAAAAAAAAAAAAAAAAAAAAAAAAAAA" (by decide +kernel)
  obtain ⟨fpB, hB⟩ := hfp
    "BBBBBBBBBBBBBBBBBBBBBBBBBBBBBBBBBBBBBBBBBBBBBBBBBBBBBBBBBBBBBBBB" (by decide +kernel)
  refine ⟨fpA, fpB, ?_⟩
  rw [newPair, hA, hB]

/-- Whether something that is sent is media. -/
def isMedia : Sent → Bool
  | .video _ => true
  | .audio _ => true
  | .data _ => false

/-- The tracks of a recording are the media that was delivered, and the messages the rest. -/
theorem recorded_length (cs : List PeerCallback) :
    (recordedTracks cs).length = (delivered cs).countP isMedia ∧
      (recordedData cs).length = (delivered cs).countP (!isMedia ·) := by
  induction cs with
  | nil => exact ⟨rfl, rfl⟩
  | cons c cs ih =>
    rcases ih with ⟨htracks, hdata⟩
    rcases c with candidate | state | (nalu | packet) | message
    · exact ⟨htracks, hdata⟩
    · exact ⟨htracks, hdata⟩
    · have hd : delivered (.track (.video nalu) :: cs) = .video nalu :: delivered cs := rfl
      have ht : recordedTracks (.track (.video nalu) :: cs) =
        .video nalu :: recordedTracks cs := rfl
      have hm : recordedData (.track (.video nalu) :: cs) = recordedData cs := rfl
      simp [hd, ht, hm, htracks, hdata, isMedia, List.countP_cons]
    · have hd : delivered (.track (.audio packet) :: cs) = .audio packet :: delivered cs := rfl
      have ht : recordedTracks (.track (.audio packet) :: cs) =
        .audio packet :: recordedTracks cs := rfl
      have hm : recordedData (.track (.audio packet) :: cs) = recordedData cs := rfl
      simp [hd, ht, hm, htracks, hdata, isMedia, List.countP_cons]
    · have hd : delivered (.data message :: cs) = .data message :: delivered cs := rfl
      have ht : recordedTracks (.data message :: cs) = recordedTracks cs := rfl
      have hm : recordedData (.data message :: cs) = message :: recordedData cs := rfl
      simp [hd, ht, hm, htracks, hdata, isMedia]

/-- Whether the timestamp of an iteration fits into 32 bits, as far as that is checked. -/
def Fits (overflowChecks : Bool) (i : Nat) : Prop :=
  overflowChecks = true → i * (if i % 2 = 0 then 3000 else 960) < 2 ^ 32

/-- What an iteration sends is media, if the timestamp fits. -/
theorem dropFrame_ok {overflowChecks : Bool} {i : Nat} (h : Fits overflowChecks i) :
    Succeeds (fun op => ∃ m, PeerOp.message op = some m ∧ isMedia m = true)
      (dropFrame overflowChecks i) := by
  unfold dropFrame mulU32
  unfold Fits at h
  split_ifs at h ⊢ with heven hover hover
  · exact absurd (h hover.1) (not_lt.mpr hover.2)
  · exact .ok ⟨_, rfl, rfl⟩
  · exact absurd (h hover.1) (not_lt.mpr hover.2)
  · exact .ok ⟨_, rfl, rfl⟩

/-- An iteration whose timestamp does not fit panics. -/
theorem dropFrame_error {overflowChecks : Bool} {i : Nat} (h : ¬Fits overflowChecks i) :
    ∃ e, dropFrame overflowChecks i = .error e := by
  unfold dropFrame mulU32
  simp only [Fits, Classical.not_imp, not_lt] at h
  split_ifs at h ⊢ with heven hover hover
  · exact ⟨_, rfl⟩
  · exact absurd h hover
  · exact ⟨_, rfl⟩
  · exact absurd h hover

/-- The counts after some iterations: the pair is connected, nothing has failed, and what has been
sent is what was not dropped. -/
structure DropOk (skip : Nat → Bool) (done : List Nat) (t : DropTally) : Prop where
  live : t.world.Live
  attempted : t.attempted = done.length
  dropped : t.dropped = done.countP skip
  sent : t.sent = done.countP (!skip ·)
  sendErrors : t.sendErrors = 0
  wire : (t.world.sent .a).length = t.sent
  media : ∀ m ∈ t.world.sent .a, isMedia m = true

/-- An iteration that does not overflow. -/
theorem DropOk.step {overflowChecks : Bool} {skip : Nat → Bool} {done : List Nat} {t : DropTally}
    (h : DropOk skip done t) {i : Nat} (hfits : skip i = false → Fits overflowChecks i) :
    Succeeds (DropOk skip (done ++ [i])) (dropStep overflowChecks skip t i) := by
  unfold dropStep
  cases hskip : skip i with
  | true =>
    refine .ok ⟨h.live, ?_, ?_, ?_, h.sendErrors, h.wire, h.media⟩
    · simp [h.attempted]
    · simp [h.dropped, hskip]
    · simp [h.sent, hskip]
  | false =>
    obtain ⟨op, hop, m, hmessage, hmedia⟩ := dropFrame_ok (hfits hskip)
    obtain ⟨hresult, hlive, hsent⟩ := h.live.send .a hmessage
    simp only [hop, Except.map, hresult, Bool.false_eq_true, if_false]
    refine .ok ⟨hlive, ?_, ?_, ?_, h.sendErrors, ?_, ?_⟩
    · simp [h.attempted]
    · simp [h.dropped, hskip]
    · simp [h.sent, hskip]
    · simp [hsent, h.wire]
    · intro m' hm'
      simp only [hsent, Function.update_self, List.mem_append, List.mem_singleton] at hm'
      rcases hm' with hold | rfl
      · exact h.media m' hold
      · exact hmedia

/-- **The profile passes unless a timestamp overflows**, whatever is drawn, and then everything that
was not dropped is received. -/
theorem runDropPackets_ok (env : ChaosEnv) (cfg : ChaosProfileConfig)
    (hfits : ∀ i < iterationCount cfg, skips env cfg i = false → Fits env.overflowChecks i) :
    Succeeds (fun o => o.profile = .dropPackets ∧ o.status = .pass ∧
      ∃ dropped sent, dropped + sent = iterationCount cfg ∧
        sent = (List.range (iterationCount cfg)).countP (!skips env cfg ·) ∧
        o.metrics =
          .dropPackets (iterationCount cfg) dropped sent sent 0 (clampRat cfg.dropRate 0 1))
      (runDropPackets env cfg) := by
  obtain ⟨fpA, fpB, hpair⟩ := newPair_ok
  obtain ⟨w, hw, hshaking⟩ := handshake_connects "host" "viewer" fpA fpB
  have hconnected : w.pair.peerA.state = .connected := (hshaking.peer .a).state
  have hstart : DropOk (skips env cfg) [] ⟨w, 0, 0, 0, 0⟩ :=
    ⟨hshaking.live, rfl, rfl, rfl, rfl, by rw [hshaking.sent]; rfl,
      fun m hm => by rw [hshaking.sent] at hm; cases hm⟩
  obtain ⟨t, ht, hok⟩ := Succeeds.foldlM (l := List.range (iterationCount cfg))
    (fun done i t hi h => h.step (hfits i (List.mem_range.mp hi))) hstart
  obtain ⟨w', hflush, -, -, hheard⟩ := hok.live.flush
  have hreceived : (recordedTracks (w'.heard .b)).length = t.sent := by
    rw [(recorded_length _).1, hheard .b, ← hok.wire]
    exact List.countP_eq_length.mpr hok.media
  rw [List.nil_append] at hok
  have hcounts : t.dropped + t.sent = t.attempted := by
    rw [hok.dropped, hok.sent, hok.attempted]
    have hsplit := List.length_eq_countP_add_countP (skips env cfg)
      (l := List.range (iterationCount cfg))
    simpa using hsplit.symm
  have hattempted : t.attempted = iterationCount cfg := by
    rw [hok.attempted, List.length_range]
  refine ⟨dropOutcome env cfg t (recordedTracks (w'.heard .b)).length, ?_, ?_⟩
  · simp only [runDropPackets, hpair, hw, hconnected, ht, hflush, bind, Except.bind, pure,
      Except.pure, ne_eq, not_true_eq_false, if_false]
  · rw [dropOutcome, if_pos ⟨hok.sendErrors, hreceived, hcounts⟩]
    refine ⟨rfl, rfl, t.dropped, t.sent, hcounts.trans hattempted, hok.sent, ?_⟩
    rw [hreceived, hok.sendErrors, hattempted]

/-- A timestamp that overflows makes the profile panic. -/
theorem runDropPackets_error (env : ChaosEnv) (cfg : ChaosProfileConfig) {i : Nat}
    (hi : i < iterationCount cfg) (hskip : skips env cfg i = false)
    (hover : ¬Fits env.overflowChecks i) : ∃ e, runDropPackets env cfg = .error e := by
  obtain ⟨fpA, fpB, hpair⟩ := newPair_ok
  obtain ⟨w, hw, hshaking⟩ := handshake_connects "host" "viewer" fpA fpB
  have hconnected : w.pair.peerA.state = .connected := (hshaking.peer .a).state
  have hstep : ∀ t, ∃ e, dropStep env.overflowChecks (skips env cfg) t i = .error e := by
    intro t
    obtain ⟨e, he⟩ := dropFrame_error hover
    refine ⟨e, ?_⟩
    rw [dropStep, if_neg (by simp [hskip]), he]
    rfl
  obtain ⟨e, he⟩ := foldlM_error (List.mem_range.mpr hi) hstep ⟨w, 0, 0, 0, 0⟩
  refine ⟨e, ?_⟩
  simp only [runDropPackets, hpair, hw, hconnected, he, bind, Except.bind, ne_eq,
    not_true_eq_false, if_false]

/-! ## Reconnecting -/

theorem expect_ok {condition : Bool} (h : condition = true) (summary : String) :
    Succeeds (fun _ => True) (expect condition summary) := by
  rw [expect, if_pos h]
  exact .ok trivial

/-- **A cycle succeeds.** -/
theorem reconnectCycle_ok (labelA labelB : String) (fpA fpB : DtlsFingerprint) (cycle : Nat) :
    Succeeds (fun _ => True) (reconnectCycle (.fresh labelA labelB fpA fpB) cycle) := by
  refine .bind (handshake_connects labelA labelB fpA fpB).mapError fun w h => ?_
  refine .bind (expect_ok ?_ _) fun _ _ => ?_
  · exact decide_eq_true ⟨(h.peer .a).state, (h.peer .b).state⟩
  refine .bind (h.live.call_send .a rfl).mapError fun w₁ ⟨hlive₁, hsent₁⟩ => ?_
  refine .bind (hlive₁.call_send .a rfl).mapError fun w₂ ⟨hlive₂, hsent₂⟩ => ?_
  refine .bind hlive₂.flush.mapError fun w₃ ⟨hlive₃, _, hheard⟩ => ?_
  have hwire := hheard .b
  rw [Side.other, hsent₂, Function.update_self, hsent₁, Function.update_self, h.sent] at hwire
  refine .bind (expect_ok ?_ _) fun _ _ => ?_
  · have htracks := (recorded_length (w₃.heard .b)).1
    have hmessages := (recorded_length (w₃.heard .b)).2
    rw [hwire] at htracks hmessages
    simp only [Bool.and_eq_true, Bool.not_eq_true', List.isEmpty_eq_false_iff,
      ← List.length_pos_iff, htracks, hmessages]
    exact ⟨Nat.one_pos, Nat.one_pos⟩
  refine .bind (hlive₃.close .a).mapError fun w₄ ⟨hclosed, hdisconnected⟩ => ?_
  refine .bind (expect_ok (decide_eq_true hclosed) _) fun _ _ => ?_
  exact expect_ok (decide_eq_true (.inl hdisconnected)) _

theorem reconnectLoop_ok (labelA labelB : String) (fpA fpB : DtlsFingerprint) (cycles : List Nat)
    (completed : Nat) : reconnectLoop (.fresh labelA labelB fpA fpB) cycles completed =
      .ok (completed + cycles.length) := by
  induction cycles generalizing completed with
  | nil => rfl
  | cons cycle cycles ih =>
    obtain ⟨u, hu, -⟩ := reconnectCycle_ok labelA labelB fpA fpB cycle
    rw [reconnectLoop, hu, ih, List.length_cons, add_right_comm, add_assoc]

/-- **The profile passes**, and has completed all cycles. -/
theorem runReconnect_ok (cfg : ChaosProfileConfig) :
    Succeeds (fun o => o.profile = .reconnect ∧ o.status = .pass ∧
      o.metrics = .reconnect (max cfg.reconnectCycles.toNat 1) (max cfg.reconnectCycles.toNat 1)
        (max cfg.reconnectCycles.toNat 1) 1) (runReconnect cfg) := by
  obtain ⟨fpA, fpB, hpair⟩ := newPair_ok
  have hrestart : Succeeds (fun n => n = 1)
      (iceRestart (.fresh "host" "viewer" fpA fpB)) := by
    refine .bind (handshake_connects _ _ fpA fpB).mapError fun w h => ?_
    refine .bind (h.live.restartIce .a).mapError fun w' ⟨hcount, hconnected⟩ => ?_
    refine .bind (expect_ok (decide_eq_true hcount) _) fun _ _ => ?_
    exact .bind (expect_ok (decide_eq_true hconnected) _) fun _ _ => .ok hcount
  obtain ⟨n, hn, rfl⟩ := hrestart
  simp only [runReconnect, hpair, reconnectLoop_ok, hn, bind, Except.bind, pure, Except.pure,
    List.length_range, Nat.zero_add]
  exact .ok ⟨rfl, rfl, rfl⟩

/-! ## Forcing a skew -/

/-- The controller of the profile after the first sample, which is within the dead band. -/
theorem update_inside : (SkewController.new .default).update
    ⟨100, 100 + SkewConfig.default.deadbandMs * (1 / 2)⟩ 0 =
      (⟨-15 / 2, 0, 1, true⟩, SkewController.new .default) := by
  have hskew :
      SkewSample.skewMs ⟨100, 100 + SkewConfig.default.deadbandMs * (1 / 2)⟩ = -15 / 2 := by
    norm_num [SkewSample.skewMs, SkewConfig.default]
  rw [update_inDeadband, hskew]
  rw [hskew]
  norm_num [SkewController.new, SkewConfig.default, abs_of_neg]

/-- A skew within the dead band is not forced out of it. -/
theorem desyncChecks_error (env : ChaosEnv) {inject : ℚ} (hpos : 0 ≤ inject)
    (hband : inject ≤ SkewConfig.default.deadbandMs) : ∃ e, desyncChecks env inject = .error e := by
  have hskew : SkewSample.skewMs ⟨1000 + inject, 1000⟩ = inject := by
    rw [SkewSample.skewMs]
    ring
  have hahead : (SkewController.new .default).update ⟨1000 + inject, 1000⟩ 0 =
      (⟨inject, 0, 1, true⟩, SkewController.new .default) := by
    rw [update_inDeadband, hskew]
    rw [hskew, abs_of_nonneg hpos]
    exact hband
  refine ⟨"expected leave deadband on audio-ahead inject", ?_⟩
  have hcfg : (SkewController.new .default).cfg = SkewConfig.default := rfl
  simp only [desyncChecks, hcfg, update_inside, hahead, expect, bind, Except.bind, Bool.true_and,
    decide_true, if_true, Bool.not_true, Bool.false_eq_true, if_false]

/-- What a controller with the default configuration does about a skew beyond the dead band. -/
structure Answers (c : SkewController) (sample : SkewSample) (wallMs : ℚ)
    (answer : SkewDecision × SkewController) : Prop where
  skewMs : answer.1.skewMs = sample.skewMs
  inDeadband : answer.1.inDeadband = false
  delayAdjustMs : answer.1.delayAdjustMs = if 0 < sample.skewMs then 5 else -5
  ratioSign : SignType.sign (answer.1.resampleRatio - 1) = SignType.sign sample.skewMs
  ratioWithin : answer.1.resampleRatio ≤ 1 + SkewConfig.default.maxStretch
  cfg : answer.2.cfg = .default
  lastStepWallMs : answer.2.lastStepWallMs = some wallMs

theorem update_answers (c : SkewController) (sample : SkewSample) (wallMs : ℚ)
    (hcfg : c.cfg = .default) (hcan : c.canStep wallMs = true)
    (hband : SkewConfig.default.deadbandMs < |sample.skewMs|) :
    Answers c sample wallMs (c.update sample wallMs) := by
  have hvalid : c.cfg.Valid := hcfg ▸ SkewConfig.default_valid
  have hstretch : 0 < c.cfg.maxStretch := by
    rw [hcfg]
    norm_num [SkewConfig.default]
  have hout : ¬|sample.skewMs| ≤ c.cfg.deadbandMs := hcfg ▸ not_le.mpr hband
  have hupdate : (c.update sample wallMs).1.inDeadband = false ∧
      (c.update sample wallMs).1.delayAdjustMs = (if 0 < sample.skewMs then 5 else -5) ∧
      (c.update sample wallMs).2.lastStepWallMs = some wallMs := by
    have hstepMs : c.cfg.stepMs = 5 := by rw [hcfg]; rfl
    unfold SkewController.update
    simp only [if_neg hout, hcan, if_true, hstepMs, and_self]
  exact ⟨update_skewMs, hupdate.1, hupdate.2.1, update_ratio_sign hvalid hout hstretch,
    hcfg ▸ (update_ratio_within hvalid).2, update_cfg.trans hcfg, hupdate.2.2⟩

/-- **A skew beyond the dead band is answered** in both directions. -/
theorem desyncChecks_ok (env : ChaosEnv) {inject : ℚ}
    (hband : SkewConfig.default.deadbandMs < inject) :
    Succeeds (fun _ => True) (desyncChecks env inject) := by
  have hpos : 0 < inject := SkewConfig.default_valid.deadband.trans_lt hband
  have hskewA : SkewSample.skewMs ⟨1000 + inject, 1000⟩ = inject := by
    rw [SkewSample.skewMs]
    ring
  have hskewB : SkewSample.skewMs ⟨2000, 2000 + inject⟩ = -inject := by
    rw [SkewSample.skewMs]
    ring
  have hcfg : (SkewController.new .default).cfg = SkewConfig.default := rfl
  -- audio is ahead: the first step is always allowed
  have hA := update_answers (.new .default) ⟨1000 + inject, 1000⟩ 0 rfl rfl
    (by rwa [hskewA, abs_of_pos hpos])
  simp only [desyncChecks, hcfg, update_inside]
  generalize (SkewController.new .default).update ⟨1000 + inject, 1000⟩ 0 = ahead at *
  -- audio is behind: ten seconds later the next step is
  have hcan : ahead.2.canStep 10000 = true := by
    rw [SkewController.canStep, hA.lastStepWallMs]
    simp only [hA.cfg]
    norm_num [SkewConfig.default]
  have hB := update_answers ahead.2 ⟨2000, 2000 + inject⟩ 10000 hA.cfg hcan
    (by rwa [hskewB, abs_neg, abs_of_pos hpos])
  generalize ahead.2.update ⟨2000, 2000 + inject⟩ 10000 = behind at *
  have hskew : 0 < ahead.1.skewMs := by rwa [hA.skewMs, hskewA]
  have hskew' : behind.1.skewMs < 0 := by
    rw [hB.skewMs, hskewB]
    exact neg_neg_of_pos hpos
  have hstep : 0 < ahead.1.delayAdjustMs := by
    rw [hA.delayAdjustMs, hskewA, if_pos hpos]
    norm_num
  have hstep' : behind.1.delayAdjustMs < 0 := by
    rw [hB.delayAdjustMs, hskewB, if_neg (by linarith)]
    norm_num
  have hratio : 1 < ahead.1.resampleRatio := by
    have hsign := hA.ratioSign
    rw [hskewA, sign_pos hpos, sign_eq_one_iff] at hsign
    linarith
  have hratio' : behind.1.resampleRatio < 1 := by
    have hsign := hB.ratioSign
    rw [hskewB, sign_neg (neg_neg_of_pos hpos), sign_eq_neg_one_iff] at hsign
    linarith
  have hwithin : ahead.1.resampleRatio ≤ 1 + ahead.2.cfg.maxStretch + 1 / 1000000000 := by
    rw [hA.cfg]
    have := hA.ratioWithin
    linarith
  refine .bind (expect_ok rfl _) fun _ _ => ?_
  refine .bind (expect_ok (by rw [hA.inDeadband]; rfl) _) fun _ _ => ?_
  refine .bind (expect_ok (decide_eq_true hskew) _) fun _ _ => ?_
  refine .bind (expect_ok (decide_eq_true hstep) _) fun _ _ => ?_
  refine .bind (expect_ok (decide_eq_true hratio) _) fun _ _ => ?_
  refine .bind (expect_ok (decide_eq_true hwithin) _) fun _ _ => ?_
  refine .bind (expect_ok (decide_eq_true hskew') _) fun _ _ => ?_
  refine .bind (expect_ok (decide_eq_true hstep') _) fun _ _ => ?_
  refine .bind (expect_ok (decide_eq_true hratio') _) fun _ _ => ?_
  exact .bind (expect_ok rfl _) fun _ _ => .ok trivial

/-! ## Alarms -/

/-- When a profile raises an alarm: dropping packets when the timestamp of a packet that is not
dropped overflows, and forcing a skew when the skew is within the dead band. -/
def RaisesAlarm (env : ChaosEnv) (cfg : ChaosProfileConfig) : ProfileName → Prop
  | .dropPackets => ∃ i < iterationCount cfg, skips env cfg i = false ∧ ¬Fits env.overflowChecks i
  | .reconnect => False
  | .audioDesync => max |cfg.skewInjectMs| 1 ≤ SkewConfig.default.deadbandMs
  | .protocolFuzz => (runProfileCatchUnwind env cfg .protocolFuzz).status = .fail

/-- What a profile that passes has measured. -/
def Measured (env : ChaosEnv) (cfg : ChaosProfileConfig) : ProfileName → Metrics → Prop
  | .dropPackets, metrics => ∃ dropped sent, dropped + sent = iterationCount cfg ∧
      sent = (List.range (iterationCount cfg)).countP (!skips env cfg ·) ∧
      metrics = .dropPackets (iterationCount cfg) dropped sent sent 0 (clampRat cfg.dropRate 0 1)
  | .reconnect, metrics => metrics = .reconnect (max cfg.reconnectCycles.toNat 1)
      (max cfg.reconnectCycles.toNat 1) (max cfg.reconnectCycles.toNat 1) 1
  | .audioDesync, _ => True
  | .protocolFuzz, _ => True

/-- **When a profile raises an alarm.** -/
theorem runProfile_alarm (env : ChaosEnv) (cfg : ChaosProfileConfig) (name : ProfileName) :
    ((runProfileCatchUnwind env cfg name).status = .fail ↔ RaisesAlarm env cfg name) ∧
    (name ≠ .protocolFuzz → ¬RaisesAlarm env cfg name →
      (runProfileCatchUnwind env cfg name).status = .pass ∧
        Measured env cfg name (runProfileCatchUnwind env cfg name).metrics) := by
  cases name with
  | dropPackets =>
    by_cases halarm : RaisesAlarm env cfg .dropPackets
    · obtain ⟨i, hi, hskip, hover⟩ := halarm
      obtain ⟨e, he⟩ := runDropPackets_error env cfg hi hskip hover
      have hfail : (runProfileCatchUnwind env cfg .dropPackets).status = .fail := by
        rw [runProfileCatchUnwind, runProfile, he]
      exact ⟨⟨fun _ => ⟨i, hi, hskip, hover⟩, fun _ => hfail⟩,
        fun _ hno => absurd ⟨i, hi, hskip, hover⟩ hno⟩
    · have hfits : ∀ i < iterationCount cfg, skips env cfg i = false →
          Fits env.overflowChecks i := by
        intro i hi hskip
        by_contra hover
        exact halarm ⟨i, hi, hskip, hover⟩
      obtain ⟨o, ho, -, hpass, hmetrics⟩ := runDropPackets_ok env cfg hfits
      have hrun : runProfileCatchUnwind env cfg .dropPackets = o := by
        rw [runProfileCatchUnwind, runProfile, ho]
      rw [hrun, hpass]
      exact ⟨⟨(fun h => by cases h), fun h => absurd h halarm⟩, fun _ _ => ⟨rfl, hmetrics⟩⟩
  | reconnect =>
    obtain ⟨o, ho, -, hpass, hmetrics⟩ := runReconnect_ok cfg
    have hrun : runProfileCatchUnwind env cfg .reconnect = o := by
      rw [runProfileCatchUnwind, runProfile, ho]
    rw [hrun, hpass]
    exact ⟨⟨(fun h => by cases h), fun h => h.elim⟩, fun _ _ => ⟨rfl, hmetrics⟩⟩
  | audioDesync =>
    have hrun : runProfileCatchUnwind env cfg .audioDesync = runAudioDesync env cfg := rfl
    rw [hrun]
    by_cases halarm : RaisesAlarm env cfg .audioDesync
    · obtain ⟨e, he⟩ := desyncChecks_error env (zero_le_one.trans (le_max_right _ _)) halarm
      have hfail : (runAudioDesync env cfg).status = .fail := by
        rw [runAudioDesync, injectMs, he]
        rfl
      exact ⟨⟨fun _ => halarm, fun _ => hfail⟩, fun _ hno => absurd halarm hno⟩
    · obtain ⟨answer, hanswer, -⟩ := desyncChecks_ok env (not_le.mp halarm)
      have hpass : (runAudioDesync env cfg).status = .pass := by
        rw [runAudioDesync, injectMs, hanswer]
      rw [hpass]
      exact ⟨⟨(fun h => by cases h), fun h => absurd h halarm⟩, fun _ _ => ⟨rfl, trivial⟩⟩
  | protocolFuzz => exact ⟨.rfl, fun h => absurd rfl h⟩

/-- The parameters of a profile in a run. -/
def profileConfig (opts : RunOptions) (name : ProfileName) : ChaosProfileConfig :=
  { opts.config.chaos with
    seed := resolveEffectiveSeed opts.config.chaos.seed name
      (resolveProfiles opts.profiles opts.config).length opts.effectiveSeed }

end RemoteLink.Agents
