import Mathlib.Data.List.Basic
import Mathlib.Order.MinMax
import Mathlib.Tactic.SplitIfs

set_option autoImplicit false

/-!
# Loopback capture

What the loopback captures hand out: packets of a fixed number of frames, with the time of their
first sample. The device delivers buffers of any length; the native capture queues their samples
and cuts packets off the front, the stub makes its packets from a tone. The time of a sample is
computed from its index, in 64-bit arithmetic that saturates before it divides.

## Main definitions

* `sampleNanos` — the nanoseconds of a number of samples, as the code computes them.
* `NativeLoopbackCapture`, `StubLoopbackCapture` — the two captures.
* `captureAll` — the packets of a sequence of calls.

## Main results

* `sampleNanos_eq_iff` — where the nanoseconds are exact.
* `NativeLoopbackCapture.captured` — the packets are the captured samples, in order.
* `Stamps.times` — the packets of a run are stamped along a time line.
* `Stamps.onTime_iff`, `capture_timestamps` — exactly the times that fit are exact.
* `Stamps.stalls`, `capture_stalls` — the times of later packets are all the same.
-/

namespace RemoteLink.Platform

/-! ## Durations -/

/-- The largest 64-bit number. -/
def maxU64 : Nat := 18446744073709551615

/-- The largest 32-bit number. -/
def maxU32 : Nat := 4294967295

/-- The longest duration in nanoseconds: all seconds of 64 bits, and less than one more. -/
def maxDuration : Nat := maxU64 * 1000000000 + 999999999

/-- The sum of two durations; one that is too long is a panic. -/
def addDurations (a b : Nat) : Option Nat := if a + b ≤ maxDuration then some (a + b) else none

/-- The nanoseconds of an index at some rate: the product saturates before it is divided. -/
def sampleNanos (index rate : Nat) : Nat := min (index * 1000000000) maxU64 / rate

/-- The time of a device position, from the time of the client's start. -/
def positionToHostMono (positionSamples clockFrequencyHz clientStartHostMono : Nat) :
    Option Nat :=
  if clockFrequencyHz = 0 then some clientStartHostMono
  else addDurations clientStartHostMono (sampleNanos positionSamples clockFrequencyHz)

/-- Whether the time of an index can be told exactly: its nanoseconds are no more than those that
64 bits hold, and the sum with the start is a duration. -/
def TimeFits (start index rate : Nat) : Prop :=
  index * 1000000000 / rate ≤ maxU64 / rate ∧ start + index * 1000000000 / rate ≤ maxDuration

instance (start index rate : Nat) : Decidable (TimeFits start index rate) := by
  unfold TimeFits
  infer_instance

section

variable {start index rate : Nat}

theorem sampleNanos_eq_min : sampleNanos index rate =
    min (index * 1000000000 / rate) (maxU64 / rate) := by
  unfold sampleNanos
  obtain hle | hle := le_total (index * 1000000000) maxU64
  · rw [min_eq_left hle, min_eq_left (Nat.div_le_div_right hle)]
  · rw [min_eq_right hle, min_eq_right (Nat.div_le_div_right hle)]

/-- **The nanoseconds are exact where they are no more than those that 64 bits hold.** -/
theorem sampleNanos_eq_iff : sampleNanos index rate = index * 1000000000 / rate ↔
    index * 1000000000 / rate ≤ maxU64 / rate := by
  rw [sampleNanos_eq_min]
  exact min_eq_left_iff

/-- An index of more than 64 bits would not make a difference. -/
theorem sampleNanos_min : sampleNanos (min index maxU64) rate = sampleNanos index rate := by
  have hmin : min (min index maxU64 * 1000000000) maxU64 = min (index * 1000000000) maxU64 := by
    omega
  unfold sampleNanos
  rw [hmin]

/-- From some index on the nanoseconds stay the same. -/
theorem sampleNanos_of_ge (h : maxU64 ≤ index * 1000000000) :
    sampleNanos index rate = maxU64 / rate := by
  unfold sampleNanos
  rw [min_eq_right h]

theorem sampleNanos_le_maxU64 : sampleNanos index rate ≤ maxU64 :=
  (Nat.div_le_self _ _).trans (min_le_right _ _)

theorem addDurations_eq_some {b total : Nat} :
    addDurations start b = some total ↔ total = start + b ∧ start + b ≤ maxDuration := by
  unfold addDurations
  split_ifs with hfits
  · rw [Option.some.injEq, eq_comm]
    exact (and_iff_left hfits).symm
  · constructor
    · intro h
      cases h
    · intro h
      exact absurd h.2 hfits

/-- **A time is exact exactly where it fits.** -/
theorem addDurations_sampleNanos_iff :
    addDurations start (sampleNanos index rate) = some (start + index * 1000000000 / rate) ↔
      TimeFits start index rate := by
  rw [addDurations_eq_some, Nat.add_left_cancel_iff, eq_comm, sampleNanos_eq_iff]
  constructor
  · intro h
    have hexact := sampleNanos_eq_iff.mpr h.1
    exact ⟨h.1, hexact ▸ h.2⟩
  · intro h
    have hexact := sampleNanos_eq_iff.mpr h.1
    exact ⟨h.1, hexact.symm ▸ h.2⟩

/-- Steps of a nanosecond or more lead to later times. -/
theorem exact_lt_exact {p : Nat} (hrate : 0 < rate) (hp : rate ≤ p * 1000000000) :
    index * 1000000000 / rate < (index + p) * 1000000000 / rate := by
  calc index * 1000000000 / rate
    _ < index * 1000000000 / rate + 1 := Nat.lt_succ_self _
    _ = (index * 1000000000 + rate) / rate := (Nat.add_div_right _ hrate).symm
    _ ≤ (index + p) * 1000000000 / rate := by
      rw [Nat.add_mul]
      exact Nat.div_le_div_right (Nat.add_le_add_left hp _)

end

/-! ## Energy -/

/-- Samples up to this are near silence. -/
def nearSilencePeak : Int16 := 32

/-- Whether no sample exceeds a threshold. -/
def pcmIsNearSilence (pcm : List Int16) (peakThreshold : Int16) : Bool :=
  if pcm.isEmpty then true
  else pcm.all fun s => decide (s.toInt.natAbs ≤ peakThreshold.toInt.natAbs)

/-- Whether a packet is near silence. -/
def pcmIsNearSilenceDefault (pcm : List Int16) : Bool := pcmIsNearSilence pcm nearSilencePeak

/-- Why a change of the device was reported. -/
inductive DeviceChangeReason where
  | defaultDeviceChanged
  | deviceAdded
  | deviceRemoved
  | deviceStateChanged
  | synthetic
  deriving Repr, DecidableEq

/-- A warning of silence under exclusive use. -/
structure ExclusiveModeWarning where
  sustainedSilenceMs : Nat
  message : String
  deriving Repr, DecidableEq

/-- What a capture reports. -/
inductive LoopbackEvent where
  | deviceChanged (reason : DeviceChangeReason)
  | exclusiveMode (warning : ExclusiveModeWarning)
  | clientOpenFailed (message : String)
  deriving Repr, DecidableEq

/-- The silent packets in a row, and whether they have been reported. -/
structure SilenceStreak where
  packetMs : Nat
  silentStreak : Nat
  exclusiveSilencePackets : Nat
  exclusiveWarned : Bool
  deriving Repr, DecidableEq

/-- Count a packet; enough silent ones in a row are reported once. -/
def SilenceStreak.noteEnergy (s : SilenceStreak) (silent : Bool) :
    SilenceStreak × List LoopbackEvent :=
  if silent then
    let s := { s with silentStreak := min (s.silentStreak + 1) maxU32 }
    if !s.exclusiveWarned && decide (s.exclusiveSilencePackets ≤ s.silentStreak) then
      ({ s with exclusiveWarned := true }, [.exclusiveMode
        ⟨s.silentStreak * s.packetMs,
          "loopback near-zero energy (possible exclusive-mode audio)"⟩])
    else (s, [])
  else ({ s with silentStreak := 0, exclusiveWarned := false }, [])

/-! ## Configurations -/

/-- How a capture is to be opened. -/
structure LoopbackConfig where
  sampleRate : UInt32
  channels : UInt16
  packetMs : UInt32
  startPtsMs : UInt64
  exclusiveSilenceMs : UInt64
  deriving Repr, DecidableEq

instance : Inhabited LoopbackConfig := ⟨⟨48000, 2, 10, 0, 500⟩⟩

/-- Why a capture fails. -/
inductive LoopbackError where
  | invalidConfig (message : String)
  | reopenRequired
  deriving Repr, DecidableEq

/-- The frames of a packet, in arithmetic that saturates. -/
def saturatedFrames (sampleRate packetMs : UInt32) : Nat :=
  min (sampleRate.toNat * packetMs.toNat) maxU32 / 1000

/-- Check a configuration. -/
def validateConfig (config : LoopbackConfig) : Except LoopbackError Unit :=
  if config.sampleRate = 0 then .error (.invalidConfig "sample_rate == 0")
  else if config.channels = 0 then .error (.invalidConfig "channels == 0")
  else if config.packetMs = 0 then .error (.invalidConfig "packet_ms == 0")
  else if saturatedFrames config.sampleRate config.packetMs = 0 then
    .error (.invalidConfig "packet too short for sample_rate")
  else .ok ()

/-- No silence yet. -/
def LoopbackConfig.silence (config : LoopbackConfig) : SilenceStreak where
  packetMs := config.packetMs.toNat
  silentStreak := 0
  exclusiveSilencePackets :=
    max ((config.exclusiveSilenceMs.toNat + (max config.packetMs.toNat 1 - 1)) /
      max config.packetMs.toNat 1) 1 % (maxU32 + 1)
  exclusiveWarned := false

/-! ## Packets -/

/-- A packet of interleaved samples, with the time of the first one. -/
structure AudioFrame where
  ptsHostMono : Nat
  sampleRate : UInt32
  channels : UInt16
  pcmS16 : List Int16
  deriving Repr, DecidableEq

/-- A buffer of the device: how many frames, whether it is flagged silent, and the samples (brought
to 16 bits) where it is not. -/
structure DeviceBuffer where
  numFrames : Nat
  silent : Bool
  pcm : List Int16
  deriving Repr, DecidableEq

/-- The samples of a buffer. -/
def DeviceBuffer.samples (channels : UInt16) (buffer : DeviceBuffer) : List Int16 :=
  if buffer.silent then List.replicate (buffer.numFrames * channels.toNat) 0 else buffer.pcm

/-- A call on a capture; the device's answers come with it, `none` where it has none. -/
inductive LoopbackCall where
  | nextFrame (device : List (Option DeviceBuffer))
  | stop
  | injectDeviceChange (reason : DeviceChangeReason) (newStartPts : Nat)
  | injectSilencePackets (count : UInt32)
  deriving Repr, DecidableEq

/-! ## The native capture -/

/-- The native capture: the samples it has handed out, and those not yet in a packet. -/
structure NativeLoopbackCapture where
  sampleRate : UInt32
  channels : UInt16
  packetFrames : Nat
  running : Bool
  startPts : Nat
  samplesEmitted : Nat
  pending : List Int16
  silence : SilenceStreak
  deriving Repr, DecidableEq

/-- The buffers that one pull takes from the device: up to the first failure or empty one, and so
many at most. -/
def pulled : Nat → List (Option DeviceBuffer) → List DeviceBuffer
  | 0, _ => []
  | _, [] => []
  | _, none :: _ => []
  | n + 1, some buffer :: device =>
    if buffer.numFrames = 0 then [] else buffer :: pulled n device

namespace NativeLoopbackCapture

/-- Open a capture on a device with a mix format, which is preferred to the configuration. -/
def windowsTryOpen (config : LoopbackConfig) (mixRate : UInt32) (mixChannels : UInt16) :
    NativeLoopbackCapture :=
  let sampleRate := if mixRate = 0 then config.sampleRate else mixRate
  let channels := if mixChannels = 0 then config.channels else mixChannels
  { sampleRate, channels
    packetFrames := max (saturatedFrames sampleRate config.packetMs) 1
    running := true
    startPts := config.startPtsMs.toNat * 1000000
    samplesEmitted := 0
    pending := []
    silence := config.silence }

/-- The time of a sample. -/
def ptsForSampleIndex (s : NativeLoopbackCapture) (index : Nat) : Option Nat :=
  addDurations s.startPts (sampleNanos index (max s.sampleRate.toNat 1))

/-- Cut a packet off the queue, where there is a whole one. -/
def takePacket (s : NativeLoopbackCapture) :
    Option (NativeLoopbackCapture × Option AudioFrame × List LoopbackEvent) :=
  let need := s.packetFrames * s.channels.toNat
  if s.pending.length < need then some (s, none, [])
  else do
    let pcm := s.pending.take need
    let pts ← s.ptsForSampleIndex s.samplesEmitted
    let (silence, events) := s.silence.noteEnergy (pcmIsNearSilenceDefault pcm)
    some ({ s with
        pending := s.pending.drop need
        samplesEmitted := min (s.samplesEmitted + s.packetFrames) maxU64
        silence },
      some ⟨pts, s.sampleRate, s.channels, pcm⟩, events)

/-- Queue what the device has. -/
def pullFromDevice (s : NativeLoopbackCapture) (device : List (Option DeviceBuffer)) :
    NativeLoopbackCapture :=
  { s with pending := (pulled 32 device).foldl (fun q b => q ++ b.samples s.channels) s.pending }

/-- A call on the native capture: its state after it, the packet it returns and what it reports. A
change of the device stops it, it has to be opened again. -/
def step (s : NativeLoopbackCapture) :
    LoopbackCall → Option (NativeLoopbackCapture × Option AudioFrame × List LoopbackEvent)
  | .nextFrame device =>
    if !s.running then some (s, none, []) else (s.pullFromDevice device).takePacket
  | .stop => some ({ s with running := false }, none, [])
  | .injectDeviceChange reason _ => some ({ s with running := false }, none, [.deviceChanged reason])
  | .injectSilencePackets count => some ({ s with
      pending := s.pending ++ List.replicate (count.toNat * s.packetFrames * s.channels.toNat) 0 },
      none, [])

/-- The samples that come in with a call. -/
def captures (s : NativeLoopbackCapture) : LoopbackCall → List Int16
  | .nextFrame device => if s.running then (pulled 32 device).flatMap (·.samples s.channels) else []
  | .injectSilencePackets count =>
    List.replicate (count.toNat * s.packetFrames * s.channels.toNat) 0
  | .stop | .injectDeviceChange .. => []

end NativeLoopbackCapture

/-! ## The stub -/

/-- The stub: its packets are of a tone, or silent. -/
structure StubLoopbackCapture where
  sampleRate : UInt32
  channels : UInt16
  packetFrames : Nat
  sampleIndex : Nat
  startPts : Nat
  running : Bool
  silencePacketsLeft : Nat
  silence : SilenceStreak
  mediaRestartCount : Nat
  deriving Repr, DecidableEq

namespace StubLoopbackCapture

/-- Open the stub; a product of more than 32 bits is a panic. -/
def openStub (config : LoopbackConfig) : Option (Except LoopbackError StubLoopbackCapture) :=
  if maxU32 < config.sampleRate.toNat * config.packetMs.toNat then none
  else
    let packetFrames := config.sampleRate.toNat * config.packetMs.toNat / 1000
    if packetFrames = 0 then some (.error (.invalidConfig "packet_frames == 0"))
    else some (.ok {
      sampleRate := config.sampleRate
      channels := config.channels
      packetFrames
      sampleIndex := 0
      startPts := config.startPtsMs.toNat * 1000000
      running := true
      silencePacketsLeft := 0
      silence := config.silence
      mediaRestartCount := 0 })

/-- The time of a sample. -/
def ptsForSampleIndex (s : StubLoopbackCapture) (index : Nat) : Option Nat :=
  addDurations s.startPts (sampleNanos index s.sampleRate.toNat)

/-- Make a packet of a tone, whose samples go by their index; an index of more than 64 bits is a
panic. -/
def renderPacket (tone : Nat → Int16) (s : StubLoopbackCapture) (silent : Bool) :
    Option (StubLoopbackCapture × AudioFrame) := do
  let pts ← s.ptsForSampleIndex s.sampleIndex
  let pcm := (List.range s.packetFrames).flatMap fun i =>
    List.replicate s.channels.toNat (if silent then 0 else tone (s.sampleIndex + i))
  if maxU64 < s.sampleIndex + s.packetFrames then none
  else some ({ s with sampleIndex := s.sampleIndex + s.packetFrames },
    ⟨pts, s.sampleRate, s.channels, pcm⟩)

/-- A call on the stub. A change of the device begins a new time line. -/
def step (tone : Nat → Int16) (s : StubLoopbackCapture) :
    LoopbackCall → Option (StubLoopbackCapture × Option AudioFrame × List LoopbackEvent)
  | .nextFrame _ =>
    if !s.running then some (s, none, [])
    else do
      let forceSilent := decide (0 < s.silencePacketsLeft)
      let (s, frame) ← renderPacket tone { s with silencePacketsLeft := s.silencePacketsLeft - 1 }
        forceSilent
      let (silence, events) := s.silence.noteEnergy
        (forceSilent || pcmIsNearSilenceDefault frame.pcmS16)
      some ({ s with silence }, some frame, events)
  | .stop => some ({ s with running := false }, none, [])
  | .injectDeviceChange reason newStartPts => some ({ s with
      mediaRestartCount := min (s.mediaRestartCount + 1) maxU32
      startPts := newStartPts
      sampleIndex := 0
      silencePacketsLeft := max s.silencePacketsLeft 1
      silence := { s.silence with silentStreak := 0, exclusiveWarned := false }
      running := true }, none, [.deviceChanged reason])
  | .injectSilencePackets count => some ({ s with
      silencePacketsLeft := min (s.silencePacketsLeft + count.toNat) maxU32 }, none, [])

end StubLoopbackCapture

/-! ## Runs -/

/-- The packets of a sequence of calls, and the capture after it. -/
def captureAll {σ : Type}
    (step : σ → LoopbackCall → Option (σ × Option AudioFrame × List LoopbackEvent)) (s : σ) :
    List LoopbackCall → Option (List AudioFrame × σ)
  | [] => some ([], s)
  | call :: calls => do
    let (s, frame, _) ← step s call
    let (frames, s) ← captureAll step s calls
    some (frame.toList ++ frames, s)

/-- The samples that come in with a sequence of calls. -/
def NativeLoopbackCapture.capturedAll (s : NativeLoopbackCapture) : List LoopbackCall → List Int16
  | [] => []
  | call :: calls => s.captures call ++
    match s.step call with
    | some (s, _) => s.capturedAll calls
    | none => []

/-- Where a capture stands: the start of its time line, its rate, the frames of its packets and the
index of the next one. -/
structure Timeline where
  start : Nat
  rate : Nat
  packetFrames : Nat
  index : Nat

/-- Where a capture stands after another packet. -/
def Timeline.next (t : Timeline) : Timeline :=
  { t with index := min (t.index + t.packetFrames) maxU64 }

/-- A call that is not a change of the device. -/
def LoopbackCall.KeepsDevice : LoopbackCall → Prop
  | .injectDeviceChange .. => False
  | .nextFrame _ | .stop | .injectSilencePackets _ => True

/-- A capture stamps its packets along a time line, over the calls that go on with it. -/
def Stamps {σ : Type} (goesOn : LoopbackCall → Prop)
    (step : σ → LoopbackCall → Option (σ × Option AudioFrame × List LoopbackEvent))
    (line : σ → Timeline) : Prop :=
  ∀ s call s' frame events, goesOn call → step s call = some (s', frame, events) →
    (frame = none ∧ line s' = line s) ∨
    ∃ f, frame = some f ∧ line s' = (line s).next ∧
      addDurations (line s).start (sampleNanos (line s).index (line s).rate) =
        some f.ptsHostMono

/-- The times that the packets of a capture should have. -/
def exactTimes (start rate packetFrames n : Nat) : List Nat :=
  (List.range n).map fun k => start + k * packetFrames * 1000000000 / rate

/-- The packets have the times they should have, each one later than the one before. -/
def OnTime (start rate packetFrames : Nat) (frames : List AudioFrame) : Prop :=
  frames.map AudioFrame.ptsHostMono = exactTimes start rate packetFrames frames.length ∧
    (frames.map AudioFrame.ptsHostMono).Pairwise (· < ·)

/-! ## The native capture hands out what it captures -/

namespace NativeLoopbackCapture

variable {s s' : NativeLoopbackCapture} {frame : Option AudioFrame} {events : List LoopbackEvent}

/-- What a packet takes is what leaves the queue. -/
theorem takePacket_pending (h : s.takePacket = some (s', frame, events)) :
    (frame.toList.map AudioFrame.pcmS16).flatten ++ s'.pending = s.pending := by
  unfold takePacket at h
  dsimp only at h
  split_ifs at h with hshort
  · cases h
    rfl
  · obtain ⟨pts, -, h⟩ := Option.bind_eq_some_iff.mp h
    cases h
    simp

/-- A pull queues the samples of the buffers. -/
theorem pullFromDevice_pending (device : List (Option DeviceBuffer)) :
    (s.pullFromDevice device).pending =
      s.pending ++ (pulled 32 device).flatMap (·.samples s.channels) := by
  have hfold : ∀ (buffers : List DeviceBuffer) (q : List Int16),
      buffers.foldl (fun q b => q ++ b.samples s.channels) q =
        q ++ buffers.flatMap (·.samples s.channels) := by
    intro buffers
    induction buffers with
    | nil =>
      intro q
      simp
    | cons b buffers ih =>
      intro q
      rw [List.foldl_cons, ih, List.flatMap_cons, List.append_assoc]
  exact hfold _ _

/-- **No call loses, doubles or reorders a sample.** -/
theorem step_pending {call : LoopbackCall} (h : s.step call = some (s', frame, events)) :
    (frame.toList.map AudioFrame.pcmS16).flatten ++ s'.pending = s.pending ++ s.captures call := by
  cases call with
  | nextFrame device =>
    by_cases hrunning : s.running = true
    · have hstep : s.step (.nextFrame device) = (s.pullFromDevice device).takePacket :=
        if_neg (by simp [hrunning])
      have hcaptures : s.captures (.nextFrame device) =
          (pulled 32 device).flatMap (·.samples s.channels) := if_pos hrunning
      rw [hstep] at h
      rw [takePacket_pending h, pullFromDevice_pending, hcaptures]
    · have hstep : s.step (.nextFrame device) = some (s, none, []) :=
        if_pos (by simp [hrunning])
      have hcaptures : s.captures (.nextFrame device) = [] := if_neg hrunning
      rw [hstep] at h
      cases h
      rw [hcaptures, List.append_nil]
      rfl
  | stop =>
    cases h
    simp [captures]
  | injectDeviceChange reason newStartPts =>
    cases h
    simp [captures]
  | injectSilencePackets count =>
    cases h
    simp [captures]

/-- **The packets, and what is queued, are the captured samples in order.** -/
theorem captured {calls : List LoopbackCall} {frames : List AudioFrame}
    (h : captureAll step s calls = some (frames, s')) :
    (frames.map AudioFrame.pcmS16).flatten ++ s'.pending = s.pending ++ s.capturedAll calls := by
  induction calls generalizing s frames with
  | nil =>
    cases h
    simp [capturedAll]
  | cons call calls ih =>
    obtain ⟨⟨mid, frame, events⟩, hstep, h⟩ := Option.bind_eq_some_iff.mp h
    obtain ⟨⟨later, last⟩, hrest, h⟩ := Option.bind_eq_some_iff.mp h
    cases h
    unfold capturedAll
    rw [hstep, List.map_append, List.flatten_append, List.append_assoc, ih hrest,
      ← List.append_assoc, step_pending hstep, List.append_assoc]

end NativeLoopbackCapture

/-! ## Time lines -/

theorem Timeline.next_start (t : Timeline) : t.next.start = t.start := rfl

/-- The index of the next packet may saturate, which does not change the times after it. -/
theorem sampleNanos_next (t : Timeline) (k : Nat) :
    sampleNanos (t.next.index + k * t.next.packetFrames) t.next.rate =
      sampleNanos (t.index + (k + 1) * t.packetFrames) t.rate := by
  have hmin : ∀ a b c : Nat, min (min a c + b) c = min (a + b) c := by
    intro a b c
    omega
  unfold Timeline.next
  dsimp only
  rw [← sampleNanos_min, hmin, sampleNanos_min, Nat.succ_mul, Nat.add_assoc,
    Nat.add_comm t.packetFrames]

/-- Where the native capture stands. -/
def NativeLoopbackCapture.line (s : NativeLoopbackCapture) : Timeline :=
  ⟨s.startPts, max s.sampleRate.toNat 1, s.packetFrames, s.samplesEmitted⟩

/-- Where the stub stands. -/
def StubLoopbackCapture.line (s : StubLoopbackCapture) : Timeline :=
  ⟨s.startPts, s.sampleRate.toNat, s.packetFrames, s.sampleIndex⟩

/-- A packet of the native capture has the time of its first sample. -/
theorem NativeLoopbackCapture.takePacket_line (s : NativeLoopbackCapture)
    {s' : NativeLoopbackCapture} {frame : Option AudioFrame} {events : List LoopbackEvent}
    (h : s.takePacket = some (s', frame, events)) :
    (frame = none ∧ s'.line = s.line) ∨
    ∃ f, frame = some f ∧ s'.line = s.line.next ∧
      addDurations s.line.start (sampleNanos s.line.index s.line.rate) = some f.ptsHostMono := by
  unfold takePacket at h
  dsimp only at h
  split_ifs at h with hshort
  · cases h
    exact .inl ⟨rfl, rfl⟩
  · obtain ⟨pts, hpts, h⟩ := Option.bind_eq_some_iff.mp h
    cases h
    exact .inr ⟨_, rfl, rfl, hpts⟩

theorem NativeLoopbackCapture.stamps : Stamps (fun _ => True) step line := by
  intro s call s' frame events _ h
  cases call with
  | nextFrame device =>
    by_cases hrunning : s.running = true
    · have hstep : s.step (.nextFrame device) = (s.pullFromDevice device).takePacket :=
        if_neg (by simp [hrunning])
      rw [hstep] at h
      exact (s.pullFromDevice device).takePacket_line h
    · have hstep : s.step (.nextFrame device) = some (s, none, []) :=
        if_pos (by simp [hrunning])
      rw [hstep] at h
      cases h
      exact .inl ⟨rfl, rfl⟩
  | stop | injectSilencePackets count | injectDeviceChange reason newStartPts =>
    cases h
    exact .inl ⟨rfl, rfl⟩

/-- A packet of the stub has the time of its first sample. -/
theorem StubLoopbackCapture.renderPacket_line {tone : Nat → Int16} {s s' : StubLoopbackCapture}
    {silent : Bool} {f : AudioFrame} (h : renderPacket tone s silent = some (s', f)) :
    s'.line = s.line.next ∧
      addDurations s.line.start (sampleNanos s.line.index s.line.rate) = some f.ptsHostMono := by
  obtain ⟨pts, hpts, h⟩ := Option.bind_eq_some_iff.mp h
  dsimp only at h
  by_cases hlong : maxU64 < s.sampleIndex + s.packetFrames
  · rw [if_pos hlong] at h
    cases h
  · rw [if_neg hlong] at h
    cases h
    refine ⟨?_, hpts⟩
    unfold line Timeline.next
    rw [min_eq_left (Nat.not_lt.mp hlong)]

theorem StubLoopbackCapture.stamps (tone : Nat → Int16) :
    Stamps LoopbackCall.KeepsDevice (step tone) line := by
  intro s call s' frame events hkeeps h
  cases call with
  | nextFrame device =>
    by_cases hrunning : s.running = true
    · unfold step at h
      dsimp only at h
      rw [if_neg (by simp [hrunning])] at h
      obtain ⟨⟨rendered, f⟩, hrender, h⟩ := Option.bind_eq_some_iff.mp h
      obtain ⟨hline, htime⟩ := renderPacket_line hrender
      cases h
      exact .inr ⟨f, rfl, hline, htime⟩
    · have hstep : step tone s (.nextFrame device) = some (s, none, []) :=
        if_pos (by simp [hrunning])
      rw [hstep] at h
      cases h
      exact .inl ⟨rfl, rfl⟩
  | stop | injectSilencePackets count =>
    cases h
    exact .inl ⟨rfl, rfl⟩
  | injectDeviceChange reason newStartPts => cases hkeeps

section

variable {σ : Type} {step : σ → LoopbackCall → Option (σ × Option AudioFrame × List LoopbackEvent)}
  {line : σ → Timeline} {goesOn : LoopbackCall → Prop} {s s' : σ} {calls : List LoopbackCall}
  {frames : List AudioFrame}

/-- **The packets of a run are stamped one after the other along the time line.** -/
theorem Stamps.times (hstamps : Stamps goesOn step line) (hcalls : ∀ call ∈ calls, goesOn call)
    (h : captureAll step s calls = some (frames, s')) :
    frames.map (fun f => some f.ptsHostMono) = (List.range frames.length).map fun k =>
      addDurations (line s).start
        (sampleNanos ((line s).index + k * (line s).packetFrames) (line s).rate) := by
  induction calls generalizing s frames with
  | nil =>
    cases h
    rfl
  | cons call calls ih =>
    obtain ⟨⟨mid, frame, events⟩, hstep, h⟩ := Option.bind_eq_some_iff.mp h
    obtain ⟨⟨later, last⟩, hrest, h⟩ := Option.bind_eq_some_iff.mp h
    cases h
    have hlater := ih (fun c hc => hcalls c (List.mem_cons_of_mem _ hc)) hrest
    obtain ⟨rfl, hline⟩ | ⟨f, rfl, hline, htime⟩ :=
      hstamps s call mid frame events (hcalls call List.mem_cons_self) hstep
    · rw [hline] at hlater
      exact hlater
    · rw [hline] at hlater
      simp only [Timeline.next_start, sampleNanos_next] at hlater
      rw [List.length_append, Nat.add_comm, List.map_append, hlater, Option.toList_some,
        List.length_singleton, List.range_succ_eq_map, List.map_cons, List.map_cons, List.map_map,
        Nat.zero_mul, Nat.add_zero, htime]
      simp only [List.map_nil, List.cons_append, List.nil_append, Function.comp_def,
        Nat.succ_eq_add_one]

/-- Packets of a nanosecond or more have later and later times. -/
theorem exactTimes_pairwise {start rate packetFrames : Nat} (hrate : 0 < rate)
    (hp : rate ≤ packetFrames * 1000000000) (n : Nat) :
    (exactTimes start rate packetFrames n).Pairwise (· < ·) := by
  have hstep : ∀ k, k * packetFrames * 1000000000 / rate <
      (k + 1) * packetFrames * 1000000000 / rate := by
    intro k
    rw [Nat.succ_mul]
    exact exact_lt_exact hrate hp
  have hmono : StrictMono fun k => k * packetFrames * 1000000000 / rate :=
    strictMono_nat_of_lt_succ hstep
  unfold exactTimes
  rw [List.pairwise_map]
  refine List.pairwise_lt_range.imp ?_
  intro j k hlt
  exact Nat.add_lt_add_left (hmono hlt) start

/-- **A run is on time exactly if the time of every packet fits.** -/
theorem Stamps.onTime_iff (hstamps : Stamps goesOn step line)
    (hcalls : ∀ call ∈ calls, goesOn call)
    (h : captureAll step s calls = some (frames, s')) (hindex : (line s).index = 0)
    (hrate : 0 < (line s).rate) (hp : (line s).rate ≤ (line s).packetFrames * 1000000000) :
    OnTime (line s).start (line s).rate (line s).packetFrames frames ↔
      ∀ k < frames.length, TimeFits (line s).start (k * (line s).packetFrames) (line s).rate := by
  have htimes := hstamps.times hcalls h
  simp only [hindex, Nat.zero_add] at htimes
  have hexact : frames.map AudioFrame.ptsHostMono =
      exactTimes (line s).start (line s).rate (line s).packetFrames frames.length ↔
      ∀ k < frames.length, TimeFits (line s).start (k * (line s).packetFrames) (line s).rate := by
    have hsome : frames.map AudioFrame.ptsHostMono =
        exactTimes (line s).start (line s).rate (line s).packetFrames frames.length ↔
        frames.map (fun f => some f.ptsHostMono) =
          (List.range frames.length).map fun k => some ((line s).start +
            k * (line s).packetFrames * 1000000000 / (line s).rate) := by
      have hinj : Function.Injective (List.map (some : Nat → Option Nat)) :=
        List.map_injective_iff.mpr (fun _ _ h => Option.some.inj h)
      rw [← hinj.eq_iff, List.map_map, exactTimes, List.map_map]
      exact Iff.rfl
    rw [hsome, htimes, List.map_inj_left]
    simp only [List.mem_range, addDurations_sampleNanos_iff]
  constructor
  · intro htime
    exact hexact.mp htime.1
  · intro hfits
    have heq := hexact.mpr hfits
    exact ⟨heq, heq ▸ exactTimes_pairwise hrate hp _⟩

/-- The time of a packet of a run. -/
theorem Stamps.time_eq (hstamps : Stamps goesOn step line) (hcalls : ∀ call ∈ calls, goesOn call)
    (h : captureAll step s calls = some (frames, s')) {k : Nat} (hk : k < frames.length) :
    addDurations (line s).start
      (sampleNanos ((line s).index + k * (line s).packetFrames) (line s).rate) =
        some (frames[k].ptsHostMono) := by
  have hget := congrArg (fun l => l[k]?) (hstamps.times hcalls h)
  simp only [List.getElem?_map, List.getElem?_eq_getElem hk, List.getElem?_range hk,
    Option.map_some, Option.some.injEq] at hget
  exact hget.symm

/-- **Once the product saturates, all packets of a run have the same time.** -/
theorem Stamps.stalls (hstamps : Stamps goesOn step line) (hcalls : ∀ call ∈ calls, goesOn call)
    (h : captureAll step s calls = some (frames, s')) {j k : Nat} (hj : j < frames.length)
    (hk : k < frames.length) (hle : j ≤ k)
    (hsaturated : maxU64 ≤ ((line s).index + j * (line s).packetFrames) * 1000000000) :
    frames[j].ptsHostMono = frames[k].ptsHostMono := by
  have hlater : maxU64 ≤ ((line s).index + k * (line s).packetFrames) * 1000000000 :=
    hsaturated.trans (Nat.mul_le_mul_right _
      (Nat.add_le_add_left (Nat.mul_le_mul_right _ hle) _))
  have hjtime := hstamps.time_eq hcalls h hj
  have hktime := hstamps.time_eq hcalls h hk
  rw [sampleNanos_of_ge hsaturated] at hjtime
  rw [sampleNanos_of_ge hlater] at hktime
  exact Option.some.inj (hjtime.symm.trans hktime)

end

/-! ## Opened captures -/

/-- A checked configuration has rates and packets that are not empty. -/
theorem validateConfig_ok {config : LoopbackConfig} (h : validateConfig config = .ok ()) :
    1 ≤ config.sampleRate.toNat ∧ 1 ≤ config.packetMs.toNat ∧
      1 ≤ saturatedFrames config.sampleRate config.packetMs := by
  have hpos : ∀ n : UInt32, n ≠ 0 → 1 ≤ n.toNat := by
    intro n hn
    exact Nat.one_le_iff_ne_zero.mpr fun h => hn (UInt32.toNat_inj.mp h)
  unfold validateConfig at h
  split_ifs at h with hrate hchannels hms hframes
  exact ⟨hpos _ hrate, hpos _ hms, Nat.one_le_iff_ne_zero.mpr hframes⟩

/-- The packets of a rate, of a millisecond or more, take a nanosecond or more. -/
theorem le_saturatedFrames {sampleRate packetMs : UInt32} (hms : 1 ≤ packetMs.toNat) :
    sampleRate.toNat ≤ max (saturatedFrames sampleRate packetMs) 1 * 1000000000 := by
  have hrate : sampleRate.toNat ≤ 4294967295 := Nat.le_of_lt_succ sampleRate.toNat_lt
  have hproduct : sampleRate.toNat ≤ sampleRate.toNat * packetMs.toNat :=
    Nat.le_mul_of_pos_right _ hms
  unfold saturatedFrames maxU32
  generalize sampleRate.toNat * packetMs.toNat = product at hproduct ⊢
  omega

namespace NativeLoopbackCapture

variable {config : LoopbackConfig} {mixRate : UInt32} {mixChannels : UInt16}

/-- An opened capture has a rate, and packets of a nanosecond or more. -/
theorem windowsTryOpen_rate (h : validateConfig config = .ok ()) :
    1 ≤ (windowsTryOpen config mixRate mixChannels).sampleRate.toNat ∧
      (windowsTryOpen config mixRate mixChannels).sampleRate.toNat ≤
        (windowsTryOpen config mixRate mixChannels).packetFrames * 1000000000 := by
  obtain ⟨hrate, hms, -⟩ := validateConfig_ok h
  refine ⟨?_, le_saturatedFrames hms⟩
  show 1 ≤ (if mixRate = 0 then config.sampleRate else mixRate).toNat
  by_cases hmix : mixRate = 0
  · rw [if_pos hmix]
    exact hrate
  · rw [if_neg hmix]
    exact Nat.one_le_iff_ne_zero.mpr fun h => hmix (UInt32.toNat_inj.mp h)

/-- The start of an opened capture leaves room for all nanoseconds of 64 bits. -/
theorem windowsTryOpen_start :
    (windowsTryOpen config mixRate mixChannels).startPts + maxU64 ≤ maxDuration := by
  have hms : config.startPtsMs.toNat ≤ 18446744073709551615 :=
    Nat.le_of_lt_succ config.startPtsMs.toNat_lt
  show config.startPtsMs.toNat * 1000000 + maxU64 ≤ maxDuration
  unfold maxDuration maxU64
  omega

variable {s : NativeLoopbackCapture}

theorem takePacket_total (hstart : s.startPts + maxU64 ≤ maxDuration) :
    ∃ s' frame events, s.takePacket = some (s', frame, events) ∧ s'.startPts = s.startPts := by
  have hpts : s.ptsForSampleIndex s.samplesEmitted =
      some (s.startPts + sampleNanos s.samplesEmitted (max s.sampleRate.toNat 1)) :=
    addDurations_eq_some.mpr
      ⟨rfl, (Nat.add_le_add_left sampleNanos_le_maxU64 _).trans hstart⟩
  unfold takePacket
  dsimp only
  split_ifs with hshort
  · exact ⟨s, none, [], rfl, rfl⟩
  · rw [hpts]
    exact ⟨_, _, _, rfl, rfl⟩

theorem step_total (call : LoopbackCall) (hstart : s.startPts + maxU64 ≤ maxDuration) :
    ∃ s' frame events, s.step call = some (s', frame, events) ∧ s'.startPts = s.startPts := by
  cases call with
  | nextFrame device =>
    unfold step
    dsimp only
    split_ifs with hrunning
    · exact ⟨s, none, [], rfl, rfl⟩
    · exact takePacket_total hstart
  | stop | injectSilencePackets count | injectDeviceChange reason newStartPts =>
    exact ⟨_, _, _, rfl, rfl⟩

/-- **The native capture never fails on a time that is too long.** -/
theorem captureAll_total (calls : List LoopbackCall)
    (hstart : s.startPts + maxU64 ≤ maxDuration) :
    ∃ frames s', captureAll step s calls = some (frames, s') := by
  induction calls generalizing s with
  | nil => exact ⟨[], s, rfl⟩
  | cons call calls ih =>
    obtain ⟨mid, frame, events, hstep, hkept⟩ := step_total call hstart
    obtain ⟨frames, s', hrest⟩ := ih (hkept ▸ hstart)
    refine ⟨frame.toList ++ frames, s', ?_⟩
    unfold captureAll
    rw [hstep]
    show (captureAll step mid calls).bind _ = _
    rw [hrest]
    rfl

/-- From a queue of some packets so many can be taken. -/
theorem captureAll_queued (n : Nat) (hstart : s.startPts + maxU64 ≤ maxDuration)
    (hrunning : s.running = true)
    (hqueued : s.pending.length = n * (s.packetFrames * s.channels.toNat)) :
    ∃ frames s', captureAll step s (List.replicate n (.nextFrame [])) = some (frames, s') ∧
      frames.length = n := by
  induction n generalizing s with
  | zero => exact ⟨[], s, rfl, rfl⟩
  | succ n ih =>
    have hstep : s.step (.nextFrame []) = s.takePacket := if_neg (by simp [hrunning])
    have hlong : ¬ s.pending.length < s.packetFrames * s.channels.toNat := by
      rw [hqueued, Nat.succ_mul]
      omega
    have hpts : s.ptsForSampleIndex s.samplesEmitted =
        some (s.startPts + sampleNanos s.samplesEmitted (max s.sampleRate.toNat 1)) :=
      addDurations_eq_some.mpr
        ⟨rfl, (Nat.add_le_add_left sampleNanos_le_maxU64 _).trans hstart⟩
    have htake : ∃ mid f events, s.takePacket = some (mid, some f, events) ∧
        mid.startPts = s.startPts ∧ mid.running = s.running ∧
        mid.pending = s.pending.drop (s.packetFrames * s.channels.toNat) ∧
        mid.packetFrames = s.packetFrames ∧ mid.channels = s.channels := by
      unfold takePacket
      dsimp only
      rw [if_neg hlong, hpts]
      exact ⟨_, _, _, rfl, rfl, rfl, rfl, rfl, rfl⟩
    obtain ⟨mid, f, events, htaken, hmidstart, hmidrunning, hmidpending, hframes, hchannels⟩ :=
      htake
    have hrest : mid.pending.length = n * (mid.packetFrames * mid.channels.toNat) := by
      rw [hmidpending, List.length_drop, hqueued, hframes, hchannels, Nat.succ_mul,
        Nat.add_sub_cancel]
    obtain ⟨frames, s', hall, hlength⟩ :=
      ih (hmidstart ▸ hstart) (hmidrunning.trans hrunning) hrest
    refine ⟨f :: frames, s', ?_, congrArg Nat.succ hlength⟩
    rw [List.replicate_succ]
    unfold captureAll
    rw [hstep, htaken]
    show (captureAll step mid _).bind _ = _
    rw [hall]
    rfl

/-- **A capture goes on for as many packets as it is asked for.** -/
theorem captureAll_reaches (count : UInt32) :
    ∃ calls frames s', captureAll step (windowsTryOpen config mixRate mixChannels) calls =
      some (frames, s') ∧ frames.length = count.toNat := by
  obtain ⟨frames, s', hall, hlength⟩ := captureAll_queued
    (s := { windowsTryOpen config mixRate mixChannels with
      pending := List.replicate
        (count.toNat * (windowsTryOpen config mixRate mixChannels).packetFrames *
          (windowsTryOpen config mixRate mixChannels).channels.toNat) 0 })
    count.toNat (@windowsTryOpen_start config mixRate mixChannels) rfl
    (by rw [List.length_replicate, Nat.mul_assoc])
  have hempty : (windowsTryOpen config mixRate mixChannels).pending = [] := rfl
  refine ⟨.injectSilencePackets count :: List.replicate count.toNat (.nextFrame []), frames, s',
    ?_, hlength⟩
  show (captureAll step _ _).bind _ = _
  rw [hempty, List.nil_append, hall]
  rfl

end NativeLoopbackCapture

namespace StubLoopbackCapture

/-- The stub begins a time line: its rate is not zero, its packets take a nanosecond or more, and
it has made none of them. -/
def Anchored (s : StubLoopbackCapture) : Prop :=
  s.sampleIndex = 0 ∧ 1 ≤ s.sampleRate.toNat ∧ s.sampleRate.toNat ≤ s.packetFrames * 1000000000

/-- An opened stub begins a time line. -/
theorem openStub_anchored {config : LoopbackConfig} {s : StubLoopbackCapture}
    (hvalid : validateConfig config = .ok ()) (h : openStub config = some (.ok s)) :
    s.Anchored := by
  obtain ⟨hrate, hms, hframes⟩ := validateConfig_ok hvalid
  unfold openStub at h
  dsimp only at h
  split_ifs at h with hlong hempty
  · cases h
  · cases h
    have hle : config.sampleRate.toNat ≤ _ := le_saturatedFrames hms
    unfold saturatedFrames at hle hframes
    rw [min_eq_left (Nat.not_lt.mp hlong)] at hle hframes
    rw [max_eq_left hframes] at hle
    exact ⟨rfl, hrate, hle⟩

end StubLoopbackCapture

/-! ## The times of a capture -/

/-- **Exactly the times that fit are exact.** The time that either capture gives an index, and that
of a device position, is the start and the whole nanoseconds of the exact quotient exactly if those
are no more than the quotient of the largest 64-bit number, and the sum is a duration. A run of an
opened native capture never fails, hands out the captured samples in order, and has exact times,
each later than the one before, exactly if the time of each of its packets fits; and so does a run
of the stub on one time line. -/
theorem capture_timestamps {config : LoopbackConfig} (hvalid : validateConfig config = .ok ())
    (mixRate : UInt32) (mixChannels : UInt16) (calls : List LoopbackCall) :
    let s := NativeLoopbackCapture.windowsTryOpen config mixRate mixChannels
    (∃ frames s', captureAll NativeLoopbackCapture.step s calls = some (frames, s') ∧
      (frames.map AudioFrame.pcmS16).flatten ++ s'.pending = s.capturedAll calls ∧
      (OnTime s.startPts s.sampleRate.toNat s.packetFrames frames ↔
        ∀ k < frames.length, TimeFits s.startPts (k * s.packetFrames) s.sampleRate.toNat)) ∧
    (∀ (tone : Nat → Int16) (stub stub' : StubLoopbackCapture) (frames : List AudioFrame),
      stub.Anchored → (∀ call ∈ calls, call.KeepsDevice) →
      captureAll (StubLoopbackCapture.step tone) stub calls = some (frames, stub') →
      (OnTime stub.startPts stub.sampleRate.toNat stub.packetFrames frames ↔
        ∀ k < frames.length,
          TimeFits stub.startPts (k * stub.packetFrames) stub.sampleRate.toNat)) ∧
    (∀ (native : NativeLoopbackCapture) (index : Nat), 1 ≤ native.sampleRate.toNat →
      (native.ptsForSampleIndex index =
          some (native.startPts + index * 1000000000 / native.sampleRate.toNat) ↔
        TimeFits native.startPts index native.sampleRate.toNat)) ∧
    (∀ (stub : StubLoopbackCapture) (index : Nat),
      (stub.ptsForSampleIndex index =
          some (stub.startPts + index * 1000000000 / stub.sampleRate.toNat) ↔
        TimeFits stub.startPts index stub.sampleRate.toNat)) ∧
    ∀ position frequency start : Nat, frequency ≠ 0 →
      (positionToHostMono position frequency start =
        some (start + position * 1000000000 / frequency) ↔
          TimeFits start position frequency) := by
  intro s
  refine ⟨?_, ?_, ?_, ?_, ?_⟩
  · obtain ⟨hrate, hframes⟩ :=
      @NativeLoopbackCapture.windowsTryOpen_rate config mixRate mixChannels hvalid
    obtain ⟨frames, s', hrun⟩ := NativeLoopbackCapture.captureAll_total calls
      (@NativeLoopbackCapture.windowsTryOpen_start config mixRate mixChannels)
    have hline : s.line = ⟨s.startPts, s.sampleRate.toNat, s.packetFrames, 0⟩ := by
      rw [NativeLoopbackCapture.line, max_eq_left hrate]
      rfl
    have hiff := NativeLoopbackCapture.stamps.onTime_iff (fun _ _ => trivial) hrun
      (congrArg Timeline.index hline) (by rw [hline]; exact hrate) (by rw [hline]; exact hframes)
    rw [hline] at hiff
    exact ⟨frames, s', hrun, NativeLoopbackCapture.captured hrun, hiff⟩
  · intro tone stub stub' frames hanchored hkeeps hrun
    exact (StubLoopbackCapture.stamps tone).onTime_iff hkeeps hrun hanchored.1 hanchored.2.1
      hanchored.2.2
  · intro native index hrate
    rw [NativeLoopbackCapture.ptsForSampleIndex, max_eq_left hrate]
    exact addDurations_sampleNanos_iff
  · intro stub index
    exact addDurations_sampleNanos_iff
  · intro position frequency start hfrequency
    rw [positionToHostMono, if_neg hfrequency]
    exact addDurations_sampleNanos_iff

/-- A stub of a thousand samples a second, with packets of one. -/
def demoStub : StubLoopbackCapture where
  sampleRate := 1000
  channels := 1
  packetFrames := 1
  sampleIndex := 0
  startPts := 5000000
  running := true
  silencePacketsLeft := 0
  silence := ⟨1, 0, 500, false⟩
  mediaRestartCount := 0

/-- The first packets of a native capture and of a stub, and a position, are on time. -/
theorem capture_timestamps_first :
    (∃ frames s', captureAll NativeLoopbackCapture.step
        (NativeLoopbackCapture.windowsTryOpen default 48000 2) [.nextFrame [none]] =
          some (frames, s') ∧ (frames.map AudioFrame.pcmS16).flatten ++ s'.pending = []) ∧
    OnTime 5000000 1000 1 [⟨5000000, 1000, 1, [7]⟩] ∧
    (NativeLoopbackCapture.windowsTryOpen default 48000 2).ptsForSampleIndex 480 =
      some 10000000 ∧
    demoStub.ptsForSampleIndex 2 = some 7000000 ∧
    positionToHostMono 480 48000 1000 = some 10001000 := by
  obtain ⟨⟨frames, s', hrun, hcaptured, -⟩, hstub, hnative, hstubIndex, hposition⟩ :=
    @capture_timestamps default (by decide) 48000 2 [.nextFrame [none]]
  refine ⟨⟨frames, s', hrun, hcaptured⟩, ?_, ?_, ?_, ?_⟩
  · exact (hstub (fun _ => 7) demoStub _ _ ⟨rfl, by decide, by decide⟩
      (by simp [LoopbackCall.KeepsDevice]) rfl).mpr (by decide +kernel)
  · exact (hnative (.windowsTryOpen default 48000 2) 480 (by decide)).mpr (by decide +kernel)
  · exact (hstubIndex demoStub 2).mpr (by decide +kernel)
  · exact (hposition 480 48000 1000 (by decide)).mpr (by decide +kernel)

/-- **The times of a long capture stall.** At 48 kHz, after more than four days, a time is not the
exact one any more, and neither is that of a device position; and there is a run in which a packet
has the same time as the one before. -/
theorem capture_stalls :
    (¬ ∀ (s : NativeLoopbackCapture) (index : Nat), 1 ≤ s.sampleRate.toNat → index ≤ maxU64 →
      s.ptsForSampleIndex index =
        some (s.startPts + index * 1000000000 / s.sampleRate.toNat)) ∧
    (¬ ∀ position frequency start : Nat, frequency ≠ 0 → position ≤ maxU64 →
      positionToHostMono position frequency start =
        some (start + position * 1000000000 / frequency)) ∧
    ¬ ∀ (calls : List LoopbackCall) (frames : List AudioFrame) (s' : NativeLoopbackCapture),
      captureAll NativeLoopbackCapture.step (.windowsTryOpen default 48000 2) calls =
        some (frames, s') → (frames.map AudioFrame.ptsHostMono).Pairwise (· < ·) := by
  refine ⟨?_, ?_, ?_⟩
  · intro h
    exact absurd (h (.windowsTryOpen default 48000 2) 18446744160 (by decide) (by decide))
      (by decide +kernel)
  · intro h
    exact absurd (h 18446744160 48000 0 (by decide) (by decide)) (by decide +kernel)
  · intro h
    obtain ⟨calls, frames, s', hrun, hlength⟩ :=
      @NativeLoopbackCapture.captureAll_reaches default 48000 2 38430719
    have hframes : frames.length = 38430719 := hlength
    have hj : 38430717 < frames.length := by omega
    have hk : 38430718 < frames.length := by omega
    have hsame := NativeLoopbackCapture.stamps.stalls (fun _ _ => trivial) hrun hj hk (by decide)
      (by decide +kernel)
    have hpair := List.pairwise_iff_getElem.mp (h calls frames s' hrun) 38430717 38430718
      (by rwa [List.length_map]) (by rwa [List.length_map]) (by decide)
    rw [List.getElem_map, List.getElem_map, hsame] at hpair
    exact Nat.lt_irrefl _ hpair

end RemoteLink.Platform
