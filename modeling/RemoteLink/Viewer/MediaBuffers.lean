import Mathlib.Order.MinMax
import RemoteLink.Viewer.Decode

set_option autoImplicit false

/-!
# Media buffers

Where the viewer keeps received media: recordings of the encoded units, the frames and packets that
wait for presentation, what the decoders have recorded, and what the playout sink has taken.

## Main definitions

* `MediaBuffers` — the containers, with `MediaBuffers.handleTrack`.
* `MediaCall`, `MediaBuffers.call` — what happens to them.
* `MediaBuffers.retained` — how many units they hold.
* `MediaBuffers.growth` — the units that a call leaves where nothing is ever dropped.

## Main results

* `MediaBuffers.Capped.call` — recordings and queues stay within their limits.
* `MediaBuffers.call_hoard` — decoders and sink grow by the units that are left there.
* `MediaBuffers.retained_bounds` — the account of a sequence of calls.
-/

namespace RemoteLink.Viewer

open Library Net
open Protocol (saturatingSucc)

/-! ## Audio -/

/-- A packet that is ready for playout. -/
structure PlayoutPacket where
  ptsHostMono : Nat
  frame : AudioFrame
  deriving Repr, DecidableEq

/-- The default playout sink: it records what it plays. -/
structure MockAudioPlayoutSink where
  packets : List PlayoutPacket
  samplesPlayed : Nat

/-- Play a packet. -/
def MockAudioPlayoutSink.push (s : MockAudioPlayoutSink) (packet : PlayoutPacket) :
    MockAudioPlayoutSink where
  packets := s.packets ++ [packet]
  samplesPlayed := min (s.samplesPlayed + packet.frame.pcmS16.length) 18446744073709551615

/-- The queue of decoded audio. -/
structure AudioPlayoutQueue where
  queue : List PlayoutPacket
  capacity : Nat
  dropped : UInt64
  enqueued : UInt64
  mockOpusDecoded : UInt64

namespace AudioPlayoutQueue

def new (capacity : Nat) : AudioPlayoutQueue := ⟨[], max capacity 1, 0, 0, 0⟩

/-- Queue a frame; the oldest ones make room for it. -/
def pushFrame (s : AudioPlayoutQueue) (frame : AudioFrame) : AudioPlayoutQueue :=
  let excess := s.queue.length + 1 - s.capacity
  { s with
    queue := s.queue.drop excess ++ [⟨frame.ptsHostMono, frame⟩]
    dropped := saturatingSucc^[excess] s.dropped
    enqueued := saturatingSucc s.enqueued }

/-- Decode and queue a packet. -/
def pushPacket (s : AudioPlayoutQueue) (packet : AudioPacket) :
    Except String AudioPlayoutQueue :=
  match decodeAudioPacket packet with
  | .error e => .error e
  | .ok (frame, wasMopu) =>
    .ok ({ s with mockOpusDecoded :=
      if wasMopu then saturatingSucc s.mockOpusDecoded else s.mockOpusDecoded }.pushFrame frame)

/-- Take the oldest packet. -/
def pop (s : AudioPlayoutQueue) : Option PlayoutPacket × AudioPlayoutQueue :=
  match s.queue with
  | [] => (none, s)
  | packet :: queue => (some packet, { s with queue })

/-- Play up to so many packets. -/
def pumpToSink (s : AudioPlayoutQueue) (sink : MockAudioPlayoutSink) :
    Nat → Nat × AudioPlayoutQueue × MockAudioPlayoutSink
  | 0 => (0, s, sink)
  | n + 1 =>
    match s.pop with
    | (none, s) => (0, s, sink)
    | (some packet, s) =>
      let (played, s, sink) := s.pumpToSink (sink.push packet) n
      (played + 1, s, sink)

end AudioPlayoutQueue

/-! ## The buffers -/

/-- The counters of media. -/
structure MediaStats where
  videoFrames : UInt64
  mockH264Frames : UInt64
  audioPackets : UInt64
  mockOpusPackets : UInt64
  audioPlayed : Nat
  deriving Repr, DecidableEq

/-- Where a session keeps media. -/
structure MediaBuffers where
  video : MockOrSyntheticDecoder
  videoOut : List DecodedVideoFrame
  videoOutCap : Nat
  audio : AudioPlayoutQueue
  playoutSink : MockAudioPlayoutSink
  recordedVideoNalus : List VideoNalu
  recordedAudioPackets : List AudioPacket
  autoPlayout : Bool
  recordLimit : Option Nat
  stats : MediaStats

/-- Record an item; a limit keeps the last ones. -/
def pushRecorded {α : Type} (buf : List α) (item : α) : Option Nat → List α
  | none => buf ++ [item]
  | some 0 => buf
  | some (n + 1) => (buf ++ [item]).drop ((buf ++ [item]).length - (n + 1))

/-- Something that happens to the buffers. -/
inductive MediaCall where
  | handle (data : IncomingTrackData)
  | drainVideoFrames
  | drainAudio
  | pumpPlayout (max : Nat)
  | setAutoPlayout (enabled : Bool)
  | restart
  | flush
  deriving Repr, DecidableEq

namespace MediaBuffers

/-- The buffers of a new session with a record limit. -/
def new (recordLimit : Option Nat) : MediaBuffers where
  video := .new
  videoOut := []
  videoOutCap := 32
  audio := .new 64
  playoutSink := ⟨[], 0⟩
  recordedVideoNalus := []
  recordedAudioPackets := []
  autoPlayout := true
  recordLimit
  stats := ⟨0, 0, 0, 0, 0⟩

/-- Take in a video unit; `true` if it was decoded. -/
def handleVideo (m : MediaBuffers) (nalu : VideoNalu) : Bool × MediaBuffers :=
  let m := { m with recordedVideoNalus := pushRecorded m.recordedVideoNalus nalu m.recordLimit }
  match m.video.decode nalu with
  | (none, video) => (false, { m with video })
  | (some decoded, video) =>
    (true, { m with
      video
      videoOut := m.videoOut.drop (m.videoOut.length + 1 - m.videoOutCap) ++ [decoded]
      stats := { m.stats with
        mockH264Frames := if decoded.fromMockH264 then saturatingSucc m.stats.mockH264Frames
          else m.stats.mockH264Frames
        videoFrames := saturatingSucc m.stats.videoFrames } })

/-- Play the oldest packet, if playout is automatic. -/
def playOne (m : MediaBuffers) : MediaBuffers :=
  if m.autoPlayout then
    match m.audio.pop with
    | (none, audio) => { m with audio }
    | (some packet, audio) => { m with
        audio
        playoutSink := m.playoutSink.push packet
        stats := { m.stats with audioPlayed := min (m.stats.audioPlayed + 1) 18446744073709551615 } }
  else m

/-- Take in an audio packet; `true` if it was queued. -/
def handleAudio (m : MediaBuffers) (packet : AudioPacket) : Bool × MediaBuffers :=
  let m := { m with
    recordedAudioPackets := pushRecorded m.recordedAudioPackets packet m.recordLimit }
  match m.audio.pushPacket packet with
  | .error _ => (false, m)
  | .ok audio =>
    (true, { m with
      audio
      stats := { m.stats with
        audioPackets := audio.enqueued
        mockOpusPackets := audio.mockOpusDecoded } }.playOne)

/-- Take in a received unit. -/
def handleTrack (m : MediaBuffers) : IncomingTrackData → Bool × MediaBuffers
  | .video nalu => m.handleVideo nalu
  | .audio packet => m.handleAudio packet

/-- Play up to so many packets. -/
def pumpPlayout (m : MediaBuffers) (max : Nat) : MediaBuffers :=
  let (n, audio, playoutSink) := m.audio.pumpToSink m.playoutSink max
  { m with
    audio
    playoutSink
    stats := { m.stats with audioPlayed := min (m.stats.audioPlayed + n) 18446744073709551615 } }

/-- Start afresh for a new connect. The decoder and the sink stay. -/
def restart (m : MediaBuffers) : MediaBuffers :=
  { m with
    recordedVideoNalus := []
    recordedAudioPackets := []
    videoOut := []
    audio := .new 64
    stats := ⟨0, 0, 0, 0, 0⟩ }

/-- The buffers after a call. The default sink has nothing to flush. -/
def call (m : MediaBuffers) : MediaCall → MediaBuffers
  | .handle data => (m.handleTrack data).2
  | .drainVideoFrames => { m with videoOut := [] }
  | .drainAudio => { m with audio := { m.audio with queue := [] } }
  | .pumpPlayout max => m.pumpPlayout max
  | .setAutoPlayout enabled => { m with autoPlayout := enabled }
  | .restart => m.restart
  | .flush => m

/-- The units, encoded or decoded, that are kept. -/
def retained (m : MediaBuffers) : Nat :=
  m.recordedVideoNalus.length + m.recordedAudioPackets.length + m.video.recorded +
    m.videoOut.length + m.audio.queue.length + m.playoutSink.packets.length

/-- The units in the decoder and the sink. -/
def hoard (m : MediaBuffers) : Nat := m.video.recorded + m.playoutSink.packets.length

/-- The units that a call leaves in the decoder or the sink: a video unit with data, and a packet
that is played. -/
def growth (m : MediaBuffers) : MediaCall → Nat
  | .handle (.video nalu) => if nalu.data = [] then 0 else 1
  | .handle (.audio packet) =>
    if m.autoPlayout ∧ (decodeAudioPacket packet).toBool then 1 else 0
  | .pumpPlayout max => min max m.audio.queue.length
  | .drainVideoFrames | .drainAudio | .setAutoPlayout _ | .restart | .flush => 0

/-- The units that a sequence of calls leaves in the decoder and the sink. -/
def grown (m : MediaBuffers) : List MediaCall → Nat
  | [] => 0
  | c :: calls => m.growth c + (m.call c).grown calls

/-! ## Limits -/

/-- The recordings and the queues of a session with record limit `n` are within their limits. -/
structure Capped (n : Nat) (m : MediaBuffers) : Prop where
  limit : m.recordLimit = some n
  fallback : m.video.mockOnly = false
  videoCap : m.videoOutCap = 32
  audioCap : m.audio.capacity = 64
  nalus : m.recordedVideoNalus.length ≤ n
  packets : m.recordedAudioPackets.length ≤ n
  frames : m.videoOut.length ≤ 32
  queue : m.audio.queue.length ≤ 64

end MediaBuffers

/-- A recording stays within its limit. -/
theorem pushRecorded_length {α : Type} {buf : List α} {n : Nat} (h : buf.length ≤ n) (item : α) :
    (pushRecorded buf item (some n)).length ≤ n := by
  cases n with
  | zero => exact h
  | succ n =>
    show ((buf ++ [item]).drop ((buf ++ [item]).length - (n + 1))).length ≤ n + 1
    rw [List.length_drop]
    omega

/-- Room is made for another item. -/
theorem length_drop_concat {α : Type} (l : List α) (item : α) {cap : Nat} (hcap : 1 ≤ cap) :
    (l.drop (l.length + 1 - cap) ++ [item]).length ≤ cap := by
  rw [List.length_append, List.length_drop, List.length_singleton]
  omega

namespace AudioPlayoutQueue

variable {s s' : AudioPlayoutQueue} {packet : AudioPacket}

/-- **A queued packet makes the queue no longer than its capacity.** -/
theorem pushPacket_ok (h : s.pushPacket packet = .ok s') (hcap : 1 ≤ s.capacity) :
    s'.capacity = s.capacity ∧ s'.queue ≠ [] ∧ s'.queue.length ≤ s.capacity := by
  unfold pushPacket at h
  cases hdecode : decodeAudioPacket packet with
  | error e =>
    rw [hdecode] at h
    cases h
  | ok frame =>
    rw [hdecode] at h
    cases h
    refine ⟨rfl, ?_, length_drop_concat _ _ hcap⟩
    exact List.append_ne_nil_of_right_ne_nil _ (List.cons_ne_nil _ _)

/-- A packet is queued exactly if it is decoded. -/
theorem pushPacket_toBool :
    (s.pushPacket packet).toBool = (decodeAudioPacket packet).toBool := by
  unfold pushPacket
  cases decodeAudioPacket packet with
  | error e => rfl
  | ok frame => rfl

/-- The packets that are played leave the queue for the sink. -/
theorem pumpToSink_eq (sink : MockAudioPlayoutSink) (n : Nat) :
    (s.pumpToSink sink n).2.1.capacity = s.capacity ∧
      (s.pumpToSink sink n).2.1.queue = s.queue.drop n ∧
      (s.pumpToSink sink n).2.2.packets.length =
        sink.packets.length + min n s.queue.length := by
  induction n generalizing s sink with
  | zero =>
    refine ⟨rfl, rfl, ?_⟩
    rw [Nat.zero_min]
    rfl
  | succ n ih =>
    unfold pumpToSink pop
    cases hqueue : s.queue with
    | nil => exact ⟨rfl, hqueue, rfl⟩
    | cons packet queue =>
      obtain ⟨hcap, hrest, hpackets⟩ := @ih { s with queue } (sink.push packet)
      refine ⟨hcap, hrest, hpackets.trans ?_⟩
      have hpush : (sink.push packet).packets.length = sink.packets.length + 1 :=
        List.length_append
      rw [hpush, List.length_cons]
      show sink.packets.length + 1 + min n queue.length = _
      omega

end AudioPlayoutQueue

namespace MediaBuffers

variable {n : Nat} {m : MediaBuffers}

theorem capped_new (n : Nat) : Capped n (new (some n)) where
  limit := rfl
  fallback := rfl
  videoCap := rfl
  audioCap := rfl
  nalus := Nat.zero_le _
  packets := Nat.zero_le _
  frames := Nat.zero_le _
  queue := Nat.zero_le _

/-- What taking in a video unit does to the limits and to the hoard. -/
theorem Capped.handleVideo (h : Capped n m) (nalu : VideoNalu) :
    Capped n (m.handleVideo nalu).2 ∧
      m.hoard + m.growth (.handle (.video nalu)) ≤ (m.handleVideo nalu).2.hoard ∧
      (m.handleVideo nalu).2.hoard ≤ m.hoard + 2 * m.growth (.handle (.video nalu)) := by
  have hrecorded := pushRecorded_length h.nalus nalu
  by_cases hempty : nalu.data = []
  · have hgrowth : m.growth (.handle (.video nalu)) = 0 := if_pos hempty
    have hdecode : m.video.decode nalu = (none, m.video) :=
      MockOrSyntheticDecoder.decode_empty hempty
    have heq : m.handleVideo nalu = (false, { m with
        recordedVideoNalus := pushRecorded m.recordedVideoNalus nalu m.recordLimit }) := by
      unfold MediaBuffers.handleVideo
      dsimp only
      rw [hdecode]
    rw [heq, hgrowth, h.limit]
    exact ⟨⟨rfl, h.fallback, h.videoCap, h.audioCap, hrecorded, h.packets, h.frames, h.queue⟩,
      Nat.le_refl _, Nat.le_refl _⟩
  · have hgrowth : m.growth (.handle (.video nalu)) = 1 := if_neg hempty
    obtain ⟨hsome, hfallback, hone, htwo⟩ :=
      MockOrSyntheticDecoder.decode_recorded h.fallback hempty
    unfold MediaBuffers.handleVideo hoard
    rw [hgrowth]
    obtain ⟨decoded, hdecoded⟩ := Option.ne_none_iff_exists'.mp hsome
    have hdecode : m.video.decode nalu = (some decoded, (m.video.decode nalu).2) :=
      Prod.ext hdecoded rfl
    dsimp only
    rw [hdecode, h.limit]
    refine ⟨⟨rfl, hfallback, h.videoCap, h.audioCap, hrecorded, h.packets, ?_, h.queue⟩, ?_, ?_⟩
    · dsimp only
      rw [h.videoCap]
      exact length_drop_concat _ _ (by decide)
    · dsimp only
      omega
    · dsimp only
      omega

/-- Playing a packet moves it from the queue to the sink. -/
theorem Capped.playOne (h : Capped n m) (hqueued : m.audio.queue ≠ []) :
    Capped n m.playOne ∧ m.playOne.hoard = m.hoard + if m.autoPlayout then 1 else 0 := by
  unfold MediaBuffers.playOne
  cases hauto : m.autoPlayout with
  | false => exact ⟨h, rfl⟩
  | true =>
    obtain ⟨packet, queue, hqueue⟩ := List.exists_cons_of_ne_nil hqueued
    have hpop : m.audio.pop = (some packet, { m.audio with queue }) := by
      unfold AudioPlayoutQueue.pop
      rw [hqueue]
    have hlength := h.queue
    rw [hqueue, List.length_cons] at hlength
    rw [if_pos rfl, hpop]
    refine ⟨⟨h.limit, h.fallback, h.videoCap, h.audioCap, h.nalus, h.packets, h.frames,
      Nat.le_of_succ_le hlength⟩, ?_⟩
    show m.video.recorded + (m.playoutSink.packets ++ [packet]).length = _
    rw [List.length_append]
    rfl

/-- What taking in an audio packet does to the limits and to the hoard. -/
theorem Capped.handleAudio (h : Capped n m) (packet : AudioPacket) :
    Capped n (m.handleAudio packet).2 ∧
      (m.handleAudio packet).2.hoard = m.hoard + m.growth (.handle (.audio packet)) := by
  have hrecorded := pushRecorded_length h.packets packet
  unfold MediaBuffers.handleAudio growth
  dsimp only
  rw [h.limit, ← AudioPlayoutQueue.pushPacket_toBool (s := m.audio)]
  cases hpush : m.audio.pushPacket packet with
  | error e =>
    refine ⟨⟨rfl, h.fallback, h.videoCap, h.audioCap, h.nalus, hrecorded, h.frames, h.queue⟩, ?_⟩
    rw [if_neg fun hboth => by cases hboth.2]
    rfl
  | ok audio =>
    obtain ⟨hcap, hne, hlength⟩ := AudioPlayoutQueue.pushPacket_ok hpush (by
      rw [h.audioCap]
      decide)
    rw [h.audioCap] at hcap hlength
    obtain ⟨hcapped, hhoard⟩ := Capped.playOne (n := n)
      (m := { m with
        recordLimit := some n
        recordedAudioPackets := pushRecorded m.recordedAudioPackets packet (some n)
        audio
        stats := { m.stats with
          audioPackets := audio.enqueued
          mockOpusPackets := audio.mockOpusDecoded } })
      ⟨rfl, h.fallback, h.videoCap, hcap, h.nalus, hrecorded, h.frames, hlength⟩ hne
    refine ⟨hcapped, hhoard.trans ?_⟩
    show m.hoard + (if m.autoPlayout then 1 else 0) = _
    cases m.autoPlayout with
    | false => rfl
    | true => rfl

/-- **A call keeps the limits**, and the hoard grows by the units that are left there. -/
theorem Capped.call (h : Capped n m) (c : MediaCall) :
    Capped n (m.call c) ∧ m.hoard + m.growth c ≤ (m.call c).hoard ∧
      (m.call c).hoard ≤ m.hoard + 2 * m.growth c := by
  cases c with
  | handle data =>
    cases data with
    | video nalu => exact h.handleVideo nalu
    | audio packet =>
      obtain ⟨hcapped, hhoard⟩ := h.handleAudio packet
      refine ⟨hcapped, hhoard.ge, ?_⟩
      show (m.handleAudio packet).2.hoard ≤ _
      omega
  | drainVideoFrames =>
    exact ⟨⟨h.limit, h.fallback, h.videoCap, h.audioCap, h.nalus, h.packets, Nat.zero_le _,
      h.queue⟩, Nat.le_refl _, Nat.le_refl _⟩
  | drainAudio =>
    exact ⟨⟨h.limit, h.fallback, h.videoCap, h.audioCap, h.nalus, h.packets, h.frames,
      Nat.zero_le _⟩, Nat.le_refl _, Nat.le_refl _⟩
  | pumpPlayout max =>
    obtain ⟨hcap, hqueue, hpackets⟩ := @AudioPlayoutQueue.pumpToSink_eq m.audio m.playoutSink max
    have hlength : (m.audio.queue.drop max).length ≤ 64 := by
      rw [List.length_drop]
      exact (Nat.sub_le _ _).trans h.queue
    refine ⟨⟨h.limit, h.fallback, h.videoCap, hcap.trans h.audioCap, h.nalus, h.packets, h.frames,
      ?_⟩, ?_, ?_⟩
    · show (m.audio.pumpToSink m.playoutSink max).2.1.queue.length ≤ 64
      rw [hqueue]
      exact hlength
    · show m.hoard + min max m.audio.queue.length ≤
        m.video.recorded + (m.audio.pumpToSink m.playoutSink max).2.2.packets.length
      rw [hpackets, hoard]
      omega
    · show m.video.recorded + (m.audio.pumpToSink m.playoutSink max).2.2.packets.length ≤
        m.hoard + 2 * min max m.audio.queue.length
      rw [hpackets, hoard]
      omega
  | setAutoPlayout enabled =>
    exact ⟨⟨h.limit, h.fallback, h.videoCap, h.audioCap, h.nalus, h.packets, h.frames, h.queue⟩,
      Nat.le_refl _, Nat.le_refl _⟩
  | restart =>
    exact ⟨⟨h.limit, h.fallback, h.videoCap, rfl, Nat.zero_le _, Nat.zero_le _, Nat.zero_le _,
      Nat.zero_le _⟩, Nat.le_refl _, Nat.le_refl _⟩
  | flush => exact ⟨h, Nat.le_refl _, Nat.le_refl _⟩

/-- The limits and the hoard after a sequence of calls. -/
theorem Capped.calls (h : Capped n m) (cs : List MediaCall) :
    Capped n (cs.foldl MediaBuffers.call m) ∧
      m.hoard + m.grown cs ≤ (cs.foldl MediaBuffers.call m).hoard ∧
      (cs.foldl MediaBuffers.call m).hoard ≤ m.hoard + 2 * m.grown cs := by
  induction cs generalizing m with
  | nil => exact ⟨h, Nat.le_refl _, Nat.le_refl _⟩
  | cons c cs ih =>
    obtain ⟨hcapped, hge, hle⟩ := h.call c
    obtain ⟨hall, hallge, hallle⟩ := ih hcapped
    rw [List.foldl_cons, grown]
    refine ⟨hall, ?_, ?_⟩
    · omega
    · omega

/-- **What is kept after a sequence of calls**: at least what was left in the decoder and the sink,
and at most twice that and the limits of the recordings and queues. -/
theorem retained_bounds (n : Nat) (cs : List MediaCall) :
    (new (some n)).grown cs ≤ (cs.foldl call (new (some n))).retained ∧
      (cs.foldl call (new (some n))).retained ≤ 2 * n + 96 + 2 * (new (some n)).grown cs := by
  obtain ⟨h, hge, hle⟩ := (capped_new n).calls cs
  have hnew : (new (some n)).hoard = 0 := rfl
  have hnalus := h.nalus
  have hpackets := h.packets
  have hframes := h.frames
  have hqueue := h.queue
  rw [hnew] at hge hle
  unfold hoard at hge hle
  unfold retained
  constructor
  · omega
  · omega

end MediaBuffers

end RemoteLink.Viewer
