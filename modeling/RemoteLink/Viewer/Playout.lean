import RemoteLink.Library.Runs
import RemoteLink.Signaling.Client
import RemoteLink.Viewer.MediaBuffers

set_option autoImplicit false

/-!
# Audio playout

Decoded audio waits in a bounded queue until it is popped or pumped into a sink. A pump takes a
packet out of the queue before it asks the sink to play it, and an error of the sink ends the pump.

## Main definitions

* `AudioPlayoutQueue.pumpTo` — the pump into a sink that may fail.
* `PlayoutWorld`, `playoutSystem` — the queue in use, with a record of what was enqueued and of what
  became of it.
* `PlayoutWorld.Conserved` — every frame is delivered, counted as dropped or waits.

## Main results

* `pumpToSink_eq_pumpTo` — a pump into the default sink.
* `playout_conserved` — the account holds in every run in which no push of a pump fails.
-/

namespace RemoteLink.Viewer

open Library Net
open Protocol (saturatingSucc)

/-! ## Sinks that may fail -/

section

variable {σ : Type} (push : σ → PlayoutPacket → Except String Unit × σ)

/-- **Pump up to so many packets into a sink.** A packet is popped before it is pushed, and an error
of the sink is returned at once. -/
def AudioPlayoutQueue.pumpTo (s : AudioPlayoutQueue) (sink : σ) :
    ℕ → Except String ℕ × AudioPlayoutQueue × σ
  | 0 => (.ok 0, s, sink)
  | max + 1 =>
    match s.pop with
    | (none, s) => (.ok 0, s, sink)
    | (some packet, s) =>
      match push sink packet with
      | (.error e, sink) => (.error e, s, sink)
      | (.ok (), sink) =>
        let (played, s, sink) := s.pumpTo sink max
        (played.map (· + 1), s, sink)

/-- The default sink takes every packet. -/
def MockAudioPlayoutSink.answer (sink : MockAudioPlayoutSink) (packet : PlayoutPacket) :
    Except String Unit × MockAudioPlayoutSink := (.ok (), sink.push packet)

/-- **A pump into the default sink does not fail.** -/
theorem pumpToSink_eq_pumpTo (s : AudioPlayoutQueue) (sink : MockAudioPlayoutSink) (max : ℕ) :
    s.pumpTo MockAudioPlayoutSink.answer sink max =
      (.ok (s.pumpToSink sink max).1, (s.pumpToSink sink max).2) := by
  induction max generalizing s sink with
  | zero => rfl
  | succ max ih =>
    unfold AudioPlayoutQueue.pumpTo AudioPlayoutQueue.pumpToSink
    rcases hpop : s.pop with ⟨_ | packet, s'⟩
    · rfl
    · dsimp only [MockAudioPlayoutSink.answer]
      rw [ih]
      rfl

/-- What becomes of a frame that leaves the queue. -/
inductive Fate where
  | dropped
  | popped
  | played
  | refused
  deriving Repr, DecidableEq

/-- The frames that have left the queue, with what became of them. -/
abbrev PlayoutLog := List (PlayoutPacket × Fate)

/-- What becomes of a frame by the answer of the sink. -/
def fateOf : Except String Unit → Fate
  | .ok () => .played
  | .error _ => .refused

/-- A sink with a record of what it was given. -/
def recorded (sink : σ × PlayoutLog) (packet : PlayoutPacket) :
    Except String Unit × σ × PlayoutLog :=
  let (answer, next) := push sink.1 packet
  (answer, next, sink.2 ++ [(packet, fateOf answer)])

/-- A sink takes some packets, one after the other. -/
def Accepts (sink : σ) : List PlayoutPacket → Prop
  | [] => True
  | packet :: packets => (push sink packet).1 = .ok () ∧ Accepts (push sink packet).2 packets

/-- **What a pump does**: it plays packets from the front of the queue, and takes one more from
there if the sink refuses it. -/
theorem pumpTo_recorded (s : AudioPlayoutQueue) (sink : σ) (log : PlayoutLog) (max : ℕ) :
    ∃ played refused rest, s.queue = played ++ refused ++ rest ∧
      (s.pumpTo (recorded push) (sink, log) max).2.1 = { s with queue := rest } ∧
      (s.pumpTo (recorded push) (sink, log) max).2.2.2 =
        log ++ played.map (·, .played) ++ refused.map (·, .refused) ∧
      (refused = [] ↔ Accepts push sink (s.queue.take max)) := by
  induction max generalizing s sink log with
  | zero =>
    refine ⟨[], [], s.queue, rfl, rfl, ?_, iff_of_true rfl trivial⟩
    simp [AudioPlayoutQueue.pumpTo]
  | succ max ih =>
    unfold AudioPlayoutQueue.pumpTo AudioPlayoutQueue.pop
    rcases s with ⟨_ | ⟨packet, queue⟩, capacity, dropped, enqueued, decoded⟩
    · refine ⟨[], [], [], rfl, rfl, ?_, iff_of_true rfl trivial⟩
      simp
    · rcases hpush : push sink packet with ⟨e | _, next⟩
      · refine ⟨[], [packet], queue, rfl, ?_, ?_, ?_⟩
        · simp [recorded, hpush]
        · simp [recorded, hpush, fateOf]
        · simp [Accepts, hpush]
      · obtain ⟨played, refused, rest, hsplit, haudio, hlog, haccepts⟩ :=
          ih ⟨queue, capacity, dropped, enqueued, decoded⟩ next (log ++ [(packet, .played)])
        refine ⟨packet :: played, refused, rest, ?_, ?_, ?_, ?_⟩
        · simpa using hsplit
        · simpa [recorded, hpush, fateOf] using haudio
        · simpa [recorded, hpush, fateOf] using hlog
        · simpa [Accepts, hpush] using haccepts

/-! ## The queue in use -/

/-- A call on the queue. -/
inductive PlayoutOp where
  | pushFrame (frame : AudioFrame)
  | pushPacket (packet : AudioPacket)
  | pop
  | drain
  | pumpToSink (max : ℕ)

/-- The queue and its sink, with the frames that were enqueued and those that have left. -/
structure PlayoutWorld (σ : Type) where
  audio : AudioPlayoutQueue
  sink : σ
  pushed : List PlayoutPacket
  gone : PlayoutLog

namespace PlayoutWorld

variable (w : PlayoutWorld σ)

/-- A frame was enqueued. The packets that are missing afterwards were at the front. -/
def enqueue (audio : AudioPlayoutQueue) (frame : AudioFrame) : PlayoutWorld σ :=
  let missing := w.audio.queue.length + 1 - audio.queue.length
  { w with
    audio
    pushed := w.pushed ++ [⟨frame.ptsHostMono, frame⟩]
    gone := w.gone ++ (w.audio.queue.take missing).map (·, .dropped) }

/-- A packet comes in; one that is not decoded is not enqueued. -/
def takeIn (packet : AudioPacket) : PlayoutWorld σ :=
  match w.audio.pushPacket packet, decodeAudioPacket packet with
  | .ok audio, .ok (frame, _) => w.enqueue audio frame
  | _, _ => w

/-- The world after a call. -/
def call : PlayoutOp → PlayoutWorld σ
  | .pushFrame frame => w.enqueue (w.audio.pushFrame frame) frame
  | .pushPacket packet => w.takeIn packet
  | .pop =>
    let (packet, audio) := w.audio.pop
    { w with audio, gone := w.gone ++ packet.toList.map (·, .popped) }
  | .drain =>
    { w with
      audio := { w.audio with queue := [] }
      gone := w.gone ++ w.audio.queue.map (·, .popped) }
  | .pumpToSink max =>
    let (_, audio, sink, gone) := w.audio.pumpTo (recorded push) (w.sink, w.gone) max
    { w with audio, sink, gone }

/-- The number of frames of which something has become. -/
def count (fate : Fate) : ℕ := w.gone.countP (·.2 = fate)

/-- The frames that the sink has played. -/
def delivered : List PlayoutPacket := (w.gone.filter (·.2 = .played)).map Prod.fst

/-- **The account of the queue**: frames leave it in the order in which they were enqueued, each was
delivered or counted as dropped, and one is only dropped for a newer one behind a full queue. -/
structure Conserved : Prop where
  room : 0 < w.audio.capacity
  bounded : w.audio.queue.length ≤ w.audio.capacity
  order : w.gone.map Prod.fst ++ w.audio.queue = w.pushed
  delivery : w.delivered.Sublist w.pushed
  account : w.pushed.length =
    w.count .played + w.count .popped + w.audio.dropped.toNat + w.audio.queue.length
  dropped : w.audio.dropped.toNat = w.count .dropped
  enqueued : w.audio.enqueued.toNat = min w.pushed.length 18446744073709551615
  overflow : ∀ before packet after, w.gone = before ++ (packet, .dropped) :: after →
    before.length + w.audio.capacity < w.pushed.length

/-- **No frame is lost in a call**: the sink takes what is pumped into it, and a frame that is
dropped can be counted. -/
def Keeps : PlayoutOp → Prop
  | .pushFrame _ => w.audio.queue.length < w.audio.capacity ∨
      w.audio.dropped.toNat < 18446744073709551615
  | .pushPacket packet => (decodeAudioPacket packet).toBool = true →
      w.audio.queue.length < w.audio.capacity ∨ w.audio.dropped.toNat < 18446744073709551615
  | .pop | .drain => True
  | .pumpToSink max => Accepts push w.sink (w.audio.queue.take max)

end PlayoutWorld

/-- The queue under any calls. -/
def playoutSystem : System (PlayoutWorld σ) PlayoutOp where
  init w := ∃ capacity, w.audio = .new capacity ∧ w.pushed = [] ∧ w.gone = []
  step w op := some (w.call push op)

/-! ## The account -/

namespace PlayoutWorld

variable {push : σ → PlayoutPacket → Except String Unit × σ} {w : PlayoutWorld σ}

/-- What has left the queue in order was delivered in order. -/
theorem delivered_sublist (horder : w.gone.map Prod.fst ++ w.audio.queue = w.pushed) :
    w.delivered.Sublist w.pushed := by
  have hgone : w.delivered.Sublist (w.gone.map Prod.fst) := List.filter_sublist.map Prod.fst
  rw [← horder]
  exact hgone.trans (List.sublist_append_left _ _)

/-- A queue is what another one is after a frame has been enqueued. -/
structure Enqueues (before after : AudioPlayoutQueue) (frame : AudioFrame) : Prop where
  queue : after.queue = before.queue.drop (before.queue.length + 1 - before.capacity) ++
    [⟨frame.ptsHostMono, frame⟩]
  capacity : after.capacity = before.capacity
  dropped : after.dropped = saturatingSucc^[before.queue.length + 1 - before.capacity]
    before.dropped
  enqueued : after.enqueued = saturatingSucc before.enqueued

theorem enqueues_pushFrame (s : AudioPlayoutQueue) (frame : AudioFrame) :
    Enqueues s (s.pushFrame frame) frame := ⟨rfl, rfl, rfl, rfl⟩

theorem enqueues_pushPacket {s audio : AudioPlayoutQueue} {packet : AudioPacket}
    (h : s.pushPacket packet = .ok audio) :
    ∃ frame wasMopu, decodeAudioPacket packet = .ok (frame, wasMopu) ∧ Enqueues s audio frame := by
  unfold AudioPlayoutQueue.pushPacket at h
  cases hdecode : decodeAudioPacket packet with
  | error e =>
    rw [hdecode] at h
    cases h
  | ok decoded =>
    rw [hdecode] at h
    cases h
    exact ⟨_, _, rfl, rfl, rfl, rfl, rfl⟩

/-- The frames in a record, by what became of them. -/
theorem count_total : w.gone.length =
    w.count .played + w.count .popped + w.count .dropped + w.count .refused := by
  unfold count
  induction w.gone with
  | nil => rfl
  | cons entry gone ih =>
    obtain ⟨packet, fate⟩ := entry
    simp only [List.length_cons, List.countP_cons, ih]
    cases fate with
    | dropped => simp; omega
    | popped => simp; omega
    | played => simp; omega
    | refused => simp; omega

/-- Nothing is refused where the account holds. -/
theorem Conserved.refused_eq_zero (h : w.Conserved) : w.count .refused = 0 := by
  have htotal := count_total (w := w)
  have hlength := congrArg List.length h.order
  rw [List.length_append, List.length_map] at hlength
  have haccount := h.account
  have hdropped := h.dropped
  omega

/-- **The step lemma of the account**: `new` was enqueued, and `left` has left from the front. -/
theorem Conserved.of_step (h : w.Conserved) {w' : PlayoutWorld σ} {left : PlayoutLog}
    {new : List PlayoutPacket} (hcapacity : w'.audio.capacity = w.audio.capacity)
    (hbounded : w'.audio.queue.length ≤ w.audio.capacity) (hpushed : w'.pushed = w.pushed ++ new)
    (hgone : w'.gone = w.gone ++ left)
    (hqueue : w.audio.queue ++ new = left.map Prod.fst ++ w'.audio.queue)
    (hrefused : left.countP (·.2 = .refused) = 0)
    (hdropped : w'.audio.dropped.toNat = w.audio.dropped.toNat + left.countP (·.2 = .dropped))
    (henqueued : w'.audio.enqueued.toNat =
      min (w.audio.enqueued.toNat + new.length) 18446744073709551615)
    (hoverflow : ∀ before packet after, left = before ++ (packet, .dropped) :: after →
      w.gone.length + before.length + w.audio.capacity < w'.pushed.length) :
    w'.Conserved := by
  have horder : w'.gone.map Prod.fst ++ w'.audio.queue = w'.pushed := by
    rw [hgone, hpushed, ← h.order, List.map_append, List.append_assoc, ← hqueue, List.append_assoc]
  have hcount (fate : Fate) : w'.count fate = w.count fate + left.countP (·.2 = fate) := by
    unfold count
    rw [hgone, List.countP_append]
  have hdropped' : w'.audio.dropped.toNat = w'.count .dropped := by
    rw [hdropped, hcount, h.dropped]
  refine ⟨hcapacity ▸ h.room, hcapacity ▸ hbounded, horder, delivered_sublist horder, ?_,
    hdropped', ?_, ?_⟩
  · have htotal := count_total (w := w')
    have hlength := congrArg List.length horder
    rw [List.length_append, List.length_map] at hlength
    have hnone : w'.count .refused = 0 := by rw [hcount, h.refused_eq_zero, hrefused]
    omega
  · rw [henqueued, h.enqueued, hpushed, List.length_append]
    omega
  · intro before packet after hsplit
    rw [hcapacity]
    rw [hgone] at hsplit
    rcases List.append_eq_append_iff.mp hsplit with ⟨middle, rfl, hleft⟩ | ⟨middle, hold, hnew⟩
    · have hlt := hoverflow middle packet after hleft
      rw [List.length_append]
      exact hlt
    · match middle, hold, hnew with
      | [], hold, hnew =>
        have hlt := hoverflow [] packet after hnew.symm
        rw [hold, List.append_nil] at hlt
        exact hlt
      | _ :: middle, hold, hnew =>
        obtain ⟨rfl, -⟩ := List.cons.inj hnew
        have hlt := h.overflow before packet middle hold
        rw [hpushed, List.length_append]
        omega

/-- The queue is full or has room after a call of the account. -/
theorem Conserved.excess_cases (h : w.Conserved) :
    w.audio.queue.length < w.audio.capacity ∧
        w.audio.queue.length + 1 - w.audio.capacity = 0 ∨
      ∃ oldest rest, w.audio.queue = oldest :: rest ∧ rest.length + 1 = w.audio.capacity ∧
        w.audio.queue.length + 1 - w.audio.capacity = 1 := by
  have hroom := h.room
  have hbounded := h.bounded
  rcases hqueue : w.audio.queue with _ | ⟨oldest, rest⟩
  · exact .inl ⟨hroom, by rw [List.length_nil]; omega⟩
  · rw [hqueue, List.length_cons] at hbounded
    rcases Nat.lt_or_ge (rest.length + 1) w.audio.capacity with hlt | hge
    · exact .inl ⟨hlt, by rw [List.length_cons]; omega⟩
    · exact .inr ⟨oldest, rest, rfl, by omega, by rw [List.length_cons]; omega⟩

/-- **An enqueued frame is accounted for** exactly if the frame dropped for it can be counted. -/
theorem Conserved.enqueue_iff (h : w.Conserved) {audio : AudioPlayoutQueue} {frame : AudioFrame}
    (he : Enqueues w.audio audio frame) :
    (w.enqueue audio frame).Conserved ↔ w.audio.queue.length < w.audio.capacity ∨
      w.audio.dropped.toNat < 18446744073709551615 := by
  obtain ⟨hqueue, hcapacity, hdropped, henqueued⟩ := he
  have hcounted : audio.enqueued.toNat =
      min (w.audio.enqueued.toNat + 1) 18446744073709551615 := by
    rw [henqueued, Signaling.saturatingSucc_toNat]
  rcases h.excess_cases with ⟨hroom, hexcess⟩ | ⟨oldest, rest, hfull, hlength, hexcess⟩
  · rw [hexcess] at hqueue hdropped
    have hgone : (w.enqueue audio frame).gone = w.gone ++ [] := by simp [enqueue, hqueue]
    refine iff_of_true (h.of_step hcapacity ?_ rfl hgone ?_ rfl ?_ hcounted ?_) (.inl hroom)
    · show audio.queue.length ≤ _
      rw [hqueue, List.drop_zero, List.length_append, List.length_singleton]
      exact hroom
    · exact hqueue.symm
    · exact congrArg UInt64.toNat hdropped
    · intro before packet after hsplit
      simp at hsplit
  · rw [hexcess, hfull] at hqueue
    rw [hexcess] at hdropped
    have hgone : (w.enqueue audio frame).gone = w.gone ++ [(oldest, .dropped)] := by
      simp [enqueue, hqueue, hfull]
    have hsaturated : audio.dropped.toNat =
        min (w.audio.dropped.toNat + 1) 18446744073709551615 := by
      rw [hdropped]
      exact Signaling.saturatingSucc_toNat _
    constructor
    · intro h'
      have hbefore := h.dropped
      have hafter : audio.dropped.toNat = (w.enqueue audio frame).count .dropped := h'.dropped
      unfold count at hbefore hafter
      rw [hgone, List.countP_append] at hafter
      simp at hafter
      omega
    · rintro (hroom | hlt)
      · rw [hfull, List.length_cons] at hroom
        omega
      · refine h.of_step hcapacity ?_ rfl hgone ?_ rfl ?_ hcounted ?_
        · show audio.queue.length ≤ _
          rw [hqueue]
          simpa using Nat.le_of_eq hlength
        · show w.audio.queue ++ _ = _ ++ audio.queue
          rw [hfull, hqueue]
          rfl
        · show audio.dropped.toNat = w.audio.dropped.toNat + 1
          omega
        · intro before packet after hsplit
          have hlengths := congrArg List.length hsplit
          have horder := congrArg List.length h.order
          have hpushed : (w.enqueue audio frame).pushed.length = w.pushed.length + 1 :=
            List.length_append
          rw [List.length_append, List.length_map, hfull, List.length_cons] at horder
          rw [List.length_singleton, List.length_append, List.length_cons] at hlengths
          omega

/-- Frames that leave from the front for somebody are accounted for. -/
theorem Conserved.leave (h : w.Conserved) {w' : PlayoutWorld σ} {taken rest : List PlayoutPacket}
    {fate : Fate} (hfate : fate = .popped ∨ fate = .played)
    (hsplit : w.audio.queue = taken ++ rest) (haudio : w'.audio = { w.audio with queue := rest })
    (hpushed : w'.pushed = w.pushed) (hgone : w'.gone = w.gone ++ taken.map (·, fate)) :
    w'.Conserved := by
  have hother (other : Fate) (hne : fate ≠ other) :
      (taken.map (·, fate)).countP (·.2 = other) = 0 := by
    simp [List.countP_eq_zero, hne]
  have hdropped : fate ≠ .dropped := by
    rcases hfate with rfl | rfl
    · decide
    · decide
  have hrefused : fate ≠ .refused := by
    rcases hfate with rfl | rfl
    · decide
    · decide
  have hbounded := h.bounded
  rw [hsplit, List.length_append] at hbounded
  have hnew : w'.pushed = w.pushed ++ [] := by
    rw [hpushed, List.append_nil]
  refine h.of_step ?_ ?_ hnew hgone ?_ (hother _ hrefused) ?_ ?_ ?_
  · rw [haudio]
  · rw [haudio]
    show rest.length ≤ _
    omega
  · rw [haudio, hsplit, List.map_map, List.append_nil]
    exact congrArg (· ++ rest) (List.map_id taken).symm
  · rw [haudio, hother _ hdropped]
    rfl
  · have henqueued := h.enqueued
    rw [haudio]
    show w.audio.enqueued.toNat = min (w.audio.enqueued.toNat + 0) _
    omega
  · intro before packet after hleft
    have hmem : (packet, Fate.dropped) ∈ taken.map (·, fate) := by
      rw [hleft]
      exact List.mem_append_right _ List.mem_cons_self
    obtain ⟨_, -, heq⟩ := List.mem_map.mp hmem
    exact absurd (congrArg Prod.snd heq) hdropped

/-- A pump is accounted for exactly if the sink takes what is pumped into it. -/
theorem Conserved.pump_iff (h : w.Conserved) (max : ℕ) :
    (w.call push (.pumpToSink max)).Conserved ↔
      Accepts push w.sink (w.audio.queue.take max) := by
  obtain ⟨played, refused, rest, hsplit, haudio, hlog, haccepts⟩ :=
    pumpTo_recorded push w.audio w.sink w.gone max
  have hgone : (w.call push (.pumpToSink max)).gone =
      w.gone ++ (played.map (·, .played) ++ refused.map (·, .refused)) := by
    rw [← List.append_assoc]
    exact hlog
  rw [← haccepts]
  constructor
  · intro h'
    have hnone := h'.refused_eq_zero
    unfold count at hnone
    rw [hgone, List.countP_append, List.countP_append] at hnone
    refine List.eq_nil_iff_forall_not_mem.mpr fun packet hmem => ?_
    have hrefused : 0 < (refused.map (·, Fate.refused)).countP (·.2 = .refused) :=
      List.countP_pos_iff.mpr ⟨_, List.mem_map.mpr ⟨packet, hmem, rfl⟩, rfl⟩
    omega
  · rintro rfl
    rw [List.append_nil] at hsplit
    rw [List.map_nil, List.append_nil] at hgone
    exact h.leave (.inr rfl) hsplit haudio rfl hgone

/-- What is popped was at the front. -/
theorem pop_spec (s : AudioPlayoutQueue) :
    s.queue = s.pop.1.toList ++ s.pop.2.queue ∧ s.pop.2 = { s with queue := s.pop.2.queue } := by
  rcases s with ⟨_ | ⟨packet, rest⟩, capacity, dropped, enqueued, decoded⟩
  · exact ⟨rfl, rfl⟩
  · exact ⟨rfl, rfl⟩

/-- A packet is accounted for exactly if it is not decoded, or enqueued without a loss. -/
theorem Conserved.admit_iff (h : w.Conserved) (packet : AudioPacket) :
    (w.takeIn packet).Conserved ↔ ((decodeAudioPacket packet).toBool = true →
      w.audio.queue.length < w.audio.capacity ∨
        w.audio.dropped.toNat < 18446744073709551615) := by
  unfold takeIn
  cases hpush : w.audio.pushPacket packet with
  | error e =>
    have hdecode : (decodeAudioPacket packet).toBool = false := by
      rw [← AudioPlayoutQueue.pushPacket_toBool (s := w.audio), hpush]
      rfl
    rw [hdecode]
    exact iff_of_true h fun hfalse => absurd hfalse Bool.false_ne_true
  | ok audio =>
    obtain ⟨frame, wasMopu, hdecode, he⟩ := enqueues_pushPacket hpush
    rw [hdecode]
    exact (h.enqueue_iff he).trans (imp_iff_right rfl).symm

/-- **The step theorem**: a call keeps the account exactly if it loses no frame. -/
theorem Conserved.call_iff (h : w.Conserved) (op : PlayoutOp) :
    (w.call push op).Conserved ↔ w.Keeps push op := by
  cases op with
  | pushFrame frame => exact h.enqueue_iff (enqueues_pushFrame w.audio frame)
  | pushPacket packet => exact h.admit_iff packet
  | pop =>
    obtain ⟨hsplit, haudio⟩ := pop_spec w.audio
    exact iff_of_true (h.leave (.inl rfl) hsplit haudio rfl rfl) trivial
  | drain => exact iff_of_true (h.leave (.inl rfl) (List.append_nil _).symm rfl rfl rfl) trivial
  | pumpToSink max => exact h.pump_iff max

/-- Nothing has happened yet. -/
theorem conserved_init (h : (playoutSystem push).init w) : w.Conserved := by
  obtain ⟨capacity, haudio, hpushed, hgone⟩ := h
  obtain ⟨audio, sink, pushed, gone⟩ := w
  obtain rfl : audio = .new capacity := haudio
  obtain rfl : pushed = [] := hpushed
  obtain rfl : gone = [] := hgone
  exact ⟨Nat.lt_of_lt_of_le Nat.one_pos (Nat.le_max_right capacity 1), Nat.zero_le _, rfl,
    List.Sublist.refl [], rfl, rfl, rfl, by simp⟩

end PlayoutWorld

/-- **Audio playout is conserved** in every run in which the sink takes what is pumped into it and a
dropped frame can be counted; and no other call keeps the account.

**Proof sketch.** A call enqueues at the back and takes frames from the front, so what has left and
what waits are what was enqueued, in order. A frame that is dropped for a new one leaves a full
queue and is counted; one that the sink refuses has left the queue and is not. -/
theorem playout_conserved {w : PlayoutWorld σ}
    (h : (playoutSystem push).ReachableVia (fun w op => w.Keeps push op) w) :
    w.Conserved ∧ ∀ op, (w.call push op).Conserved ↔ w.Keeps push op := by
  have hconserved : w.Conserved :=
    h.invariant PlayoutWorld.Conserved (fun _ => PlayoutWorld.conserved_init)
      fun w op w' hw hkeeps hstep => Option.some.inj hstep ▸ (hw.call_iff op).mpr hkeeps
  exact ⟨hconserved, hconserved.call_iff⟩

end

/-- A sink with its next answers, which refuses everything behind them. -/
def scriptedPush (answers : List Bool) (_ : PlayoutPacket) : Except String Unit × List Bool :=
  match answers with
  | true :: answers => (.ok (), answers)
  | false :: answers => (.error "device lost", answers)
  | [] => (.error "device lost", [])

/-- An empty queue for two packets. -/
def idlePlayout (answers : List Bool) : PlayoutWorld (List Bool) := ⟨.new 2, answers, [], []⟩

/-- A frame of one sample. -/
def playoutFrame (pts : ℕ) : AudioFrame := ⟨pts, 48000, 1, [7]⟩

/-- Three frames come into a queue for two, and a sink takes one of the others. -/
theorem playout_conserved_overflow :
    ∃ w : PlayoutWorld (List Bool), w.Conserved ∧ w.pushed.length = 3 ∧ w.count .dropped = 1 ∧
      w.count .played = 1 := by
  have hinit : (playoutSystem scriptedPush).init (idlePlayout [true]) := ⟨2, rfl, rfl, rfl⟩
  have hrun : (playoutSystem scriptedPush).ReachableVia (fun w op => w.Keeps scriptedPush op)
      (((((idlePlayout [true]).call scriptedPush (.pushFrame (playoutFrame 0))).call scriptedPush
        (.pushFrame (playoutFrame 10))).call scriptedPush (.pushFrame (playoutFrame 20))).call
          scriptedPush (.pumpToSink 1)) := by
    refine .step (.step (.step (.step (.init hinit) ?_ rfl) ?_ rfl) ?_ rfl) ?_ rfl
    · exact .inl (by decide)
    · exact .inl (by decide)
    · exact .inr (by decide)
    · exact ⟨rfl, trivial⟩
  exact ⟨_, (playout_conserved scriptedPush hrun).1, rfl, rfl, rfl⟩

/-- **A frame that the sink refuses is lost**: it was enqueued, and neither delivered nor counted as
dropped, and it does not wait. -/
theorem playout_loses :
    ∃ w, (playoutSystem scriptedPush).Reachable w ∧ ¬w.Conserved ∧ w.pushed.length = 1 ∧
      w.count .played + w.count .popped = 0 ∧ w.audio.dropped = 0 ∧ w.audio.queue = [] := by
  have hinit : (playoutSystem scriptedPush).init (idlePlayout [false]) := ⟨2, rfl, rfl, rfl⟩
  have hrun : (playoutSystem scriptedPush).Reachable
      (((idlePlayout [false]).call scriptedPush (.pushFrame (playoutFrame 0))).call scriptedPush
        (.pumpToSink 1)) :=
    .step (.step (.init hinit) trivial rfl) trivial rfl
  exact ⟨_, hrun, fun h => absurd h.account (by decide), rfl, rfl, rfl, rfl⟩

end RemoteLink.Viewer
