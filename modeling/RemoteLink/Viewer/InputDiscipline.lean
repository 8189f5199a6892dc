import Mathlib.Data.List.Chain
import RemoteLink.Library.Runs
import RemoteLink.Viewer.InputCapture

set_option autoImplicit false

/-!
# Order, spacing and focus safety of the captured input

A window calls its capture in any order and at any times: samples, focus changes, polls and
flushes. The history of the calls records the moves that were accepted and those that went out,
with the time and the reason.

## Main definitions

* `CaptureOp`, `InputCapture.apply` — the calls of a window.
* `CaptureWorld`, `captureSystem` — the capture with its history.
* `Effect` — all that a call can do to the coalescer.
* `InputDiscipline` — conservation, spacing, order and focus safety.

## Main results

* `apply_effect` — every call has one of the effects.
* `CaptureTracked` — the invariant that links the coalescer to the history.
* `input_discipline` — `InputDiscipline` holds in every reachable state.
* `flush_breaks_spacing` — an explicit flush sends a move before its time.
-/

namespace RemoteLink.Viewer

open Library Protocol Platform

/-! ## Calls and their history -/

/-- Why a move goes out: its time has come, a reliable event forces it out, or a flush does. -/
inductive MoveCause where
  | coalesced
  | reliable
  | flushed
  deriving Repr, DecidableEq

/-- A move that went out. -/
structure Emission where
  pos : Position
  time : Nat
  cause : MoveCause
  deriving Repr, DecidableEq

/-- One call of the window. -/
inductive CaptureOp where
  | setRect (rect : CaptureRect)
  | setFocused (focused : Bool)
  | setAlwaysCapture (always : Bool)
  | push (raw : RawInput) (now : Nat)
  | poll (now : Nat)
  | flushPendingMove (now : Nat)
  deriving Repr, DecidableEq

namespace CaptureOp

/-- The time of a call that may send. -/
def time : CaptureOp → Nat
  | push _ now | poll now | flushPendingMove now => now
  | _ => 0

/-- Why a move would go out in a call. -/
def cause : CaptureOp → MoveCause
  | push (.mouseMove _ _) _ => .coalesced
  | push _ _ => .reliable
  | flushPendingMove _ => .flushed
  | _ => .coalesced

end CaptureOp

/-- A call: the events that go out, and the capture after it. -/
def InputCapture.apply (M : PointerMath) (c : InputCapture) :
    CaptureOp → List CapturedInput × InputCapture
  | .setRect rect => ([], c.setRect rect)
  | .setFocused focused => ([], c.setFocused focused)
  | .setAlwaysCapture always => ([], c.setAlwaysCapture always)
  | .push raw now => c.push M raw now
  | .poll now => ((c.poll now).1.toList, (c.poll now).2)
  | .flushPendingMove now => ((c.flushPendingMove now).1.toList, (c.flushPendingMove now).2)

/-- The moves among events. -/
def moves (events : List CapturedInput) : List Position :=
  events.filterMap fun
    | .mouseMove x y => some (x, y)
    | _ => none

/-- The move that a call hands to the capture while it is permitted. -/
def acceptedMove (M : PointerMath) (c : InputCapture) : CaptureOp → Option Position
  | .push (.mouseMove px py) _ =>
    if c.mayCapture then some (M.normalize c.config.rect px py) else none
  | _ => none

/-- The capture, the moves accepted and sent so far, how many pending ones were replaced by a newer
one or dropped, and the moves accepted since capture was last not permitted. -/
structure CaptureWorld where
  capture : InputCapture
  accepted : List Position
  emissions : List Emission
  replaced : Nat
  dropped : Nat
  sincePermitted : List Position
  deriving Repr, DecidableEq

namespace CaptureWorld

/-- The number of moves that wait. -/
def waiting (w : CaptureWorld) : Nat := w.capture.coalescer.pending.toList.length

/-- The world after a call. A pending move is replaced when another one is accepted, and dropped
when it is gone without having been sent. -/
def next (M : PointerMath) (w : CaptureWorld) (op : CaptureOp) : CaptureWorld :=
  let c := w.capture
  let (events, c') := c.apply M op
  let accepted := (acceptedMove M c op).toList
  { capture := c'
    accepted := w.accepted ++ accepted
    emissions := w.emissions ++ (moves events).map fun pos => ⟨pos, op.time, op.cause⟩
    replaced := w.replaced +
      if c.coalescer.pending.isSome && (acceptedMove M c op).isSome then 1 else 0
    dropped := w.dropped +
      if c.coalescer.pending.isSome && c'.coalescer.pending.isNone && (moves events).isEmpty then 1
      else 0
    sincePermitted := if c'.mayCapture then w.sincePermitted ++ accepted else [] }

end CaptureWorld

/-- The runs of a window on its capture. -/
def captureSystem (M : PointerMath) : System CaptureWorld CaptureOp where
  init w := ∃ config, w = ⟨.new M config, [], [], 0, 0, []⟩
  step w op := some (w.next M op)

/-! ## The discipline -/

/-- What holds of the capture after any calls. Every accepted move has been sent, replaced or
dropped, or waits, and the counters say so as far as they reach. A move that goes out in its time
is an interval behind the one before. While capture is permitted every reliable sample becomes an
event, behind the pending move, which is the last one accepted. While it is not, nothing waits and
nothing goes out, and a move that goes out was the last one accepted since then. -/
structure InputDiscipline (M : PointerMath) (w : CaptureWorld) : Prop where
  conserved : w.accepted.length = w.emissions.length + w.replaced + w.dropped + w.waiting
  counted : w.capture.coalescer.accepted = min w.accepted.length counterMax ∧
    w.capture.coalescer.emitted = min w.emissions.length counterMax ∧
    w.capture.coalescer.coalescedAway = min w.replaced counterMax ∧
    w.capture.coalescer.discarded = min w.dropped counterMax
  spaced : w.emissions.IsChain fun e f =>
    f.cause = .coalesced → e.time + w.capture.coalescer.interval ≤ f.time
  ordered : ∀ raw now, w.capture.mayCapture = true → (∀ px py, raw ≠ .mouseMove px py) →
    ∃ event, InputCapture.reliable M w.capture.config.rect raw = some event ∧
      (w.capture.push M raw now).1 =
        w.capture.coalescer.pending.toList.map InputCapture.move ++ [event]
  latest : ∀ pos, w.capture.coalescer.pending = some pos → w.accepted.getLast? = some pos
  silent : w.capture.mayCapture = false → w.capture.coalescer.pending = none ∧
    ∀ op, (w.capture.apply M op).1 = []
  fresh : ∀ op pos, pos ∈ moves (w.capture.apply M op).1 →
    (w.next M op).sincePermitted.getLast? = some pos

/-! ## What a call can do -/

namespace MouseMoveCoalescer

variable {c : MouseMoveCoalescer} {pos : Position} {now : Nat}

theorem takeEmit_some (h : c.pending = some pos) :
    c.takeEmit now = (some pos,
      { c with pending := none, lastEmit := some now, emitted := bump c.emitted }) := by
  simp only [takeEmit, h]

theorem discardPending_some (h : c.pending = some pos) :
    c.discardPending = { c with pending := none, discarded := bump c.discarded } := by
  simp only [discardPending, h, Option.isSome_some, if_true]

theorem discardPending_none (h : c.pending = none) : c.discardPending = c := by
  simp [discardPending, h]

/-- A move in its time is an interval behind the last one. -/
theorem shouldEmit_iff (hpos : 0 < c.interval) :
    c.shouldEmit now = true ↔ ∀ t, c.lastEmit = some t → t + c.interval ≤ now := by
  unfold shouldEmit
  rcases c.lastEmit with _ | t
  · simp
  · simp only [decide_eq_true_eq, Option.some.injEq, forall_eq']
    omega

end MouseMoveCoalescer

/-- All that a call can do to the coalescer: nothing; drop the pending move; accept a move and keep
it; accept a move and send it in its time; or send the pending move, in its time or forced out. -/
inductive Effect (c : MouseMoveCoalescer) (time : Nat) (cause : MoveCause) :
    Option Position → List Position → MouseMoveCoalescer → Prop
  | idle : Effect c time cause none [] c
  | dropped (pos : Position) (h : c.pending = some pos) :
    Effect c time cause none [] c.discardPending
  | kept (pos : Position) : Effect c time cause (some pos) [] (c.accept pos)
  | passed (pos : Position) (h : (c.accept pos).shouldEmit time = true) :
    Effect c time cause (some pos) [pos] ((c.accept pos).takeEmit time).2
  | sent (pos : Position) (h : c.pending = some pos)
    (htime : cause = .coalesced → c.shouldEmit time = true) :
    Effect c time cause none [pos] (c.takeEmit time).2

namespace MouseMoveCoalescer

variable (c : MouseMoveCoalescer) (now : Nat)

/-- A move that is noted is accepted, and sent when its time has come. -/
theorem push_effect (pos : Position) :
    Effect c now .coalesced (some pos) (c.push pos now).1.toList (c.push pos now).2 := by
  unfold push
  by_cases hemit : (c.accept pos).shouldEmit now = true
  · rw [if_pos hemit, takeEmit_some (show (c.accept pos).pending = some pos from rfl)]
    exact .passed pos hemit
  · rw [if_neg hemit]
    exact .kept pos

/-- A poll sends the pending move when its time has come. -/
theorem poll_effect : Effect c now .coalesced none (c.poll now).1.toList (c.poll now).2 := by
  unfold poll
  rcases hpending : c.pending with _ | pos
  · exact .idle
  · by_cases hemit : c.shouldEmit now = true
    · rw [hemit, takeEmit_some hpending]
      have hsent : Effect c now .coalesced none [pos] (c.takeEmit now).2 :=
        .sent pos hpending fun _ => hemit
      rwa [takeEmit_some hpending] at hsent
    · rw [Bool.not_eq_true] at hemit
      rw [hemit]
      exact .idle

/-- A flush sends the pending move. -/
theorem flush_effect {cause : MoveCause} (hcause : cause ≠ .coalesced) :
    Effect c now cause none (c.flush now).1.toList (c.flush now).2 := by
  unfold flush
  rcases hpending : c.pending with _ | pos
  · exact .idle
  · have hsent : Effect c now cause none [pos] (c.takeEmit now).2 :=
      .sent pos hpending fun h => absurd h hcause
    rw [takeEmit_some hpending] at hsent ⊢
    exact hsent

/-- A flush sends what is pending. -/
theorem flush_fst : (c.flush now).1 = c.pending := by
  unfold flush
  rcases hpending : c.pending with _ | pos
  · rfl
  · rw [takeEmit_some hpending]
    rfl

/-- What a focus change does: the pending move is dropped, or nothing happens. -/
theorem discard_effect {cause : MoveCause} {time : Nat} (b : Bool) :
    Effect c time cause none [] (if b then c.discardPending else c) := by
  cases b with
  | false => exact .idle
  | true =>
    rcases h : c.pending with _ | pos
    · rw [if_pos rfl, discardPending_none h]
      exact .idle
    · exact .dropped pos h

end MouseMoveCoalescer

namespace InputCapture

variable {M : PointerMath} {c : InputCapture}

theorem moves_map_move (ps : List Position) : moves (ps.map move) = ps := by
  simp [moves, move, List.filterMap_map, Function.comp_def]

/-- A reliable event is not a move. -/
theorem moves_reliable {rect : CaptureRect} {raw : RawInput} {event : CapturedInput}
    (h : reliable M rect raw = some event) : moves [event] = [] := by
  cases raw with
  | mouseMove px py => cases h
  | keyNamed key pressed modifiers =>
    simp only [reliable, Option.map_eq_some_iff] at h
    obtain ⟨sc, -, rfl⟩ := h
    rfl
  | mouseButton | mouseWheel | keyScan =>
    obtain rfl := Option.some.inj h
    rfl

/-- **Every reliable sample has its event**: buttons, the wheel and scancodes have one of their own,
and the table has every key. -/
theorem exists_reliable (rect : CaptureRect) {raw : RawInput}
    (h : ∀ px py, raw ≠ .mouseMove px py) : ∃ event, reliable M rect raw = some event := by
  cases raw with
  | mouseMove px py => exact absurd rfl (h px py)
  | keyNamed key pressed modifiers =>
    obtain ⟨sc, hsc⟩ := Option.ne_none_iff_exists'.mp (lookupScancode_ne_none key)
    exact ⟨_, by rw [reliable, hsc]; rfl⟩
  | mouseButton | mouseWheel | keyScan => exact ⟨_, rfl⟩

/-- A reliable sample goes out behind the pending move. -/
theorem push_reliable {raw : RawInput} {event : CapturedInput} (now : Nat)
    (hmay : c.mayCapture = true) (hevent : reliable M c.config.rect raw = some event) :
    c.push M raw now = c.sendReliable event now := by
  cases raw with
  | mouseMove px py => cases hevent
  | mouseButton | mouseWheel | keyNamed | keyScan =>
    simp only [push, hmay, not_true_eq_false, if_false, hevent]

/-- Nothing goes out, and nothing moves in the coalescer, while capture is not permitted. -/
theorem push_blocked (raw : RawInput) (now : Nat) (hmay : ¬c.mayCapture = true) :
    c.push M raw now = ([], { c with blockedUnfocused := bump c.blockedUnfocused }) := if_pos hmay

theorem acceptedMove_blocked (op : CaptureOp) (hmay : ¬c.mayCapture = true) :
    acceptedMove M c op = none := by
  rcases op with _ | _ | _ | ⟨_ | _ | _ | _ | _, now⟩ | _ | _
  case push.mouseMove => exact if_neg hmay
  all_goals rfl

/-- **A call has one of the effects.** -/
theorem apply_effect (M : PointerMath) (c : InputCapture) (op : CaptureOp) :
    Effect c.coalescer op.time op.cause (acceptedMove M c op) (moves (c.apply M op).1)
      (c.apply M op).2.coalescer := by
  by_cases hmay : c.mayCapture = true
  · cases op with
    | setRect rect => exact .idle
    | setFocused focused => exact c.coalescer.discard_effect _
    | setAlwaysCapture always => exact c.coalescer.discard_effect _
    | push raw now =>
      show Effect _ now _ _ (moves (c.push M raw now).1) (c.push M raw now).2.coalescer
      by_cases hmove : ∃ px py, raw = .mouseMove px py
      · obtain ⟨px, py, rfl⟩ := hmove
        rw [acceptedMove, if_pos hmay, push, if_neg (not_not.mpr hmay), moves_map_move]
        exact c.coalescer.push_effect now _
      · have hraw : ∀ px py, raw ≠ .mouseMove px py := fun px py h => hmove ⟨px, py, h⟩
        obtain ⟨event, hevent⟩ := exists_reliable (M := M) c.config.rect hraw
        have hop : acceptedMove M c (.push raw now) = none ∧
            (CaptureOp.push raw now).cause = .reliable := by
          cases raw with
          | mouseMove px py => exact absurd rfl (hraw px py)
          | mouseButton | mouseWheel | keyNamed | keyScan => exact ⟨rfl, rfl⟩
        rw [hop.1, hop.2, push_reliable now hmay hevent]
        have hmoves : moves (c.sendReliable event now).1 = (c.coalescer.flush now).1.toList := by
          show moves ((c.coalescer.flush now).1.toList.map move ++ [event]) = _
          have happend : ∀ l, moves (l ++ [event]) = moves l ++ moves [event] := fun l =>
            List.filterMap_append
          rw [happend, moves_reliable hevent, moves_map_move, List.append_nil]
        rw [hmoves]
        exact c.coalescer.flush_effect now (by simp)
    | poll now =>
      show Effect _ now _ none (moves (c.poll now).1.toList) (c.poll now).2.coalescer
      rw [poll, if_neg (not_not.mpr hmay)]
      show Effect _ now _ none (moves ((c.coalescer.poll now).1.map move).toList) _
      rw [Option.toList_map, moves_map_move]
      exact c.coalescer.poll_effect now
    | flushPendingMove now =>
      show Effect _ now _ none (moves (c.flushPendingMove now).1.toList)
        (c.flushPendingMove now).2.coalescer
      rw [flushPendingMove, if_neg (not_not.mpr hmay)]
      show Effect _ now _ none (moves ((c.coalescer.flush now).1.map move).toList) _
      rw [Option.toList_map, moves_map_move]
      exact c.coalescer.flush_effect now (by simp [CaptureOp.cause])
  · rw [acceptedMove_blocked op hmay]
    cases op with
    | setRect rect => exact .idle
    | setFocused focused => exact c.coalescer.discard_effect _
    | setAlwaysCapture always => exact c.coalescer.discard_effect _
    | push raw now =>
      show Effect _ now _ _ (moves (c.push M raw now).1) (c.push M raw now).2.coalescer
      rw [push_blocked raw now hmay]
      exact .idle
    | poll now =>
      show Effect _ now _ none (moves (c.poll now).1.toList) (c.poll now).2.coalescer
      rw [poll, if_pos hmay]
      exact .idle
    | flushPendingMove now =>
      show Effect _ now _ none (moves (c.flushPendingMove now).1.toList)
        (c.flushPendingMove now).2.coalescer
      rw [flushPendingMove, if_pos hmay]
      exact .idle

/-- A sample does not change what is permitted. -/
theorem push_mayCapture (raw : RawInput) (now : Nat) :
    (c.push M raw now).2.mayCapture = c.mayCapture := by
  by_cases hmay : c.mayCapture = true
  · by_cases hmove : ∃ px py, raw = .mouseMove px py
    · obtain ⟨px, py, rfl⟩ := hmove
      rw [push, if_neg (not_not.mpr hmay)]
      rfl
    · obtain ⟨event, hevent⟩ := exists_reliable (M := M) c.config.rect
        fun px py h => hmove ⟨px, py, h⟩
      rw [push_reliable now hmay hevent]
      rfl
  · rw [push_blocked raw now hmay]
    rfl

/-- Nothing goes out while capture is not permitted. -/
theorem apply_blocked (op : CaptureOp) (hmay : ¬c.mayCapture = true) :
    (c.apply M op).1 = [] := by
  cases op with
  | setRect | setFocused | setAlwaysCapture => rfl
  | push raw now => exact congrArg Prod.fst (push_blocked raw now hmay)
  | poll now => simp only [apply, poll, if_pos hmay, Option.toList_none]
  | flushPendingMove now => simp only [apply, flushPendingMove, if_pos hmay, Option.toList_none]

/-- What is accepted or goes out does so while capture is permitted, and leaves it so. -/
theorem mayCapture_of_effective {op : CaptureOp}
    (h : acceptedMove M c op ≠ none ∨ (c.apply M op).1 ≠ []) :
    (c.apply M op).2.mayCapture = true := by
  have hmay : c.mayCapture = true := by
    by_contra hmay
    rcases h with h | h
    · exact h (acceptedMove_blocked op hmay)
    · exact h (apply_blocked op hmay)
  cases op with
  | setRect | setFocused | setAlwaysCapture => simp [acceptedMove, apply] at h
  | push raw now => exact (push_mayCapture raw now).trans hmay
  | poll now =>
    show (c.poll now).2.mayCapture = true
    rw [poll, if_neg (not_not.mpr hmay)]
    exact hmay
  | flushPendingMove now =>
    show (c.flushPendingMove now).2.mayCapture = true
    rw [flushPendingMove, if_neg (not_not.mpr hmay)]
    exact hmay

/-- **Nothing waits behind a closed gate**, if nothing did before the call: closing it drops what
waits, and while it is closed nothing is accepted. -/
theorem pending_of_blocked (op : CaptureOp)
    (h : c.mayCapture = false → c.coalescer.pending = none)
    (hmay' : (c.apply M op).2.mayCapture = false) :
    (c.apply M op).2.coalescer.pending = none := by
  have hdiscard : c.coalescer.discardPending.pending = none := by
    unfold MouseMoveCoalescer.discardPending
    split_ifs with hpending
    · rfl
    · exact Option.not_isSome_iff_eq_none.mp hpending
  -- closing the gate drops what waits; it was closed already otherwise
  have hgate : ∀ b : Bool, (b = false → c.mayCapture = false) →
      (if b then c.coalescer.discardPending else c.coalescer).pending = none := by
    intro b hb
    cases b with
    | true => exact hdiscard
    | false => exact h (hb rfl)
  cases op with
  | setRect rect => exact h hmay'
  | setFocused focused =>
    refine hgate _ fun hb => ?_
    simp only [apply, setFocused, mayCapture, Bool.or_eq_false_iff] at hmay' ⊢
    simp only [hmay'.1, hmay'.2, Bool.not_false, Bool.and_true] at hb
    exact ⟨hmay'.1, hb⟩
  | setAlwaysCapture always =>
    refine hgate _ fun hb => ?_
    simp only [apply, setAlwaysCapture, mayCapture, Bool.or_eq_false_iff] at hmay' ⊢
    simp only [hmay'.1, hmay'.2, Bool.not_false, Bool.and_true] at hb
    exact ⟨hb, hmay'.2⟩
  | push raw now =>
    have hmay : c.mayCapture = false := (push_mayCapture raw now).symm.trans hmay'
    show (c.push M raw now).2.coalescer.pending = none
    rw [push_blocked raw now (by simp [hmay])]
    exact h hmay
  | poll now =>
    have hmay : c.mayCapture = false := by
      by_contra hmay
      rw [Bool.not_eq_false] at hmay
      simp only [apply, poll, hmay, not_true_eq_false, if_false] at hmay'
      exact absurd hmay (by simpa [mayCapture] using hmay')
    show (c.poll now).2.coalescer.pending = none
    rw [poll, if_pos (by simp [hmay])]
    exact h hmay
  | flushPendingMove now =>
    have hmay : c.mayCapture = false := by
      by_contra hmay
      rw [Bool.not_eq_false] at hmay
      simp only [apply, flushPendingMove, hmay, not_true_eq_false, if_false] at hmay'
      exact absurd hmay (by simpa [mayCapture] using hmay')
    show (c.flushPendingMove now).2.coalescer.pending = none
    rw [flushPendingMove, if_pos (by simp [hmay])]
    exact h hmay

end InputCapture

/-! ## The invariant -/

/-- A counter follows a number as far as it reaches. -/
theorem bump_min (n : Nat) : bump (min n counterMax) = min (n + 1) counterMax := by
  unfold bump
  omega

/-- The coalescer as the history has it, and the moves that may wait. -/
structure CaptureTracked (w : CaptureWorld) : Prop where
  conserved : w.accepted.length = w.emissions.length + w.replaced + w.dropped + w.waiting
  accepted : w.capture.coalescer.accepted = min w.accepted.length counterMax
  emitted : w.capture.coalescer.emitted = min w.emissions.length counterMax
  coalescedAway : w.capture.coalescer.coalescedAway = min w.replaced counterMax
  discarded : w.capture.coalescer.discarded = min w.dropped counterMax
  lastEmit : w.capture.coalescer.lastEmit = w.emissions.getLast?.map (·.time)
  positive : 0 < w.capture.coalescer.interval
  spaced : w.emissions.IsChain fun e f =>
    f.cause = .coalesced → e.time + w.capture.coalescer.interval ≤ f.time
  suffix : w.sincePermitted <:+ w.accepted
  latest : ∀ pos, w.capture.coalescer.pending = some pos → w.sincePermitted.getLast? = some pos
  blocked : w.capture.mayCapture = false → w.capture.coalescer.pending = none

namespace CaptureTracked

variable {M : PointerMath} {w : CaptureWorld}

/-- A fresh capture has an empty history. -/
theorem new (config : InputCaptureConfig) : CaptureTracked ⟨.new M config, [], [], 0, 0, []⟩ where
  conserved := rfl
  accepted := rfl
  emitted := rfl
  coalescedAway := rfl
  discarded := rfl
  lastEmit := rfl
  positive := by
    simp only [InputCapture.new, MouseMoveCoalescer.new]
    split_ifs <;> omega
  spaced := .nil
  suffix := List.suffix_refl _
  latest _ h := by simp [InputCapture.new, MouseMoveCoalescer.new] at h
  blocked _ := rfl

/-- A move that goes out in its time keeps the spacing, and so does one that is forced out. -/
theorem spaced_append (h : CaptureTracked w) {e : Emission}
    (htime : e.cause = .coalesced → w.capture.coalescer.shouldEmit e.time = true) :
    (w.emissions ++ [e]).IsChain fun e f =>
      f.cause = .coalesced → e.time + w.capture.coalescer.interval ≤ f.time := by
  refine h.spaced.append (List.isChain_singleton _) ?_
  intro last hlast f hf hcause
  obtain rfl : e = f := by simpa using hf
  have hemit := (MouseMoveCoalescer.shouldEmit_iff h.positive).mp (htime hcause)
  exact hemit _ (by rw [h.lastEmit, Option.mem_def.mp hlast]; rfl)

/-- **One effect**: each effect on the coalescer is the one that the history records.

**Proof sketch.** By cases on the effect. The numbers balance in each: a move that is accepted
takes the place of one that is replaced or waits itself, and one that waited is sent or dropped. -/
theorem of_effect (h : CaptureTracked w) {c' : InputCapture} {time : Nat} {cause : MoveCause}
    {acc : Option Position} {ms : List Position}
    (heffect : Effect w.capture.coalescer time cause acc ms c'.coalescer)
    (hmay : acc ≠ none ∨ ms ≠ [] → c'.mayCapture = true)
    (hblocked : c'.mayCapture = false → c'.coalescer.pending = none) :
    CaptureTracked {
      capture := c'
      accepted := w.accepted ++ acc.toList
      emissions := w.emissions ++ ms.map fun pos => ⟨pos, time, cause⟩
      replaced := w.replaced + if w.capture.coalescer.pending.isSome && acc.isSome then 1 else 0
      dropped := w.dropped +
        if w.capture.coalescer.pending.isSome && c'.coalescer.pending.isNone && ms.isEmpty then 1
        else 0
      sincePermitted := if c'.mayCapture then w.sincePermitted ++ acc.toList else [] } := by
  have hsuffix : ∀ b : Bool, (if b then w.sincePermitted ++ acc.toList else []) <:+
      w.accepted ++ acc.toList := by
    intro b
    cases b with
    | true => exact List.suffix_append_self_iff.mpr h.suffix
    | false => exact List.nil_suffix
  have hopen : ∀ pos, c'.coalescer.pending = some pos → c'.mayCapture = true := by
    intro pos hpos
    by_contra hclosed
    rw [hblocked (Bool.not_eq_true _ ▸ hclosed)] at hpos
    cases hpos
  have hconserved := h.conserved
  simp only [CaptureWorld.waiting] at hconserved
  obtain ⟨config, focused, co, blocked, unmapped⟩ := c'
  dsimp only at heffect hopen
  cases heffect with
  | idle =>
    refine ⟨?_, by simpa using h.accepted, by simpa using h.emitted, by simpa using h.coalescedAway,
      ?_, by simpa using h.lastEmit, h.positive, by simpa using h.spaced, hsuffix _, ?_, hblocked⟩
    · rcases hp : w.capture.coalescer.pending with _ | pos <;>
        simp [CaptureWorld.waiting, hp] at hconserved ⊢ <;> omega
    · cases w.capture.coalescer.pending <;> simp [h.discarded]
    · intro pos hpos
      rw [hopen pos hpos, if_pos rfl]
      simpa using h.latest pos hpos
  | dropped pos hpos =>
    rw [MouseMoveCoalescer.discardPending_some hpos] at hblocked hopen ⊢
    rw [hpos] at hconserved
    refine ⟨?_, by simpa using h.accepted, by simpa using h.emitted,
      by simpa using h.coalescedAway, ?_, by simpa using h.lastEmit, h.positive,
      by simpa using h.spaced, hsuffix _, by simp, hblocked⟩
    · simp [CaptureWorld.waiting, hpos] at hconserved ⊢
      omega
    · simp [hpos, h.discarded, bump_min]
  | kept pos =>
    have hmay' := hmay (.inl (Option.some_ne_none pos))
    refine ⟨?_, ?_, by simpa [MouseMoveCoalescer.accept] using h.emitted, ?_, ?_,
      by simpa [MouseMoveCoalescer.accept] using h.lastEmit, h.positive,
      by simpa [MouseMoveCoalescer.accept] using h.spaced, hsuffix _, ?_, hblocked⟩
    · rcases hp : w.capture.coalescer.pending with _ | old <;>
        simp [CaptureWorld.waiting, MouseMoveCoalescer.accept, hp] at hconserved ⊢ <;> omega
    · simp [MouseMoveCoalescer.accept, h.accepted, bump_min]
    · rcases hp : w.capture.coalescer.pending with _ | old <;>
        simp [MouseMoveCoalescer.accept, h.coalescedAway, bump_min, hp]
    · simp [MouseMoveCoalescer.accept, h.discarded]
    · intro pos' hpos'
      obtain rfl : pos = pos' := Option.some.inj hpos'
      rw [hmay', if_pos rfl]
      simp
  | passed pos hemit =>
    rw [MouseMoveCoalescer.takeEmit_some (c := w.capture.coalescer.accept pos) rfl]
      at hblocked hopen hmay ⊢
    refine ⟨?_, ?_, ?_, ?_, ?_, by simp, h.positive, ?_, hsuffix _, by simp, hblocked⟩
    · rcases hp : w.capture.coalescer.pending with _ | old <;>
        simp [CaptureWorld.waiting, hp] at hconserved ⊢ <;> omega
    · simp [MouseMoveCoalescer.accept, h.accepted, bump_min]
    · simp [MouseMoveCoalescer.accept, h.emitted, bump_min]
    · rcases hp : w.capture.coalescer.pending with _ | old <;>
        simp [MouseMoveCoalescer.accept, h.coalescedAway, bump_min, hp]
    · simp [MouseMoveCoalescer.accept, h.discarded]
    · exact h.spaced_append (e := ⟨pos, time, cause⟩) fun _ => hemit
  | sent pos hpos htime =>
    rw [MouseMoveCoalescer.takeEmit_some hpos] at hblocked hopen hmay ⊢
    rw [hpos] at hconserved
    refine ⟨?_, by simpa using h.accepted, ?_, by simpa using h.coalescedAway, ?_, by simp,
      h.positive, ?_, hsuffix _, by simp, hblocked⟩
    · simp [CaptureWorld.waiting, hpos] at hconserved ⊢
      omega
    · simp [h.emitted, bump_min]
    · simp [h.discarded]
    · exact h.spaced_append (e := ⟨pos, time, cause⟩) htime

/-- **One call** keeps the invariant. -/
theorem next (h : CaptureTracked w) (op : CaptureOp) : CaptureTracked (w.next M op) := by
  have hmoves : moves (w.capture.apply M op).1 ≠ [] → (w.capture.apply M op).1 ≠ [] := by
    intro hne hnil
    rw [hnil] at hne
    exact hne rfl
  exact h.of_effect (w.capture.apply_effect M op)
    (fun hor => InputCapture.mayCapture_of_effective (hor.imp id hmoves))
    (InputCapture.pending_of_blocked op h.blocked)

/-- The invariant holds after any calls. -/
theorem of_reachable (h : (captureSystem M).Reachable w) : CaptureTracked w := by
  refine h.invariant CaptureTracked ?_ ?_
  · rintro w ⟨config, rfl⟩
    exact CaptureTracked.new config
  · intro w op w' hw _ hstep
    obtain rfl := Option.some.inj hstep
    exact hw.next op

/-- A move that goes out is the last one accepted since capture was permitted. -/
theorem fresh (h : CaptureTracked w) {op : CaptureOp} {pos : Position}
    (hpos : pos ∈ moves (w.capture.apply M op).1) :
    (w.next M op).sincePermitted.getLast? = some pos := by
  have hne : (w.capture.apply M op).1 ≠ [] := by
    intro hnil
    rw [hnil] at hpos
    cases hpos
  have hmay := InputCapture.mayCapture_of_effective (.inr hne)
  have heffect := w.capture.apply_effect M op
  show (if (w.capture.apply M op).2.mayCapture then
    w.sincePermitted ++ (acceptedMove M w.capture op).toList else []).getLast? = some pos
  rw [hmay, if_pos rfl]
  generalize acceptedMove M w.capture op = acc at heffect
  generalize moves (w.capture.apply M op).1 = ms at heffect hpos
  generalize (w.capture.apply M op).2.coalescer = co at heffect
  cases heffect with
  | idle | dropped | kept => cases hpos
  | passed pos' hemit =>
    obtain rfl : pos = pos' := by simpa using hpos
    simp
  | sent pos' hpending htime =>
    obtain rfl : pos = pos' := by simpa using hpos
    rw [Option.toList_none, List.append_nil]
    exact h.latest pos hpending

end CaptureTracked

/-! ## The result -/

/-- **Order, spacing and focus safety** of the captured input, after any calls at any times: the
moves are conserved, those that go out in their time are spaced, every reliable sample goes out
behind the latest pending move, and nothing waits or goes out while capture is not permitted. -/
theorem input_discipline {M : PointerMath} {w : CaptureWorld} (h : (captureSystem M).Reachable w) :
    InputDiscipline M w := by
  have hw : CaptureTracked w := CaptureTracked.of_reachable h
  refine ⟨hw.conserved, ⟨hw.accepted, hw.emitted, hw.coalescedAway, hw.discarded⟩, hw.spaced, ?_,
    ?_, ?_, fun op pos hpos => hw.fresh hpos⟩
  · intro raw now hmay hraw
    obtain ⟨event, hevent⟩ := InputCapture.exists_reliable (M := M) w.capture.config.rect hraw
    refine ⟨event, hevent, ?_⟩
    rw [InputCapture.push_reliable now hmay hevent]
    show (w.capture.coalescer.flush now).1.toList.map InputCapture.move ++ [event] = _
    rw [MouseMoveCoalescer.flush_fst]
  · intro pos hpos
    have hlast := hw.latest pos hpos
    obtain ⟨before, hbefore⟩ := hw.suffix
    rw [← hbefore, List.getLast?_append, hlast]
    rfl
  · intro hmay
    have hclosed : ¬w.capture.mayCapture = true := by simp [hmay]
    exact ⟨hw.blocked hmay, fun op => InputCapture.apply_blocked op hclosed⟩

/-- Coordinates as they are, and an interval of ten milliseconds. -/
def demoPointerMath : PointerMath := ⟨fun _ x y => (x, y), fun _ => 10000000⟩

/-- A capture of a window without focus. -/
def demoCaptureWorld : CaptureWorld :=
  ⟨.new demoPointerMath ⟨false, 90, ⟨0, 0, 1, 1⟩⟩, [], [], 0, 0, []⟩

theorem demoCaptureWorld_reachable : (captureSystem demoPointerMath).Reachable demoCaptureWorld :=
  .init ⟨_, rfl⟩

/-- Two moves at one time, a key, and the loss of focus with a third move waiting. -/
def demoCaptureOps : List CaptureOp :=
  [.setFocused true, .push (.mouseMove 1 1) 0, .push (.mouseMove 2 2) 0,
    .push (.keyNamed .enter true 0) 0, .push (.mouseMove 3 3) 5, .setFocused false]

/-- The discipline after the calls of the demonstration. -/
theorem input_discipline_demo :
    ∃ w, (captureSystem demoPointerMath).runFrom demoCaptureWorld demoCaptureOps = some w ∧
      w.emissions.length = 2 ∧ w.dropped = 1 ∧ InputDiscipline demoPointerMath w := by
  have hrun : ∃ w, (captureSystem demoPointerMath).runFrom demoCaptureWorld demoCaptureOps =
      some w ∧ w.emissions.length = 2 ∧ w.dropped = 1 := ⟨_, rfl, by decide, by decide⟩
  obtain ⟨w, hw, hsent, hdropped⟩ := hrun
  exact ⟨w, hw, hsent, hdropped,
    input_discipline (System.reachable_of_runFrom demoCaptureWorld_reachable hw)⟩

/-- A move goes out, and a flush sends the next one at the same time. -/
def demoFlush : List CaptureOp :=
  [.setFocused true, .push (.mouseMove 1 1) 0, .push (.mouseMove 2 2) 0, .flushPendingMove 0]

/-- **A flush breaks the spacing**: the move it sends is not forced out by a reliable event, and
goes out before its time. -/
theorem flush_breaks_spacing :
    ¬∀ w, (captureSystem demoPointerMath).Reachable w →
      w.emissions.IsChain fun e f =>
        f.cause ≠ .reliable → e.time + w.capture.coalescer.interval ≤ f.time := by
  intro h
  have hrun : ∃ w, (captureSystem demoPointerMath).runFrom demoCaptureWorld demoFlush = some w ∧
      w.emissions = [⟨(1, 1), 0, .coalesced⟩, ⟨(2, 2), 0, .flushed⟩] ∧
      w.capture.coalescer.interval = 10000000 := ⟨_, rfl, by decide, by decide⟩
  obtain ⟨w, hw, hemissions, hinterval⟩ := hrun
  have hspaced := h w (System.reachable_of_runFrom demoCaptureWorld_reachable hw)
  rw [hemissions, hinterval, List.isChain_pair] at hspaced
  exact absurd (hspaced (by decide)) (by decide)

end RemoteLink.Viewer
