import RemoteLink.Library.Switches
import RemoteLink.Host.SessionGate
import RemoteLink.Viewer.InputDiscipline

set_option autoImplicit false

/-!
# From the viewer's keys to the host's

What leaves the capture of the viewer is numbered, encoded and sent; the host decodes each message
and injects it behind its rate limiter. A key or a button is a switch: it is turned by the user, by
the messages under way, and by what the host has injected.

A release can be lost in two places by design. The focus policy lets no sample through while capture
is not permitted, and sends nothing of its own when that begins; the limiter of the host counts all
events alike and drops whatever arrives in a full window. A position that is not a number is
written as `null`, and the host refuses to decode it.

## Main definitions

* `InputEmitter` — numbers and encodes captured events.
* `InputLink`, `inputLink` — the capture, the messages under way and the host.
* `InputLink.physicallyDown`, `InputLink.heldAtHost`, `InputLink.awaited` — where a key or button
  stands for the user, at the host, and at the host once everything under way is injected.
* `releasePasses` — a step that loses no release of a switch that the host is to hold.

## Main results

* `InputLink.settled_step_iff` — a step keeps a released switch released exactly if no release is
  lost in it.
* `release_follows_press` — nothing released stays pressed at the host in a run without such a loss.
* `release_lost` — a key sticks when the focus is lost, and the limiter drops the release of a press
  it has injected.
-/

namespace RemoteLink.Viewer

open Library Protocol Net Platform Host

/-! ## Keys and buttons -/

/-- A key, by its scancode, or a mouse button. -/
inductive Switch where
  | key (scancode : UInt32) (extended : Bool)
  | button (button : MouseButtonKind)
  deriving Repr, DecidableEq

/-- What a sample presses or releases. -/
def RawInput.turn : RawInput → Option (Switch × Bool)
  | mouseButton button pressed _ _ => some (.button button, pressed)
  | keyNamed key pressed _ =>
    (lookupScancode key).map fun sc => (.key sc.code sc.extended, pressed)
  | keyScan scancode extended pressed _ => some (.key scancode extended, pressed)
  | mouseMove .. | mouseWheel .. => none

/-- What a captured event presses or releases. -/
def CapturedInput.turn : CapturedInput → Option (Switch × Bool)
  | mouseButton button pressed _ _ => some (.button button, pressed)
  | key scancode extended pressed _ => some (.key scancode extended, pressed)
  | mouseMove .. | mouseWheel .. => none

/-- What an event on the wire presses or releases. -/
def turnOf (event : InputEvent) : Option (Switch × Bool) :=
  match event.payload with
  | .mouseButton button pressed _ _ _ => some (.button button, pressed)
  | .key scancode extended pressed _ => some (.key scancode extended, pressed)
  | .mouseMove .. | .mouseWheel .. => none

/-! ## The emitter -/

/-- What the emitter computes outside: a coordinate clamped to the unit interval, and the JSON text
of an event. -/
structure InputCoding where
  clamp : F32 → F32
  encode : InputEvent → String

/-- Numbers the events and encodes them. -/
structure InputEmitter where
  nextSeq : UInt32
  movesUnordered : Bool
  emitted : UInt64
  deriving Repr, DecidableEq

namespace InputEmitter

/-- An emitter that starts at one. -/
def new : InputEmitter := ⟨1, true, 0⟩

/-- The payload of a captured event. -/
def payload (K : InputCoding) : CapturedInput → InputPayload
  | .mouseMove x y => .mouseMove (K.clamp x) (K.clamp y) 0
  | .mouseButton button pressed x y => .mouseButton button pressed (K.clamp x) (K.clamp y) 0
  | .mouseWheel deltaX deltaY precise x y =>
    .mouseWheel deltaX deltaY precise (K.clamp x) (K.clamp y) 0
  | .key scancode extended pressed modifiers => .key scancode extended pressed modifiers

/-- An event with the next number and the time of the client. -/
def makeEvent (e : InputEmitter) (clientNowUs : UInt64) (payload : InputPayload) :
    InputEvent × InputEmitter :=
  (⟨clientNowUs, e.nextSeq, payload⟩, { e with nextSeq := e.nextSeq + 1 })

/-- Whether an event is a move. -/
def isMove : InputPayload → Bool
  | .mouseMove .. => true
  | _ => false

/-- The message of an event. Moves may overtake each other. -/
def encodeMessage (K : InputCoding) (e : InputEmitter) (event : InputEvent) :
    DataMessage × InputEmitter :=
  (⟨inputChannelLabel, utf8 (K.encode event), isMove event.payload && e.movesUnordered⟩,
    { e with emitted := saturatingSucc e.emitted })

/-- Number and encode a captured event. -/
def encodeCaptured (K : InputCoding) (e : InputEmitter) (clientNowUs : UInt64)
    (captured : CapturedInput) : (InputEvent × DataMessage) × InputEmitter :=
  let (event, e) := e.makeEvent clientNowUs (payload K captured)
  let (message, e) := e.encodeMessage K event
  ((event, message), e)

/-- Encode several events, in order. `clock i` is the time at the `i`-th. -/
def encodeAll (K : InputCoding) (clock : Nat → UInt64) :
    List CapturedInput → Nat → InputEmitter → List (InputEvent × DataMessage) × InputEmitter
  | [], _, e => ([], e)
  | captured :: rest, i, e =>
    let (sent, e) := e.encodeCaptured K (clock i) captured
    let (others, e) := encodeAll K clock rest (i + 1) e
    (sent :: others, e)

end InputEmitter

/-! ## The link -/

/-- The capture of the viewer, what it has sent and the host has not received, and the host. The
samples so far are a record that nothing reads. -/
structure InputLink (π : Type) where
  capture : InputCapture
  emitter : InputEmitter
  inFlight : List (InputEvent × DataMessage)
  host : SessionManager π
  samples : List RawInput

/-- A call of the window, or the next message arrives at the host. -/
inductive LinkEvent where
  | window (op : CaptureOp) (clock : Nat → UInt64)
  | deliver (now : Instant)

/-- The sample of a call. -/
def CaptureOp.sample : CaptureOp → Option RawInput
  | push raw _ => some raw
  | _ => none

namespace InputLink

variable {π : Type}

/-- The window calls its capture; what goes out is encoded and sent. -/
def window (M : PointerMath) (K : InputCoding) (w : InputLink π) (op : CaptureOp)
    (clock : Nat → UInt64) : InputLink π :=
  let (events, capture) := w.capture.apply M op
  let (sent, emitter) := InputEmitter.encodeAll K clock events 0 w.emitter
  { w with
    capture := capture
    emitter := emitter
    inFlight := w.inFlight ++ sent
    samples := w.samples ++ op.sample.toList }

/-- The next message arrives. The injector of the host does not fail. -/
def deliver (J : Codec) (w : InputLink π) (now : Instant) : Option (InputLink π) :=
  match w.inFlight with
  | [] => none
  | (_, message) :: rest =>
    some { w with
      inFlight := rest
      host := (w.host.processInputMessage J ⟨now, .ok ()⟩ message).2 }

/-- Whether the user holds a switch down. -/
def physicallyDown (s : Switch) (w : InputLink π) : Bool :=
  standing s false (w.samples.filterMap RawInput.turn)

/-- Whether a switch is pressed at the host. -/
def heldAtHost (s : Switch) (w : InputLink π) : Bool :=
  standing s false (w.host.injector.recorded.filterMap turnOf)

/-- The turns under way. -/
def underWay (w : InputLink π) : List (Switch × Bool) := w.inFlight.filterMap fun m => turnOf m.1

/-- Whether the host will hold a switch once everything under way is injected. -/
def awaited (s : Switch) (w : InputLink π) : Bool := standing s (w.heldAtHost s) w.underWay

/-- A switch that the user has released is not to stay pressed at the host. -/
def Settled (s : Switch) (w : InputLink π) : Prop :=
  w.physicallyDown s = false → w.awaited s = false

end InputLink

/-- Whether the limiter has no room left for an event that arrives now. -/
def windowFull (i : AnyInjector) (now : Instant) : Bool :=
  decide ((i.rollWindowIfNeeded now).maxPerSec ≤ (i.rollWindowIfNeeded now).windowCount)

/-- Whether a host with an open gate does not inject a message that arrives now: it does not decode,
or the window is full. -/
def refuses {π : Type} (J : Codec) (host : SessionManager π) (now : Instant)
    (message : DataMessage) : Bool :=
  ((fromUtf8 message.data).bind J.decodeInput).isNone || windowFull host.injector now

section

variable {π : Type} (M : PointerMath) (K : InputCoding) (J : Codec)

/-- The runs of a viewer's capture with a host whose gate is open and that has injected nothing. -/
def inputLink : System (InputLink π) LinkEvent where
  init w := ∃ config host, host.injectionAllowed = true ∧ host.injector.recorded = [] ∧
    w = ⟨.new M config, .new, [], host, []⟩
  step w
    | .window op clock => some (w.window M K op clock)
    | .deliver now => w.deliver J now

/-- A step that loses no release of a switch that the host is to hold: the release of a switch that
the host will hold is not blocked by the focus policy, and the last release of a switch that the
host does hold, while the user does not, is not refused when it arrives. -/
def releasePasses (s : Switch) (w : InputLink π) : LinkEvent → Bool
  | .window (.push raw _) _ =>
    !(decide (raw.turn = some (s, false)) && !w.capture.mayCapture && w.awaited s)
  | .deliver now =>
    match w.inFlight with
    | [] => true
    | (event, message) :: rest =>
      !(decide (turnOf event = some (s, false)) && refuses J w.host now message &&
        w.heldAtHost s && !turns s (rest.filterMap fun m => turnOf m.1) && !w.physicallyDown s)
  | _ => true

/-- An event that the host decodes turns what was turned: keys, buttons and their states are
integers, names and truth values, which JSON carries unchanged. -/
def KeepsTurns : Prop :=
  ∀ event event', J.decodeInput (K.encode event) = some event' → turnOf event' = turnOf event

end

/-! ## What the viewer sends -/

section

variable {M : PointerMath} {K : InputCoding} {J : Codec}

theorem filterMap_turn_move (pos : Option Position) :
    (pos.toList.map InputCapture.move).filterMap CapturedInput.turn = [] := by
  rcases pos with _ | pos <;> rfl

/-- The event of a sample turns what the sample turns. -/
theorem turn_reliable {rect : CaptureRect} {raw : RawInput} {event : CapturedInput}
    (h : InputCapture.reliable M rect raw = some event) : event.turn = raw.turn := by
  cases raw with
  | mouseMove px py => cases h
  | keyNamed key pressed modifiers =>
    simp only [InputCapture.reliable, Option.map_eq_some_iff] at h
    obtain ⟨sc, hsc, rfl⟩ := h
    simp [RawInput.turn, hsc, CapturedInput.turn]
  | mouseButton | mouseWheel | keyScan =>
    obtain rfl := Option.some.inj h
    rfl

/-- **What a call sends turns what its sample turns**, while capture is permitted; it sends no turn
while it is not. -/
theorem turns_apply (M : PointerMath) (c : InputCapture) (op : CaptureOp) :
    (c.apply M op).1.filterMap CapturedInput.turn =
      if c.mayCapture then (op.sample.bind RawInput.turn).toList else [] := by
  by_cases hmay : c.mayCapture = true
  · rw [if_pos hmay]
    cases op with
    | setRect | setFocused | setAlwaysCapture => rfl
    | poll now =>
      simp only [InputCapture.apply, InputCapture.poll, hmay, not_true_eq_false, if_false]
      rcases (c.coalescer.poll now).1 with _ | pos <;> rfl
    | flushPendingMove now =>
      simp only [InputCapture.apply, InputCapture.flushPendingMove, hmay, not_true_eq_false,
        if_false]
      rcases (c.coalescer.flush now).1 with _ | pos <;> rfl
    | push raw now =>
      by_cases hmove : ∃ px py, raw = .mouseMove px py
      · obtain ⟨px, py, rfl⟩ := hmove
        simp only [InputCapture.apply, InputCapture.push, hmay, not_true_eq_false, if_false]
        exact filterMap_turn_move _
      · have hraw : ∀ px py, raw ≠ .mouseMove px py := fun px py h => hmove ⟨px, py, h⟩
        obtain ⟨event, hevent⟩ := InputCapture.exists_reliable (M := M) c.config.rect hraw
        have hturn := turn_reliable hevent
        simp only [InputCapture.apply, InputCapture.push_reliable now hmay hevent,
          InputCapture.sendReliable, List.filterMap_append, filterMap_turn_move, List.nil_append]
        rcases hraw : raw.turn with _ | t <;>
          simp [CaptureOp.sample, hturn, hraw]
  · rw [if_neg hmay, InputCapture.apply_blocked op hmay]
    rfl

/-- The payload of a captured event turns what the event turns. -/
theorem turnOf_payload (captured : CapturedInput) (clientTsUs : UInt64) (seq : UInt32) :
    turnOf ⟨clientTsUs, seq, InputEmitter.payload K captured⟩ = captured.turn := by
  cases captured <;> rfl

/-- The messages of events turn what the events turn, in the same order. -/
theorem turns_encodeAll (clock : Nat → UInt64) (events : List CapturedInput) (i : Nat)
    (e : InputEmitter) :
    ((InputEmitter.encodeAll K clock events i e).1.filterMap fun m => turnOf m.1) =
      events.filterMap CapturedInput.turn := by
  induction events generalizing i e with
  | nil => rfl
  | cons captured rest ih =>
    simp only [InputEmitter.encodeAll, InputEmitter.encodeCaptured, InputEmitter.makeEvent,
      InputEmitter.encodeMessage, List.filterMap_cons, turnOf_payload, ih]

/-- A message holds the text of its event. -/
def Coded (K : InputCoding) (m : InputEvent × DataMessage) : Prop := m.2.data = utf8 (K.encode m.1)

theorem coded_encodeAll (clock : Nat → UInt64) (events : List CapturedInput) (i : Nat)
    (e : InputEmitter) : ∀ m ∈ (InputEmitter.encodeAll K clock events i e).1, Coded K m := by
  induction events generalizing i e with
  | nil => simp [InputEmitter.encodeAll]
  | cons captured rest ih =>
    intro m hm
    simp only [InputEmitter.encodeAll, List.mem_cons] at hm
    rcases hm with rfl | hm
    · rfl
    · exact ih _ _ m hm

end

/-! ## What the host injects -/

section

variable {π : Type} {M : PointerMath} {K : InputCoding} {J : Codec} {host : SessionManager π}

theorem rollWindow_recorded (i : AnyInjector) (now : Instant) :
    (i.rollWindowIfNeeded now).recorded = i.recorded := by
  unfold AnyInjector.rollWindowIfNeeded
  split_ifs <;> rfl

/-- In a full window nothing is injected. -/
theorem tryInject_full {i : AnyInjector} {now : Instant} (h : windowFull i now = true)
    (event : InputEvent) :
    ∃ i', i.tryInject ⟨now, .ok ()⟩ event = (.ok false, i') ∧ i'.recorded = i.recorded := by
  have hfull := of_decide_eq_true h
  unfold AnyInjector.tryInject
  dsimp only
  rw [if_pos hfull]
  exact ⟨_, rfl, rollWindow_recorded i now⟩

/-- In a window with room an event is injected, whatever the backend. -/
theorem tryInject_room {i : AnyInjector} {now : Instant} (h : windowFull i now = false)
    (event : InputEvent) :
    ∃ i', i.tryInject ⟨now, .ok ()⟩ event = (.ok true, i') ∧
      i'.recorded = i.recorded ++ [event] := by
  have hroom := of_decide_eq_false h
  have hrecorded := rollWindow_recorded i now
  unfold AnyInjector.tryInject AnyInjector.inject
  dsimp only
  rw [if_neg hroom]
  rcases hbackend : (i.rollWindowIfNeeded now).backend with _ | _ <;>
    exact ⟨_, rfl, congrArg (· ++ [event]) hrecorded⟩

/-- **An open gate**: a message that is refused changes nothing that was injected, and any other is
decoded and injected. The gate stays open. -/
theorem processInput_cases (hopen : host.injectionAllowed = true) (now : Instant)
    (message : DataMessage) :
    let host' := (host.processInputMessage J ⟨now, .ok ()⟩ message).2
    host'.injectionAllowed = true ∧
      if refuses J host now message then host'.injector.recorded = host.injector.recorded
      else ∃ event, (fromUtf8 message.data).bind J.decodeInput = some event ∧
        host'.injector.recorded = host.injector.recorded ++ [event] := by
  intro host'
  have hhost' : host' = (host.processInputMessage J ⟨now, .ok ()⟩ message).2 := rfl
  unfold SessionManager.processInputMessage at hhost'
  rw [if_neg (by simpa using hopen)] at hhost'
  rcases hdecode : (fromUtf8 message.data).bind J.decodeInput with _ | event
  · simp only [hdecode] at hhost'
    rw [hhost']
    exact ⟨hopen, by simp [refuses, hdecode]⟩
  simp only [hdecode] at hhost'
  rcases hfull : windowFull host.injector now with _ | _
  · obtain ⟨injector, htry, hrecorded⟩ := tryInject_room hfull event
    simp only [htry] at hhost'
    have hrefuses : refuses J host now message = false := by simp [refuses, hdecode, hfull]
    rw [hhost', hrefuses]
    exact ⟨hopen, event, rfl, hrecorded⟩
  · obtain ⟨injector, htry, hrecorded⟩ := tryInject_full hfull event
    simp only [htry] at hhost'
    have hrefuses : refuses J host now message = true := by simp [refuses, hfull]
    rw [hhost', hrefuses]
    exact ⟨hopen, hrecorded⟩

/-! ## One step -/

namespace InputLink

variable {w w' : InputLink π} {s : Switch}

/-- What every state has: the gate of the host is open, and every message under way holds the text
of its event. -/
structure Linked (K : InputCoding) (w : InputLink π) : Prop where
  gate : w.host.injectionAllowed = true
  coded : ∀ m ∈ w.inFlight, Coded K m

theorem underWay_window (op : CaptureOp) (clock : Nat → UInt64) :
    (w.window M K op clock).underWay = w.underWay ++
      if w.capture.mayCapture then (op.sample.bind RawInput.turn).toList else [] := by
  unfold underWay window
  dsimp only
  rw [List.filterMap_append, turns_encodeAll, turns_apply]

theorem physicallyDown_window (op : CaptureOp) (clock : Nat → UInt64) (s : Switch) :
    (w.window M K op clock).physicallyDown s =
      standing s (w.physicallyDown s) (op.sample.bind RawInput.turn).toList := by
  unfold physicallyDown window
  dsimp only
  rw [List.filterMap_append, standing_append]
  rcases op.sample with _ | raw
  · rfl
  · rcases hturn : raw.turn with _ | t <;> simp [hturn]

theorem awaited_window (op : CaptureOp) (clock : Nat → UInt64) (s : Switch) :
    (w.window M K op clock).awaited s = standing s (w.awaited s)
      (if w.capture.mayCapture then (op.sample.bind RawInput.turn).toList else []) := by
  unfold awaited
  rw [underWay_window, standing_append]
  rfl

theorem Linked.window (h : Linked K w) (op : CaptureOp) (clock : Nat → UInt64) :
    Linked K (w.window M K op clock) where
  gate := h.gate
  coded := by
    intro m hm
    rcases List.mem_append.mp hm with hm | hm
    · exact h.coded m hm
    · exact coded_encodeAll clock _ 0 w.emitter m hm

/-- A call that turns `s` not keeps a released switch released. -/
theorem settled_window_of_not_turns (hw : w.Settled s) {op : CaptureOp}
    (hop : turns s (op.sample.bind RawInput.turn).toList = false) (clock : Nat → UInt64) :
    (w.window M K op clock).Settled s := by
  unfold Settled
  rw [physicallyDown_window, awaited_window, standing_of_not_turns hop]
  intro hup
  have hsettled := hw hup
  split_ifs
  · rw [standing_of_not_turns hop, hsettled]
  · exact hsettled

/-- **A call of the window keeps a released switch released exactly if it blocks no release of a
switch that the host will hold.** -/
theorem settled_window_iff (hw : w.Settled s) (op : CaptureOp) (clock : Nat → UInt64) :
    (w.window M K op clock).Settled s ↔ releasePasses J s w (.window op clock) = true := by
  cases op with
  | setRect | setFocused | setAlwaysCapture | poll | flushPendingMove =>
    exact iff_of_true (settled_window_of_not_turns hw rfl clock) rfl
  | push raw now =>
    by_cases hturn : raw.turn = some (s, false)
    · -- a release: it reaches the host unless the policy blocks it
      have hturns : (CaptureOp.sample (.push raw now)).bind RawInput.turn = some (s, false) := hturn
      unfold Settled
      rw [physicallyDown_window, awaited_window, hturns]
      rcases hmay : w.capture.mayCapture with _ | _
      · simp [releasePasses, hturn, hmay]
      · simp [releasePasses, hmay]
    · have hpasses : releasePasses J s w (.window (.push raw now) clock) = true := by
        simp [releasePasses, hturn]
      refine iff_of_true ?_ hpasses
      rcases hother : raw.turn with _ | ⟨s', down⟩
      · exact settled_window_of_not_turns hw (by simp [CaptureOp.sample, hother, turns]) clock
      by_cases hs : s' = s
      · -- a press
        subst hs
        obtain rfl : down = true := by
          rcases down with _ | _
          · exact absurd hother hturn
          · rfl
        intro hup
        rw [physicallyDown_window] at hup
        simp [CaptureOp.sample, hother] at hup
      · exact settled_window_of_not_turns hw (by simp [CaptureOp.sample, hother, turns, hs]) clock

/-- What the arrival of a message changes: one turn less is under way, and it is one that the host
stands at unless the message is refused. -/
theorem deliver_cases (hJ : KeepsTurns K J) (h : Linked K w) {now : Instant}
    (hstep : w.deliver J now = some w') :
    ∃ event message rest, w.inFlight = (event, message) :: rest ∧ w'.inFlight = rest ∧
      w'.samples = w.samples ∧ Linked K w' ∧ ∀ s, w'.heldAtHost s =
        if refuses J w.host now message then w.heldAtHost s
        else standing s (w.heldAtHost s) (turnOf event).toList := by
  rcases hqueue : w.inFlight with _ | ⟨⟨event, message⟩, rest⟩
  · simp [deliver, hqueue] at hstep
  simp only [deliver, hqueue, Option.some.injEq] at hstep
  subst hstep
  obtain ⟨hgate, hinjected⟩ := processInput_cases (J := J) h.gate now message
  have hcoded : Coded K (event, message) := h.coded _ (by rw [hqueue]; simp)
  refine ⟨event, message, rest, rfl, rfl, rfl, ⟨hgate, fun m hm => h.coded m ?_⟩, fun s => ?_⟩
  · rw [hqueue]
    exact List.mem_cons_of_mem _ hm
  unfold heldAtHost
  rcases hrefuses : refuses J w.host now message with _ | _
  · simp only [hrefuses, Bool.false_eq_true, if_false] at hinjected ⊢
    obtain ⟨event', hdecode, hrecorded⟩ := hinjected
    rw [hcoded, fromUtf8_utf8] at hdecode
    have hturn : turnOf event' = turnOf event := hJ event event' hdecode
    rw [hrecorded, List.filterMap_append, standing_append]
    rcases hof : turnOf event with _ | t <;> simp [hturn, hof]
  · simp only [hrefuses, if_true] at hinjected ⊢
    rw [hinjected]

/-- **The arrival of a message keeps a released switch released exactly if it is not a release that
is refused while the host holds the switch and nothing later of it is under way.** -/
theorem settled_deliver_iff (hJ : KeepsTurns K J) (h : Linked K w) (hw : w.Settled s)
    {now : Instant} (hstep : w.deliver J now = some w') :
    w'.Settled s ↔ releasePasses J s w (.deliver now) = true := by
  obtain ⟨event, message, rest, hqueue, hqueue', hsamples, -, hheld⟩ := deliver_cases hJ h hstep
  have hdown : w'.physicallyDown s = w.physicallyDown s := by rw [physicallyDown, hsamples]; rfl
  have hbefore : w.awaited s = standing s (standing s (w.heldAtHost s) (turnOf event).toList)
      (rest.filterMap fun m => turnOf m.1) := by
    rw [awaited, underWay, hqueue, ← standing_append]
    rcases hturn : turnOf event with _ | t <;> simp [hturn]
  have hafter : w'.awaited s =
      standing s (w'.heldAtHost s) (rest.filterMap fun m => turnOf m.1) := by
    rw [awaited, underWay, hqueue']
  -- what is awaited stays as it is, unless the refused turn is the last one
  have hsame : w'.awaited s = w.awaited s → w'.Settled s := by
    intro heq hup
    rw [heq]
    exact hw (hdown ▸ hup)
  rcases hrefuses : refuses J w.host now message with _ | _
  · have hkept : w'.awaited s = w.awaited s := by rw [hafter, hbefore, hheld, hrefuses]; rfl
    exact iff_of_true (hsame hkept) (by simp [releasePasses, hqueue, hrefuses])
  rw [hheld, hrefuses, if_pos rfl] at hafter
  rcases hlater : turns s (rest.filterMap fun m => turnOf m.1) with _ | _
  swap
  · have hkept : w'.awaited s = w.awaited s := by
      rw [hafter, hbefore]
      exact standing_of_turns hlater _ _
    exact iff_of_true (hsame hkept) (by simp [releasePasses, hqueue, hlater])
  rw [standing_of_not_turns hlater] at hafter hbefore
  by_cases hrelease : turnOf event = some (s, false)
  · unfold Settled
    rw [hafter, hdown]
    simp only [releasePasses, hqueue, hrelease, hrefuses, hlater, decide_true]
    rcases w.physicallyDown s <;> simp
  · refine iff_of_true ?_ (by simp [releasePasses, hqueue, hrelease])
    by_cases hpress : turnOf event = some (s, true)
    · -- a press that was awaited: the user still holds it
      intro hup
      have hawaited := hw (hdown ▸ hup)
      rw [hbefore, hpress] at hawaited
      simp at hawaited
    · refine hsame ?_
      rw [hafter, hbefore]
      refine (standing_of_not_turns ?_ _).symm
      rcases hturn : turnOf event with _ | ⟨s', down⟩
      · rfl
      · have hs : s' ≠ s := by
          rintro rfl
          rcases down with _ | _
          · exact hrelease hturn
          · exact hpress hturn
        simp [turns, hs]

theorem Linked.step (hJ : KeepsTurns K J) (h : Linked K w) {e : LinkEvent}
    (hstep : (inputLink M K J).step w e = some w') : Linked K w' := by
  cases e with
  | window op clock =>
    cases hstep
    exact h.window op clock
  | deliver now =>
    obtain ⟨_, _, _, -, -, -, hlinked, -⟩ := deliver_cases hJ h hstep
    exact hlinked

/-- **A step keeps a released switch released exactly if no release is lost in it.** -/
theorem settled_step_iff (hJ : KeepsTurns K J) (h : Linked K w) (hw : w.Settled s) {e : LinkEvent}
    (hstep : (inputLink M K J).step w e = some w') :
    w'.Settled s ↔ releasePasses J s w e = true := by
  cases e with
  | window op clock =>
    cases hstep
    exact settled_window_iff hw op clock
  | deliver now => exact settled_deliver_iff hJ h hw hstep

end InputLink

/-! ## Runs -/

/-- **Releases follow presses, unless a release is lost by design**: in every run in which the focus
policy blocks no release of a switch that the host will hold, and the host refuses no last release
of a switch that it holds, a switch that the user has released is not pressed at the host once all
messages have arrived. A step from such a state keeps this exactly if it loses no such release. -/
theorem release_follows_press (hJ : KeepsTurns K J) {s : Switch} {w : InputLink π}
    (h : (inputLink M K J).ReachableVia (fun w e => releasePasses J s w e = true) w) :
    (w.inFlight = [] → w.physicallyDown s = false → w.heldAtHost s = false) ∧
      ∀ e w', (inputLink M K J).step w e = some w' →
        (w'.Settled s ↔ releasePasses J s w e = true) := by
  have hinv : InputLink.Linked K w ∧ w.Settled s := by
    refine h.invariant (fun w => InputLink.Linked K w ∧ w.Settled s) ?_ ?_
    · rintro w ⟨config, host, hopen, hrecorded, rfl⟩
      refine ⟨⟨hopen, by simp⟩, fun _ => ?_⟩
      simp [InputLink.awaited, InputLink.heldAtHost, InputLink.underWay, hrecorded]
    · intro w e w' ⟨hlinked, hsettled⟩ hpasses hstep
      have hkept := InputLink.settled_step_iff hJ hlinked hsettled hstep
      exact ⟨hlinked.step hJ hstep, hkept.mpr hpasses⟩
  refine ⟨fun hempty hup => ?_, fun e w' hstep =>
    InputLink.settled_step_iff hJ hinv.1 hinv.2 hstep⟩
  have hawaited := hinv.2 hup
  rwa [InputLink.awaited, InputLink.underWay, hempty] at hawaited

end

/-! ### Concrete runs -/

/-- The Enter key. -/
def enterKey : Switch := .key 28 false

/-- Its press or release as the event with the given number. -/
def enterEvent (seq : UInt32) (pressed : Bool) : InputEvent := ⟨0, seq, .key 28 false pressed 0⟩

/-- The JSON text of the press. -/
def enterPress : String :=
  "\x7b\"client_ts_us\":0,\"seq\":1,\"payload\":\x7b\"kind\":\"key\",\"scancode\":28," ++
    "\"extended\":false,\"pressed\":true,\"modifiers\":0\x7d\x7d"

/-- The JSON text of the release. -/
def enterRelease : String :=
  "\x7b\"client_ts_us\":0,\"seq\":2,\"payload\":\x7b\"kind\":\"key\",\"scancode\":28," ++
    "\"extended\":false,\"pressed\":false,\"modifiers\":0\x7d\x7d"

/-- The encoder on the events of the runs. -/
def demoCoding : InputCoding where
  clamp x := x
  encode e :=
    if e = enterEvent 1 true then enterPress
    else if e = enterEvent 2 false then enterRelease else "null"

/-- The decoder on the texts of the runs. -/
def demoInputCodec : Codec :=
  { demoCodec with
    decodeInput := fun s =>
      if s = enterPress then some (enterEvent 1 true)
      else if s = enterRelease then some (enterEvent 2 false) else none }

theorem demo_keepsTurns : KeepsTurns demoCoding demoInputCodec := by
  have hpress : "null" ≠ enterPress := by decide
  have hrelease : "null" ≠ enterRelease := by decide
  have htexts : enterRelease ≠ enterPress := by decide
  intro event event' h
  simp only [demoCoding, demoInputCodec] at h
  by_cases hfirst : event = enterEvent 1 true
  · rw [if_pos hfirst, if_pos rfl] at h
    rw [hfirst, ← Option.some.inj h]
  · rw [if_neg hfirst] at h
    by_cases hsecond : event = enterEvent 2 false
    · rw [if_pos hsecond, if_neg htexts, if_pos rfl] at h
      rw [hsecond, ← Option.some.inj h]
    · rw [if_neg hsecond, if_neg hpress, if_neg hrelease] at h
      cases h

/-- A host whose gate is open, with the given cap. -/
def openHost (cap : Nat) : SessionManager MockPeer :=
  (demoManager.forceIdentityBoundForTests.setInputPolicyEnabled true).setInjector (.new .stub cap 0)

/-- A window without focus and such a host. -/
def demoLink (cap : Nat) : InputLink MockPeer :=
  ⟨.new demoPointerMath ⟨false, 90, ⟨0, 0, 1, 1⟩⟩, .new, [], openHost cap, []⟩

theorem demoLink_init (cap : Nat) :
    (inputLink demoPointerMath demoCoding demoInputCodec).init (demoLink cap) :=
  ⟨_, openHost cap, rfl, rfl, rfl⟩

/-- The window gains the focus and the key is pressed; the press arrives. -/
def pressEnter : List LinkEvent :=
  [.window (.setFocused true) fun _ => 0, .window (.push (.keyScan 28 false true 0) 0) fun _ => 0,
    .deliver 0]

/-- The key is released. -/
def releaseEnter : LinkEvent := .window (.push (.keyScan 28 false false 0) 1) fun _ => 0

/-- A key that is pressed and released under the focus is injected twice and is not held. -/
theorem release_follows_press_enter :
    ∃ w : InputLink MockPeer, (inputLink demoPointerMath demoCoding demoInputCodec).ReachableVia
        (fun w e => releasePasses demoInputCodec enterKey w e = true) w ∧
      w.host.injector.recorded.length = 2 ∧ w.heldAtHost enterKey = false := by
  have hrun : ((((inputLink demoPointerMath demoCoding demoInputCodec).restrict
      (releasePasses demoInputCodec enterKey)).runFrom (demoLink 200)
        (pressEnter ++ [releaseEnter, .deliver 1])).any fun w =>
          w.inFlight.isEmpty && !w.physicallyDown enterKey &&
            decide (w.host.injector.recorded.length = 2)) = true := by
    decide +kernel
  obtain ⟨w, hw, hlast⟩ := (Option.any_eq_true _ _).mp hrun
  simp only [Bool.and_eq_true, Bool.not_eq_true', decide_eq_true_eq, List.isEmpty_iff] at hlast
  obtain ⟨⟨hempty, hup⟩, htwo⟩ := hlast
  have hinit : ((inputLink demoPointerMath demoCoding demoInputCodec).restrict
      (releasePasses demoInputCodec enterKey)).Reachable (demoLink 200) := .init (demoLink_init 200)
  have hreach := System.reachableVia_of_restrict (fun _ _ h => h)
    (System.reachable_of_runFrom hinit hw)
  exact ⟨w, hreach, htwo, (release_follows_press demo_keepsTurns hreach).1 hempty hup⟩

/-- **Releases do not always follow presses.** A key that is pressed when the focus is lost stays
pressed at the host, with nothing under way; and the limiter drops the release of a press that it
has injected, when that press has filled the window. -/
theorem release_lost :
    (¬ ∀ w : InputLink MockPeer,
      (inputLink demoPointerMath demoCoding demoInputCodec).Reachable w → w.inFlight = [] →
      (∀ s, w.physicallyDown s = false) ∨ w.capture.mayCapture = false →
      ∀ s, w.heldAtHost s = false) ∧
    ¬ ∀ (w : InputLink MockPeer) event message rest now s,
      (inputLink demoPointerMath demoCoding demoInputCodec).Reachable w →
      w.inFlight = (event, message) :: rest → turnOf event = some (s, false) →
      w.heldAtHost s = true →
      (w.host.processInputMessage demoInputCodec ⟨now, .ok ()⟩ message).1 ≠ .rateLimited := by
  constructor
  · intro hclaim
    have hrun : (((inputLink demoPointerMath demoCoding demoInputCodec).runFrom (demoLink 200)
        (pressEnter ++ [.window (.setFocused false) fun _ => 0])).any fun w =>
          w.inFlight.isEmpty && !w.capture.mayCapture && w.heldAtHost enterKey) = true := by
      decide +kernel
    obtain ⟨w, hw, hlast⟩ := (Option.any_eq_true _ _).mp hrun
    simp only [Bool.and_eq_true, Bool.not_eq_true', List.isEmpty_iff] at hlast
    obtain ⟨⟨hempty, hmay⟩, hheld⟩ := hlast
    have hreach := System.reachable_of_runFrom (.init (demoLink_init 200)) hw
    have hreleased := hclaim w hreach hempty (.inr hmay) enterKey
    rw [hheld] at hreleased
    cases hreleased
  · intro hclaim
    have hrun : (((inputLink demoPointerMath demoCoding demoInputCodec).runFrom (demoLink 1)
        (pressEnter ++ [releaseEnter])).any fun w =>
          w.heldAtHost enterKey && w.inFlight.head?.any fun first =>
            decide (turnOf first.1 = some (enterKey, false)) &&
              decide ((w.host.processInputMessage demoInputCodec ⟨1, .ok ()⟩ first.2).1 =
                .rateLimited)) = true := by
      decide +kernel
    obtain ⟨w, hw, hlast⟩ := (Option.any_eq_true _ _).mp hrun
    obtain ⟨hheld, hmessage⟩ := Bool.and_eq_true_iff.mp hlast
    have hreach := System.reachable_of_runFrom (.init (demoLink_init 1)) hw
    obtain ⟨⟨event, message⟩, hfirst, hlimited⟩ := (Option.any_eq_true _ _).mp hmessage
    obtain ⟨rest, hqueue⟩ := List.head?_eq_some_iff.mp hfirst
    obtain ⟨hturn, houtcome⟩ := Bool.and_eq_true_iff.mp hlimited
    exact hclaim w event message rest 1 enterKey hreach hqueue (of_decide_eq_true hturn) hheld
      (of_decide_eq_true houtcome)

end RemoteLink.Viewer
