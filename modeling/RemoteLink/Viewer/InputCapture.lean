import RemoteLink.Platform.Input
import RemoteLink.Protocol.Scancode

set_option autoImplicit false

/-!
# Input capture of the viewer

Raw samples of the window pass a focus policy, are normalized to the capture rectangle and come
out as captured events. Mouse moves are coalesced: at most one is pending, and it goes out when an
interval has passed since the last one, or before a button, wheel or key event. The arithmetic on
coordinates and rates is a parameter.

## Main definitions

* `MouseMoveCoalescer` — the pending move, the time of the last one, and the counters.
* `InputCapture` — the coalescer behind the focus policy.
* `InputCapture.push`, `InputCapture.poll`, `InputCapture.flushPendingMove` — what goes out.
-/

namespace RemoteLink.Viewer

open Protocol Platform

/-! ## Data -/

/-- A position in the window or in the unit square. -/
abbrev Position := F32 × F32

/-- The rectangle that coordinates are relative to. -/
structure CaptureRect where
  x : F32
  y : F32
  width : F32
  height : F32
  deriving Repr, DecidableEq

/-- What the capture computes in floating point: positions relative to a rectangle, and the
interval, in nanoseconds, of a rate in Hz within its bounds. -/
structure PointerMath where
  normalize : CaptureRect → F32 → F32 → Position
  intervalOfHz : F32 → Nat

/-- A sample before the policy. -/
inductive RawInput where
  | mouseMove (px py : F32)
  | mouseButton (button : MouseButtonKind) (pressed : Bool) (px py : F32)
  | mouseWheel (deltaX deltaY : F32) (precise : Bool) (px py : F32)
  | keyNamed (key : NamedKey) (pressed : Bool) (modifiers : UInt32)
  | keyScan (scancode : UInt32) (extended pressed : Bool) (modifiers : UInt32)
  deriving Repr, DecidableEq

/-- An event that may be sent. -/
inductive CapturedInput where
  | mouseMove (x y : F32)
  | mouseButton (button : MouseButtonKind) (pressed : Bool) (x y : F32)
  | mouseWheel (deltaX deltaY : F32) (precise : Bool) (x y : F32)
  | key (scancode : UInt32) (extended pressed : Bool) (modifiers : UInt32)
  deriving Repr, DecidableEq

/-- The configuration of a capture. -/
structure InputCaptureConfig where
  alwaysCapture : Bool
  coalesceHz : F32
  rect : CaptureRect
  deriving Repr, DecidableEq

/-! ## The coalescer -/

/-- The largest value of a counter. -/
def counterMax : Nat := 18446744073709551615

/-- Count one more, as far as the counter reaches. -/
def bump (n : Nat) : Nat := min (n + 1) counterMax

/-- At most one move for each interval; the latest position waits. -/
structure MouseMoveCoalescer where
  interval : Nat
  pending : Option Position
  lastEmit : Option Nat
  accepted : Nat
  emitted : Nat
  coalescedAway : Nat
  discarded : Nat
  deriving Repr, DecidableEq

namespace MouseMoveCoalescer

/-- A coalescer with the given interval, of at least one millisecond if it is zero. -/
def new (interval : Nat) : MouseMoveCoalescer :=
  ⟨if interval = 0 then 1000000 else interval, none, none, 0, 0, 0, 0⟩

/-- Drop the pending move. -/
def discardPending (c : MouseMoveCoalescer) : MouseMoveCoalescer :=
  if c.pending.isSome then { c with pending := none, discarded := bump c.discarded } else c

/-- Whether the interval has passed since the last move. A clock that has gone back has not. -/
def shouldEmit (c : MouseMoveCoalescer) (now : Nat) : Bool :=
  match c.lastEmit with
  | none => true
  | some t => decide (c.interval ≤ now - t)

/-- Emit the pending move. -/
def takeEmit (c : MouseMoveCoalescer) (now : Nat) : Option Position × MouseMoveCoalescer :=
  match c.pending with
  | none => (none, c)
  | some pos =>
    (some pos, { c with pending := none, lastEmit := some now, emitted := bump c.emitted })

/-- Accept a move in place of the pending one. -/
def accept (c : MouseMoveCoalescer) (pos : Position) : MouseMoveCoalescer :=
  { c with
    accepted := bump c.accepted
    pending := some pos
    coalescedAway := if c.pending.isSome then bump c.coalescedAway else c.coalescedAway }

/-- Note a move, and emit it when the interval has passed. -/
def push (c : MouseMoveCoalescer) (pos : Position) (now : Nat) :
    Option Position × MouseMoveCoalescer :=
  let c := c.accept pos
  if c.shouldEmit now then c.takeEmit now else (none, c)

/-- Emit the pending move if the interval has passed. -/
def poll (c : MouseMoveCoalescer) (now : Nat) : Option Position × MouseMoveCoalescer :=
  if c.pending.isSome && c.shouldEmit now then c.takeEmit now else (none, c)

/-- Emit the pending move at once. -/
def flush (c : MouseMoveCoalescer) (now : Nat) : Option Position × MouseMoveCoalescer :=
  if c.pending.isSome then c.takeEmit now else (none, c)

end MouseMoveCoalescer

/-! ## The capture -/

/-- The coalescer behind the focus policy. -/
structure InputCapture where
  config : InputCaptureConfig
  focused : Bool
  coalescer : MouseMoveCoalescer
  blockedUnfocused : Nat
  unmappedKeys : Nat
  deriving Repr, DecidableEq

namespace InputCapture

/-- A capture for a window without focus. -/
def new (M : PointerMath) (config : InputCaptureConfig) : InputCapture :=
  ⟨config, false, .new (M.intervalOfHz config.coalesceHz), 0, 0⟩

/-- Whether input may leave the capture. -/
def mayCapture (c : InputCapture) : Bool := c.config.alwaysCapture || c.focused

/-- The capture rectangle changes. -/
def setRect (c : InputCapture) (rect : CaptureRect) : InputCapture :=
  { c with config.rect := rect }

/-- The window gains or loses focus. -/
def setFocused (c : InputCapture) (focused : Bool) : InputCapture :=
  let coalescer :=
    if c.focused && !focused && !c.config.alwaysCapture then c.coalescer.discardPending
    else c.coalescer
  { c with coalescer := coalescer, focused := focused }

/-- Ignore the focus, or not. -/
def setAlwaysCapture (c : InputCapture) (always : Bool) : InputCapture :=
  let coalescer :=
    if c.config.alwaysCapture && !always && !c.focused then c.coalescer.discardPending
    else c.coalescer
  { c with coalescer := coalescer, config.alwaysCapture := always }

/-- A move as an event. -/
def move (pos : Position) : CapturedInput := .mouseMove pos.1 pos.2

/-- The event of a reliable sample: a button, the wheel or a key. There is none for a move, and for
a key without a scancode. -/
def reliable (M : PointerMath) (rect : CaptureRect) : RawInput → Option CapturedInput
  | .mouseMove _ _ => none
  | .mouseButton button pressed px py =>
    let pos := M.normalize rect px py
    some (.mouseButton button pressed pos.1 pos.2)
  | .mouseWheel deltaX deltaY precise px py =>
    let pos := M.normalize rect px py
    some (.mouseWheel deltaX deltaY precise pos.1 pos.2)
  | .keyNamed key pressed modifiers =>
    (lookupScancode key).map fun sc => .key sc.code sc.extended pressed modifiers
  | .keyScan scancode extended pressed modifiers => some (.key scancode extended pressed modifiers)

/-- Send an event behind the pending move. -/
def sendReliable (c : InputCapture) (event : CapturedInput) (now : Nat) :
    List CapturedInput × InputCapture :=
  let (pos, coalescer) := c.coalescer.flush now
  (pos.toList.map move ++ [event], { c with coalescer := coalescer })

/-- Push a sample: the events that are ready to be sent. -/
def push (M : PointerMath) (c : InputCapture) (raw : RawInput) (now : Nat) :
    List CapturedInput × InputCapture :=
  if ¬c.mayCapture then ([], { c with blockedUnfocused := bump c.blockedUnfocused })
  else
    match raw with
    | .mouseMove px py =>
      let (pos, coalescer) := c.coalescer.push (M.normalize c.config.rect px py) now
      (pos.toList.map move, { c with coalescer := coalescer })
    | raw =>
      match reliable M c.config.rect raw with
      | none => ([], { c with unmappedKeys := bump c.unmappedKeys })
      | some event => c.sendReliable event now

/-- Emit the pending move if its time has come. -/
def poll (c : InputCapture) (now : Nat) : Option CapturedInput × InputCapture :=
  if ¬c.mayCapture then (none, c)
  else
    let (pos, coalescer) := c.coalescer.poll now
    (pos.map move, { c with coalescer := coalescer })

/-- Emit the pending move at once. -/
def flushPendingMove (c : InputCapture) (now : Nat) : Option CapturedInput × InputCapture :=
  if ¬c.mayCapture then (none, c)
  else
    let (pos, coalescer) := c.coalescer.flush now
    (pos.map move, { c with coalescer := coalescer })

end InputCapture

end RemoteLink.Viewer
