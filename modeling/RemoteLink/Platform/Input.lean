import RemoteLink.Protocol.Message

set_option autoImplicit false

/-!
# Input events and their injection

The events a viewer sends on the input channel, and the rate-limited injector of the host that
applies them to the operating system or to a recording stub.

## Main definitions

* `InputEvent` — a pointer or keyboard event.
* `AnyInjector` — an injector behind its one-second window.
* `AnyInjector.tryInject` — inject an event, drop it, or fail.
-/

namespace RemoteLink.Platform

open Protocol

/-! ## Events -/

/-- A 32-bit float as its bits: nothing here computes with coordinates. -/
abbrev F32 := UInt32

/-- A mouse button. -/
inductive MouseButtonKind where
  | left
  | right
  | middle
  | x1
  | x2
  deriving Repr, DecidableEq

/-- What happened. -/
inductive InputPayload where
  | mouseMove (x y : F32) (displayId : UInt32)
  | mouseButton (button : MouseButtonKind) (pressed : Bool) (x y : F32) (displayId : UInt32)
  | mouseWheel (deltaX deltaY : F32) (precise : Bool) (x y : F32) (displayId : UInt32)
  | key (scancode : UInt32) (extended pressed : Bool) (modifiers : UInt32)
  deriving Repr, DecidableEq

/-- An input event from viewer to host. -/
structure InputEvent where
  clientTsUs : UInt64
  seq : UInt32
  payload : InputPayload
  deriving Repr, DecidableEq

/-! ## Injectors -/

/-- Errors of opening an injector and of injecting. -/
inductive InjectError where
  | unsupported (detail : String)
  | os (detail : String)
  | invalidEvent (detail : String)
  deriving Repr, DecidableEq

/-- A monotonic clock reading in nanoseconds. -/
abbrev Instant := Nat

/-- Hard cap on injected events per second. -/
def maxInputEventsPerSec : Nat := 200

/-- How a backend is selected. -/
inductive InjectorOpenMode where
  | preferNative
  | stubOnly
  | nativeOnly
  deriving Repr, DecidableEq

/-- Configuration for opening an injector. -/
structure InjectorConfig where
  openMode : InjectorOpenMode
  maxEventsPerSec : Nat
  screenWidth : Nat
  screenHeight : Nat
  deriving Repr, DecidableEq

/-- The platform's own backend where there is one. -/
def InjectorConfig.default : InjectorConfig := ⟨.preferNative, maxInputEventsPerSec, 1920, 1080⟩

/-- The recording stub with the default cap. -/
def InjectorConfig.synthetic : InjectorConfig := ⟨.stubOnly, maxInputEventsPerSec, 1920, 1080⟩

/-- Where injected events go. -/
inductive InjectorBackend where
  | stub
  | windows
  deriving Repr, DecidableEq

/-- Cumulative counters. -/
structure InputMetrics where
  accepted : UInt64
  droppedRateLimit : UInt64
  deriving Repr, DecidableEq

/-- A backend behind a fixed one-second window. `recorded` are the events the backend applied. -/
structure AnyInjector where
  backend : InjectorBackend
  recorded : List InputEvent
  maxPerSec : Nat
  windowStart : Instant
  windowCount : Nat
  metrics : InputMetrics
  deriving Repr, DecidableEq

/-- What the operating system answers while one event is handled: the clock, and the result of
applying an event natively. -/
structure InjectAnswers where
  now : Instant
  sendInput : Except InjectError Unit

/-- A fresh injector over a backend. -/
def AnyInjector.new (backend : InjectorBackend) (maxPerSec : Nat) (now : Instant) : AnyInjector :=
  ⟨backend, [], max maxPerSec 1, now, 0, ⟨0, 0⟩⟩

/-- Open an injector. `native` is the answer of the platform to opening its own backend. -/
def openInjector (config : InjectorConfig) (native : Except InjectError Unit) (now : Instant) :
    Except InjectError AnyInjector :=
  let cap := max config.maxEventsPerSec 1
  match config.openMode, native with
  | .stubOnly, _ => .ok (.new .stub cap now)
  | .preferNative, .ok () => .ok (.new .windows cap now)
  | .preferNative, .error _ => .ok (.new .stub cap now)
  | .nativeOnly, .ok () => .ok (.new .windows cap now)
  | .nativeOnly, .error e => .error e

namespace AnyInjector

/-- Start a new window when a second has passed. -/
def rollWindowIfNeeded (i : AnyInjector) (now : Instant) : AnyInjector :=
  if 1 ≤ (now - i.windowStart) / 1000000000 then { i with windowStart := now, windowCount := 0 }
  else i

/-- Apply an event to the backend: the stub never fails. -/
def inject (i : AnyInjector) (ans : InjectAnswers) (event : InputEvent) :
    Except InjectError AnyInjector :=
  match i.backend with
  | .stub => .ok { i with recorded := i.recorded ++ [event] }
  | .windows => ans.sendInput.map fun () => { i with recorded := i.recorded ++ [event] }

/-- Inject an event: `true` when it was applied, `false` when the window was full. -/
def tryInject (i : AnyInjector) (ans : InjectAnswers) (event : InputEvent) :
    Except InjectError Bool × AnyInjector :=
  let i := i.rollWindowIfNeeded ans.now
  if i.maxPerSec ≤ i.windowCount then
    (.ok false,
      { i with metrics.droppedRateLimit := saturatingSucc i.metrics.droppedRateLimit })
  else
    match i.inject ans event with
    | .error e => (.error e, i)
    | .ok i =>
      (.ok true,
        { i with
          windowCount := i.windowCount + 1
          metrics.accepted := saturatingSucc i.metrics.accepted })

end AnyInjector

end RemoteLink.Platform
