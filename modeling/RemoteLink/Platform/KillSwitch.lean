import Mathlib.Logic.Function.Basic
import RemoteLink.Library.Runs
import RemoteLink.Library.Trace
import RemoteLink.Platform.Ipc

set_option autoImplicit false

/-!
# The kill-switch registrar

A registrar keeps one callback, and a handle whose drop disarms it. Its clones share one state. The
flag of a registration is a cell of its own, which the handle clears without the registrar's lock; a
trigger takes the callback under the lock and calls it after that. So registrations, drops and
triggers of all threads interleave between these points.

## Main definitions

* `RegistrarWorld`, `registrarSystem` — the cells, the registrar's state, the handles that are kept
  and the triggers under way; all interleavings.
* `Holds`, `KillSpec` — who holds the registration after a history, and what may come next.

## Main results

* `kill_switch_single_holder` — in every interleaving the registrar is a slot with one holder.
-/

namespace RemoteLink.Platform

open Library

/-- A callback that is registered, by its name. -/
abbrev KillCallback := Nat

/-- What has happened, as the callers see it. -/
inductive KillEntry where
  | registered (handle : Nat) (callback : KillCallback)
  | refused
  | dropped (handle : Nat)
  | asked (handle : Nat) (armed : Bool)
  | took (trigger : Nat) (callback : Option KillCallback) (event : KillSwitch)
  | ignored (trigger : Nat)
  | called (trigger : Nat) (callback : KillCallback) (event : KillSwitch)
  deriving DecidableEq

/-- Where a trigger stands. -/
inductive TriggerPhase where
  | idle
  | took (callback : Option KillCallback) (event : KillSwitch)
  | done

/-- The cells with the flags of the registrations so far, the registrar's state (the cell of the
last registration, and its callback), the handles that are kept, and the triggers. The log only
records history. -/
structure RegistrarWorld where
  flags : Nat → Bool
  nextFlag : Nat
  armed : Nat
  callback : Option KillCallback
  handles : List Nat
  triggers : Nat → TriggerPhase
  log : List KillEntry

/-- A call of the registrar or of a handle, up to the point at which others may come between. -/
inductive RegistrarStep where
  | register (callback : KillCallback)
  | drop (handle : Nat)
  | isArmed (handle : Nat)
  | take (trigger : Nat) (event : KillSwitch)
  | call (trigger : Nat)

/-- What the hotkey triggers: the end of all sessions. -/
def hotkeyEvent : KillSwitch := ⟨none, true, .hotkey⟩

namespace RegistrarWorld

/-- A registrar without a registration; its flag is in the cell 0. -/
def new : RegistrarWorld := ⟨fun _ => false, 1, 0, none, [], fun _ => .idle, []⟩

variable (w : RegistrarWorld)

/-- Register a callback, unless there is one. -/
def register (callback : KillCallback) : RegistrarWorld :=
  if w.flags w.armed then { w with log := w.log ++ [.refused] }
  else
    { w with
      flags := Function.update w.flags w.nextFlag true
      nextFlag := w.nextFlag + 1
      armed := w.nextFlag
      callback := some callback
      handles := w.nextFlag :: w.handles
      log := w.log ++ [.registered w.nextFlag callback] }

/-- Drop a handle. -/
def drop (handle : Nat) : RegistrarWorld :=
  { w with
    flags := Function.update w.flags handle false
    handles := w.handles.filter (· ≠ handle)
    log := w.log ++ [.dropped handle] }

/-- The part of a trigger under the lock. -/
def take (trigger : Nat) (event : KillSwitch) : RegistrarWorld :=
  if w.flags w.armed then
    { w with
      triggers := Function.update w.triggers trigger (.took w.callback event)
      log := w.log ++ [.took trigger w.callback event] }
  else
    { w with
      triggers := Function.update w.triggers trigger .done
      log := w.log ++ [.ignored trigger] }

/-- The rest of a trigger. -/
def call (trigger : Nat) (callback : Option KillCallback) (event : KillSwitch) : RegistrarWorld :=
  { w with
    triggers := Function.update w.triggers trigger .done
    log := w.log ++ (callback.map fun callback => .called trigger callback event).toList }

end RegistrarWorld

/-- All interleavings. A handle is dropped once, and asked while it is kept. -/
def registrarSystem : System RegistrarWorld RegistrarStep where
  init w := w = .new
  step w
    | .register callback => some (w.register callback)
    | .drop handle => if handle ∈ w.handles then some (w.drop handle) else none
    | .isArmed handle =>
      if handle ∈ w.handles then
        some { w with log := w.log ++ [.asked handle (w.flags handle)] }
      else none
    | .take trigger event =>
      match w.triggers trigger with
      | .idle => some (w.take trigger event)
      | _ => none
    | .call trigger =>
      match w.triggers trigger with
      | .took callback event => some (w.call trigger callback event)
      | _ => none

/-! ## The slot -/

/-- After a history a handle holds the registration of a callback. -/
def Holds (log : List KillEntry) (handle : Nat) (callback : KillCallback) : Prop :=
  .registered handle callback ∈ log ∧ .dropped handle ∉ log

/-- What may come after a history, if the registrar is a slot: a registration when no one holds it,
and for a new handle; a refusal when someone does; a trigger takes the callback of the holder, and
is ignored when there is none; what it took is called, once. -/
def KillSpec (log : List KillEntry) : KillEntry → Prop
  | .registered handle _ => (∀ callback, .registered handle callback ∉ log) ∧
      ∀ handle' callback', ¬Holds log handle' callback'
  | .refused => ∃ handle callback, Holds log handle callback
  | .dropped handle => ∃ callback, Holds log handle callback
  | .asked handle armed => armed = true ∧ ∃ callback, Holds log handle callback
  | .took trigger callback _ =>
    (∃ handle callback', callback = some callback' ∧ Holds log handle callback') ∧
      ∀ callback' event', .took trigger callback' event' ∉ log
  | .ignored _ => ∀ handle callback, ¬Holds log handle callback
  | .called trigger callback event => .took trigger (some callback) event ∈ log ∧
      ∀ callback' event', .called trigger callback' event' ∉ log

/-- What a trigger has done so far. -/
def TriggerOk (log : List KillEntry) (trigger : Nat) : TriggerPhase → Prop
  | .idle => (∀ callback event, .took trigger callback event ∉ log) ∧
      ∀ callback event, .called trigger callback event ∉ log
  | .took callback event => .took trigger callback event ∈ log ∧
      ∀ callback' event', .called trigger callback' event' ∉ log
  | .done => True

/-- **The invariant**: the cell of a handle tells whether it holds the registration, and only the
handle of the last registration can. -/
structure RegistrarOk (w : RegistrarWorld) : Prop where
  fresh : ∀ handle callback, .registered handle callback ∈ w.log → handle < w.nextFlag
  flags : ∀ handle, w.flags handle = true ↔ ∃ callback, Holds w.log handle callback
  handles : ∀ handle, handle ∈ w.handles ↔ ∃ callback, Holds w.log handle callback
  holder : ∀ handle callback, Holds w.log handle callback →
    handle = w.armed ∧ w.callback = some callback
  triggers : ∀ trigger, TriggerOk w.log trigger (w.triggers trigger)
  spec : Justified KillSpec w.log

section

variable {w w' : RegistrarWorld} {log : List KillEntry} {e : KillEntry} {handle trigger : Nat}
  {callback : KillCallback}

/-- Only registrations and drops change who holds the registration. -/
theorem holds_concat (hregistered : ∀ handle callback, e ≠ .registered handle callback)
    (hdropped : ∀ handle, e ≠ .dropped handle) :
    Holds (log ++ [e]) handle callback ↔ Holds log handle callback := by
  simp only [Holds, List.mem_append, List.mem_singleton, (hregistered handle callback).symm,
    (hdropped handle).symm, or_false]

/-- Only a trigger's own entries change what it has done. -/
theorem TriggerOk.concat {phase : TriggerPhase} (h : TriggerOk log trigger phase)
    (htook : ∀ callback event, e ≠ .took trigger callback event)
    (hcalled : ∀ callback event, e ≠ .called trigger callback event) :
    TriggerOk (log ++ [e]) trigger phase := by
  have hkeeps : ∀ x : KillEntry, x ≠ e → x ∉ log → x ∉ log ++ [e] := by
    intro x hne hx hmem
    rcases List.mem_append.mp hmem with hmem | hmem
    · exact hx hmem
    · exact hne (List.mem_singleton.mp hmem)
  cases phase with
  | idle =>
    exact ⟨fun c ev => hkeeps _ (htook c ev).symm (h.1 c ev),
      fun c ev => hkeeps _ (hcalled c ev).symm (h.2 c ev)⟩
  | took callback event =>
    exact ⟨List.mem_append_left _ h.1, fun c ev => hkeeps _ (hcalled c ev).symm (h.2 c ev)⟩
  | done => trivial

/-- No one holds the registration when the flag of the last one is clear. -/
theorem RegistrarOk.free (h : RegistrarOk w) (harmed : w.flags w.armed = false) (handle : Nat)
    (callback : KillCallback) : ¬Holds w.log handle callback := by
  intro hholds
  obtain ⟨rfl, -⟩ := h.holder handle callback hholds
  have hset := (h.flags _).mpr ⟨callback, hholds⟩
  rw [harmed] at hset
  cases hset

/-- Someone holds the registration, and its callback is kept, when the flag is set. -/
theorem RegistrarOk.held (h : RegistrarOk w) (harmed : w.flags w.armed = true) :
    ∃ callback, w.callback = some callback ∧ Holds w.log w.armed callback := by
  obtain ⟨callback, hholds⟩ := (h.flags _).mp harmed
  exact ⟨callback, (h.holder _ _ hholds).2, hholds⟩

/-- An entry that changes neither the holder nor a trigger. -/
theorem RegistrarOk.note (h : RegistrarOk w) (e : KillEntry) (hspec : KillSpec w.log e)
    (hregistered : ∀ handle callback, e ≠ .registered handle callback)
    (hdropped : ∀ handle, e ≠ .dropped handle)
    (htriggers : ∀ trigger, TriggerOk (w.log ++ [e]) trigger (w'.triggers trigger))
    (hflags : w'.flags = w.flags) (hnext : w'.nextFlag = w.nextFlag)
    (harmed : w'.armed = w.armed) (hcallback : w'.callback = w.callback)
    (hhandles : w'.handles = w.handles) (hlog : w'.log = w.log ++ [e]) : RegistrarOk w' := by
  have hsame : ∀ handle callback, Holds w'.log handle callback ↔ Holds w.log handle callback :=
    fun handle callback => by rw [hlog, holds_concat hregistered hdropped]
  refine ⟨fun handle callback hmem => ?_, fun handle => ?_, fun handle => ?_,
    fun handle callback hholds => ?_, ?_, ?_⟩
  · rw [hlog] at hmem
    rw [hnext]
    rcases List.mem_append.mp hmem with hmem | hmem
    · exact h.fresh handle callback hmem
    · exact absurd (List.mem_singleton.mp hmem).symm (hregistered handle callback)
  · rw [hflags, h.flags]
    simp only [hsame]
  · rw [hhandles, h.handles]
    simp only [hsame]
  · rw [harmed, hcallback]
    exact h.holder handle callback ((hsame _ _).mp hholds)
  · rw [hlog]
    exact htriggers
  · rw [hlog]
    exact justified_concat.mpr ⟨h.spec, hspec⟩

/-- A handle that was dropped had been registered. -/
theorem RegistrarOk.registered_of_dropped (h : RegistrarOk w) (hdrop : .dropped handle ∈ w.log) :
    ∃ callback, .registered handle callback ∈ w.log := by
  obtain ⟨before, after, hlog⟩ := List.append_of_mem hdrop
  obtain ⟨callback, hholds⟩ := h.spec before _ after hlog
  rw [hlog]
  exact ⟨callback, List.mem_append_left _ hholds.1⟩

/-- Who holds the registration after one that was free. -/
theorem RegistrarOk.holds_register (h : RegistrarOk w) (harmed : w.flags w.armed = false)
    {callback' : KillCallback} :
    Holds (w.log ++ [.registered w.nextFlag callback]) handle callback' ↔
      handle = w.nextFlag ∧ callback' = callback := by
  have hnew : .dropped w.nextFlag ∉ w.log := by
    intro hdrop
    obtain ⟨c, hregistered⟩ := h.registered_of_dropped hdrop
    exact absurd (h.fresh _ _ hregistered) (Nat.lt_irrefl _)
  constructor
  · rintro ⟨hregistered, hdrop⟩
    rcases List.mem_append.mp hregistered with hold | hnew'
    · exact absurd ⟨hold, fun hmem => hdrop (List.mem_append_left _ hmem)⟩ (h.free harmed _ _)
    · exact KillEntry.registered.inj (List.mem_singleton.mp hnew')
  · rintro ⟨rfl, rfl⟩
    refine ⟨List.mem_append_right _ (List.mem_singleton_self _), fun hmem => ?_⟩
    rcases List.mem_append.mp hmem with hmem | hmem
    · exact hnew hmem
    · cases List.mem_singleton.mp hmem

/-- **A registration.** -/
theorem RegistrarOk.register (h : RegistrarOk w) (callback : KillCallback) :
    RegistrarOk (w.register callback) := by
  rw [RegistrarWorld.register]
  cases harmed : w.flags w.armed with
  | true =>
    rw [if_pos rfl]
    obtain ⟨c, -, hholds⟩ := h.held harmed
    exact h.note .refused ⟨_, c, hholds⟩ nofun nofun
      (fun trigger => (h.triggers trigger).concat nofun nofun) rfl rfl rfl rfl rfl rfl
  | false =>
    rw [if_neg (by decide)]
    refine ⟨fun handle c hmem => ?_, fun handle => ?_, fun handle => ?_,
      fun handle c hholds => ?_, fun trigger => (h.triggers trigger).concat nofun nofun, ?_⟩
    · rcases List.mem_append.mp hmem with hmem | hmem
      · exact Nat.lt_succ_of_lt (h.fresh handle c hmem)
      · rw [(KillEntry.registered.inj (List.mem_singleton.mp hmem)).1]
        exact Nat.lt_succ_self _
    · simp only [h.holds_register harmed]
      by_cases heq : handle = w.nextFlag
      · rw [heq, Function.update_self]
        exact ⟨fun _ => ⟨callback, rfl, rfl⟩, fun _ => rfl⟩
      · rw [Function.update_of_ne heq, h.flags]
        constructor
        · rintro ⟨c, hholds⟩
          exact absurd hholds (h.free harmed _ _)
        · rintro ⟨c, heq', -⟩
          exact absurd heq' heq
    · simp only [h.holds_register harmed, List.mem_cons, h.handles]
      constructor
      · rintro (heq | ⟨c, hholds⟩)
        · exact ⟨callback, heq, rfl⟩
        · exact absurd hholds (h.free harmed _ _)
      · rintro ⟨c, heq, -⟩
        exact .inl heq
    · obtain ⟨rfl, rfl⟩ := (h.holds_register harmed).mp hholds
      exact ⟨rfl, rfl⟩
    · refine justified_concat.mpr ⟨h.spec, fun c hmem => ?_, h.free harmed⟩
      exact absurd (h.fresh _ _ hmem) (Nat.lt_irrefl _)

/-- Who holds the registration after a drop. -/
theorem holds_drop {handle' : Nat} :
    Holds (log ++ [.dropped handle]) handle' callback ↔
      Holds log handle' callback ∧ handle' ≠ handle := by
  simp only [Holds, List.mem_append, List.mem_singleton, reduceCtorEq, or_false, not_or,
    KillEntry.dropped.injEq, and_assoc]

/-- **A drop** of a handle that is kept. -/
theorem RegistrarOk.drop (h : RegistrarOk w) (hkept : handle ∈ w.handles) :
    RegistrarOk (w.drop handle) := by
  refine ⟨fun handle' c hmem => ?_, fun handle' => ?_, fun handle' => ?_,
    fun handle' c hholds => ?_, fun trigger => (h.triggers trigger).concat nofun nofun,
    justified_concat.mpr ⟨h.spec, (h.handles handle).mp hkept⟩⟩
  · rcases List.mem_append.mp hmem with hmem | hmem
    · exact h.fresh handle' c hmem
    · cases List.mem_singleton.mp hmem
  · simp only [RegistrarWorld.drop, holds_drop]
    by_cases heq : handle' = handle
    · rw [heq, Function.update_self]
      exact ⟨(fun h => by cases h), fun ⟨_, _, hne⟩ => absurd rfl hne⟩
    · rw [Function.update_of_ne heq, h.flags]
      exact ⟨fun ⟨c, hholds⟩ => ⟨c, hholds, heq⟩, fun ⟨c, hholds, _⟩ => ⟨c, hholds⟩⟩
  · simp only [RegistrarWorld.drop, holds_drop, List.mem_filter, h.handles, decide_eq_true_eq]
    exact ⟨fun ⟨⟨c, hholds⟩, hne⟩ => ⟨c, hholds, hne⟩, fun ⟨c, hholds, hne⟩ => ⟨⟨c, hholds⟩, hne⟩⟩
  · exact h.holder handle' c (holds_drop.mp hholds).1

/-- One trigger's phase changes. -/
theorem RegistrarOk.update_triggers (h : RegistrarOk w) {phase : TriggerPhase}
    (hself : TriggerOk (log ++ [e]) trigger phase) (hlog : w.log = log)
    (htook : ∀ other, other ≠ trigger → ∀ callback event, e ≠ .took other callback event)
    (hcalled : ∀ other, other ≠ trigger → ∀ callback event, e ≠ .called other callback event)
    (other : Nat) :
    TriggerOk (log ++ [e]) other (Function.update w.triggers trigger phase other) := by
  by_cases heq : other = trigger
  · rw [heq, Function.update_self]
    exact hself
  · rw [Function.update_of_ne heq]
    exact (hlog ▸ h.triggers other).concat (htook other heq) (hcalled other heq)

/-- **The locked part of a trigger.** -/
theorem RegistrarOk.take (h : RegistrarOk w) (hidle : w.triggers trigger = .idle)
    (event : KillSwitch) : RegistrarOk (w.take trigger event) := by
  have hphase := h.triggers trigger
  rw [hidle] at hphase
  obtain ⟨htook, hcalled⟩ := hphase
  rw [RegistrarWorld.take]
  cases harmed : w.flags w.armed with
  | true =>
    rw [if_pos rfl]
    obtain ⟨c, hc, hholds⟩ := h.held harmed
    have hself : TriggerOk (w.log ++ [.took trigger w.callback event]) trigger
        (.took w.callback event) := by
      refine ⟨List.mem_append_right _ (List.mem_singleton_self _), fun c' ev hmem => ?_⟩
      rcases List.mem_append.mp hmem with hmem | hmem
      · exact hcalled c' ev hmem
      · cases List.mem_singleton.mp hmem
    refine h.note (.took trigger w.callback event) ⟨⟨_, c, hc, hholds⟩, htook⟩ nofun nofun
      (h.update_triggers hself rfl ?_ nofun) rfl rfl rfl rfl rfl rfl
    intro other hne c' ev heq
    exact hne (KillEntry.took.inj heq).1.symm
  | false =>
    rw [if_neg (by decide)]
    have hself : TriggerOk (w.log ++ [.ignored trigger]) trigger .done := trivial
    exact h.note (.ignored trigger) (h.free harmed) nofun nofun
      (h.update_triggers hself rfl nofun nofun) rfl rfl rfl rfl rfl rfl

/-- **The rest of a trigger**: it calls what it took. -/
theorem RegistrarOk.call (h : RegistrarOk w) {callback : Option KillCallback} {event : KillSwitch}
    (htook : w.triggers trigger = .took callback event) :
    RegistrarOk (w.call trigger callback event) := by
  have hphase := h.triggers trigger
  rw [htook] at hphase
  obtain ⟨hmem, hcalled⟩ := hphase
  -- what was taken is a callback
  obtain ⟨before, after, hlog⟩ := List.append_of_mem hmem
  obtain ⟨⟨_, c, rfl, -⟩, -⟩ := h.spec before _ after hlog
  have hself : TriggerOk (w.log ++ [.called trigger c event]) trigger .done := trivial
  refine h.note (.called trigger c event) ⟨hmem, hcalled⟩ nofun nofun
    (h.update_triggers hself rfl nofun ?_) rfl rfl rfl rfl rfl rfl
  intro other hne c' ev heq
  exact hne (KillEntry.called.inj heq).1.symm

/-- **The step lemma.** -/
theorem RegistrarOk.step (h : RegistrarOk w) {e : RegistrarStep}
    (hstep : registrarSystem.step w e = some w') : RegistrarOk w' := by
  cases e with
  | register callback =>
    obtain rfl := Option.some.inj hstep
    exact h.register callback
  | drop handle =>
    obtain ⟨hkept, hw⟩ := Option.ite_none_right_eq_some.mp hstep
    obtain rfl := Option.some.inj hw
    exact h.drop hkept
  | isArmed handle =>
    obtain ⟨hkept, hw⟩ := Option.ite_none_right_eq_some.mp hstep
    obtain rfl := Option.some.inj hw
    have hholds := (h.handles handle).mp hkept
    exact h.note (.asked handle (w.flags handle)) ⟨(h.flags handle).mpr hholds, hholds⟩ nofun nofun
      (fun trigger => (h.triggers trigger).concat nofun nofun) rfl rfl rfl rfl rfl rfl
  | take trigger event =>
    cases hphase : w.triggers trigger with
    | idle =>
      simp only [registrarSystem, hphase] at hstep
      obtain rfl := Option.some.inj hstep
      exact h.take hphase event
    | took callback event =>
      simp only [registrarSystem, hphase] at hstep
      cases hstep
    | done =>
      simp only [registrarSystem, hphase] at hstep
      cases hstep
  | call trigger =>
    cases hphase : w.triggers trigger with
    | took callback event =>
      simp only [registrarSystem, hphase] at hstep
      obtain rfl := Option.some.inj hstep
      exact h.call hphase
    | idle =>
      simp only [registrarSystem, hphase] at hstep
      cases hstep
    | done =>
      simp only [registrarSystem, hphase] at hstep
      cases hstep

theorem registrarOk_of_reachable (hw : registrarSystem.Reachable w) : RegistrarOk w := by
  refine hw.invariant RegistrarOk ?_ fun _ _ _ h _ hstep => h.step hstep
  rintro _ rfl
  have hnone : ∀ handle callback, ¬Holds [] handle callback :=
    fun _ _ h => absurd h.1 List.not_mem_nil
  refine ⟨fun _ _ h => absurd h List.not_mem_nil, fun handle => ?_, fun handle => ?_,
    fun _ _ h => absurd h (hnone _ _), fun trigger => ?_, .nil⟩
  · exact ⟨(fun h => by cases h), (fun ⟨_, h⟩ => absurd h (hnone _ _))⟩
  · exact ⟨(fun h => absurd h List.not_mem_nil), (fun ⟨_, h⟩ => absurd h (hnone _ _))⟩
  · exact ⟨fun _ _ => List.not_mem_nil, fun _ _ => List.not_mem_nil⟩

/-- **The kill switch is a slot with one holder.** However registrations, drops of handles,
questions and triggers interleave: a registration succeeds exactly when no handle holds one, a
trigger takes the callback of the handle that holds the registration at that moment and calls it
once, and is ignored only when none does; a handle that is kept is armed, and never are two. -/
theorem kill_switch_single_holder (hw : registrarSystem.Reachable w) :
    Justified KillSpec w.log ∧
    (∀ handle handle' callback callback', Holds w.log handle callback →
      Holds w.log handle' callback' → handle = handle' ∧ callback = callback') ∧
    (∀ handle, handle ∈ w.handles → w.flags handle = true) ∧
    ∀ trigger callback event, w.triggers trigger = .took callback event →
      ∃ c w', registrarSystem.step w (.call trigger) = some w' ∧
        w'.log = w.log ++ [.called trigger c event] ∧ callback = some c := by
  have h := registrarOk_of_reachable hw
  refine ⟨h.spec, fun handle handle' c c' hholds hholds' => ?_, fun handle hkept => ?_, ?_⟩
  · obtain ⟨rfl, hc⟩ := h.holder handle c hholds
    obtain ⟨rfl, hc'⟩ := h.holder handle' c' hholds'
    exact ⟨rfl, Option.some.inj (hc.symm.trans hc')⟩
  · exact (h.flags handle).mpr ((h.handles handle).mp hkept)
  · intro trigger callback event hphase
    have htook := h.triggers trigger
    rw [hphase] at htook
    obtain ⟨before, after, hlog⟩ := List.append_of_mem htook.1
    obtain ⟨⟨_, c, rfl, -⟩, -⟩ := h.spec before _ after hlog
    refine ⟨c, w.call trigger (some c) event, ?_, rfl, rfl⟩
    simp only [registrarSystem, hphase]

end

/-- A handle is dropped after a trigger has taken its callback, and another registration follows. -/
def droppedRun : List RegistrarStep :=
  [.register 7, .register 8, .take 0 hotkeyEvent, .drop 1, .take 1 hotkeyEvent, .register 8,
    .call 0, .isArmed 2]

/-- In that run the second registration is refused, and the first trigger calls what it took. -/
theorem kill_switch_single_holder_droppedRun : ∃ w,
    registrarSystem.runFrom .new droppedRun = some w ∧
    w.log = [.registered 1 7, .refused, .took 0 (some 7) hotkeyEvent, .dropped 1, .ignored 1,
      .registered 2 8, .called 0 7 hotkeyEvent, .asked 2 true] ∧
    Justified KillSpec w.log := by
  have hrun : (registrarSystem.runFrom .new droppedRun).any (fun w => decide (w.log =
      [.registered 1 7, .refused, .took 0 (some 7) hotkeyEvent, .dropped 1, .ignored 1,
        .registered 2 8, .called 0 7 hotkeyEvent, .asked 2 true])) = true := by
    decide +kernel
  obtain ⟨w, hw, hlog⟩ := (Option.any_eq_true _ _).mp hrun
  exact ⟨w, hw, of_decide_eq_true hlog,
    (kill_switch_single_holder (System.reachable_of_runFrom (.init rfl) hw)).1⟩

end RemoteLink.Platform
