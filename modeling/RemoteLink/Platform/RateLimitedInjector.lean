import Mathlib.Data.List.Basic
import Mathlib.Tactic.SplitIfs
import RemoteLink.Platform.Input

set_option autoImplicit false

/-!
# The injection limit

The injector behind its one-second window, over any inner injector. A window begins with the first
call at least a second after the one before began; it counts the events that were injected, and
further events are dropped once it is full. An event on which the inner injector fails is not
counted.

## Main definitions

* `RateLimitedInjector` — the injector, with `RateLimitedInjector.tryInject`.
* `InjectCall`, `Served`, `serveAll` — a sequence of calls, and what becomes of each of them.
* `callsIn` — the calls that fall in a window, a matter of the clock alone.
* `Limited` — what the limit promises about a sequence of calls.
* `Reliable` — no failure wins a window more invocations than the limit.

## Main results

* `AnyInjector.tryInject_eq` — the injector of the host is one of these.
* `injection_limited` — the promise is kept exactly for reliable calls.
* `injection_unlimited` — failures that are not counted.
-/

namespace RemoteLink.Platform

open Protocol

/-! ## The injector -/

/-- An injector behind a fixed one-second window. -/
structure RateLimitedInjector (I : Type) where
  inner : I
  maxPerSec : Nat
  windowStart : Instant
  windowCount : Nat
  metrics : InputMetrics

/-- The readings of the clock in one call: for the time that has passed, and for a new window. -/
structure ClockReadings where
  elapsedAt : Instant
  resetAt : Instant
  deriving Repr, DecidableEq

/-- A second in nanoseconds. -/
def oneSecond : Nat := 1000000000

namespace RateLimitedInjector

variable {I : Type}

/-- A fresh injector; the cap is at least one. -/
def new (inner : I) (maxPerSec : Nat) (now : Instant) : RateLimitedInjector I :=
  ⟨inner, max maxPerSec 1, now, 0, ⟨0, 0⟩⟩

/-- Start a new window when a second has passed. -/
def rollWindowIfNeeded (l : RateLimitedInjector I) (clock : ClockReadings) :
    RateLimitedInjector I :=
  if 1 ≤ (clock.elapsedAt - l.windowStart) / oneSecond then
    { l with windowStart := clock.resetAt, windowCount := 0 }
  else l

/-- Inject an event: `true` when it was applied, `false` when the window was full. -/
def tryInject (inject : I → InputEvent → Except InjectError Unit × I) (clock : ClockReadings)
    (event : InputEvent) (l : RateLimitedInjector I) :
    Except InjectError Bool × RateLimitedInjector I :=
  let l := l.rollWindowIfNeeded clock
  if l.maxPerSec ≤ l.windowCount then
    (.ok false, { l with metrics.droppedRateLimit := saturatingSucc l.metrics.droppedRateLimit })
  else
    let (result, inner) := inject l.inner event
    let l := { l with inner }
    match result with
    | .error e => (.error e, l)
    | .ok () => (.ok true, { l with
        windowCount := l.windowCount + 1
        metrics.accepted := saturatingSucc l.metrics.accepted })

end RateLimitedInjector

namespace AnyInjector

/-- The injector of the host as one over its backend and what that has applied. -/
def limited (i : AnyInjector) : RateLimitedInjector (InjectorBackend × List InputEvent) :=
  ⟨(i.backend, i.recorded), i.maxPerSec, i.windowStart, i.windowCount, i.metrics⟩

/-- Apply an event to the backend. -/
def applyBackend (ans : InjectAnswers) (inner : InjectorBackend × List InputEvent)
    (event : InputEvent) : Except InjectError Unit × (InjectorBackend × List InputEvent) :=
  match inner.1 with
  | .stub => (.ok (), inner.1, inner.2 ++ [event])
  | .windows =>
    match ans.sendInput with
    | .ok () => (.ok (), inner.1, inner.2 ++ [event])
    | .error e => (.error e, inner)

/-- **The injector of the host is a rate-limited one**, which reads the clock once in a call. -/
theorem tryInject_eq (i : AnyInjector) (ans : InjectAnswers) (event : InputEvent) :
    ((i.tryInject ans event).1, (i.tryInject ans event).2.limited) =
      i.limited.tryInject (applyBackend ans) ⟨ans.now, ans.now⟩ event := by
  have hroll : (i.rollWindowIfNeeded ans.now).limited =
      i.limited.rollWindowIfNeeded ⟨ans.now, ans.now⟩ := by
    unfold rollWindowIfNeeded RateLimitedInjector.rollWindowIfNeeded
    by_cases hpassed : 1 ≤ (ans.now - i.windowStart) / oneSecond
    · rw [if_pos (show 1 ≤ (ans.now - i.windowStart) / 1000000000 from hpassed), if_pos]
      · rfl
      · exact hpassed
    · rw [if_neg (show ¬1 ≤ (ans.now - i.windowStart) / 1000000000 from hpassed), if_neg]
      exact hpassed
  unfold tryInject RateLimitedInjector.tryInject
  rw [← hroll]
  generalize i.rollWindowIfNeeded ans.now = j
  obtain ⟨backend, recorded, maxPerSec, windowStart, windowCount, metrics⟩ := j
  dsimp only [limited]
  by_cases hfull : maxPerSec ≤ windowCount
  · rw [if_pos hfull, if_pos hfull]
  · rw [if_neg hfull, if_neg hfull]
    unfold inject applyBackend
    cases backend with
    | stub => rfl
    | windows => rcases ans.sendInput with e | _ <;> rfl

end AnyInjector

/-! ## Sequences of calls -/

/-- A call: its event, the readings of the clock, and what the inner injector answers if it is
invoked. -/
structure InjectCall where
  event : InputEvent
  clock : ClockReadings
  answer : Except InjectError Unit

/-- The inner injector: it answers what the call says, and keeps what it was invoked with. -/
abbrev Invocations := List (InputEvent × Except InjectError Unit)

/-- What becomes of a call. -/
structure Served where
  call : InjectCall
  before : RateLimitedInjector Invocations
  result : Except InjectError Bool
  after : RateLimitedInjector Invocations

/-- Serve a call. -/
def serve (l : RateLimitedInjector Invocations) (c : InjectCall) : Served :=
  let r := l.tryInject (fun log event => (c.answer, log ++ [(event, c.answer)])) c.clock c.event
  ⟨c, l, r.1, r.2⟩

/-- Serve calls one after the other. -/
def serveAll (l : RateLimitedInjector Invocations) : List InjectCall → List Served
  | [] => []
  | c :: cs => serve l c :: serveAll (serve l c).after cs

/-- The injector after the calls. -/
def afterAll (l : RateLimitedInjector Invocations) : List InjectCall →
    RateLimitedInjector Invocations
  | [] => l
  | c :: cs => afterAll (serve l c).after cs

/-- The clock does not go back. -/
def Clocked (start : Instant) : List InjectCall → Prop
  | [] => True
  | c :: cs =>
    start ≤ c.clock.elapsedAt ∧ c.clock.elapsedAt ≤ c.clock.resetAt ∧ Clocked c.clock.resetAt cs

namespace Served

/-- The window that a call falls in. -/
def window (s : Served) : Instant := s.after.windowStart

/-- The inner injector was invoked. -/
def invoked (s : Served) : Bool :=
  match s.result with
  | .ok false => false
  | _ => true

/-- The event was applied. -/
def injected (s : Served) : Bool :=
  match s.result with
  | .ok true => true
  | _ => false

/-- **What becomes of an event is one of three**: it is injected, or counted as dropped, or the
error of the inner injector is returned. -/
def Settled (s : Served) : Prop :=
  (s.result = .ok true ∧ s.call.answer = .ok () ∧
    s.after.inner = s.before.inner ++ [(s.call.event, .ok ())] ∧
    s.after.metrics = { s.before.metrics with
      accepted := saturatingSucc s.before.metrics.accepted }) ∨
  (s.result = .ok false ∧ s.after.inner = s.before.inner ∧
    s.after.metrics = { s.before.metrics with
      droppedRateLimit := saturatingSucc s.before.metrics.droppedRateLimit }) ∨
  ∃ e, s.result = .error e ∧ s.call.answer = .error e ∧
    s.after.inner = s.before.inner ++ [(s.call.event, .error e)] ∧
    s.after.metrics = s.before.metrics

end Served

/-- The invocations of the inner injector in a window. -/
def invocationsIn (log : List Served) (window : Instant) : Nat :=
  (log.filter fun s => s.invoked && decide (s.window = window)).length

/-- The invocations of the inner injector in the second from `t`, its ends included. -/
def invocationsWithin (log : List Served) (t : Instant) : Nat :=
  (log.filter fun s => s.invoked && decide (t ≤ s.call.clock.elapsedAt) &&
    decide (s.call.clock.elapsedAt ≤ t + oneSecond)).length

/-- **What the limit promises** about a sequence of calls. -/
structure Limited (l : RateLimitedInjector Invocations) (calls : List InjectCall) : Prop where
  settled : ∀ s ∈ serveAll l calls, s.Settled
  perWindow : ∀ window, invocationsIn (serveAll l calls) window ≤ l.maxPerSec
  perSecond : ∀ t, invocationsWithin (serveAll l calls) t ≤ 2 * l.maxPerSec
  ordered : (serveAll l calls).map Served.call = calls ∧
    (afterAll l calls).inner = l.inner ++
      ((serveAll l calls).filter Served.invoked).map fun s => (s.call.event, s.call.answer)

/-- The window of each call. -/
def windows (start : Instant) : List InjectCall → List (Instant × InjectCall)
  | [] => []
  | c :: cs =>
    let start := if 1 ≤ (c.clock.elapsedAt - start) / oneSecond then c.clock.resetAt else start
    (start, c) :: windows start cs

/-- The calls that fall in a window. -/
def callsIn (start : Instant) (calls : List InjectCall) (window : Instant) : List InjectCall :=
  ((windows start calls).filter fun x => x.1 = window).map Prod.snd

/-- **No failure wins a window more invocations**: it has no more calls than the limit, or the inner
injector does not fail on the first of them, up to the limit. -/
def Reliable (maxPerSec : Nat) (start : Instant) (calls : List InjectCall) : Prop :=
  ∀ window, (callsIn start calls window).length ≤ maxPerSec ∨
    ∀ c ∈ (callsIn start calls window).take maxPerSec, c.answer = .ok ()

/-! ## One call -/

section

variable {l : RateLimitedInjector Invocations} {c : InjectCall} {cs calls : List InjectCall}

/-- A second has passed since the window began. -/
def Rolls (start : Instant) (c : InjectCall) : Prop :=
  1 ≤ (c.clock.elapsedAt - start) / oneSecond

instance (start : Instant) (c : InjectCall) : Decidable (Rolls start c) :=
  inferInstanceAs (Decidable (1 ≤ _))

theorem rolls_iff {start : Instant} : Rolls start c ↔ start + oneSecond ≤ c.clock.elapsedAt := by
  have hpassed : ∀ a b : Nat, 1 ≤ (a - b) / 1000000000 ↔ b + 1000000000 ≤ a := by
    intro a b
    omega
  exact hpassed _ _

/-- The window of a call, and how many events it counts before the call. -/
def countBefore (l : RateLimitedInjector Invocations) (c : InjectCall) : Nat :=
  if Rolls l.windowStart c then 0 else l.windowCount

def windowOf (start : Instant) (c : InjectCall) : Instant :=
  if Rolls start c then c.clock.resetAt else start

/-- **What a call does**: in its window, it is dropped when the window is full; otherwise the inner
injector is invoked, and counted if it does not fail. -/
theorem serve_cases (l : RateLimitedInjector Invocations) (c : InjectCall) :
    (serve l c).call = c ∧ (serve l c).before = l ∧ (serve l c).after.maxPerSec = l.maxPerSec ∧
    (serve l c).after.windowStart = windowOf l.windowStart c ∧
    (l.maxPerSec ≤ countBefore l c ∧ (serve l c).result = .ok false ∧
        (serve l c).after.windowCount = countBefore l c ∧ (serve l c).after.inner = l.inner ∧
        (serve l c).after.metrics = { l.metrics with
          droppedRateLimit := saturatingSucc l.metrics.droppedRateLimit } ∨
      countBefore l c < l.maxPerSec ∧
        (serve l c).after.inner = l.inner ++ [(c.event, c.answer)] ∧
        ((c.answer = .ok () ∧ (serve l c).result = .ok true ∧
            (serve l c).after.windowCount = countBefore l c + 1 ∧
            (serve l c).after.metrics = { l.metrics with
              accepted := saturatingSucc l.metrics.accepted }) ∨
          ∃ e, c.answer = .error e ∧ (serve l c).result = .error e ∧
            (serve l c).after.windowCount = countBefore l c ∧
            (serve l c).after.metrics = l.metrics)) := by
  have hrolled : l.rollWindowIfNeeded c.clock =
      { l with windowStart := windowOf l.windowStart c, windowCount := countBefore l c } := by
    unfold RateLimitedInjector.rollWindowIfNeeded windowOf countBefore
    by_cases hroll : Rolls l.windowStart c
    · rw [if_pos hroll, if_pos hroll]
      exact if_pos hroll
    · rw [if_neg hroll, if_neg hroll]
      exact if_neg hroll
  by_cases hfull : l.maxPerSec ≤ countBefore l c
  · have hserve : serve l c = ⟨c, l, .ok false, { l with
        windowStart := windowOf l.windowStart c
        windowCount := countBefore l c
        metrics.droppedRateLimit := saturatingSucc l.metrics.droppedRateLimit }⟩ := by
      unfold serve RateLimitedInjector.tryInject
      simp only [hrolled, if_pos hfull]
    rw [hserve]
    exact ⟨rfl, rfl, rfl, rfl, .inl ⟨hfull, rfl, rfl, rfl, rfl⟩⟩
  · rcases hanswer : c.answer with e | u
    · have hserve : serve l c = ⟨c, l, .error e, { l with
          inner := l.inner ++ [(c.event, .error e)]
          windowStart := windowOf l.windowStart c
          windowCount := countBefore l c }⟩ := by
        unfold serve RateLimitedInjector.tryInject
        simp only [hrolled, if_neg hfull, hanswer]
      rw [hserve]
      exact ⟨rfl, rfl, rfl, rfl, .inr ⟨Nat.not_le.mp hfull, rfl, .inr ⟨e, rfl, rfl, rfl, rfl⟩⟩⟩
    · have hserve : serve l c = ⟨c, l, .ok true, { l with
          inner := l.inner ++ [(c.event, .ok ())]
          windowStart := windowOf l.windowStart c
          windowCount := countBefore l c + 1
          metrics.accepted := saturatingSucc l.metrics.accepted }⟩ := by
        unfold serve RateLimitedInjector.tryInject
        simp only [hrolled, if_neg hfull, hanswer]
      rw [hserve]
      exact ⟨rfl, rfl, rfl, rfl, .inr ⟨Nat.not_le.mp hfull, rfl, .inl ⟨rfl, rfl, rfl, rfl⟩⟩⟩

/-- What becomes of every call is settled. -/
theorem settled_serve (l : RateLimitedInjector Invocations) (c : InjectCall) :
    (serve l c).Settled := by
  obtain ⟨hcall, hbefore, -, -, hcases⟩ := serve_cases l c
  unfold Served.Settled
  rw [hcall, hbefore]
  rcases hcases with ⟨-, hresult, -, hinner, hmetrics⟩ |
    ⟨-, hinner, ⟨hanswer, hresult, -, hmetrics⟩ | ⟨e, hanswer, hresult, -, hmetrics⟩⟩
  · exact .inr (.inl ⟨hresult, hinner, hmetrics⟩)
  · exact .inl ⟨hresult, hanswer, hanswer ▸ hinner, hmetrics⟩
  · exact .inr (.inr ⟨e, hresult, hanswer, hanswer ▸ hinner, hmetrics⟩)

/-- The inner injector is invoked exactly when the window is not full. -/
theorem invoked_serve (l : RateLimitedInjector Invocations) (c : InjectCall) :
    (serve l c).invoked = decide (countBefore l c < l.maxPerSec) ∧
      (serve l c).after.inner = l.inner ++
        if (serve l c).invoked then [(c.event, c.answer)] else [] := by
  obtain ⟨-, -, -, -, hcases⟩ := serve_cases l c
  unfold Served.invoked
  rcases hcases with ⟨hfull, hresult, -, hinner, -⟩ |
    ⟨hfree, hinner, ⟨-, hresult, -, -⟩ | ⟨e, -, hresult, -, -⟩⟩
  · rw [hresult, hinner, decide_eq_false (Nat.not_lt.mpr hfull)]
    simp
  · rw [hresult, hinner, decide_eq_true hfree]
    simp
  · rw [hresult, hinner, decide_eq_true hfree]
    simp

/-! ## All calls -/

/-- Every call is settled, and the inner injector sees the calls it is invoked for, in order. -/
theorem serveAll_settled (l : RateLimitedInjector Invocations) (calls : List InjectCall) :
    (∀ s ∈ serveAll l calls, s.Settled) ∧ (serveAll l calls).map Served.call = calls ∧
      (afterAll l calls).inner = l.inner ++
        ((serveAll l calls).filter Served.invoked).map fun s => (s.call.event, s.call.answer) := by
  induction calls generalizing l with
  | nil => exact ⟨(fun _ h => nomatch h), rfl, (List.append_nil _).symm⟩
  | cons c cs ih =>
    obtain ⟨hsettled, hcalls, hinner⟩ := ih (serve l c).after
    have hcall := (serve_cases l c).1
    refine ⟨fun s hs => ?_, ?_, ?_⟩
    · rcases List.mem_cons.mp hs with rfl | hs
      · exact settled_serve l c
      · exact hsettled s hs
    · rw [serveAll, List.map_cons, hcalls, hcall]
    · rw [afterAll, hinner, (invoked_serve l c).2, serveAll, List.filter_cons, List.append_assoc]
      rcases (serve l c).invoked with _ | _
      · simp
      · simp [hcall]

/-- The calls of a window on which the inner injector is invoked, if `budget` events may still be
counted: those up to the one that fills the window. -/
def invocations : (budget : Nat) → List InjectCall → Nat
  | _, [] => 0
  | 0, _ :: _ => 0
  | budget + 1, c :: cs =>
    match c.answer with
    | .ok () => invocations budget cs + 1
    | .error _ => invocations (budget + 1) cs + 1

theorem invocations_ok (h : c.answer = .ok ()) (budget : Nat) :
    invocations (budget + 1) (c :: cs) = invocations budget cs + 1 := by
  rw [invocations, h]

theorem invocations_error {e : InjectError} (h : c.answer = .error e) (budget : Nat) :
    invocations (budget + 1) (c :: cs) = invocations (budget + 1) cs + 1 := by
  rw [invocations, h]

/-- There are no more invocations than calls. -/
theorem invocations_le (budget : Nat) (cs : List InjectCall) : invocations budget cs ≤ cs.length := by
  induction cs generalizing budget with
  | nil => exact Nat.le_refl 0
  | cons c cs ih =>
    rcases budget with _ | budget
    · exact Nat.zero_le _
    · unfold invocations
      split
      · exact Nat.succ_le_succ (ih budget)
      · exact Nat.succ_le_succ (ih (budget + 1))

/-- Calls that fit the budget are all invocations. -/
theorem min_le_invocations (budget : Nat) (cs : List InjectCall) :
    min budget cs.length ≤ invocations budget cs := by
  induction cs generalizing budget with
  | nil => exact Nat.min_le_right _ _
  | cons c cs ih =>
    rcases budget with _ | budget
    · exact Nat.min_le_left _ _
    · have hsame := ih (budget + 1)
      have hless := ih budget
      unfold invocations
      rw [List.length_cons]
      split
      · omega
      · omega

/-- **The budget is kept exactly when no failure goes uncounted**: there are no more calls than it,
or the first of them, as many as it, do not fail. -/
theorem invocations_le_budget {budget : Nat} {cs : List InjectCall} :
    invocations budget cs ≤ budget ↔
      cs.length ≤ budget ∨ ∀ c ∈ cs.take budget, c.answer = .ok () := by
  induction cs generalizing budget with
  | nil => exact iff_of_true (Nat.zero_le _) (.inl (Nat.zero_le _))
  | cons c cs ih =>
    rcases budget with _ | budget
    · exact iff_of_true (Nat.le_refl 0) (.inr fun _ h => nomatch h)
    · unfold invocations
      rw [List.take_succ_cons, List.forall_mem_cons, List.length_cons, Nat.succ_le_succ_iff]
      rcases hanswer : c.answer with e | u
      · -- a failure keeps the budget for the others
        dsimp only
        have hle := invocations_le (budget + 1) cs
        have hmin := min_le_invocations (budget + 1) cs
        constructor
        · intro h
          exact .inl (by omega)
        · rintro (h | ⟨h, -⟩)
          · omega
          · cases h
      · dsimp only
        rw [Nat.succ_le_succ_iff, ih]
        simp only [true_and]

/-! ## Windows -/

/-- One call uses up the budget of its window as `invocations` says. -/
theorem invocations_serve (l : RateLimitedInjector Invocations) (c : InjectCall)
    (cs : List InjectCall) :
    invocations (l.maxPerSec - countBefore l c) (c :: cs) =
      invocations (l.maxPerSec - (serve l c).after.windowCount) cs +
        if (serve l c).invoked then 1 else 0 := by
  obtain ⟨-, -, -, -, hcases⟩ := serve_cases l c
  rw [(invoked_serve l c).1]
  rcases hcases with ⟨hfull, -, hcount, -, -⟩ |
    ⟨hfree, -, ⟨hanswer, -, hcount, -⟩ | ⟨e, hanswer, -, hcount, -⟩⟩
  · rw [hcount, Nat.sub_eq_zero_of_le hfull, decide_eq_false (Nat.not_lt.mpr hfull)]
    cases cs <;> rfl
  · rw [hcount, decide_eq_true hfree]
    obtain ⟨budget, hbudget⟩ := Nat.exists_eq_add_of_lt hfree
    rw [show l.maxPerSec - countBefore l c = budget + 1 by omega,
      show l.maxPerSec - (countBefore l c + 1) = budget by omega, invocations_ok hanswer]
    rfl
  · rw [hcount, decide_eq_true hfree]
    obtain ⟨budget, hbudget⟩ := Nat.exists_eq_add_of_lt hfree
    rw [show l.maxPerSec - countBefore l c = budget + 1 by omega, invocations_error hanswer]
    rfl

/-- The windows of calls begin when the clock says, or they are the first one. -/
theorem windowOf_cases (start : Instant) (c : InjectCall) :
    windowOf start c = start ∧ c.clock.elapsedAt < start + oneSecond ∨
      windowOf start c = c.clock.resetAt ∧ start + oneSecond ≤ c.clock.elapsedAt := by
  unfold windowOf
  split_ifs with hroll
  · exact .inr ⟨rfl, rolls_iff.mp hroll⟩
  · exact .inl ⟨rfl, Nat.not_le.mp fun hle => hroll (rolls_iff.mpr hle)⟩

/-- A window is never before the one in which the first call finds the injector. -/
theorem windowOf_bounds {start now : Instant} (hstart : start ≤ now)
    (hnow : now ≤ c.clock.elapsedAt) (hreset : c.clock.elapsedAt ≤ c.clock.resetAt) :
    start ≤ windowOf start c ∧ windowOf start c ≤ c.clock.resetAt := by
  have hall := Nat.le_trans hstart (Nat.le_trans hnow hreset)
  rcases windowOf_cases start c with ⟨heq, -⟩ | ⟨heq, -⟩
  · rw [heq]
    exact ⟨Nat.le_refl _, hall⟩
  · rw [heq]
    exact ⟨hall, Nat.le_refl _⟩

/-- No call falls in a window before the first one. -/
theorem callsIn_before {start now window : Instant} (hstart : start ≤ now) (h : Clocked now calls)
    (hwindow : window < start) : callsIn start calls window = [] := by
  induction calls generalizing start now with
  | nil => rfl
  | cons c cs ih =>
    obtain ⟨hnow, hreset, hrest⟩ := h
    obtain ⟨hle, hle'⟩ := windowOf_bounds hstart hnow hreset
    have hne : ¬windowOf start c = window := Nat.ne_of_gt (Nat.lt_of_lt_of_le hwindow hle)
    have hcs := ih hle' hrest (Nat.lt_of_lt_of_le hwindow hle)
    unfold callsIn windows
    rw [List.filter_cons, if_neg]
    · exact hcs
    · exact of_decide_eq_false (decide_eq_false hne) ∘ of_decide_eq_true

theorem callsIn_cons (start : Instant) (c : InjectCall) (cs : List InjectCall) (window : Instant) :
    callsIn start (c :: cs) window = if windowOf start c = window then
      c :: callsIn (windowOf start c) cs window else callsIn (windowOf start c) cs window := by
  have hwindows : windows start (c :: cs) =
      (windowOf start c, c) :: windows (windowOf start c) cs := rfl
  unfold callsIn
  rw [hwindows, List.filter_cons]
  by_cases hw : windowOf start c = window
  · rw [if_pos (decide_eq_true hw), if_pos hw, List.map_cons]
  · rw [if_neg (fun h => hw (of_decide_eq_true h)), if_neg hw]

theorem invocationsIn_cons (s : Served) (log : List Served) (window : Instant) :
    invocationsIn (s :: log) window =
      invocationsIn log window + if s.invoked && decide (s.window = window) then 1 else 0 := by
  unfold invocationsIn
  rw [List.filter_cons]
  split_ifs
  · rw [List.length_cons]
  · rfl

/-- **The invocations in a window** are those that its calls win. -/
theorem invocationsIn_serveAll {now window : Instant} (hstart : l.windowStart ≤ now)
    (h : Clocked now calls) :
    invocationsIn (serveAll l calls) window =
      invocations (l.maxPerSec - if window = l.windowStart then l.windowCount else 0)
        (callsIn l.windowStart calls window) := by
  induction calls generalizing l now with
  | nil => rfl
  | cons c cs ih =>
    obtain ⟨hnow, hreset, hrest⟩ := h
    obtain ⟨-, -, hmax, hwindow, -⟩ := serve_cases l c
    obtain ⟨hle, hle'⟩ := windowOf_bounds hstart hnow hreset
    have hcs := ih (l := (serve l c).after) (hwindow ▸ hle') hrest
    rw [serveAll, invocationsIn_cons, hcs, callsIn_cons, hmax, hwindow,
      show (serve l c).window = windowOf l.windowStart c from hwindow]
    by_cases hw : windowOf l.windowStart c = window
    · -- the call falls in the window
      rw [if_pos hw, if_pos hw.symm, decide_eq_true hw, Bool.and_true]
      have hcount : (if window = l.windowStart then l.windowCount else 0) = countBefore l c := by
        rcases windowOf_cases l.windowStart c with ⟨heq, hlt⟩ | ⟨heq, hpassed⟩
        · rw [if_pos (hw.symm.trans heq)]
          exact (if_neg fun hroll => absurd (rolls_iff.mp hroll) (Nat.not_le.mpr hlt)).symm
        · have hne : ¬window = l.windowStart := by
            rw [← hw, heq]
            unfold oneSecond at hpassed
            have : ∀ a b c : Nat, a + 1000000000 ≤ b → b ≤ c → ¬c = a := by
              intro a b c
              omega
            exact this _ _ _ hpassed hreset
          rw [if_neg hne]
          exact (if_pos (rolls_iff.mpr hpassed)).symm
      rw [hcount]
      exact (invocations_serve l c _).symm
    · rw [if_neg hw, if_neg (Ne.symm hw), decide_eq_false hw, Bool.and_false,
        if_neg Bool.false_ne_true, Nat.add_zero]
      by_cases hfirst : window = l.windowStart
      · -- the first window is over
        have hlt : window < windowOf l.windowStart c :=
          Nat.lt_of_le_of_ne (hfirst ▸ hle) (Ne.symm hw)
        rw [callsIn_before hle' hrest hlt]
        rfl
      · rw [if_neg hfirst]

/-! ## Any second -/

/-- No call is made before the clock reads `now`. -/
theorem Clocked.le {now : Instant} (h : Clocked now calls) :
    ∀ c ∈ calls, now ≤ c.clock.elapsedAt := by
  induction calls generalizing now with
  | nil => exact fun _ hc => nomatch hc
  | cons c cs ih =>
    obtain ⟨hnow, hreset, hrest⟩ := h
    intro c' hc'
    rcases List.mem_cons.mp hc' with rfl | hc'
    · exact hnow
    · exact Nat.le_trans hnow (Nat.le_trans hreset (ih hrest c' hc'))

/-- A call falls in a window at most a second after it began, in the window `start`, or in one that
began at least a second after that. -/
structure Served.Follows (s : Served) (start : Instant) : Prop where
  within : s.call.clock.elapsedAt < s.window + oneSecond
  window : s.window = start ∨
    start + oneSecond ≤ s.window ∧ start + oneSecond ≤ s.call.clock.elapsedAt

/-- Every call follows the window in which it finds the injector. -/
theorem serveAll_follows {now : Instant} (hstart : l.windowStart ≤ now) (h : Clocked now calls) :
    ∀ s ∈ serveAll l calls, s.Follows l.windowStart := by
  induction calls generalizing l now with
  | nil => exact fun _ hs => nomatch hs
  | cons c cs ih =>
    obtain ⟨hnow, hreset, hrest⟩ := h
    obtain ⟨hcall, -, -, hwindow, -⟩ := serve_cases l c
    obtain ⟨-, hle'⟩ := windowOf_bounds hstart hnow hreset
    have hfirst : (serve l c).Follows l.windowStart := by
      rcases windowOf_cases l.windowStart c with ⟨heq, hlt⟩ | ⟨heq, hpassed⟩
      · rw [heq] at hwindow
        refine ⟨?_, .inl hwindow⟩
        rw [hcall, Served.window, hwindow]
        exact hlt
      · rw [heq] at hwindow
        refine ⟨?_, .inr ⟨?_, hcall.symm ▸ hpassed⟩⟩
        · rw [hcall, Served.window, hwindow]
          exact Nat.lt_of_le_of_lt hreset (Nat.lt_add_of_pos_right (by decide))
        · rw [Served.window, hwindow]
          exact Nat.le_trans hpassed hreset
    intro s hs
    rcases List.mem_cons.mp hs with rfl | hs
    · exact hfirst
    · have hs' := hs
      obtain ⟨hwithin, hs⟩ := ih (l := (serve l c).after) (hwindow ▸ hle') hrest s hs
      refine ⟨hwithin, ?_⟩
      -- the window of the first call is `start`, or a second after it
      have hlater : c.clock.resetAt ≤ s.call.clock.elapsedAt := by
        refine hrest.le s.call ?_
        rw [← (serveAll_settled (serve l c).after cs).2.1]
        exact List.mem_map_of_mem hs'
      rcases windowOf_cases l.windowStart c with ⟨heq, -⟩ | ⟨heq, hpassed⟩
      · rw [hwindow, heq] at hs
        exact hs
      · rw [hwindow, heq] at hs
        have hbegan := Nat.le_trans hpassed hreset
        rcases hs with hsame | ⟨hnext, -⟩
        · exact .inr ⟨hsame ▸ hbegan, Nat.le_trans hbegan hlater⟩
        · refine .inr ⟨Nat.le_trans hbegan ?_, Nat.le_trans hbegan hlater⟩
          exact Nat.le_trans (Nat.le_add_right _ _) hnext

/-- Every call follows the windows of those before it. -/
theorem serveAll_pairwise {now : Instant} (hstart : l.windowStart ≤ now) (h : Clocked now calls) :
    (serveAll l calls).Pairwise fun s s' => s'.Follows s.window := by
  induction calls generalizing l now with
  | nil => exact List.Pairwise.nil
  | cons c cs ih =>
    obtain ⟨hnow, hreset, hrest⟩ := h
    obtain ⟨-, -, -, hwindow, -⟩ := serve_cases l c
    obtain ⟨-, hle'⟩ := windowOf_bounds hstart hnow hreset
    have hle : (serve l c).after.windowStart ≤ c.clock.resetAt := hwindow ▸ hle'
    exact List.pairwise_cons.mpr ⟨serveAll_follows hle hrest, ih hle hrest⟩

/-- The calls that some test finds in a window are at most as many as its invocations. -/
theorem length_filter_window {log : List Served} {p : Served → Bool} {window : Instant}
    (hp : ∀ s ∈ log, p s = true → s.invoked = true ∧ s.window = window) :
    (log.filter p).length ≤ invocationsIn log window := by
  refine List.Sublist.length_le ?_
  rw [show log.filter p = (log.filter fun s => s.invoked && decide (s.window = window)).filter p from ?_]
  · exact List.filter_sublist
  · rw [List.filter_filter]
    refine List.filter_congr fun s hs => ?_
    rcases hps : p s with _ | _
    · rfl
    · obtain ⟨hinvoked, hwindow⟩ := hp s hs hps
      rw [hinvoked, decide_eq_true hwindow]
      rfl

/-- **A second overlaps at most two windows**: the calls of a third one come more than a second
after those of the first. -/
theorem invocationsWithin_le {log : List Served} {n : Nat}
    (hfollows : log.Pairwise fun s s' => s'.Follows s.window)
    (hwithin : ∀ s ∈ log, s.call.clock.elapsedAt < s.window + oneSecond)
    (hwindow : ∀ window, invocationsIn log window ≤ n) (t : Instant) :
    invocationsWithin log t ≤ 2 * n := by
  let p : Served → Bool := fun s => s.invoked && decide (t ≤ s.call.clock.elapsedAt) &&
    decide (s.call.clock.elapsedAt ≤ t + oneSecond)
  have hp : ∀ {s}, p s = true → s.invoked = true ∧ t ≤ s.call.clock.elapsedAt ∧
      s.call.clock.elapsedAt ≤ t + oneSecond := by
    intro s hs
    simpa [p, and_assoc] using hs
  show (log.filter p).length ≤ 2 * n
  rcases hlog : log.filter p with _ | ⟨first, rest⟩
  · exact Nat.zero_le _
  have hmem : ∀ {s}, s ∈ first :: rest → s ∈ log ∧ p s = true := by
    intro s hs
    exact List.mem_filter.mp (hlog ▸ hs)
  have hpairwise : (first :: rest).Pairwise fun s s' => s'.Follows s.window :=
    hlog ▸ hfollows.filter p
  -- the calls in the window of the first one, and the others
  let f : Served → Bool := fun s => decide (s.window = first.window)
  have hsame : ((first :: rest).filter f).length ≤ n := by
    rw [← hlog, List.filter_filter]
    refine Nat.le_trans (length_filter_window fun s _ hs => ?_) (hwindow first.window)
    obtain ⟨hf, hs⟩ := Bool.and_eq_true_iff.mp hs
    exact ⟨(hp hs).1, of_decide_eq_true hf⟩
  have hother : ((first :: rest).filter fun s => !f s).length ≤ n := by
    rcases hsecond : (first :: rest).filter (fun s => !f s) with _ | ⟨second, others⟩
    · exact Nat.zero_le _
    have hsecondMem : second ∈ (first :: rest).filter fun s => !f s :=
      hsecond ▸ List.mem_cons_self
    obtain ⟨hsecondLog, hne⟩ := List.mem_filter.mp hsecondMem
    have hne : ¬second.window = first.window := by
      simpa [f] using hne
    have hrest : second ∈ rest := by
      rcases List.mem_cons.mp hsecondLog with rfl | hrest
      · exact absurd rfl hne
      · exact hrest
    obtain ⟨hbegan, -⟩ := ((List.pairwise_cons.mp hpairwise).1 second hrest).window.resolve_left hne
    have hone : ∀ s ∈ others, s.window = second.window := by
      intro s hs
      have hfilter := hpairwise.filter fun s => !f s
      rw [hsecond] at hfilter
      rcases ((List.pairwise_cons.mp hfilter).1 s hs).window with heq | ⟨-, hcalled⟩
      · exact heq
      · -- a third window begins too late
        have hsLog := (List.mem_filter.mp (hsecond ▸ List.mem_cons_of_mem second hs)).1
        have hend := (hp (hmem hsLog).2).2.2
        have hstart := (hp (hmem List.mem_cons_self).2).2.1
        have hfirst := hwithin first (hmem List.mem_cons_self).1
        exact absurd (Nat.le_trans hcalled hend) (Nat.not_le.mpr (Nat.add_lt_add_right
          (Nat.lt_of_le_of_lt hstart (Nat.lt_of_lt_of_le hfirst hbegan)) oneSecond))
    rw [← hsecond, ← hlog, List.filter_filter]
    refine Nat.le_trans (length_filter_window fun s hs hs' => ?_) (hwindow second.window)
    have hcons : s ∈ second :: others := by
      rw [← hsecond, ← hlog, List.filter_filter]
      exact List.mem_filter.mpr ⟨hs, hs'⟩
    refine ⟨(hp (Bool.and_eq_true_iff.mp hs').2).1, ?_⟩
    rcases List.mem_cons.mp hcons with rfl | hcons
    · rfl
    · exact hone s hcons
  rw [List.length_eq_length_filter_add f]
  omega

end

/-- **The limit is kept exactly for reliable calls.** For every sequence of calls with a clock that
does not go back: every event is injected, or counted as dropped, or an error; a window has at most
`maxPerSec` invocations of the inner injector, a second at most twice as many, and they come in the
order of the calls — if and only if no failure of the inner injector wins a window more
invocations.

**Proof sketch.** Which window a call falls in depends on the clock alone (`windows`). In its window
the calls up to the one that fills it are invocations (`invocationsIn_serveAll`), and each failure
among them makes room for one more (`invocations_le_budget`). A window begins a second after the one
before, so a second overlaps two of them (`invocationsWithin_le`). -/
theorem injection_limited (maxPerSec : Nat) (start : Instant) (calls : List InjectCall)
    (hclock : Clocked start calls) :
    Limited (.new [] maxPerSec start) calls ↔ Reliable (max maxPerSec 1) start calls := by
  have hstart : (RateLimitedInjector.new ([] : Invocations) maxPerSec start).windowStart ≤ start :=
    Nat.le_refl _
  have hwindow : ∀ window, invocationsIn (serveAll (.new [] maxPerSec start) calls) window =
      invocations (max maxPerSec 1) (callsIn start calls window) := by
    intro window
    rw [invocationsIn_serveAll hstart hclock]
    show invocations (max maxPerSec 1 - if window = start then 0 else 0) _ = _
    rw [ite_self, Nat.sub_zero]
    rfl
  constructor
  · intro h window
    exact invocations_le_budget.mp (hwindow window ▸ h.perWindow window)
  · intro h
    have hperWindow : ∀ window,
        invocationsIn (serveAll (.new [] maxPerSec start) calls) window ≤ max maxPerSec 1 := by
      intro window
      rw [hwindow]
      exact invocations_le_budget.mpr (h window)
    obtain ⟨hsettled, hcalls, hinner⟩ := serveAll_settled (.new [] maxPerSec start) calls
    refine ⟨hsettled, hperWindow, ?_, hcalls, hinner⟩
    exact invocationsWithin_le (serveAll_pairwise hstart hclock)
      (fun s hs => (serveAll_follows hstart hclock s hs).within) hperWindow

/-- A call at the start, and the answer of the inner injector. -/
def demoInjectCall (answer : Except InjectError Unit) : InjectCall :=
  ⟨⟨0, 0, .key 30 false true 0⟩, ⟨0, 0⟩, answer⟩

/-- Two calls in a window of one event: the first is injected, the second dropped. -/
theorem injection_limited_drop :
    Clocked 0 [demoInjectCall (.ok ()), demoInjectCall (.ok ())] ∧
    Limited (.new [] 1 0) [demoInjectCall (.ok ()), demoInjectCall (.ok ())] := by
  have hclock : Clocked 0 [demoInjectCall (.ok ()), demoInjectCall (.ok ())] :=
    ⟨Nat.le_refl _, Nat.le_refl _, Nat.le_refl _, Nat.le_refl _, trivial⟩
  refine ⟨hclock, (injection_limited 1 0 _ hclock).mpr fun window => .inr fun c hc => ?_⟩
  have hmem : c ∈ callsIn 0 [demoInjectCall (.ok ()), demoInjectCall (.ok ())] window :=
    List.mem_of_mem_take hc
  obtain ⟨x, hx, rfl⟩ := List.mem_map.mp hmem
  have hx := (List.mem_filter.mp hx).1
  rcases List.mem_cons.mp hx with rfl | hx
  · rfl
  · obtain rfl := List.mem_singleton.mp hx
    rfl

/-- **Failures are not counted**: the inner injector fails twice in a window of one event. -/
theorem injection_unlimited :
    ¬∀ maxPerSec start calls, Clocked start calls → Limited (.new [] maxPerSec start) calls := by
  intro hclaim
  have hlimited := hclaim 1 0
    [demoInjectCall (.error (.os "SendInput")), demoInjectCall (.error (.os "SendInput"))]
    ⟨Nat.le_refl _, Nat.le_refl _, Nat.le_refl _, Nat.le_refl _, trivial⟩
  exact absurd (hlimited.perWindow 0) (by decide)

end RemoteLink.Platform
