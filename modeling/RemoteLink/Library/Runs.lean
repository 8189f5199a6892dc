import Mathlib.Logic.Basic
import Mathlib.Tactic.SplitIfs

set_option autoImplicit false

/-!
# Guarded transition systems and their runs

A system is a set of initial states together with a guarded, executable step: `step s e` is
`some s'` when the event `e` is enabled at `s` and leads to `s'`. All nondeterminism (the
clock, the network, the interleaving) is carried by the event, so a concrete run is a list of
events and can be replayed by evaluation.

## Main definitions

* `System` — initial states and the guarded step.
* `System.ReachableVia` — the states reached by steps that all meet a condition on the state
  before the step and the event; `System.Reachable` is the case without a condition.
* `System.runFrom` — replay a list of events.
* `System.restrict` — the steps that also pass an executable test.

## Main results

* `System.ReachableVia.invariant` — an inductive invariant holds of every reached state.
* `System.reachable_of_runFrom` — a replayed run from a reachable state ends in a reachable
  state.
* `System.reachableVia_of_restrict` — a run of tested steps is a run under the condition tested.
-/

namespace RemoteLink.Library

universe u v

/-- A transition system: its initial states and its guarded step. -/
structure System (σ : Type u) (ε : Type v) where
  /-- The states a run may start from. -/
  init : σ → Prop
  /-- The state after an enabled event, `none` when the event is not enabled. -/
  step : σ → ε → Option σ

namespace System

variable {σ : Type u} {ε : Type v} (S : System σ ε)

/-- The states reached from an initial state by steps that all meet `C`. -/
inductive ReachableVia (C : σ → ε → Prop) : σ → Prop
  | init {s : σ} (h : S.init s) : ReachableVia C s
  | step {s s' : σ} {e : ε} (hs : ReachableVia C s) (hc : C s e) (h : S.step s e = some s') :
      ReachableVia C s'

/-- The states reached by any run. -/
abbrev Reachable : σ → Prop := S.ReachableVia fun _ _ => True

variable {S}

/-- **The invariant rule**: a property of the initial states that every step meeting `C`
preserves holds of every state reached by such steps. -/
theorem ReachableVia.invariant {C : σ → ε → Prop} (I : σ → Prop) (hinit : ∀ s, S.init s → I s)
    (hstep : ∀ s e s', I s → C s e → S.step s e = some s' → I s') {s : σ}
    (h : S.ReachableVia C s) : I s := by
  induction h with
  | init h => exact hinit _ h
  | step _ hc h ih => exact hstep _ _ _ ih hc h

/-- A state reached under a condition is reached under every weaker one. -/
theorem ReachableVia.mono {C D : σ → ε → Prop} (hCD : ∀ s e, C s e → D s e) {s : σ}
    (h : S.ReachableVia C s) : S.ReachableVia D s := by
  induction h with
  | init h => exact .init h
  | step _ hc h ih => exact .step ih (hCD _ _ hc) h

/-- A state reached under a condition is reachable. -/
theorem ReachableVia.reachable {C : σ → ε → Prop} {s : σ} (h : S.ReachableVia C s) :
    S.Reachable s :=
  h.mono fun _ _ _ => trivial

variable (S)

/-- Replay `es` from `s`; `none` when some event on the way is not enabled. -/
def runFrom (s : σ) : List ε → Option σ
  | [] => some s
  | e :: es => (S.step s e).bind fun s' => runFrom s' es

@[simp] theorem runFrom_nil (s : σ) : S.runFrom s [] = some s := rfl

theorem runFrom_cons (s : σ) (e : ε) (es : List ε) :
    S.runFrom s (e :: es) = (S.step s e).bind fun s' => S.runFrom s' es := rfl

variable {S}

/-- A replay that succeeds from a reachable state ends in a reachable state. -/
theorem reachable_of_runFrom {es : List ε} {s s' : σ} (hs : S.Reachable s)
    (h : S.runFrom s es = some s') : S.Reachable s' := by
  induction es generalizing s with
  | nil => simpa using (Option.some.inj h) ▸ hs
  | cons e es ih =>
    rw [runFrom_cons, Option.bind_eq_some_iff] at h
    obtain ⟨t, ht, h⟩ := h
    exact ih (.step hs trivial ht) h

/-- The system whose steps must also pass the test `c`. -/
def restrict (S : System σ ε) (c : σ → ε → Bool) : System σ ε where
  init := S.init
  step s e := if c s e then S.step s e else none

/-- A run of tested steps is a run under every condition that the test implies. -/
theorem reachableVia_of_restrict {c : σ → ε → Bool} {C : σ → ε → Prop}
    (hc : ∀ s e, c s e = true → C s e) {s : σ} (h : (S.restrict c).Reachable s) :
    S.ReachableVia C s := by
  induction h with
  | init h => exact .init h
  | step _ _ h ih =>
    simp only [restrict] at h
    split_ifs at h with ht
    exact .step ih (hc _ _ ht) h

end System

end RemoteLink.Library
