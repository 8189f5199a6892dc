import RemoteLink.Library.Runs

set_option autoImplicit false

/-!
# Forward simulations

A system refines another when each of its steps is matched by a run of the other that keeps the two
states related. What the other system does over its runs then holds of the first, read through the
relation.

## Main definitions

* `Simulation` — a relation between the states, and the events that match a step.
* `Simulation.matching` — the events that match a whole run.

## Main results

* `Simulation.run` — a run is matched by the run of its matching events.
* `Simulation.reachable` — a reachable state is related to a reachable state.
-/

namespace RemoteLink.Library

universe u v w x

variable {σ : Type u} {ε : Type v} {τ : Type w} {δ : Type x}

/-- Two runs in a row are one run of the events of both. -/
theorem System.runFrom_append (S : System σ ε) (s : σ) (es fs : List ε) :
    S.runFrom s (es ++ fs) = (S.runFrom s es).bind fun s' => S.runFrom s' fs := by
  induction es generalizing s with
  | nil => rfl
  | cons e es ih =>
    rw [List.cons_append, System.runFrom_cons, System.runFrom_cons]
    cases S.step s e with
    | none => rfl
    | some s' => exact ih s'

/-- A forward simulation of the concrete system `C` by the abstract system `A`. -/
structure Simulation (C : System σ ε) (A : System τ δ) where
  /-- Which abstract states stand for a concrete state. -/
  rel : σ → τ → Prop
  /-- The abstract events that match an event at a state. -/
  events : σ → ε → List δ
  init : ∀ s, C.init s → ∃ t, A.init t ∧ rel s t
  step : ∀ s e s' t, rel s t → C.step s e = some s' →
    ∃ t', A.runFrom t (events s e) = some t' ∧ rel s' t'

namespace Simulation

variable {C : System σ ε} {A : System τ δ} (R : Simulation C A)

/-- The abstract events that match a run from `s`. -/
def matching (s : σ) : List ε → List δ
  | [] => []
  | e :: es => R.events s e ++ ((C.step s e).map fun s' => matching s' es).getD []

/-- **A run is matched**: the abstract system can follow it, and ends in a related state. -/
theorem run {s s' : σ} {t : τ} {es : List ε} (hrel : R.rel s t) (h : C.runFrom s es = some s') :
    ∃ t', A.runFrom t (R.matching s es) = some t' ∧ R.rel s' t' := by
  induction es generalizing s t with
  | nil =>
    obtain rfl := Option.some.inj h
    exact ⟨t, rfl, hrel⟩
  | cons e es ih =>
    rw [System.runFrom_cons, Option.bind_eq_some_iff] at h
    obtain ⟨r, hstep, hrest⟩ := h
    obtain ⟨q, hq, hrel'⟩ := R.step s e r t hrel hstep
    obtain ⟨t', ht', hend⟩ := ih hrel' hrest
    refine ⟨t', ?_, hend⟩
    have hmatching : R.matching s (e :: es) = R.events s e ++ R.matching r es := by
      simp only [matching, hstep, Option.map_some, Option.getD_some]
    rw [hmatching, System.runFrom_append, hq]
    exact ht'

/-- **A reachable state is related to a reachable abstract state.** -/
theorem reachable {s : σ} (h : C.Reachable s) : ∃ t, A.Reachable t ∧ R.rel s t := by
  induction h with
  | init h =>
    obtain ⟨t, ht, hrel⟩ := R.init _ h
    exact ⟨t, .init ht, hrel⟩
  | step _ _ h ih =>
    obtain ⟨t, ht, hrel⟩ := ih
    obtain ⟨t', hrun, hrel'⟩ := R.step _ _ _ _ hrel h
    exact ⟨t', System.reachable_of_runFrom ht hrun, hrel'⟩

end Simulation

end RemoteLink.Library
