import Mathlib.Data.List.Nodup
import Mathlib.Logic.Function.Basic
import RemoteLink.Library.Runs

set_option autoImplicit false

/-!
# Concurrent calls in a sequential order

A system serves calls that overlap. Its outcomes are those of a sequential component if the calls
that have returned can be put into an order in which that component, called once after another,
gives each of them its outcome. It is enough to find one step of every call at which the sequential
component can be called.

## Main definitions

* `SerialRun` — calls one after another on a sequential component.
* `Serial` — the calls that have returned have a sequential order.

## Main results

* `Serial.asked` — a call that has returned was asked for.
* `Serial.returns` — a call that returns comes last.
* `System.serial` — if every step returns no call, or one that the sequential component can be asked
  for, then the returned calls of every run have a sequential order.
-/

namespace RemoteLink.Library

section

variable {α κ ρ : Type}

/-- Calls with their outcomes, one after another. -/
inductive SerialRun (asks : α → κ → ρ → α → Prop) : α → List (κ × ρ) → α → Prop
  | nil (a : α) : SerialRun asks a [] a
  | snoc {a a' a'' : α} {log : List (κ × ρ)} {call : κ} {outcome : ρ}
      (h : SerialRun asks a log a') (hask : asks a' call outcome a'') :
      SerialRun asks a (log ++ [(call, outcome)]) a''

/-- **The calls that have returned have a sequential order** that leads from `a` to `a'`. -/
def Serial (asks : α → κ → ρ → α → Prop) (returned : Nat → Option (κ × ρ)) (a a' : α) : Prop :=
  ∃ log : List (Nat × κ × ρ), (log.map Prod.fst).Nodup ∧
    (∀ k r, (k, r) ∈ log ↔ returned k = some r) ∧ SerialRun asks a (log.map Prod.snd) a'

variable {asks : α → κ → ρ → α → Prop} {returned : Nat → Option (κ × ρ)} {a a' a'' : α}

/-- Every call of a run was asked for. -/
theorem SerialRun.asked {log : List (κ × ρ)} (h : SerialRun asks a log a') {call : κ} {outcome : ρ}
    (hmem : (call, outcome) ∈ log) : ∃ b b', asks b call outcome b' := by
  induction h with
  | nil => cases hmem
  | snoc h hask ih =>
    rcases List.mem_append.mp hmem with hearlier | hlast
    · exact ih hearlier
    · obtain ⟨rfl, rfl⟩ := Prod.mk.inj (List.mem_singleton.mp hlast)
      exact ⟨_, _, hask⟩

/-- A call that has returned was asked for. -/
theorem Serial.asked (h : Serial asks returned a a') {k : Nat} {call : κ} {outcome : ρ}
    (hk : returned k = some (call, outcome)) : ∃ b b', asks b call outcome b' := by
  obtain ⟨log, -, hmem, hrun⟩ := h
  exact hrun.asked (List.mem_map_of_mem ((hmem k (call, outcome)).mpr hk))

/-- Without calls nothing happens. -/
theorem Serial.nil (h : ∀ k, returned k = none) : Serial asks returned a a := by
  refine ⟨[], List.nodup_nil, fun k r => ?_, .nil a⟩
  simp [h k]

/-- **A call that returns comes last.** -/
theorem Serial.returns (h : Serial asks returned a a') {k : Nat} {call : κ} {outcome : ρ}
    (hk : returned k = none) (hask : asks a' call outcome a'') :
    Serial asks (Function.update returned k (some (call, outcome))) a a'' := by
  obtain ⟨log, hnodup, hmem, hrun⟩ := h
  have hnew : k ∉ log.map Prod.fst := by
    intro hin
    obtain ⟨⟨k', r⟩, hlog, rfl⟩ := List.mem_map.mp hin
    rw [(hmem k' r).mp hlog] at hk
    cases hk
  refine ⟨log ++ [(k, call, outcome)], ?_, fun j r => ?_, ?_⟩
  · rw [List.map_append]
    exact hnodup.append (List.nodup_singleton k) (by simpa using hnew)
  · rw [List.mem_append, List.mem_singleton]
    by_cases hj : j = k
    · subst hj
      have hout : (j, r) ∉ log := fun hlog => hnew (List.mem_map_of_mem hlog)
      simp [hout, eq_comm]
    · rw [Function.update_of_ne hj, hmem j r]
      simp [hj]
  · rw [List.map_append]
    exact .snoc hrun hask

/-- **The rule of sequential orders**: if each step keeps what has returned, or returns one call
that the sequential component can be asked for, then whatever has returned in a run has a sequential
order, and the states stay related. -/
theorem System.serial {σ ε : Type} {S : System σ ε} {C : σ → ε → Prop}
    {returned : σ → Nat → Option (κ × ρ)} {R : σ → α → Prop} {I : σ → Prop}
    (hinit : ∀ s, S.init s → I s ∧ R s a ∧ ∀ k, returned s k = none)
    (hinv : ∀ s e s', I s → C s e → S.step s e = some s' → I s')
    (hstep : ∀ s e s' b, I s → R s b → C s e → S.step s e = some s' →
      (returned s' = returned s ∧ R s' b) ∨
      ∃ k call outcome b', returned s k = none ∧
        returned s' = Function.update (returned s) k (some (call, outcome)) ∧
        asks b call outcome b' ∧ R s' b')
    {s : σ} (h : S.ReachableVia C s) : I s ∧ ∃ b, R s b ∧ Serial asks (returned s) a b := by
  refine h.invariant (fun s => I s ∧ ∃ b, R s b ∧ Serial asks (returned s) a b) ?_ ?_
  · intro s hs
    obtain ⟨hI, hR, hnone⟩ := hinit s hs
    exact ⟨hI, a, hR, .nil hnone⟩
  · rintro s e s' ⟨hI, b, hR, hserial⟩ hc hs
    refine ⟨hinv s e s' hI hc hs, ?_⟩
    rcases hstep s e s' b hI hR hc hs with ⟨hsame, hR'⟩ |
      ⟨k, call, outcome, b', hk, hnew, hask, hR'⟩
    · exact ⟨b, hR', hsame ▸ hserial⟩
    · exact ⟨b', hR', hnew ▸ hserial.returns hk hask⟩

end

end RemoteLink.Library
