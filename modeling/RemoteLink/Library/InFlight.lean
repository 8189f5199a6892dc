import Mathlib.Algebra.BigOperators.Group.Finset.Piecewise
import Mathlib.Algebra.Order.BigOperators.Group.Finset

set_option autoImplicit false

/-!
# What is in flight

Threads that work side by side each have a share of something in flight: increments that are still
to come, values that are still to be added. The total over all threads changes with the share of the
thread that moves, which gives conservation laws for what the threads do to shared cells.

## Main definitions

* `inFlight` — the total of the threads' shares.

## Main results

* `inFlight_gain`, `inFlight_loss` — one thread gains or loses a part of its share.
* `inFlight_le_busy` — shares of at most one are counted by the threads that have one.
-/

namespace RemoteLink.Library

open Finset

variable {ι τ M : Type} [Fintype ι]

/-- The total of the threads' shares. -/
def inFlight [AddCommMonoid M] (share : τ → M) (threads : ι → τ) : M := ∑ t, share (threads t)

section Monoid

variable [AddCommMonoid M] {share : τ → M} {threads : ι → τ} {t : ι} {x : τ} {d : M}

/-- Nothing is in flight when no thread has a share. -/
theorem inFlight_eq_zero (h : ∀ t, share (threads t) = 0) : inFlight share threads = 0 :=
  sum_eq_zero fun t _ => h t

variable [DecidableEq ι]

/-- The total with one thread set apart. -/
theorem inFlight_split (share : τ → M) (threads : ι → τ) (t : ι) :
    inFlight share threads = share (threads t) + ∑ u ∈ univ.erase t, share (threads u) :=
  (add_sum_erase univ (fun u => share (threads u)) (mem_univ t)).symm

theorem inFlight_update_split (share : τ → M) (threads : ι → τ) (t : ι) (x : τ) :
    inFlight share (Function.update threads t x) =
      share x + ∑ u ∈ univ.erase t, share (threads u) := by
  rw [inFlight_split share _ t, Function.update_self]
  congr 1
  refine sum_congr rfl fun u hu => ?_
  rw [Function.update_of_ne (ne_of_mem_erase hu)]

/-- A thread gains a share. -/
theorem inFlight_gain (h : share x = share (threads t) + d) :
    inFlight share (Function.update threads t x) = inFlight share threads + d := by
  rw [inFlight_update_split, inFlight_split share threads t, h, add_right_comm]

/-- A thread loses a part of its share. -/
theorem inFlight_loss (h : share (threads t) = share x + d) :
    inFlight share (Function.update threads t x) + d = inFlight share threads := by
  rw [inFlight_update_split, inFlight_split share threads t, h, add_right_comm]

/-- A thread moves and keeps its share. -/
theorem inFlight_same (h : share x = share (threads t)) :
    inFlight share (Function.update threads t x) = inFlight share threads := by
  rw [inFlight_update_split, inFlight_split share threads t, h]

end Monoid

/-- **Shares of at most one** are counted by the threads that have one. -/
theorem inFlight_le_busy {share : τ → ℕ} {threads : ι → τ} {busy : ι → Prop} [DecidablePred busy]
    (hle : ∀ t, share (threads t) ≤ 1) (hidle : ∀ t, ¬busy t → share (threads t) = 0) :
    inFlight share threads ≤ (univ.filter busy).card := by
  rw [inFlight, card_filter]
  refine sum_le_sum fun t _ => ?_
  split_ifs with h
  · exact hle t
  · exact (hidle t h).le

end RemoteLink.Library
