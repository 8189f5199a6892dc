import Mathlib.Logic.Function.Basic
import RemoteLink.Library.Runs

set_option autoImplicit false

/-!
# Two-way links

A link between two ends, as its users see it: what each end has sent, what each end has received,
and whether the link is still up. Messages are received in the order in which they were sent, and
nothing is sent any more once the link is down.

## Main definitions

* `Side` — the two ends.
* `Duplex` — what has been sent and received over a link.
* `duplexSystem` — the link as a system.

## Main results

* `duplex_sent_frozen` — nothing is sent after a hang-up.
-/

namespace RemoteLink.Library

/-- An end of a link. -/
inductive Side where
  | a
  | b
  deriving Repr, DecidableEq

/-- The end at the other side. -/
def Side.other : Side → Side
  | a => b
  | b => a

@[simp] theorem Side.other_other (s : Side) : s.other.other = s := by
  cases s <;> rfl

theorem Side.other_ne (s : Side) : s.other ≠ s := by
  cases s <;> decide

/-- An end is this one or the other one. -/
theorem Side.eq_or_other (s t : Side) : t = s ∨ t = s.other := by
  cases s <;> cases t <;> decide

/-- What has happened on a link. -/
structure Duplex (α : Type) where
  sent : Side → List α
  received : Side → List α
  up : Bool

/-- An event of a link. -/
inductive DuplexEvent (α : Type) where
  | send (side : Side) (message : α)
  | receive (side : Side) (count : Nat)
  | hangUp

variable {α : Type}

namespace Duplex

/-- A fresh link. -/
def fresh : Duplex α := ⟨fun _ => [], fun _ => [], true⟩

/-- What waits at an end. -/
def waiting (d : Duplex α) (s : Side) : List α :=
  (d.sent s.other).drop (d.received s).length

/-- The link after an event; sending needs a link that is up. -/
def step (d : Duplex α) : DuplexEvent α → Option (Duplex α)
  | .send s m =>
    if d.up then some { d with sent := Function.update d.sent s (d.sent s ++ [m]) } else none
  | .receive s n =>
    some { d with
      received := Function.update d.received s (d.received s ++ (d.waiting s).take n) }
  | .hangUp => some { d with up := false }

end Duplex

/-- A link as a system. -/
def duplexSystem (α : Type) : System (Duplex α) (DuplexEvent α) where
  init d := d = .fresh
  step d e := d.step e

/-- **Nothing is sent after a hang-up**, whatever happens then. -/
theorem duplex_sent_frozen {d d' : Duplex α} {es : List (DuplexEvent α)}
    (h : (duplexSystem α).runFrom d es = some d') (hdown : d.up = false) :
    d'.sent = d.sent ∧ d'.up = false := by
  induction es generalizing d with
  | nil =>
    obtain rfl := Option.some.inj h
    exact ⟨rfl, hdown⟩
  | cons e es ih =>
    rw [System.runFrom_cons, Option.bind_eq_some_iff] at h
    obtain ⟨r, hstep, hrest⟩ := h
    cases e with
    | send side m =>
      simp only [duplexSystem, Duplex.step, hdown] at hstep
      cases hstep
    | receive side n =>
      obtain rfl := Option.some.inj hstep
      have hfrozen := ih hrest hdown
      exact hfrozen
    | hangUp =>
      obtain rfl := Option.some.inj hstep
      have hfrozen := ih hrest rfl
      exact hfrozen

end RemoteLink.Library
