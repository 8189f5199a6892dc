import Mathlib.Tactic.SplitIfs

set_option autoImplicit false

/-!
# Switches

A switch is turned on and off; a history is the list of what was turned and to which side. Where a
switch stands after a history depends on its last turn only.

## Main definitions

* `standing` — where a switch stands after a history.
* `turns` — whether a history turns a switch.

## Main results

* `standing_append` — the second part of a history starts where the first one ends.
* `standing_of_turns` — a history that turns a switch does not depend on where it stood.
-/

namespace RemoteLink.Library

variable {α : Type} [DecidableEq α]

/-- Where the switch `a` stands after a history, if it stands at `start` before it. -/
def standing (a : α) (start : Bool) : List (α × Bool) → Bool
  | [] => start
  | t :: ts => standing a (if t.1 = a then t.2 else start) ts

/-- Whether a history turns the switch `a`. -/
def turns (a : α) (ts : List (α × Bool)) : Bool := ts.any fun t => decide (t.1 = a)

@[simp] theorem standing_nil (a : α) (start : Bool) : standing a start [] = start := rfl

theorem standing_cons (a : α) (start : Bool) (t : α × Bool) (ts : List (α × Bool)) :
    standing a start (t :: ts) = standing a (if t.1 = a then t.2 else start) ts := rfl

/-- The last turn of a switch says where it stands. -/
@[simp] theorem standing_cons_self (a : α) (start side : Bool) (ts : List (α × Bool)) :
    standing a start ((a, side) :: ts) = standing a side ts := by
  rw [standing_cons, if_pos rfl]

theorem standing_cons_of_ne {a : α} {t : α × Bool} (h : t.1 ≠ a) (start : Bool)
    (ts : List (α × Bool)) : standing a start (t :: ts) = standing a start ts := by
  rw [standing_cons, if_neg h]

/-- **The second part of a history starts where the first one ends.** -/
theorem standing_append (a : α) (start : Bool) (ts us : List (α × Bool)) :
    standing a start (ts ++ us) = standing a (standing a start ts) us := by
  induction ts generalizing start with
  | nil => rfl
  | cons t ts ih =>
    rw [List.cons_append, standing_cons, standing_cons]
    exact ih _

theorem turns_cons (a : α) (t : α × Bool) (ts : List (α × Bool)) :
    turns a (t :: ts) = (decide (t.1 = a) || turns a ts) := by
  simp [turns]

/-- A switch that is not turned stays where it is. -/
theorem standing_of_not_turns {a : α} {ts : List (α × Bool)} (h : turns a ts = false)
    (start : Bool) : standing a start ts = start := by
  induction ts generalizing start with
  | nil => rfl
  | cons t ts ih =>
    rw [turns_cons, Bool.or_eq_false_iff, decide_eq_false_iff_not] at h
    rw [standing_cons_of_ne h.1]
    exact ih h.2 start

/-- **Where a switch stood does not matter once it is turned.** -/
theorem standing_of_turns {a : α} {ts : List (α × Bool)} (h : turns a ts = true)
    (start start' : Bool) : standing a start ts = standing a start' ts := by
  induction ts generalizing start start' with
  | nil => simp [turns] at h
  | cons t ts ih =>
    rw [standing_cons, standing_cons]
    by_cases ht : t.1 = a
    · rw [if_pos ht, if_pos ht]
    · rw [if_neg ht, if_neg ht]
      rw [turns_cons, decide_eq_false ht, Bool.false_or] at h
      exact ih h start start'

end RemoteLink.Library
