import Mathlib.Data.Nat.ModEq

set_option autoImplicit false

/-!
# Check sums with alternating weights

A word is checked by the sum of the weights of its symbols, where the weights of two kinds of
positions alternate. Two words with the same sum that differ in one symbol, or in the order of two
neighbours, have symbols that the weights cannot tell apart.

## Main definitions

* `altSum` — the sum of the weights.
* `kindAt` — the kind of a position.

## Main results

* `weight_modEq_of_substitute` — what a substitution that keeps the sum says of the symbols.
* `weight_modEq_of_transpose` — what a transposition that keeps the sum says of them.
-/

namespace RemoteLink.Library

variable {α : Type} {w : Bool → α → ℕ} {kind : Bool} {m : ℕ} {before after : List α} {x y : α}

/-- The sum of the weights of symbols; the two kinds of positions alternate. -/
def altSum (w : Bool → α → ℕ) (kind : Bool) : List α → ℕ
  | [] => 0
  | x :: xs => w kind x + altSum w (!kind) xs

/-- The kind of the position behind `n` others. -/
def kindAt (kind : Bool) : ℕ → Bool
  | 0 => kind
  | n + 1 => kindAt (!kind) n

/-- The sum of a word is that of its parts. -/
theorem altSum_append (w : Bool → α → ℕ) (kind : Bool) (xs ys : List α) :
    altSum w kind (xs ++ ys) = altSum w kind xs + altSum w (kindAt kind xs.length) ys := by
  induction xs generalizing kind with
  | nil => simp [altSum, kindAt]
  | cons x xs ih =>
    simp only [List.cons_append, altSum, ih, List.length_cons, kindAt]
    omega

/-- Weights up to a bound add up to at most that many times the length. -/
theorem altSum_le {bound : ℕ} {xs : List α} (h : ∀ kind, ∀ x ∈ xs, w kind x ≤ bound) :
    altSum w kind xs ≤ bound * xs.length := by
  induction xs generalizing kind with
  | nil => simp [altSum]
  | cons x xs ih =>
    have hx := h kind x (by simp)
    have hxs := @ih (!kind) fun k y hy => h k y (by simp [hy])
    rw [altSum, List.length_cons, Nat.mul_succ]
    omega

/-- The sum of one symbol repeated, when it weighs the same everywhere. -/
theorem altSum_replicate {weight : ℕ} (h : ∀ kind, w kind x = weight) (n : ℕ) :
    altSum w kind (List.replicate n x) = weight * n := by
  induction n generalizing kind with
  | zero => rfl
  | succ n ih =>
    rw [List.replicate_succ, altSum, h, ih, Nat.mul_succ]
    omega

/-- **A substitution that keeps the sum** puts a symbol of the same weight. -/
theorem weight_modEq_of_substitute
    (h : altSum w kind (before ++ x :: after) ≡ altSum w kind (before ++ y :: after) [MOD m]) :
    w (kindAt kind before.length) x ≡ w (kindAt kind before.length) y [MOD m] := by
  rw [altSum_append, altSum_append, altSum, altSum] at h
  exact Nat.ModEq.add_right_cancel' _ (Nat.ModEq.add_left_cancel' _ h)

/-- **A transposition that keeps the sum** is of symbols that weigh the same in both orders. -/
theorem weight_modEq_of_transpose
    (h : altSum w kind (before ++ x :: y :: after) ≡
      altSum w kind (before ++ y :: x :: after) [MOD m]) :
    w (kindAt kind before.length) x + w (!kindAt kind before.length) y ≡
      w (kindAt kind before.length) y + w (!kindAt kind before.length) x [MOD m] := by
  simp only [altSum_append, altSum, ← Nat.add_assoc] at h
  simp only [Nat.add_assoc (altSum w kind before)] at h
  exact Nat.ModEq.add_right_cancel' _ (Nat.ModEq.add_left_cancel' _ h)

end RemoteLink.Library
