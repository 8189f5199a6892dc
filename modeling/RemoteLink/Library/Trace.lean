import Mathlib.Data.List.Basic

set_option autoImplicit false

/-!
# Justified traces

A trace whose entries are each justified by what stands before them: the form of "no `b` before
an `a`" over the history of a run.

## Main definitions

* `Justified` — every entry of a trace is justified by the entries before it.

## Main results

* `justified_concat` — a trace is justified when its start and its last entry are.
* `Justified.of_prefix` — a start of a justified trace is justified.
-/

namespace RemoteLink.Library

variable {α : Type} {P : List α → α → Prop} {t u : List α}

/-- Every entry `x` of the trace satisfies `P` with the entries before it. -/
def Justified (P : List α → α → Prop) (t : List α) : Prop :=
  ∀ before x after, t = before ++ x :: after → P before x

theorem Justified.nil : Justified P [] := by
  intro before x after h
  exact absurd h.symm (by simp)

/-- A start of a justified trace is justified. -/
theorem Justified.of_prefix (h : Justified P t) (hu : u <+: t) : Justified P u := by
  rintro before x after rfl
  obtain ⟨rest, rfl⟩ := hu
  exact h before x (after ++ rest) (by simp)

/-- The last entry of a justified trace is justified by the rest. -/
theorem Justified.last {x : α} (h : Justified P (t ++ [x])) : P t x :=
  h t x [] rfl

/-- **One more entry.** -/
theorem justified_concat {x : α} : Justified P (t ++ [x]) ↔ Justified P t ∧ P t x := by
  refine ⟨fun h => ⟨h.of_prefix ⟨[x], rfl⟩, h.last⟩, fun ⟨h, hx⟩ before y after heq => ?_⟩
  rcases List.eq_nil_or_concat after with rfl | ⟨init, z, rfl⟩
  · obtain ⟨rfl, hy⟩ := List.append_inj' heq rfl
    obtain rfl := List.singleton_inj.mp hy
    exact hx
  · have heq : t ++ [x] = (before ++ y :: init) ++ [z] := by simpa using heq
    obtain ⟨ht, -⟩ := List.append_inj' heq rfl
    exact h before y init ht

end RemoteLink.Library
