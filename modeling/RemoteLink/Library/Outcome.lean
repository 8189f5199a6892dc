import Mathlib.Logic.Basic

set_option autoImplicit false

/-!
# Results of computations that may fail

What holds of the value of a computation whenever there is one.

## Main definitions

* `Yields` — every value that the computation can end with has a property.
* `Succeeds` — the computation ends with a value, and the value has a property.

## Main results

* `Yields.bind`, `Yields.get` — the rules of sequencing and of use.
* `Succeeds.bind`, `Succeeds.foldlM` — sequences and loops of computations that succeed.
-/

namespace RemoteLink.Library

universe u v w

variable {ε : Type u} {α : Type v} {β : Type v}

/-- The value of the computation, if there is one, has the property `P`. -/
def Yields (P : α → Prop) (x : Except ε α) : Prop := ∀ a, x = .ok a → P a

namespace Yields

variable {P : α → Prop} {Q : β → Prop}

theorem ok {a : α} (h : P a) : Yields P (.ok a : Except ε α) := by
  intro b hb
  exact Except.ok.inj hb ▸ h

theorem pure {a : α} (h : P a) : Yields P (Pure.pure a : Except ε α) := ok h

theorem error (e : ε) : Yields P (.error e : Except ε α) := by
  intro b hb
  cases hb

/-- Nothing need be known of a value for the trivial property. -/
theorem trivial (x : Except ε α) : Yields (fun _ => True) x := fun _ _ => True.intro

/-- **Sequencing**: what the first part yields is known in the second. -/
theorem bind {x : Except ε α} {f : α → Except ε β} (hx : Yields P x)
    (hf : ∀ a, P a → Yields Q (f a)) : Yields Q (x >>= f) := by
  intro b hb
  cases x with
  | error e => cases hb
  | ok a => exact hf a (hx a rfl) b hb

/-- Sequencing after a part whose value does not matter. -/
theorem andThen {x : Except ε α} {f : α → Except ε β} (hf : ∀ a, Yields Q (f a)) :
    Yields Q (x >>= f) :=
  bind (trivial x) fun a _ => hf a

/-- A property of the value. -/
theorem get {x : Except ε α} {a : α} (h : Yields P x) (hx : x = .ok a) : P a := h a hx

end Yields

/-- The computation ends with a value that has the property `P`. -/
def Succeeds (P : α → Prop) (x : Except ε α) : Prop := ∃ a, x = .ok a ∧ P a

namespace Succeeds

variable {P : α → Prop} {Q : β → Prop}

theorem ok {a : α} (h : P a) : Succeeds P (.ok a : Except ε α) := ⟨a, rfl, h⟩

/-- **Sequencing**: the second part starts from a value that the first ends with. -/
theorem bind {x : Except ε α} {f : α → Except ε β} (hx : Succeeds P x)
    (hf : ∀ a, P a → Succeeds Q (f a)) : Succeeds Q (x >>= f) := by
  obtain ⟨a, rfl, ha⟩ := hx
  exact hf a ha

/-- A weaker property. -/
theorem imp {x : Except ε α} {P' : α → Prop} (hx : Succeeds P x) (h : ∀ a, P a → P' a) :
    Succeeds P' x := by
  obtain ⟨a, ha, hP⟩ := hx
  exact ⟨a, ha, h a hP⟩

theorem mapError {ε' : Type w} {x : Except ε α} {f : ε → ε'} (hx : Succeeds P x) :
    Succeeds P (x.mapError f) := by
  obtain ⟨a, rfl, ha⟩ := hx
  exact ⟨a, rfl, ha⟩

/-- **The rule of loops**: an invariant of the elements done so far that every round keeps. -/
theorem foldlM {ι : Type w} {step : α → ι → Except ε α} {I : List ι → α → Prop} {l : List ι}
    (hstep : ∀ done i a, i ∈ l → I done a → Succeeds (I (done ++ [i])) (step a i)) {done : List ι}
    {a : α} (ha : I done a) : Succeeds (I (done ++ l)) (l.foldlM step a) := by
  induction l generalizing done a with
  | nil =>
    rw [List.append_nil]
    exact ok ha
  | cons i l ih =>
    rw [List.foldlM_cons]
    refine bind (hstep done i a List.mem_cons_self ha) fun b hb => ?_
    rw [← List.singleton_append, ← List.append_assoc]
    exact ih (fun done j a hj => hstep done j a (List.mem_cons_of_mem i hj)) hb

end Succeeds

/-- A loop fails when one of its rounds does, whatever it starts from. -/
theorem foldlM_error {ι : Type w} {step : α → ι → Except ε α} {l : List ι} {i : ι} (hi : i ∈ l)
    (hstep : ∀ a, ∃ e, step a i = .error e) (a : α) : ∃ e, l.foldlM step a = .error e := by
  induction l generalizing a with
  | nil => cases hi
  | cons j l ih =>
    rw [List.foldlM_cons]
    cases hj : step a j with
    | error e => exact ⟨e, rfl⟩
    | ok b =>
      rcases List.mem_cons.mp hi with rfl | hl
      · obtain ⟨e, he⟩ := hstep a
        rw [he] at hj
        cases hj
      · exact ih hl b

end RemoteLink.Library
