import Mathlib.Data.List.Basic

set_option autoImplicit false

/-!
# Prefix codes

Codes in which no word begins with another, so that a word ends where it ends whatever follows, and
a sequence of words can be told apart from what stands behind it when a mark does.

## Main definitions

* `PrefixFree` — no word of the code begins with another one.

## Main results

* `PrefixFree.append_inj` — a word is read off the front of a text.
* `PrefixFree.flatMap_append_inj` — the words before a mark are read off the front of a text.
* `class_append_inj` — a word ends where its class of letters does.
-/

namespace RemoteLink.Library

universe u v

variable {α : Type u} {β : Type v}

/-- No word of the code begins with another one. -/
def PrefixFree (code : α → List β) : Prop := ∀ a b, code a <+: code b → a = b

namespace PrefixFree

variable {code : α → List β}

/-- **A word is read off the front of a text.** -/
theorem append_inj (h : PrefixFree code) {a b : α} {x y : List β}
    (heq : code a ++ x = code b ++ y) : a = b ∧ x = y := by
  -- of two words at the front of one text the shorter begins the longer
  have hab : a = b := by
    rcases List.append_eq_append_iff.mp heq with ⟨r, hr, -⟩ | ⟨r, hr, -⟩
    · exact h a b ⟨r, hr.symm⟩
    · exact (h b a ⟨r, hr.symm⟩).symm
  subst hab
  exact ⟨rfl, List.append_cancel_left heq⟩

/-- **The words before a mark are read off the front of a text**, when no word begins with the
mark. -/
theorem flatMap_append_inj (h : PrefixFree code) {mark : β} (hmark : ∀ a, ∃ b r, code a = b :: r ∧
    b ≠ mark) {l m : List α} {x y : List β}
    (heq : l.flatMap code ++ mark :: x = m.flatMap code ++ mark :: y) : l = m ∧ x = y := by
  induction l generalizing m with
  | nil =>
    cases m with
    | nil => exact ⟨rfl, (List.cons.inj heq).2⟩
    | cons a m =>
      obtain ⟨b, r, hcode, hb⟩ := hmark a
      rw [List.flatMap_nil, List.flatMap_cons, hcode] at heq
      exact absurd (List.cons.inj heq).1.symm hb
  | cons a l ih =>
    cases m with
    | nil =>
      obtain ⟨b, r, hcode, hb⟩ := hmark a
      rw [List.flatMap_nil, List.flatMap_cons, hcode] at heq
      exact absurd (List.cons.inj heq).1 hb
    | cons c m =>
      rw [List.flatMap_cons, List.flatMap_cons, List.append_assoc, List.append_assoc] at heq
      obtain ⟨rfl, hrest⟩ := h.append_inj heq
      obtain ⟨rfl, hxy⟩ := ih hrest
      exact ⟨rfl, hxy⟩

end PrefixFree

/-- A word of one class of letters is read off the front of a text, when a letter of another class
follows, or none. -/
theorem class_append_inj {p : β → Prop} {u v x y : List β} (hu : ∀ b ∈ u, p b) (hv : ∀ b ∈ v, p b)
    (hx : ∀ b ∈ x.head?, ¬p b) (hy : ∀ b ∈ y.head?, ¬p b) (heq : u ++ x = v ++ y) :
    u = v ∧ x = y := by
  induction u generalizing v with
  | nil =>
    cases v with
    | nil => exact ⟨rfl, heq⟩
    | cons b v =>
      rw [List.nil_append] at heq
      exact absurd (hv b List.mem_cons_self) (hx b (by rw [heq]; rfl))
  | cons a u ih =>
    cases v with
    | nil =>
      rw [List.nil_append] at heq
      exact absurd (hu a List.mem_cons_self) (hy a (by rw [← heq]; rfl))
    | cons b v =>
      obtain ⟨rfl, hrest⟩ := List.cons.inj heq
      obtain ⟨rfl, hxy⟩ := ih (fun c hc => hu c (List.mem_cons_of_mem _ hc))
        (fun c hc => hv c (List.mem_cons_of_mem _ hc)) hrest
      exact ⟨rfl, hxy⟩

end RemoteLink.Library
