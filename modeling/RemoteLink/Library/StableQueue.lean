import Mathlib.Data.List.Basic
import Mathlib.Data.List.Perm.Basic
import Mathlib.Data.List.TakeWhile
import Mathlib.Order.Lattice

set_option autoImplicit false

/-!
# Stable priority queues

A queue that is kept in the order of a key: a new element goes in front of the first one with a
greater key. Elements with the same key stay in the order in which they arrived, and every element
that arrived is either in the queue or among those that left it.

## Main definitions

* `insertStable` — put an element in its place.
* `InOrder` — numbered elements stand in the order of their keys, and of their numbers on ties.
* `Accounted` — the queue is in order, and with those that left it has every arrival once.

## Main results

* `InOrder.insertStable` — a later arrival keeps the order.
* `Accounted.arrive`, `Accounted.leave` — the account is kept.
* `forall_mem_dropWhile_iff` — when taking from the front leaves nothing of a kind.
-/

namespace RemoteLink.Library

variable {α β κ : Type} [LinearOrder κ]

/-- Put an element in front of the first one with a greater key. -/
def insertStable (key : α → κ) (x : α) (l : List α) : List α :=
  l.insertIdx ((l.findIdx? fun y => decide (key x < key y)).getD l.length) x

/-- Elements with a smaller or the same key come first. -/
theorem insertStable_eq (key : α → κ) (x : α) (l : List α) :
    insertStable key x l = l.takeWhile (fun y => decide (key y ≤ key x)) ++
      x :: l.dropWhile (fun y => decide (key y ≤ key x)) := by
  induction l with
  | nil => rfl
  | cons y l ih =>
    by_cases h : key y ≤ key x
    · have hlt : ¬ key x < key y := not_lt.mpr h
      have hstep : insertStable key x (y :: l) = y :: insertStable key x l := by
        unfold insertStable
        rw [List.findIdx?_cons]
        simp only [decide_eq_true_eq, if_neg hlt]
        rcases l.findIdx? (fun z => decide (key x < key z)) with _ | i <;> rfl
      rw [hstep, ih]
      simp [h]
    · have hlt : key x < key y := not_le.mp h
      simp [insertStable, List.findIdx?_cons, h, hlt]

theorem insertStable_perm (key : α → κ) (x : α) (l : List α) :
    (insertStable key x l).Perm (x :: l) := by
  rw [insertStable_eq]
  refine List.perm_middle.trans ?_
  rw [List.takeWhile_append_dropWhile]

theorem insertStable_map (key : β → κ) (f : α → β) (x : α) (l : List α) :
    (insertStable (key ∘ f) x l).map f = insertStable key (f x) (l.map f) := by
  rw [insertStable_eq, insertStable_eq, List.map_append, List.map_cons, List.takeWhile_map,
    List.dropWhile_map]
  rfl

/-- Numbered elements in the order of their keys, and of their numbers where keys are the same. -/
def InOrder (key : α → κ) (l : List (α × ℕ)) : Prop :=
  l.Pairwise fun a b => key a.1 < key b.1 ∨ key a.1 = key b.1 ∧ a.2 < b.2

section

variable {key : α → κ} {l : List (α × ℕ)}

theorem InOrder.sorted (h : InOrder key l) :
    (l.map Prod.fst).Pairwise fun a b => key a ≤ key b := by
  rw [List.pairwise_map]
  refine h.imp ?_
  rintro a b (hlt | ⟨heq, -⟩)
  · exact hlt.le
  · exact heq.le

/-- **A later arrival keeps the order**: it stands behind the elements with the same key. -/
theorem InOrder.insertStable {x : α} {n : ℕ} (h : InOrder key l) (hlater : ∀ a ∈ l, a.2 < n) :
    InOrder key (insertStable (key ∘ Prod.fst) (x, n) l) := by
  rw [insertStable_eq]
  set small := l.takeWhile fun y => decide ((key ∘ Prod.fst) y ≤ (key ∘ Prod.fst) (x, n))
  set large := l.dropWhile fun y => decide ((key ∘ Prod.fst) y ≤ (key ∘ Prod.fst) (x, n))
  have hsplit : small ++ large = l := List.takeWhile_append_dropWhile
  have hl : InOrder key (small ++ large) := hsplit.symm ▸ h
  obtain ⟨hsmall, hlarge, hacross⟩ := List.pairwise_append.mp hl
  have hle : ∀ a ∈ small, key a.1 ≤ key x := fun a ha => by
    simpa using List.mem_takeWhile_imp ha
  -- the first element behind has a greater key, and the order carries that to the rest
  have hgt : ∀ b ∈ large, key x < key b.1 := by
    intro b hb
    obtain ⟨b₀, rest, hcons⟩ := List.exists_cons_of_ne_nil (List.ne_nil_of_mem hb)
    have hfirst : key x < key b₀.1 := by
      have hhead := List.head_dropWhile_not (fun y : α × ℕ =>
        decide ((key ∘ Prod.fst) y ≤ (key ∘ Prod.fst) (x, n))) (List.ne_nil_of_mem hb)
      have hb₀ : large.head (List.ne_nil_of_mem hb) = b₀ := by simp [hcons]
      rw [hb₀] at hhead
      simpa using hhead
    rw [hcons] at hb hlarge
    obtain rfl | hrest := List.mem_cons.mp hb
    · exact hfirst
    · rcases (List.pairwise_cons.mp hlarge).1 b hrest with hlt | ⟨heq, -⟩
      · exact hfirst.trans hlt
      · exact heq ▸ hfirst
  have hnew : InOrder key ((x, n) :: large) :=
    List.pairwise_cons.mpr ⟨fun b hb => .inl (hgt b hb), hlarge⟩
  refine List.pairwise_append.mpr ⟨hsmall, hnew, ?_⟩
  intro a ha b hb
  obtain rfl | hb := List.mem_cons.mp hb
  · have hmem : a ∈ l := hsplit ▸ List.mem_append_left _ ha
    rcases (hle a ha).lt_or_eq with hlt | heq
    · exact .inl hlt
    · exact .inr ⟨heq, hlater a hmem⟩
  · exact hacross a ha b hb

end

/-- **Nothing is lost and nothing is there twice**: the queue is in order, and its elements and
those that left it are the arrivals, with their numbers. -/
structure Accounted (key : α → κ) (arrivals : List α) (queued gone : List (α × ℕ)) : Prop where
  inOrder : InOrder key queued
  balance : (queued ++ gone).Perm arrivals.zipIdx

namespace Accounted

variable {key : α → κ} {arrivals : List α} {queued gone : List (α × ℕ)}

theorem empty (key : α → κ) : Accounted key [] [] [] := ⟨List.Pairwise.nil, List.Perm.nil⟩

/-- The numbers in the queue are those of arrivals. -/
theorem number_lt (h : Accounted key arrivals queued gone) {a : α × ℕ} (ha : a ∈ queued) :
    a.2 < arrivals.length := by
  have hmem : a ∈ arrivals.zipIdx := h.balance.subset (List.mem_append_left _ ha)
  simpa using List.snd_lt_of_mem_zipIdx hmem

/-- **An arrival is queued.** -/
theorem arrive (h : Accounted key arrivals queued gone) (x : α) :
    Accounted key (arrivals ++ [x])
      (insertStable (key ∘ Prod.fst) (x, arrivals.length) queued) gone := by
  refine ⟨h.inOrder.insertStable fun a ha => h.number_lt ha, ?_⟩
  rw [List.zipIdx_append]
  calc insertStable (key ∘ Prod.fst) (x, arrivals.length) queued ++ gone
    _ |>.Perm (((x, arrivals.length) :: queued) ++ gone) :=
      (insertStable_perm _ _ _).append_right gone
    _ |>.Perm ((queued ++ gone) ++ [(x, arrivals.length)]) := (List.perm_append_singleton _ _).symm
    _ |>.Perm (arrivals.zipIdx ++ [x].zipIdx (0 + arrivals.length)) := by
      rw [Nat.zero_add]
      exact h.balance.append_right _

/-- **The first elements leave.** -/
theorem leave {first : List (α × ℕ)} (h : Accounted key arrivals (first ++ queued) gone) :
    Accounted key arrivals queued (gone ++ first) := by
  refine ⟨(List.pairwise_append.mp h.inOrder).2.1, List.Perm.trans ?_ h.balance⟩
  calc queued ++ (gone ++ first)
    _ |>.Perm ((gone ++ first) ++ queued) := List.perm_append_comm
    _ |>.Perm ((first ++ gone) ++ queued) := List.perm_append_comm.append_right queued
    _ |>.Perm ((first ++ queued) ++ gone) := by
      rw [List.append_assoc, List.append_assoc]
      exact List.perm_append_comm.append_left first

/-- In which order they left does not matter. -/
theorem congr {gone' : List (α × ℕ)} (h : Accounted key arrivals queued gone)
    (hperm : gone'.Perm gone) : Accounted key arrivals queued gone' :=
  ⟨h.inOrder, (hperm.append_left queued).trans h.balance⟩

/-- As many arrived as are queued or gone. -/
theorem length_eq (h : Accounted key arrivals queued gone) :
    arrivals.length = queued.length + gone.length := by
  rw [← List.length_append, h.balance.length_eq, List.length_zipIdx]

end Accounted

/-- Nothing of a kind is left behind the first element that is not of it, exactly if no element of
the kind stands behind one that is not. -/
theorem forall_mem_dropWhile_iff (p : α → Bool) (l : List α) :
    (∀ x ∈ l.dropWhile p, ¬ p x = true) ↔ l.Pairwise fun x y => p y = true → p x = true := by
  induction l with
  | nil => simp
  | cons x l ih =>
    rw [List.pairwise_cons]
    by_cases hx : p x = true
    · rw [List.dropWhile_cons_of_pos hx, ih]
      simp [hx]
    · rw [List.dropWhile_cons_of_neg hx]
      constructor
      · intro h
        have hnone : ∀ y ∈ l, ¬ p y = true := fun y hy => h y (List.mem_cons_of_mem x hy)
        refine ⟨fun y hy hpy => absurd hpy (hnone y hy), ?_⟩
        exact List.pairwise_of_forall_mem_list fun y _ z hz hpz => absurd hpz (hnone z hz)
      · rintro ⟨hfirst, -⟩ y hy hpy
        obtain rfl | hy := List.mem_cons.mp hy
        · exact hx hpy
        · exact hx (hfirst y hy hpy)

end RemoteLink.Library
