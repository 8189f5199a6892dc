import Mathlib.Data.List.TakeWhile

set_option autoImplicit false

/-!
# Work in batches

A consumer takes a sequence in batches. It gives up a batch at the first element that it does not go
on after, and the rest of that batch is lost, but not the batches behind it. What comes of the
sequence depends on the batches, unless nothing comes of the elements behind the first such element.

## Main definitions

* `harvest` — what comes of one batch.

## Main results

* `flatMap_harvest` — the batches do not matter when nothing comes of what is behind.
* `filterMap_eq_harvest_iff` — batches of one element each lose nothing.
-/

namespace RemoteLink.Library

variable {α β : Type} {p : α → Bool} {f : α → Option β} {xs ys : List α}

/-- What comes of a batch: the images of its elements up to the first that `p` does not hold of. -/
def harvest (p : α → Bool) (f : α → Option β) (batch : List α) : List β :=
  (batch.takeWhile p).filterMap f

@[simp] theorem harvest_nil : harvest p f [] = [] := rfl

theorem harvest_cons_of_pos {a : α} (h : p a = true) :
    harvest p f (a :: xs) = (f a).toList ++ harvest p f xs := by
  rw [harvest, List.takeWhile_cons_of_pos h, List.filterMap_cons]
  cases hf : f a with
  | none => rfl
  | some b => rfl

theorem harvest_cons_of_neg {a : α} (h : ¬p a = true) : harvest p f (a :: xs) = [] := by
  rw [harvest, List.takeWhile_cons_of_neg h, List.filterMap_nil]

/-- A batch that goes on to its end. -/
theorem harvest_append_of_all (h : ∀ a ∈ xs, p a = true) :
    harvest p f (xs ++ ys) = xs.filterMap f ++ harvest p f ys := by
  rw [harvest, List.takeWhile_append_of_pos h, List.filterMap_append]
  rfl

/-- Nothing comes of elements without an image. -/
theorem harvest_eq_nil (h : ∀ a ∈ xs, f a = none) : harvest p f xs = [] :=
  List.filterMap_eq_nil_iff.mpr fun a ha => h a (List.takeWhile_subset _ ha)

/-- A batch of one element is not cut before it, when only elements that the work goes on after have
an image. -/
theorem harvest_of_length_le_one (hp : ∀ a, f a ≠ none → p a = true) (h : xs.length ≤ 1) :
    harvest p f xs = xs.filterMap f := by
  obtain _ | ⟨a, _ | ⟨b, xs⟩⟩ := xs
  · rfl
  · by_cases ha : p a = true
    · rw [harvest, List.takeWhile_cons_of_pos ha, List.takeWhile_nil]
    · have hnone : f a = none := by
        by_contra himage
        exact ha (hp a himage)
      rw [harvest_cons_of_neg ha, List.filterMap_cons_none hnone, List.filterMap_nil]
  · simp at h

/-- **The batches do not matter** when nothing comes of the elements behind the first one that the
work does not go on after.

**Proof sketch.** By induction on the batches. A batch that goes on to its end leaves the first such
element in the batches after it. A batch that does not holds it, so all batches after it are
behind. -/
theorem flatMap_harvest {batches : List (List α)}
    (h : ∀ a ∈ batches.flatten.dropWhile p, f a = none) :
    batches.flatMap (harvest p f) = harvest p f batches.flatten := by
  induction batches with
  | nil => rfl
  | cons batch batches ih =>
    rw [List.flatMap_cons]
    rw [List.flatten_cons] at h ⊢
    by_cases hall : ∀ a ∈ batch, p a = true
    · rw [List.dropWhile_append_of_pos hall] at h
      rw [ih h, harvest_append_of_all hall, harvest, List.takeWhile_eq_self_iff.mpr hall]
    · have hstops : batch.dropWhile p ≠ [] := fun hnil => hall (List.dropWhile_eq_nil_iff.mp hnil)
      have hbehind : (batch ++ batches.flatten).dropWhile p =
          batch.dropWhile p ++ batches.flatten := by
        rw [List.dropWhile_append, if_neg (by simpa using hstops)]
      have hfirst : (batch ++ batches.flatten).takeWhile p = batch.takeWhile p := by
        rw [List.takeWhile_append, if_neg]
        intro hlen
        have hsplit : (batch.takeWhile p ++ batch.dropWhile p).length = batch.length := by
          rw [List.takeWhile_append_dropWhile]
        rw [List.length_append] at hsplit
        have hpos : 0 < (batch.dropWhile p).length := List.length_pos_iff.mpr hstops
        omega
      rw [hbehind] at h
      have hnone : batches.flatMap (harvest p f) = [] := by
        rw [List.flatMap_eq_nil_iff]
        intro later hlater
        exact harvest_eq_nil fun a ha =>
          h a (List.mem_append_right _ (List.mem_flatten_of_mem hlater ha))
      rw [hnone, List.append_nil, harvest, harvest, hfirst]

/-- **All elements bring in as much as one batch** exactly when nothing comes of what is behind. -/
theorem filterMap_eq_harvest_iff :
    xs.filterMap f = harvest p f xs ↔ ∀ a ∈ xs.dropWhile p, f a = none := by
  have hsplit : xs.filterMap f = harvest p f xs ++ (xs.dropWhile p).filterMap f := by
    rw [harvest, ← List.filterMap_append, List.takeWhile_append_dropWhile]
  rw [hsplit, ← List.filterMap_eq_nil_iff]
  exact List.append_right_eq_self

end RemoteLink.Library
