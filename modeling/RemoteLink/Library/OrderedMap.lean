import Mathlib.Order.Lattice
import Mathlib.Data.List.Basic

set_option autoImplicit false

/-!
# Maps as ordered lists

A map whose entries stand in the order of their keys, as one gets by inserting entries one after
another: a later entry replaces an earlier one with the same key.

## Main definitions

* `OrderedMap.insert`, `OrderedMap.ofList` — insertion, and the map of a list of entries.
* `OrderedMap.Ordered` — the keys increase strictly.

## Main results

* `OrderedMap.ordered_ofList` — the map of a list is ordered.
* `OrderedMap.ofList_of_ordered` — an ordered list is its own map.
-/

namespace RemoteLink.Library

namespace OrderedMap

universe u v

variable {κ : Type u} {ν : Type v} [LinearOrder κ]

/-- Insert an entry, replacing the one with the same key. -/
def insert (k : κ) (v : ν) : List (κ × ν) → List (κ × ν)
  | [] => [(k, v)]
  | e :: m =>
    if k < e.1 then (k, v) :: e :: m
    else if k = e.1 then (k, v) :: m
    else e :: insert k v m

/-- The map of a list of entries; of two entries with one key the later one counts. -/
def ofList (es : List (κ × ν)) : List (κ × ν) :=
  es.foldl (fun m e => insert e.1 e.2 m) []

/-- The keys increase strictly. -/
def Ordered (m : List (κ × ν)) : Prop :=
  m.Pairwise fun d e => d.1 < e.1

/-- An entry of the map after an insertion is the new one or an old one. -/
theorem mem_insert {k : κ} {v : ν} {m : List (κ × ν)} {e : κ × ν} (h : e ∈ insert k v m) :
    e = (k, v) ∨ e ∈ m := by
  induction m with
  | nil => exact .inl (List.mem_singleton.mp h)
  | cons d m ih =>
    unfold insert at h
    split_ifs at h with hlt heq
    · exact List.mem_cons.mp h
    · exact (List.mem_cons.mp h).imp_right (List.mem_cons_of_mem d)
    · rcases List.mem_cons.mp h with rfl | hmem
      · exact .inr List.mem_cons_self
      · exact (ih hmem).imp_right (List.mem_cons_of_mem d)

/-- Insertion keeps the order. -/
theorem ordered_insert {k : κ} {v : ν} {m : List (κ × ν)} (h : Ordered m) :
    Ordered (insert k v m) := by
  induction m with
  | nil => exact List.pairwise_singleton _ _
  | cons d m ih =>
    obtain ⟨hd, hm⟩ := List.pairwise_cons.mp h
    unfold insert
    split_ifs with hlt heq
    · refine List.pairwise_cons.mpr ⟨fun e he => ?_, h⟩
      rcases List.mem_cons.mp he with rfl | he
      · exact hlt
      · exact lt_trans hlt (hd e he)
    · refine List.pairwise_cons.mpr ⟨fun e he => ?_, hm⟩
      exact heq ▸ hd e he
    · refine List.pairwise_cons.mpr ⟨fun e he => ?_, ih hm⟩
      rcases mem_insert he with rfl | he
      · exact lt_of_le_of_ne (not_lt.mp hlt) (Ne.symm heq)
      · exact hd e he

/-- An entry beyond all others goes to the end. -/
theorem insert_of_forall_lt {k : κ} {v : ν} {m : List (κ × ν)} (h : ∀ e ∈ m, e.1 < k) :
    insert k v m = m ++ [(k, v)] := by
  induction m with
  | nil => rfl
  | cons d m ih =>
    have hd := h d List.mem_cons_self
    have hrest := ih fun e he => h e (List.mem_cons_of_mem d he)
    unfold insert
    rw [if_neg (not_lt.mpr (le_of_lt hd)), if_neg (ne_of_gt hd), hrest]
    rfl

/-- What inserting a list of entries keeps, from any map. -/
theorem foldl_induction {P : List (κ × ν) → Prop} (es : List (κ × ν)) {m : List (κ × ν)} (hm : P m)
    (hstep : ∀ m, ∀ e ∈ es, P m → P (insert e.1 e.2 m)) :
    P (es.foldl (fun m e => insert e.1 e.2 m) m) := by
  induction es generalizing m with
  | nil => exact hm
  | cons e es ih =>
    exact ih (hstep m e List.mem_cons_self hm) fun m d hd => hstep m d (List.mem_cons_of_mem e hd)

/-- **The map of a list is ordered.** -/
theorem ordered_ofList (es : List (κ × ν)) : Ordered (ofList es) :=
  foldl_induction es List.Pairwise.nil fun _ _ _ h => ordered_insert h

/-- The entries of the map of a list are entries of the list. -/
theorem mem_of_mem_ofList {es : List (κ × ν)} {e : κ × ν} (h : e ∈ ofList es) : e ∈ es := by
  have hall : ∀ d ∈ ofList es, d ∈ es :=
    foldl_induction (P := fun m => ∀ d ∈ m, d ∈ es) es (fun _ h => absurd h List.not_mem_nil)
      fun m e he hm d hd => (mem_insert hd).elim (fun heq => heq ▸ he) (hm d)
  exact hall e h

/-- **An ordered list is its own map.** -/
theorem ofList_of_ordered {es : List (κ × ν)} (h : Ordered es) : ofList es = es := by
  -- the entries that are still to come lie beyond those that are in the map
  suffices hfold : ∀ m, Ordered (m ++ es) →
      es.foldl (fun m e => insert e.1 e.2 m) m = m ++ es from hfold [] h
  clear h
  induction es with
  | nil => exact fun m _ => (List.append_nil m).symm
  | cons e es ih =>
    intro m h
    have hlt : ∀ d ∈ m, d.1 < e.1 := fun d hd =>
      (List.pairwise_append.mp h).2.2 d hd e List.mem_cons_self
    rw [List.foldl_cons, insert_of_forall_lt hlt, ih (m ++ [(e.1, e.2)])]
    · rw [List.append_assoc]
      rfl
    · rw [List.append_assoc]
      exact h

end OrderedMap

end RemoteLink.Library
