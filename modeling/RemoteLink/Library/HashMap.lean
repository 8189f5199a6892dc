import Mathlib.Data.List.AList

set_option autoImplicit false

/-!
# Hash maps as association lists

The hash maps of a program are modelled by Mathlib's association lists with distinct keys. The
order in which a map is iterated is the order of its entries, newest insertion first. A hash map
promises no order, so statements about an iteration should hold whatever the order is.

## Main definitions

* `HashMap` — the map type, with `AList`'s `lookup`, `insert` and `erase`.
* `HashMap.mapVals` — update every value in place (`for v in m.values_mut()`).
* `HashMap.keysWhere` — the keys whose entry passes a test, in iteration order.
* `HashMap.findValue` — the first value that passes a test (`m.values().find(p)`).
* `HashMap.eraseAll` — erase a list of keys one after another.
* `HashMap.fill` — insert a list of values, each under its key.

## Main results

* `HashMap.lookup_mapVals`, `HashMap.mem_keysWhere`, `HashMap.findValue_some`,
  `HashMap.lookup_eraseAll` — what each of them does, in terms of `lookup`.
* `HashMap.lookup_fill_values` — a map can be filled again from its values.
-/

namespace RemoteLink.Library

universe u v

/-- A hash map from `κ` to `ν`. -/
abbrev HashMap (κ : Type u) (ν : Type v) : Type (max u v) := AList (fun _ : κ => ν)

namespace HashMap

variable {κ : Type u} {ν : Type v}

/-- Replace the value `v` of every key `k` by `f k v`. -/
def mapVals (f : κ → ν → ν) (m : HashMap κ ν) : HashMap κ ν where
  entries := m.entries.map fun e => ⟨e.1, f e.1 e.2⟩
  nodupKeys := by
    have hkeys : (m.entries.map fun e => (⟨e.1, f e.1 e.2⟩ : Sigma fun _ : κ => ν)).keys =
        m.entries.keys := by
      simp [List.keys, Function.comp_def]
    have hnd := m.nodupKeys
    rw [List.NodupKeys] at hnd ⊢
    rwa [hkeys]

/-- The keys whose entry passes the test `p`, in iteration order. -/
def keysWhere (p : κ → ν → Bool) (m : HashMap κ ν) : List κ :=
  (m.entries.filter fun e => p e.1 e.2).map Sigma.fst

/-- The first value, in iteration order, that passes the test `p`. -/
def findValue (p : ν → Bool) (m : HashMap κ ν) : Option ν :=
  (m.entries.map Sigma.snd).find? p

variable [DecidableEq κ]

/-- Erase the keys of `ks` one after another. -/
def eraseAll (ks : List κ) (m : HashMap κ ν) : HashMap κ ν :=
  ks.foldl (fun m k => AList.erase k m) m

/-- Insert the values of `vs`, each under its key, one after another. -/
def fill (key : ν → κ) (m : HashMap κ ν) (vs : List ν) : HashMap κ ν :=
  vs.foldl (fun m v => AList.insert (key v) v m) m

theorem dlookup_map (f : κ → ν → ν) (k : κ) (l : List (Sigma fun _ : κ => ν)) :
    (l.map fun e => (⟨e.1, f e.1 e.2⟩ : Sigma fun _ : κ => ν)).dlookup k =
      (l.dlookup k).map (f k) := by
  induction l with
  | nil => rfl
  | cons e l ih =>
    obtain ⟨a, b⟩ := e
    by_cases h : k = a
    · subst h
      simp
    · rw [List.map_cons, List.dlookup_cons_ne _ _ h, List.dlookup_cons_ne _ _ h, ih]

@[simp] theorem lookup_mapVals (f : κ → ν → ν) (m : HashMap κ ν) (k : κ) :
    (m.mapVals f).lookup k = (m.lookup k).map (f k) :=
  dlookup_map f k m.entries

/-- A key passes the test of an iteration exactly when its value does. -/
theorem mem_keysWhere {p : κ → ν → Bool} {m : HashMap κ ν} {k : κ} :
    k ∈ m.keysWhere p ↔ ∃ v, m.lookup k = some v ∧ p k v = true := by
  simp only [keysWhere, List.mem_map, List.mem_filter]
  constructor
  · rintro ⟨⟨a, b⟩, ⟨hmem, hp⟩, rfl⟩
    exact ⟨b, AList.mem_lookup_iff.mpr hmem, hp⟩
  · rintro ⟨v, hv, hp⟩
    exact ⟨⟨k, v⟩, ⟨AList.mem_lookup_iff.mp hv, hp⟩, rfl⟩

/-- The values of a map are those under its keys. -/
theorem mem_values {m : HashMap κ ν} {v : ν} :
    v ∈ m.entries.map Sigma.snd ↔ ∃ k, m.lookup k = some v := by
  rw [List.mem_map]
  constructor
  · rintro ⟨⟨k, v⟩, hmem, rfl⟩
    exact ⟨k, AList.mem_lookup_iff.mpr hmem⟩
  · rintro ⟨k, hk⟩
    exact ⟨⟨k, v⟩, AList.mem_lookup_iff.mp hk, rfl⟩

/-- A value that was found is in the map and passes the test. -/
theorem findValue_some {p : ν → Bool} {m : HashMap κ ν} {v : ν} (h : m.findValue p = some v) :
    (∃ k, m.lookup k = some v) ∧ p v = true :=
  ⟨mem_values.mp (List.mem_of_find?_eq_some h), List.find?_some h⟩

/-- No value is found exactly when none passes the test. -/
theorem findValue_eq_none {p : ν → Bool} {m : HashMap κ ν} :
    m.findValue p = none ↔ ∀ k v, m.lookup k = some v → p v = false := by
  unfold findValue
  rw [List.find?_eq_none]
  constructor
  · intro h k v hk
    exact Bool.eq_false_iff.mpr (h v (mem_values.mpr ⟨k, hk⟩))
  · intro h v hv
    obtain ⟨k, hk⟩ := mem_values.mp hv
    exact Bool.eq_false_iff.mp (h k v hk)

/-- Lookup in a map with one key erased. -/
theorem lookup_erase_if (k a : κ) (m : HashMap κ ν) :
    (AList.erase a m).lookup k = if k = a then none else m.lookup k := by
  split_ifs with h
  · rw [h, AList.lookup_erase]
  · exact AList.lookup_erase_ne h

/-- Lookup in a map with one key inserted. -/
theorem lookup_insert_if (k a : κ) (v : ν) (m : HashMap κ ν) :
    (AList.insert a v m).lookup k = if k = a then some v else m.lookup k := by
  split_ifs with h
  · rw [h, AList.lookup_insert]
  · exact AList.lookup_insert_ne h

/-- Lookup after erasing a list of keys. -/
theorem lookup_eraseAll (ks : List κ) (m : HashMap κ ν) (k : κ) :
    (m.eraseAll ks).lookup k = if k ∈ ks then none else m.lookup k := by
  induction ks generalizing m with
  | nil => simp [eraseAll]
  | cons a ks ih =>
    have hstep : m.eraseAll (a :: ks) = eraseAll ks (AList.erase a m) := rfl
    rw [hstep, ih, lookup_erase_if]
    by_cases hk : k ∈ ks
    · simp [hk]
    · simp [hk]

/-- Lookup after inserting values with different keys. -/
theorem lookup_fill {key : ν → κ} {vs : List ν} (hnodup : (vs.map key).Nodup) (m : HashMap κ ν)
    (k : κ) :
    (fill key m vs).lookup k = (vs.find? fun v => decide (key v = k)).or (m.lookup k) := by
  induction vs generalizing m with
  | nil => rfl
  | cons v vs ih =>
    rw [List.map_cons, List.nodup_cons] at hnodup
    have hstep : fill key m (v :: vs) = fill key (AList.insert (key v) v m) vs := rfl
    rw [hstep, ih hnodup.2, lookup_insert_if, List.find?_cons]
    by_cases hk : key v = k
    · have hnone : (vs.find? fun v => decide (key v = k)) = none := by
        refine List.find?_eq_none.mpr fun w hw hwk => hnodup.1 ?_
        rw [hk, ← of_decide_eq_true hwk]
        exact List.mem_map_of_mem hw
      simp [hk, hnone]
    · simp [hk, Ne.symm hk]

/-- **A map can be filled again from its values** when every value knows its key. -/
theorem lookup_fill_values {key : ν → κ} {m : HashMap κ ν}
    (hkey : ∀ k v, m.lookup k = some v → key v = k) (k : κ) :
    (fill key ∅ (m.entries.map Sigma.snd)).lookup k = m.lookup k := by
  have hkeys : (m.entries.map Sigma.snd).map key = m.entries.map Sigma.fst := by
    rw [List.map_map]
    exact List.map_congr_left fun e he => hkey e.1 e.2 (AList.mem_lookup_iff.mpr he)
  have hnodup : ((m.entries.map Sigma.snd).map key).Nodup := hkeys ▸ m.nodupKeys
  have hfind : m.findValue (fun v => decide (key v = k)) = m.lookup k := by
    rcases hk : m.lookup k with _ | v
    · refine findValue_eq_none.mpr fun k' v hv => decide_eq_false fun heq => ?_
      rw [← heq, hkey k' v hv, hv] at hk
      cases hk
    · rcases hfound : m.findValue (fun v => decide (key v = k)) with _ | v'
      · exact absurd (hkey k v hk) (of_decide_eq_false (findValue_eq_none.mp hfound k v hk))
      · obtain ⟨⟨k', hv'⟩, hkv⟩ := findValue_some hfound
        rw [← of_decide_eq_true hkv, hkey k' v' hv', hv'] at hk
        exact hk
  rw [lookup_fill hnodup, AList.lookup_empty, Option.or_none]
  exact hfind

end HashMap

end RemoteLink.Library
