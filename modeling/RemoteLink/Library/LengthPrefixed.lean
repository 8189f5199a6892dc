import RemoteLink.Library.Bytes

set_option autoImplicit false

/-!
# Runs of length-prefixed blocks

Bytes that are read block by block, each block behind its length in four bytes. Every byte string is
a run of whole blocks followed by a rest that starts no further one, in one way only.

## Main definitions

* `WholeBlocks` — blocks short enough for their length to be written.
* `Short` — bytes that do not begin with a whole block.

## Main results

* `exists_fields_append` — every byte string is whole blocks and a short rest.
* `fields_append_inj` — the blocks and the rest can be told from the bytes.
-/

namespace RemoteLink.Library

/-- Blocks whose length fits the word in front of them. -/
def WholeBlocks (fs : List Bytes) : Prop := ∀ f ∈ fs, f.length < u32Size

/-- Bytes that do not begin with a whole block: too few for a length, or fewer behind the length
than it says. -/
def Short (data : Bytes) : Prop :=
  data.length < 4 ∨ data.length < 4 + ofBe (data.take 4)

/-- The number in four bytes fits 32 bits. -/
theorem ofBe_four (a b c d : UInt8) : ofBe [a, b, c, d] < u32Size := by
  have ha := a.toNat_lt
  have hb := b.toNat_lt
  have hc := c.toNat_lt
  have hd := d.toNat_lt
  simp only [ofBe, List.foldl_cons, List.foldl_nil, u32Size]
  omega

/-- Four bytes are the bytes of the number they spell. -/
theorem be32_ofBe (a b c d : UInt8) : be32 (ofBe [a, b, c, d]) = [a, b, c, d] := by
  have ha := a.toNat_lt
  have hb := b.toNat_lt
  have hc := c.toNat_lt
  have hd := d.toNat_lt
  simp only [be32, ofBe, List.foldl_cons, List.foldl_nil, List.cons.injEq, and_true,
    ← UInt8.toNat_inj, UInt8.toNat_ofNat']
  omega

@[simp] theorem length_field (f : Bytes) : (field f).length = 4 + f.length := by
  simp [field, be32]
  omega

/-- The bytes in front of a block spell its length. -/
theorem ofBe_take_field {f r : Bytes} (hf : f.length < u32Size) :
    ofBe ((field f ++ r).take 4) = f.length := by
  have htake : (field f ++ r).take 4 = be32 f.length := by
    simp [field, be32]
  rw [htake, ofBe_be32 hf]

/-- Bytes that begin with a whole block are not short. -/
theorem not_short_field {f r : Bytes} (hf : f.length < u32Size) : ¬Short (field f ++ r) := by
  intro hshort
  simp only [Short, ofBe_take_field hf, List.length_append, length_field] at hshort
  omega

/-- Fewer bytes than a length takes begin no block. -/
theorem short_of_length {r : Bytes} (h : r.length < 4) : Short r := Or.inl h

/-- Bytes that are not short begin with a whole block. -/
theorem exists_field {data : Bytes} (h : ¬Short data) :
    ∃ f r, f.length < u32Size ∧ data = field f ++ r := by
  simp only [Short, not_or, Nat.not_lt] at h
  obtain ⟨hfour, hlen⟩ := h
  match data with
  | a :: b :: c :: d :: rest =>
    have hword : ofBe [a, b, c, d] ≤ rest.length := by
      simp only [List.take_succ_cons, List.take_zero, List.length_cons] at hlen
      omega
    refine ⟨rest.take (ofBe [a, b, c, d]), rest.drop (ofBe [a, b, c, d]), ?_, ?_⟩
    · rw [List.length_take, Nat.min_eq_left hword]
      exact ofBe_four a b c d
    · rw [field, List.length_take, Nat.min_eq_left hword, be32_ofBe]
      simp
  | [] | [_] | [_, _] | [_, _, _] => simp at hfour

/-- **Every byte string is whole blocks and a short rest.** -/
theorem exists_fields_append (data : Bytes) :
    ∃ fs r, WholeBlocks fs ∧ Short r ∧ data = fields fs ++ r := by
  induction hn : data.length using Nat.strongRecOn generalizing data with
  | ind n ih =>
    by_cases hshort : Short data
    · exact ⟨[], data, by simp [WholeBlocks], hshort, by simp [fields]⟩
    · obtain ⟨f, rest, hf, rfl⟩ := exists_field hshort
      have hlt : rest.length < n := by
        rw [← hn, List.length_append, length_field]
        omega
      obtain ⟨fs, r, hfs, hr, rfl⟩ := ih rest.length hlt rest rfl
      refine ⟨f :: fs, r, ?_, hr, ?_⟩
      · intro g hg
        obtain rfl | hg := List.mem_cons.mp hg
        · exact hf
        · exact hfs g hg
      · simp [fields]

/-- **The blocks and the rest can be told from the bytes.** -/
theorem fields_append_inj {fs gs : List Bytes} {r s : Bytes} (hfs : WholeBlocks fs)
    (hgs : WholeBlocks gs) (hr : Short r) (hs : Short s) (h : fields fs ++ r = fields gs ++ s) :
    fs = gs ∧ r = s := by
  induction fs generalizing gs with
  | nil =>
    obtain _ | ⟨g, gs⟩ := gs
    · exact ⟨rfl, by simpa [fields] using h⟩
    · have hbegins : r = field g ++ (fields gs ++ s) := by simpa [fields] using h
      exact absurd (hbegins ▸ hr) (not_short_field (hgs g (by simp)))
  | cons f fs ih =>
    obtain _ | ⟨g, gs⟩ := gs
    · have hbegins : s = field f ++ (fields fs ++ r) := by simpa [fields] using h.symm
      exact absurd (hbegins ▸ hs) (not_short_field (hfs f (by simp)))
    · simp only [fields, List.flatMap_cons, List.append_assoc] at h
      obtain ⟨rfl, hrest⟩ := field_append_inj (hfs f (by simp)) (hgs g (by simp)) h
      obtain ⟨rfl, rfl⟩ := ih (fun f' h' => hfs f' (by simp [h']))
        (fun g' h' => hgs g' (by simp [h'])) hrest
      exact ⟨rfl, rfl⟩

end RemoteLink.Library
