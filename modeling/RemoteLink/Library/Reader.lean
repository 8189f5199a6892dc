import RemoteLink.Library.Bytes

set_option autoImplicit false

/-!
# Byte streams read in parts

A stream hands over its bytes in parts that nobody chooses: a read returns the next part, or as
much of it as is asked for, and nothing at the end. Reading an exact number of bytes hides the
parts.

## Main definitions

* `Reader` — the parts that a stream will deliver; none of them is empty.
* `Reader.readExact` — read until a buffer is full or the stream ends.

## Main results

* `readExact_ok`, `readExact_short` — what is read, and what is left, depends on the bytes only.
-/

namespace RemoteLink.Library

/-- The parts that a stream delivers, one for each read; an empty one would be its end. -/
structure Reader where
  parts : List Bytes
  nonempty : ∀ p ∈ parts, p ≠ []

/-- Fill a buffer of `n` bytes by repeated reads: the bytes, unless the stream ends before, and the
parts that are left. -/
def fillFrom (n : Nat) : List Bytes → Option Bytes × List Bytes
  | [] => (if n = 0 then some [] else none, [])
  | p :: ps =>
    if n = 0 then (some [], p :: ps)
    else if p.length ≤ n then
      let (got, rest) := fillFrom (n - p.length) ps
      (got.map (p ++ ·), rest)
    else (some (p.take n), p.drop n :: ps)

/-- What is left is made of parts that are not empty. -/
theorem fillFrom_nonempty {n : Nat} {ps : List Bytes} (h : ∀ p ∈ ps, p ≠ []) :
    ∀ p ∈ (fillFrom n ps).2, p ≠ [] := by
  induction ps generalizing n with
  | nil => simp [fillFrom]
  | cons p ps ih =>
    unfold fillFrom
    split_ifs with hzero hfits
    · exact h
    · exact ih fun q hq => h q (by simp [hq])
    · intro q hq
      obtain rfl | hq := List.mem_cons.mp hq
      · intro hnil
        have hlen := congrArg List.length hnil
        simp only [List.length_drop, List.length_nil] at hlen
        omega
      · exact h q (by simp [hq])

/-- **Filling a buffer takes the first bytes**, however they are split, if there are enough. -/
theorem fillFrom_ok {n : Nat} {ps : List Bytes} (h : n ≤ ps.flatten.length) :
    (fillFrom n ps).1 = some (ps.flatten.take n) ∧
      (fillFrom n ps).2.flatten = ps.flatten.drop n := by
  induction ps generalizing n with
  | nil =>
    have hzero : n = 0 := by simpa using h
    simp [fillFrom, hzero]
  | cons p ps ih =>
    unfold fillFrom
    split_ifs with hzero hfits
    · simp [hzero]
    · have hrest : n - p.length ≤ ps.flatten.length := by
        rw [List.flatten_cons, List.length_append] at h
        omega
      obtain ⟨hgot, hleft⟩ := ih hrest
      simp only [hgot, hleft, Option.map_some, List.flatten_cons, List.take_append,
        List.drop_append, List.take_of_length_le hfits, List.drop_of_length_le hfits,
        List.nil_append, and_self]
    · have hlt : n - p.length = 0 := by omega
      simp [List.take_append, List.drop_append, hlt]

/-- If there are too few bytes, all of them are gone. -/
theorem fillFrom_short {n : Nat} {ps : List Bytes} (h : ps.flatten.length < n) :
    fillFrom n ps = (none, []) := by
  induction ps generalizing n with
  | nil =>
    have hpos : n ≠ 0 := by
      rintro rfl
      simp at h
    simp [fillFrom, hpos]
  | cons p ps ih =>
    rw [List.flatten_cons, List.length_append] at h
    have hrest : ps.flatten.length < n - p.length := by omega
    unfold fillFrom
    rw [if_neg (by omega), if_pos (by omega), ih hrest]
    rfl

namespace Reader

/-- The bytes that a stream will deliver. -/
def bytes (r : Reader) : Bytes := r.parts.flatten

/-- Read exactly `n` bytes; `none` when the stream ends before. -/
def readExact (n : Nat) (r : Reader) : Option Bytes × Reader :=
  ((fillFrom n r.parts).1, ⟨(fillFrom n r.parts).2, fillFrom_nonempty r.nonempty⟩)

section

variable {r : Reader} {n : Nat}

/-- **Enough bytes are read as they come**, whatever the parts. -/
theorem readExact_ok (h : n ≤ r.bytes.length) :
    ∃ r', r.readExact n = (some (r.bytes.take n), r') ∧ r'.bytes = r.bytes.drop n := by
  obtain ⟨hgot, hleft⟩ := fillFrom_ok h
  exact ⟨(r.readExact n).2, Prod.ext hgot rfl, hleft⟩

/-- **Too few bytes** are read without a result. -/
theorem readExact_short (h : r.bytes.length < n) :
    ∃ r', r.readExact n = (none, r') ∧ r'.bytes = [] := by
  have hshort := fillFrom_short h
  have hgot : (r.readExact n).1 = none := congrArg Prod.fst hshort
  have hleft : (r.readExact n).2.bytes = [] := congrArg (fun x => x.2.flatten) hshort
  exact ⟨(r.readExact n).2, Prod.ext hgot rfl, hleft⟩

end

end Reader

end RemoteLink.Library
