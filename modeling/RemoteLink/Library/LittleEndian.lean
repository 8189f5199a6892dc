import RemoteLink.Library.Bytes

set_option autoImplicit false

/-!
# Little-endian numbers in byte strings

Numbers of any width, least significant byte first, and reading them at an offset.

## Main definitions

* `le`, `ofLe` — the bytes of a number, and the number of some bytes.
* `bytesAt`, `writeAt` — the bytes at an offset, and writing some there.

## Main results

* `ofLe_le` — bytes of a number spell it, as far as they reach.
* `le_ofLe` — the number of some bytes has these bytes.
* `bytesAt_append_right` — reading in the second part of a byte string.
* `getD_writeAt` — what is written is read back, and the rest is as it was.
-/

namespace RemoteLink.Library

/-- The last `k` bytes of a number, least significant first. -/
def le (k n : ℕ) : Bytes := (be k n).reverse

/-- The number that bytes spell, least significant first. -/
def ofLe (bytes : Bytes) : ℕ := ofBe bytes.reverse

/-- The bytes at an offset, as far as there are any. -/
def bytesAt (data : Bytes) (offset width : ℕ) : Bytes := (data.drop offset).take width

/-- Write bytes at an offset. -/
def writeAt (data : Bytes) (offset : ℕ) (bytes : Bytes) : Bytes :=
  data.take offset ++ (bytes ++ data.drop (offset + bytes.length))

theorem le_zero (n : ℕ) : le 0 n = [] := rfl

theorem le_succ (k n : ℕ) : le (k + 1) n = UInt8.ofNat n :: le k (n / 256) := by
  simp [le, be]

@[simp] theorem length_le (k n : ℕ) : (le k n).length = k := by
  simp [le]

/-- **Bytes of a number spell it**, as far as they reach. -/
theorem ofLe_le (k n : ℕ) : ofLe (le k n) = n % byteValues k := by
  rw [ofLe, le, List.reverse_reverse, ofBe_be]

theorem ofLe_nil : ofLe [] = 0 := rfl

theorem ofLe_cons (b : UInt8) (bytes : Bytes) : ofLe (b :: bytes) = b.toNat + 256 * ofLe bytes := by
  simp only [ofLe, ofBe, List.reverse_cons, List.foldl_append, List.foldl_cons, List.foldl_nil]
  omega

theorem ofLe_lt (bytes : Bytes) : ofLe bytes < byteValues bytes.length := by
  induction bytes with
  | nil => exact Nat.one_pos
  | cons b bytes ih =>
    have hb := b.toNat_lt
    rw [ofLe_cons, List.length_cons, byteValues]
    omega

/-- **The number of some bytes has these bytes.** -/
theorem le_ofLe (bytes : Bytes) : le bytes.length (ofLe bytes) = bytes := by
  induction bytes with
  | nil => rfl
  | cons b bytes ih =>
    have hb := b.toNat_lt
    have hdiv : (b.toNat + 256 * ofLe bytes) / 256 = ofLe bytes := by omega
    have hlow : UInt8.ofNat (b.toNat + 256 * ofLe bytes) = b := by
      rw [← UInt8.toNat_inj, UInt8.toNat_ofNat']
      omega
    rw [List.length_cons, ofLe_cons, le_succ, hdiv, ih, hlow]

section

variable {data pre mid post : Bytes} {offset width : ℕ}

@[simp] theorem length_bytesAt :
    (bytesAt data offset width).length = min width (data.length - offset) := by
  simp [bytesAt]

theorem getD_bytesAt {i : ℕ} (h : i < width) :
    (bytesAt data offset width).getD i 0 = data.getD (offset + i) 0 := by
  simp [bytesAt, List.getD, h]

/-- The bytes at an offset, and what follows them. -/
theorem bytesAt_append_drop (data : Bytes) (offset width : ℕ) :
    bytesAt data offset width ++ data.drop (offset + width) = data.drop offset := by
  unfold bytesAt
  rw [← List.drop_drop, List.take_append_drop]

/-- The bytes at an offset are those of the number they spell. -/
theorem le_ofLe_bytesAt (h : offset + width ≤ data.length) :
    le width (ofLe (bytesAt data offset width)) = bytesAt data offset width := by
  have hlength : (bytesAt data offset width).length = width := by
    rw [length_bytesAt]
    omega
  nth_rewrite 1 [← hlength]
  exact le_ofLe _

/-- The number of some bytes at an offset has no more values than they have. -/
theorem ofLe_bytesAt_lt (h : offset + width ≤ data.length) :
    ofLe (bytesAt data offset width) < byteValues width := by
  have hlt := ofLe_lt (bytesAt data offset width)
  rwa [length_bytesAt, show min width (data.length - offset) = width by omega] at hlt

/-- Reading behind the first part. -/
theorem bytesAt_append_right (h : pre.length ≤ offset) :
    bytesAt (pre ++ post) offset width = bytesAt post (offset - pre.length) width := by
  unfold bytesAt
  rw [List.drop_append, List.drop_of_length_le h, List.nil_append]

/-- Reading the whole of a part. -/
theorem bytesAt_middle (hoffset : pre.length = offset) (hwidth : mid.length = width) :
    bytesAt (pre ++ (mid ++ post)) offset width = mid := by
  rw [bytesAt_append_right (Nat.le_of_eq hoffset), hoffset, Nat.sub_self]
  unfold bytesAt
  rw [List.drop_zero, List.take_append_of_le_length (Nat.le_of_eq hwidth.symm),
    List.take_of_length_le (Nat.le_of_eq hwidth)]

theorem length_writeAt (h : offset + mid.length ≤ data.length) :
    (writeAt data offset mid).length = data.length := by
  unfold writeAt
  rw [List.length_append, List.length_append, List.length_take, List.length_drop]
  omega

/-- **What is written is read back**, and the rest is as it was. -/
theorem getD_writeAt (h : offset + mid.length ≤ data.length) (i : ℕ) :
    (writeAt data offset mid).getD i 0 =
      if offset ≤ i ∧ i < offset + mid.length then mid.getD (i - offset) 0
      else data.getD i 0 := by
  have htake : (data.take offset).length = offset := by
    rw [List.length_take]
    omega
  unfold writeAt
  simp only [List.getD]
  by_cases hbefore : i < offset
  · rw [List.getElem?_append_left (by omega), if_neg (by omega), List.getElem?_take,
      if_pos hbefore]
  rw [List.getElem?_append_right (by omega), htake]
  by_cases hwithin : i < offset + mid.length
  · rw [List.getElem?_append_left (by omega), if_pos (by omega)]
  · rw [List.getElem?_append_right (by omega), if_neg (by omega), List.getElem?_drop,
      show offset + mid.length + (i - offset - mid.length) = i by omega]

end

end RemoteLink.Library
