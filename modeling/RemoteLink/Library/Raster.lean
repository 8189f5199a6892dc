import Mathlib.Algebra.Order.Ring.Nat
import Mathlib.Data.List.Nodup
import Mathlib.Data.List.Perm.Basic

set_option autoImplicit false

/-!
# Rasters

Rectangles of points read row by row, and how an interval is cut into cells whose edges are floors
of equal steps.

## Main definitions

* `raster` — the points of a rectangle, row by row.
* `cellStart` — where a cell of an interval begins.
* `cellOf` — the cell that a position is in.

## Main results

* `raster_map_index` — the points of a raster are numbered from zero by their row and column.
* `cellStart_lt`, `mem_cell_iff` — cells are not empty, and every position is in exactly one.
* `flatMap_cells_perm` — the rectangles of cells have every point exactly once.
-/

namespace RemoteLink.Library

/-! ## Points -/

/-- The points with a column from `x0` and below `x1`, and a row from `y0` and below `y1`, row by
row. -/
def raster (x0 x1 y0 y1 : ℕ) : List (ℕ × ℕ) :=
  (List.range' y0 (y1 - y0)).flatMap fun y => (List.range' x0 (x1 - x0)).map fun x => (x, y)

variable {x0 x1 y0 y1 : ℕ}

theorem mem_raster {p : ℕ × ℕ} :
    p ∈ raster x0 x1 y0 y1 ↔ (x0 ≤ p.1 ∧ p.1 < x1) ∧ y0 ≤ p.2 ∧ p.2 < y1 := by
  obtain ⟨x, y⟩ := p
  simp only [raster, List.mem_flatMap, List.mem_map, List.mem_range'_1, Prod.mk.injEq]
  constructor
  · rintro ⟨b, hb, a, ha, rfl, rfl⟩
    omega
  · intro h
    exact ⟨y, by omega, x, by omega, rfl, rfl⟩

theorem nodup_raster : (raster x0 x1 y0 y1).Nodup := by
  unfold raster
  rw [List.nodup_flatMap]
  constructor
  · intro y _
    exact (List.nodup_range' _).map fun a b h => congrArg Prod.fst h
  · refine List.Pairwise.imp ?_ (List.nodup_range' _)
    intro y y' hne p hp hp'
    obtain ⟨x, -, rfl⟩ := List.mem_map.mp hp
    obtain ⟨x', -, heq⟩ := List.mem_map.mp hp'
    exact hne (congrArg Prod.snd heq).symm

theorem length_raster : (raster x0 x1 y0 y1).length = (x1 - x0) * (y1 - y0) := by
  simp [raster, Nat.mul_comm]

/-- **A raster from the origin is numbered row by row.** -/
theorem raster_map_index (w h : ℕ) :
    (raster 0 w 0 h).map (fun p => p.2 * w + p.1) = List.range (h * w) := by
  induction h with
  | zero => simp [raster]
  | succ h ih =>
    have hrow : (List.range' 0 w).map (fun x => h * w + x) = List.range' (h * w) w := by
      rw [List.map_add_range']
      simp
    have hsplit : raster 0 w 0 (h + 1) =
        raster 0 w 0 h ++ (List.range' 0 w).map fun x => (x, h) := by
      unfold raster
      rw [Nat.sub_zero, Nat.sub_zero, Nat.sub_zero, List.range'_concat, List.flatMap_append]
      simp
    rw [hsplit, List.map_append, ih, List.map_map]
    have hlast : (List.range' 0 w).map ((fun p : ℕ × ℕ => p.2 * w + p.1) ∘ fun x => (x, h)) =
        List.range' (h * w) w := hrow
    rw [hlast, Nat.succ_mul, List.range_eq_range', List.range_eq_range', ← List.range'_append]
    simp

/-- The number of a point is how many points are before it. -/
theorem index_of_raster_eq {w h : ℕ} {before after : List (ℕ × ℕ)} {p : ℕ × ℕ}
    (heq : raster 0 w 0 h = before ++ p :: after) : p.2 * w + p.1 = before.length := by
  have hindex := congrArg (fun l => l[before.length]?) (raster_map_index w h)
  have hlt : before.length < h * w := by
    have hlength : (raster 0 w 0 h).length = h * w := by
      rw [length_raster, Nat.sub_zero, Nat.sub_zero, Nat.mul_comm]
    rw [heq, List.length_append, List.length_cons] at hlength
    omega
  rw [heq] at hindex
  simpa [List.getElem?_range hlt] using hindex

/-! ## Cells -/

/-- Where cell `i` of `m` begins in an interval of the length `n`. -/
def cellStart (n m i : ℕ) : ℕ := i * n / m

/-- The cell of a position. -/
def cellOf (n m j : ℕ) : ℕ := ((j + 1) * m - 1) / n

section

variable {n m i j : ℕ}

@[simp] theorem cellStart_zero : cellStart n m 0 = 0 := by
  simp [cellStart]

theorem cellStart_self (hm : 0 < m) : cellStart n m m = n := Nat.mul_div_cancel_left n hm

theorem cellStart_mono {k : ℕ} (h : i ≤ k) : cellStart n m i ≤ cellStart n m k :=
  Nat.div_le_div_right (Nat.mul_le_mul_right n h)

/-- **Cells are not empty**, as long as there are no more of them than positions. -/
theorem cellStart_lt (hm : 0 < m) (hmn : m ≤ n) : cellStart n m i < cellStart n m (i + 1) := by
  unfold cellStart
  calc i * n / m
    _ < i * n / m + 1 := Nat.lt_succ_self _
    _ = (i * n + m) / m := (Nat.add_div_right _ hm).symm
    _ ≤ (i + 1) * n / m := by
      rw [Nat.succ_mul]
      exact Nat.div_le_div_right (Nat.add_le_add_left hmn _)

/-- A cell begins at or before a position exactly if the position's cell is not before it. -/
theorem cellStart_le_iff (hm : 0 < m) (hn : 0 < n) : cellStart n m i ≤ j ↔ i ≤ cellOf n m j := by
  have hpos : 0 < (j + 1) * m := Nat.mul_pos (Nat.succ_pos j) hm
  unfold cellStart cellOf
  rw [← Nat.lt_succ_iff, Nat.div_lt_iff_lt_mul hm, Nat.le_div_iff_mul_le hn, Nat.succ_eq_add_one]
  omega

/-- **Every position is in exactly one cell.** -/
theorem mem_cell_iff (hm : 0 < m) (hn : 0 < n) :
    cellStart n m i ≤ j ∧ j < cellStart n m (i + 1) ↔ i = cellOf n m j := by
  rw [← Nat.not_le, cellStart_le_iff hm hn, cellStart_le_iff hm hn]
  omega

theorem cellOf_lt (hm : 0 < m) (hn : 0 < n) (hj : j < n) : cellOf n m j < m := by
  rw [← Nat.not_le, ← cellStart_le_iff hm hn, cellStart_self hm]
  omega

end

/-- The points of the rectangle that two cells span. -/
def cellPoints (w h m k : ℕ) (cell : ℕ × ℕ) : List (ℕ × ℕ) :=
  raster (cellStart w m cell.1) (cellStart w m (cell.1 + 1)) (cellStart h k cell.2)
    (cellStart h k (cell.2 + 1))

section

variable {w h m k : ℕ}

theorem mem_cellPoints (hm : 0 < m) (hw : 0 < w) (hk : 0 < k) (hh : 0 < h) {p cell : ℕ × ℕ} :
    p ∈ cellPoints w h m k cell ↔ cell = (cellOf w m p.1, cellOf h k p.2) := by
  unfold cellPoints
  rw [mem_raster, mem_cell_iff hm hw, mem_cell_iff hk hh, Prod.ext_iff]

theorem cellPoints_ne_nil (hm : 0 < m) (hmw : m ≤ w) (hk : 0 < k) (hkh : k ≤ h) (cell : ℕ × ℕ) :
    cellPoints w h m k cell ≠ [] := by
  have hmem : (cellStart w m cell.1, cellStart h k cell.2) ∈ cellPoints w h m k cell :=
    mem_raster.mpr ⟨⟨le_rfl, cellStart_lt hm hmw⟩, le_rfl, cellStart_lt hk hkh⟩
  exact List.ne_nil_of_mem hmem

/-- Different rectangles have no point in common. -/
theorem cellPoints_disjoint (hm : 0 < m) (hw : 0 < w) (hk : 0 < k) (hh : 0 < h)
    {cell other : ℕ × ℕ} (hne : cell ≠ other) :
    List.Disjoint (cellPoints w h m k cell) (cellPoints w h m k other) := by
  intro p hp hp'
  rw [mem_cellPoints hm hw hk hh] at hp hp'
  exact hne (hp.trans hp'.symm)

/-- **The rectangles of all cells have every point exactly once.** -/
theorem flatMap_cells_perm (hm : 0 < m) (hw : 0 < w) (hk : 0 < k) (hh : 0 < h) :
    ((raster 0 m 0 k).flatMap (cellPoints w h m k)).Perm (raster 0 w 0 h) := by
  refine (List.perm_ext_iff_of_nodup ?_ nodup_raster).mpr ?_
  · rw [List.nodup_flatMap]
    refine ⟨fun cell _ => nodup_raster, ?_⟩
    refine nodup_raster.imp ?_
    intro cell other hne
    exact cellPoints_disjoint hm hw hk hh hne
  · intro p
    simp only [List.mem_flatMap, mem_cellPoints hm hw hk hh]
    rw [mem_raster]
    constructor
    · rintro ⟨cell, hcell, rfl⟩
      rw [mem_raster] at hcell
      have hx := (cellStart_le_iff hm hw).mpr (Nat.le_refl (cellOf w m p.1))
      have hx' := (mem_cell_iff hm hw (j := p.1)).mpr rfl
      have hy' := (mem_cell_iff hk hh (j := p.2)).mpr rfl
      have hw' := @cellStart_mono w m _ m (Nat.succ_le_of_lt hcell.1.2)
      have hh' := @cellStart_mono h k _ k (Nat.succ_le_of_lt hcell.2.2)
      rw [cellStart_self hm] at hw'
      rw [cellStart_self hk] at hh'
      exact ⟨⟨Nat.zero_le _, hx'.2.trans_le hw'⟩, Nat.zero_le _, hy'.2.trans_le hh'⟩
    · rintro ⟨⟨-, hx⟩, -, hy⟩
      exact ⟨_, mem_raster.mpr ⟨⟨Nat.zero_le _, cellOf_lt hm hw hx⟩, Nat.zero_le _,
        cellOf_lt hk hh hy⟩, rfl⟩

end

end RemoteLink.Library
