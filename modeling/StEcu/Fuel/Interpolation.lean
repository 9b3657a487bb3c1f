import Mathlib.Data.List.GetD
import Mathlib.Tactic.Ring
import StEcu.Foundation.Checked
import StEcu.Foundation.PiecewiseLinear

/-!
# Interpolation in the tables of the fuel calculation

The search for a value between the breakpoints of an axis, and the interpolation between four cells
of a table (`src/fuel.rs`). An index outside an axis or a table, or a division by zero, has no
result.

## Main definitions

* `axisIndex`: the breakpoints around a value, and its position between them.
* `bilinear4`, `bilinear`: between four cells, and in a table.

## Main results

* `axisIndex_located`: what the search finds on any axis.
* `axisIndex_breakpoint`: at a breakpoint of a sorted axis it finds this breakpoint.
* `bilinear4_mem`: the result lies between the bounds of the four cells.
-/

namespace StEcu

/-! ### Axes -/

/-- The loop over the intervals of an axis. -/
def axisSearch (axis : List ℚ) (value : ℚ) : List ℕ → Option (ℕ × ℕ × ℚ)
  | [] => some (axis.length - 1, axis.length - 1, 0)
  | i :: is => do
    let lower ← axis[i]?
    let upper ← axis[i + 1]?
    if lower ≤ value ∧ value < upper then
      let frac ← checkedDiv (value - lower) (upper - lower)
      return (i, i + 1, frac)
    else axisSearch axis value is

/-- The surrounding breakpoints, and the fraction of the way from the one to the other. -/
def axisIndex (axis : List ℚ) (value : ℚ) : Option (ℕ × ℕ × ℚ) := do
  let n := axis.length
  let first ← axis[0]?
  if value ≤ first then return (0, 0, 0)
  else
    let last ← axis[n - 1]?
    if last ≤ value then return (n - 1, n - 1, 0)
    else axisSearch axis value (List.range (n - 1))

/-- A value lies in an interval of an axis, a fraction of the way from its lower end. -/
def Brackets (axis : List ℚ) (value : ℚ) (i : ℕ) (frac : ℚ) : Prop :=
  ∃ lower upper, axis[i]? = some lower ∧ axis[i + 1]? = some upper ∧
    lower ≤ value ∧ value < upper ∧ frac = (value - lower) / (upper - lower)

section Axis

variable {axis : List ℚ} {value frac : ℚ} {i j : ℕ}

/-- The loop stops at the first interval that the value lies in. -/
theorem axisSearch_eq {is : List ℕ} (h : ∀ i ∈ is, i + 1 < axis.length) :
    (∃ i ∈ is, ∃ frac, Brackets axis value i frac ∧
      axisSearch axis value is = some (i, i + 1, frac)) ∨
    (∀ i ∈ is, ∀ frac, ¬ Brackets axis value i frac) ∧
      axisSearch axis value is = some (axis.length - 1, axis.length - 1, 0) := by
  induction is with
  | nil => exact .inr ⟨fun i hi => (nomatch hi), rfl⟩
  | cons k is ih =>
    rw [List.forall_mem_cons] at h
    obtain ⟨lower, hlower⟩ : ∃ lower, axis[k]? = some lower :=
      ⟨_, List.getElem?_eq_getElem (by omega)⟩
    obtain ⟨upper, hupper⟩ : ∃ upper, axis[k + 1]? = some upper :=
      ⟨_, List.getElem?_eq_getElem h.1⟩
    by_cases hin : lower ≤ value ∧ value < upper
    · have hne : upper - lower ≠ 0 := by
        have : lower < upper := hin.1.trans_lt hin.2
        linarith
      refine .inl ⟨k, List.mem_cons_self, _, ⟨lower, upper, hlower, hupper, hin.1, hin.2, rfl⟩, ?_⟩
      simp [axisSearch, hlower, hupper, hin, checkedDiv_eq hne]
    · have hskip : axisSearch axis value (k :: is) = axisSearch axis value is := by
        simp [axisSearch, hlower, hupper, hin]
      rw [hskip]
      rcases ih h.2 with ⟨i, hi, frac, hbrackets, heq⟩ | ⟨hnone, heq⟩
      · exact .inl ⟨i, List.mem_cons_of_mem _ hi, frac, hbrackets, heq⟩
      · refine .inr ⟨List.forall_mem_cons.mpr ⟨fun frac hbrackets => ?_, hnone⟩, heq⟩
        obtain ⟨lower', upper', hlower', hupper', hle, hlt, -⟩ := hbrackets
        rw [hlower, Option.some.injEq] at hlower'
        rw [hupper, Option.some.injEq] at hupper'
        exact hin ⟨hlower' ▸ hle, hupper' ▸ hlt⟩

/-- **What the search finds**, on any axis: where the value lies among the breakpoints. -/
theorem axisIndex_located (hpos : 0 < axis.length) (value : ℚ) : ∃ i j frac,
    axisIndex axis value = some (i, j, frac) ∧
      Located axis.length (fun i => axis.getD i 0) value i j frac := by
  have hget {i : ℕ} (hi : i < axis.length) : axis[i]? = some (axis.getD i 0) := by
    rw [List.getElem?_eq_getElem hi, List.getD_eq_getElem _ _ hi]
  have hlast := hget (i := axis.length - 1) (by omega)
  by_cases hlow : value ≤ axis.getD 0 0
  · refine ⟨0, 0, 0, ?_, .below hlow⟩
    simp only [axisIndex, hget hpos, Option.bind_eq_bind, Option.bind_some, if_pos hlow]
    rfl
  by_cases hhigh : axis.getD (axis.length - 1) 0 ≤ value
  · refine ⟨_, _, 0, ?_, .above hhigh⟩
    simp only [axisIndex, hget hpos, hlast, Option.bind_eq_bind, Option.bind_some, if_neg hlow,
      if_pos hhigh]
    rfl
  have hsearch : axisIndex axis value = axisSearch axis value (List.range (axis.length - 1)) := by
    simp only [axisIndex, hget hpos, hlast, Option.bind_eq_bind, Option.bind_some, if_neg hlow,
      if_neg hhigh]
  have hrange : ∀ i ∈ List.range (axis.length - 1), i + 1 < axis.length := by
    intro i hi
    have := List.mem_range.mp hi
    omega
  rw [hsearch]
  rcases axisSearch_eq hrange with ⟨i, -, frac, hbrackets, heq⟩ | ⟨hnone, -⟩
  · obtain ⟨lower, upper, hlower, hupper, hle, hlt, rfl⟩ := hbrackets
    have hi : i + 1 < axis.length := (List.getElem?_eq_some_iff.mp hupper).1
    obtain rfl := Option.some.inj (hlower.symm.trans (hget (by omega)))
    obtain rfl := Option.some.inj (hupper.symm.trans (hget hi))
    exact ⟨i, i + 1, _, heq, .between i hi hle hlt⟩
  · obtain ⟨i, hi, hle, hlt⟩ := exists_bracket (fun i => axis.getD i 0) (not_le.mp hlow)
      (not_le.mp hhigh)
    exact absurd ⟨_, _, hget (by omega), hget hi, hle, hlt, rfl⟩
      (hnone i (List.mem_range.mpr (by omega)) _)

/-- The indices are in range and the fraction is between zero and one. -/
theorem axisIndex_mem (hpos : 0 < axis.length) (value : ℚ) : ∃ i j frac,
    axisIndex axis value = some (i, j, frac) ∧ i < axis.length ∧ j < axis.length ∧
      0 ≤ frac ∧ frac ≤ 1 := by
  obtain ⟨i, j, frac, heq, hlocated⟩ := axisIndex_located hpos value
  obtain ⟨⟨hi, hj⟩, hfrac⟩ := hlocated.mem hpos
  exact ⟨i, j, frac, heq, hi, hj, hfrac⟩

theorem axisIndex_toList {n : ℕ} (axis : Vector ℚ (n + 1)) (value : ℚ) : ∃ i j frac,
    axisIndex axis.toList value = some (i, j, frac) ∧ i < n + 1 ∧ j < n + 1 ∧
      0 ≤ frac ∧ frac ≤ 1 := by
  have h := axisIndex_mem (by rw [axis.length_toList]; exact n.succ_pos) value
  rwa [axis.length_toList] at h

theorem strictMonoOn_getD (hsorted : axis.Pairwise (· < ·)) :
    StrictMonoOn (fun i => axis.getD i 0) (Set.Iio axis.length) := by
  intro i hi j hj hlt
  simp only [List.getD_eq_getElem _ _ hi, List.getD_eq_getElem _ _ hj]
  exact List.pairwise_iff_getElem.mp hsorted i j hi hj hlt

/-- At a breakpoint of a sorted axis the search finds this breakpoint. -/
theorem axisIndex_breakpoint (hsorted : axis.Pairwise (· < ·)) (hi : i < axis.length) :
    ∃ j, j < axis.length ∧ axisIndex axis axis[i] = some (i, j, 0) := by
  have hpos : 0 < axis.length := Nat.zero_lt_of_lt hi
  obtain ⟨k, j, frac, heq, hlocated⟩ := axisIndex_located hpos axis[i]
  rw [← List.getD_eq_getElem _ 0 hi] at hlocated
  obtain ⟨rfl, rfl⟩ := hlocated.at_node (strictMonoOn_getD hsorted) hi
  exact ⟨j, (hlocated.mem hpos).1.2, heq⟩

end Axis

/-! ### Tables -/

section Cells

variable {α : Type} {m n : ℕ} {cells : Vector (Vector α n) m} {i j k l : ℕ}

/-- The cell of a table in a row and a column. -/
def cellAt (cells : Vector (Vector α n) m) (i j : ℕ) : Option α := do
  let row ← cells[i]?
  row[j]?

/-- A table with one cell replaced. -/
def setCell (cells : Vector (Vector α n) m) (i j : ℕ) (a : α) : Vector (Vector α n) m :=
  match cells[i]? with
  | some row => cells.setIfInBounds i (row.setIfInBounds j a)
  | none => cells

theorem exists_cellAt (cells : Vector (Vector α n) m) (hi : i < m) (hj : j < n) :
    ∃ a, cellAt cells i j = some a :=
  ⟨cells[i][j], by simp [cellAt, hi, hj]⟩

theorem lt_of_cellAt {a : α} (h : cellAt cells i j = some a) : i < m ∧ j < n := by
  obtain ⟨row, hrow, hcell⟩ := Option.bind_eq_some_iff.mp h
  exact ⟨(Vector.getElem?_eq_some_iff.mp hrow).1, (Vector.getElem?_eq_some_iff.mp hcell).1⟩

theorem eq_of_cellAt_replicate {a b : α}
    (h : cellAt (Vector.replicate m (Vector.replicate n a)) i j = some b) : b = a := by
  obtain ⟨row, hrow, hcell⟩ := Option.bind_eq_some_iff.mp h
  rw [Vector.getElem?_replicate] at hrow
  split at hrow
  · obtain rfl := Option.some.inj hrow
    rw [Vector.getElem?_replicate] at hcell
    split at hcell
    · exact (Option.some.inj hcell).symm
    · cases hcell
  · cases hrow

theorem cellAt_setCell (cells : Vector (Vector α n) m) (a : α) (hi : i < m) (hj : j < n) :
    cellAt (setCell cells i j a) k l = if k = i ∧ l = j then some a else cellAt cells k l := by
  have hrow : cells[i]? = some cells[i] := Vector.getElem?_eq_getElem hi
  rw [setCell, hrow, cellAt, cellAt, Vector.getElem?_setIfInBounds]
  by_cases hk : i = k
  · subst hk
    rw [if_pos rfl, if_pos hi, hrow, Option.bind_eq_bind, Option.bind_some, Option.bind_some,
      Vector.getElem?_setIfInBounds]
    by_cases hl : j = l
    · rw [if_pos hl, if_pos hj, if_pos ⟨rfl, hl.symm⟩]
    · rw [if_neg hl, if_neg fun h => hl h.2.symm]
  · rw [if_neg hk, if_neg fun h => hk h.1.symm]

theorem cellAt_setCell_of_ne (cells : Vector (Vector α n) m) (a : α) (hi : i < m) (hj : j < n)
    (h : ¬ (k = i ∧ l = j)) : cellAt (setCell cells i j a) k l = cellAt cells k l := by
  rw [cellAt_setCell cells a hi hj, if_neg h]

/-- What holds of all cells still does after one is replaced by a value that it holds of. -/
theorem forall_cellAt_setCell {p : α → Prop} {a : α}
    (h : ∀ k l c, cellAt cells k l = some c → p c) (ha : p a) (hi : i < m) (hj : j < n) :
    ∀ k l c, cellAt (setCell cells i j a) k l = some c → p c := by
  intro k l c hc
  rw [cellAt_setCell _ _ hi hj] at hc
  split at hc
  · exact Option.some.inj hc ▸ ha
  · exact h k l c hc

end Cells

section Table

variable {α : Type} [Add α] [Mul α] [RatCast α]

/-- The value between four cells, by the position in the row and in the column. -/
def bilinear4 (c00 c10 c01 c11 : α) (rf lf : ℚ) : α :=
  c00 * ↑(1 - rf) * ↑(1 - lf) + c10 * ↑rf * ↑(1 - lf) + c01 * ↑(1 - rf) * ↑lf +
    c11 * ↑rf * ↑lf

variable {m n : ℕ}

/-- `bilinear` and `bilinear_slice`: the two are the same but for the size of the table. -/
def bilinear (ri ri1 : ℕ) (rf : ℚ) (li li1 : ℕ) (lf : ℚ) (cells : Vector (Vector α n) m) :
    Option α := do
  let c00 ← cellAt cells ri li
  let c10 ← cellAt cells ri1 li
  let c01 ← cellAt cells ri li1
  let c11 ← cellAt cells ri1 li1
  return bilinear4 c00 c10 c01 c11 rf lf

/-- The four cells that are read. -/
theorem bilinear_eq (cells : Vector (Vector α n) m) {ri ri1 li li1 : ℕ} (rf lf : ℚ) (hri : ri < m)
    (hri1 : ri1 < m) (hli : li < n) (hli1 : li1 < n) : ∃ c00 c10 c01 c11,
      cellAt cells ri li = some c00 ∧ cellAt cells ri1 li = some c10 ∧
      cellAt cells ri li1 = some c01 ∧ cellAt cells ri1 li1 = some c11 ∧
      bilinear ri ri1 rf li li1 lf cells = some (bilinear4 c00 c10 c01 c11 rf lf) := by
  obtain ⟨c00, h00⟩ := exists_cellAt cells hri hli
  obtain ⟨c10, h10⟩ := exists_cellAt cells hri1 hli
  obtain ⟨c01, h01⟩ := exists_cellAt cells hri hli1
  obtain ⟨c11, h11⟩ := exists_cellAt cells hri1 hli1
  refine ⟨c00, c10, c01, c11, h00, h10, h01, h11, ?_⟩
  rw [bilinear, h00, h10, h01, h11]
  rfl

end Table

section Bilinear

variable {c00 c10 c01 c11 rf lf lo hi : ℚ}

/-- The mean of two means. -/
theorem bilinear4_eq : bilinear4 c00 c10 c01 c11 rf lf =
    lerp (lerp c00 c10 rf) (lerp c01 c11 rf) lf := by
  simp only [bilinear4, lerp, Rat.cast_id]
  ring

/-- **The interpolated value lies between the bounds of the four cells.** -/
theorem bilinear4_mem (h00 : lo ≤ c00 ∧ c00 ≤ hi) (h10 : lo ≤ c10 ∧ c10 ≤ hi)
    (h01 : lo ≤ c01 ∧ c01 ≤ hi) (h11 : lo ≤ c11 ∧ c11 ≤ hi) (hrf : 0 ≤ rf ∧ rf ≤ 1)
    (hlf : 0 ≤ lf ∧ lf ≤ 1) :
    lo ≤ bilinear4 c00 c10 c01 c11 rf lf ∧ bilinear4 c00 c10 c01 c11 rf lf ≤ hi := by
  rw [bilinear4_eq]
  exact lerp_mem (lerp_mem h00 h10 hrf) (lerp_mem h01 h11 hrf) hlf

end Bilinear

end StEcu
