import StEcu.Fuel.Calculator

/-!
# Interpolation in the tables of the engine

The ignition table (`src/ignition.rs`) and the cam target table (`src/vvt.rs`) each have an axis
search and an interpolation of their own, beside those of the fuel calculation. All three tables
interpolate alike.

## Main definitions

* `IgnitionTable`, `Ignition.axisIndex`, `Ignition.bilinear`: the ignition table.
* `VvtTargetTable`, `Vvt.interpIdx`: the cam target table.
* `Interpolates`: what it means to interpolate in a table.

## Main results

* `Ignition.axisIndex_eq`, `Vvt.interpIdx_eq`: the three searches find the same.
* `interpolates_tableAt`: a table that is read at the position that the search finds interpolates.
* `tables_interpolate`: all three tables do.
-/

namespace StEcu

/-! ### The ignition table -/

namespace Ignition

/-- The loop over the intervals of an axis. -/
def axisSearch (axis : List ℚ) (value : ℚ) : List ℕ → Option (ℕ × ℕ × ℚ)
  | [] => some (axis.length - 1, axis.length - 1, 0)
  | i :: is => do
    let lower ← axis[i]?
    let upper ← axis[i + 1]?
    if lower ≤ value ∧ value < upper then
      let frac ← checkedDiv (value - lower) (upper - lower)
      return (i, i + 1, frac)
    else axisSearch axis value is

/-- The interval of an axis around a value, with the position in it. -/
def axisIndex (axis : List ℚ) (value : ℚ) : Option (ℕ × ℕ × ℚ) := do
  let n := axis.length
  let first ← axis[0]?
  if value ≤ first then return (0, 0, 0)
  else
    let last ← axis[n - 1]?
    if last ≤ value then return (n - 1, n - 1, 0)
    else axisSearch axis value (List.range (n - 1))

/-- The value between four cells of a table. -/
def bilinear (ri ri1 : ℕ) (rf : ℚ) (li li1 : ℕ) (lf : ℚ) (cells : Vector (Vector ℚ 48) 48) :
    Option ℚ := do
  let c00 ← cellAt cells ri li
  let c10 ← cellAt cells ri1 li
  let c01 ← cellAt cells ri li1
  let c11 ← cellAt cells ri1 li1
  return c00 * (1 - rf) * (1 - lf) + c10 * rf * (1 - lf) + c01 * (1 - rf) * lf + c11 * rf * lf

variable {axis : List ℚ} {value : ℚ}

theorem axisSearch_eq (is : List ℕ) :
    axisSearch axis value is = StEcu.axisSearch axis value is := by
  induction is with
  | nil => rfl
  | cons i is ih => simp only [axisSearch, StEcu.axisSearch, ih]

/-- The search is that of the fuel calculation. -/
theorem axisIndex_eq : axisIndex axis value = StEcu.axisIndex axis value := by
  simp only [axisIndex, StEcu.axisIndex, axisSearch_eq]

theorem bilinear_eq {ri ri1 li li1 : ℕ} {rf lf : ℚ} {cells : Vector (Vector ℚ 48) 48} :
    bilinear ri ri1 rf li li1 lf cells = StEcu.bilinear ri ri1 rf li li1 lf cells := by
  simp only [bilinear, StEcu.bilinear, bilinear4, Rat.cast_id]

end Ignition

/-- The advance over the engine speed and the load. -/
structure IgnitionTable where
  cells : Vector (Vector ℚ 48) 48
  rpmAxis : Vector ℚ 48
  loadAxis : Vector ℚ 48
  deriving DecidableEq, Repr

namespace IgnitionTable

/-- The axes are those of the default table of volumetric efficiencies. -/
def default : IgnitionTable where
  cells := .ofFn fun r => .ofFn fun l =>
    let rpmNorm : ℚ := (r : ℕ) / 47
    let loadNorm : ℚ := (l : ℕ) / 47
    min (max (15 + 20 * (1 - loadNorm) * (1 - (rpmNorm - 4 / 10) ^ 2 * (25 / 10))) 5) 40
  rpmAxis := VeTable.default.rpmAxis
  loadAxis := VeTable.default.loadAxis

/-- The advance at a point. -/
def interpolate (table : IgnitionTable) (rpm loadKpa : ℚ) : Option ℚ := do
  let (ri, ri1, rf) ← Ignition.axisIndex table.rpmAxis.toList rpm
  let (li, li1, lf) ← Ignition.axisIndex table.loadAxis.toList loadKpa
  Ignition.bilinear ri ri1 rf li li1 lf table.cells

end IgnitionTable

/-! ### The cam target table -/

namespace Vvt

/-- The loop over the intervals of an axis. -/
def interpSearch (axis : List ℚ) (v : ℚ) : List ℕ → Option (ℕ × ℕ × ℚ)
  | [] => some (axis.length - 1, axis.length - 1, 0)
  | i :: is => do
    let lower ← axis[i]?
    let upper ← axis[i + 1]?
    if lower ≤ v ∧ v < upper then return (i, i + 1, ← checkedDiv (v - lower) (upper - lower))
    else interpSearch axis v is

/-- The interval of an axis around a value, with the position in it. -/
def interpIdx (axis : List ℚ) (v : ℚ) : Option (ℕ × ℕ × ℚ) := do
  let n := axis.length
  if v ≤ (← axis[0]?) then return (0, 0, 0)
  else if (← axis[n - 1]?) ≤ v then return (n - 1, n - 1, 0)
  else interpSearch axis v (List.range (n - 1))

variable {axis : List ℚ} {v : ℚ}

theorem interpSearch_eq (is : List ℕ) : interpSearch axis v is = axisSearch axis v is := by
  induction is with
  | nil => rfl
  | cons i is ih => simp only [interpSearch, axisSearch, ih]

/-- The search is that of the fuel calculation. -/
theorem interpIdx_eq : interpIdx axis v = axisIndex axis v := by
  simp only [interpIdx, axisIndex, interpSearch_eq]

end Vvt

/-- The target of a cam over the engine speed and the load. -/
structure VvtTargetTable where
  cells : Vector (Vector ℚ 8) 8
  rpmAxis : Vector ℚ 8
  loadAxis : Vector ℚ 8
  deriving DecidableEq, Repr

namespace VvtTargetTable

/-- The shipped targets. -/
def default : VvtTargetTable where
  cells :=
    #v[#v[0, 5, 10, 15, 15, 12, 8, 5],
      #v[0, 8, 15, 20, 22, 18, 12, 8],
      #v[5, 12, 20, 25, 28, 24, 18, 12],
      #v[5, 15, 22, 28, 32, 28, 22, 15],
      #v[5, 15, 25, 30, 35, 30, 25, 18],
      #v[5, 12, 22, 28, 32, 28, 22, 15],
      #v[0, 8, 18, 24, 28, 24, 18, 12],
      #v[0, 5, 12, 18, 22, 18, 12, 8]]
  rpmAxis := #v[1000, 2000, 3000, 4000, 5000, 6000, 7000, 7500]
  loadAxis := #v[20, 40, 60, 80, 100, 120, 150, 200]

/-- The target at a point. -/
def interpolate (table : VvtTargetTable) (rpm loadKpa : ℚ) : Option ℚ := do
  let ri ← Vvt.interpIdx table.rpmAxis.toList rpm
  let li ← Vvt.interpIdx table.loadAxis.toList loadKpa
  let c00 ← cellAt table.cells ri.1 li.1
  let c10 ← cellAt table.cells ri.2.1 li.1
  let c01 ← cellAt table.cells ri.1 li.2.1
  let c11 ← cellAt table.cells ri.2.1 li.2.1
  return c00 * (1 - ri.2.2) * (1 - li.2.2) + c10 * ri.2.2 * (1 - li.2.2) +
    c01 * (1 - ri.2.2) * li.2.2 + c11 * ri.2.2 * li.2.2

end VvtTargetTable

/-! ### Interpolation -/

section Interpolation

variable {m n : ℕ}

/-- A table that is read at the position that the search finds. -/
def tableAt (cells : Vector (Vector ℚ n) m) (rpmAxis : Vector ℚ m) (loadAxis : Vector ℚ n)
    (rpm load : ℚ) : Option ℚ := do
  let (ri, ri1, rf) ← axisIndex rpmAxis.toList rpm
  let (li, li1, lf) ← axisIndex loadAxis.toList load
  bilinear ri ri1 rf li li1 lf cells

/-- From one row to a later one, no column goes against an order. -/
def ColumnsFollow (r : ℚ → ℚ → Prop) (cells : Vector (Vector ℚ n) m) : Prop :=
  ∀ i i' j c c', i ≤ i' → cellAt cells i j = some c → cellAt cells i' j = some c' → r c c'

/-- What it means to interpolate in a table: there is always a result, and it is between the four
cells around the position; on increasing axes it is the cell at each node, and it rises or falls
with the engine speed wherever all columns do. -/
structure Interpolates (cells : Vector (Vector ℚ n) m) (rpmAxis : Vector ℚ m)
    (loadAxis : Vector ℚ n) (f : ℚ → ℚ → Option ℚ) : Prop where
  between : ∀ rpm load, ∃ ri ri1 rf li li1 lf c00 c10 c01 c11 v,
    axisIndex rpmAxis.toList rpm = some (ri, ri1, rf) ∧
    axisIndex loadAxis.toList load = some (li, li1, lf) ∧
    cellAt cells ri li = some c00 ∧ cellAt cells ri1 li = some c10 ∧
    cellAt cells ri li1 = some c01 ∧ cellAt cells ri1 li1 = some c11 ∧ f rpm load = some v ∧
    min (min c00 c10) (min c01 c11) ≤ v ∧ v ≤ max (max c00 c10) (max c01 c11)
  node : rpmAxis.toList.Pairwise (· < ·) → loadAxis.toList.Pairwise (· < ·) →
    ∀ i j rpm load, rpmAxis[i]? = some rpm → loadAxis[j]? = some load →
      f rpm load = cellAt cells i j
  rises : rpmAxis.toList.Pairwise (· < ·) → ColumnsFollow (· ≤ ·) cells →
    ∀ rpm rpm' load v v', rpm ≤ rpm' → f rpm load = some v → f rpm' load = some v' → v ≤ v'
  falls : rpmAxis.toList.Pairwise (· < ·) → ColumnsFollow (· ≥ ·) cells →
    ∀ rpm rpm' load v v', rpm ≤ rpm' → f rpm load = some v → f rpm' load = some v' → v' ≤ v

/-- A column of a table. -/
def column (cells : Vector (Vector ℚ n) m) (j i : ℕ) : ℚ := (cellAt cells i j).getD 0

theorem cellAt_eq_column (cells : Vector (Vector ℚ n) m) {i j : ℕ} (hi : i < m) (hj : j < n) :
    cellAt cells i j = some (column cells j i) := by
  obtain ⟨c, hc⟩ := exists_cellAt cells hi hj
  rw [column, hc, Option.getD_some]

theorem monotoneOn_column {cells : Vector (Vector ℚ n) m} (h : ColumnsFollow (· ≤ ·) cells) {j : ℕ}
    (hj : j < n) : MonotoneOn (column cells j) (Set.Iio m) := fun i hi i' hi' hle =>
  h i i' j _ _ hle (cellAt_eq_column cells hi hj) (cellAt_eq_column cells hi' hj)

theorem antitoneOn_column {cells : Vector (Vector ℚ n) m} (h : ColumnsFollow (· ≥ ·) cells) {j : ℕ}
    (hj : j < n) : AntitoneOn (column cells j) (Set.Iio m) := fun i hi i' hi' hle =>
  h i i' j _ _ hle (cellAt_eq_column cells hi hj) (cellAt_eq_column cells hi' hj)

/-- The breakpoints of an axis. -/
def breakpoints (axis : Vector ℚ m) (i : ℕ) : ℚ := axis.toList.getD i 0

theorem breakpoints_eq {axis : Vector ℚ m} {i : ℕ} {v : ℚ} (h : axis[i]? = some v) :
    i < m ∧ breakpoints axis i = v := by
  obtain ⟨hi, rfl⟩ := Vector.getElem?_eq_some_iff.mp h
  refine ⟨hi, ?_⟩
  rw [breakpoints, List.getD_eq_getElem _ _ (by rwa [Vector.length_toList])]
  exact Vector.getElem_toList _

theorem strictMonoOn_breakpoints {axis : Vector ℚ m} (h : axis.toList.Pairwise (· < ·)) :
    StrictMonoOn (breakpoints axis) (Set.Iio m) := by
  have hmono := strictMonoOn_getD h
  rwa [Vector.length_toList] at hmono

variable {cells : Vector (Vector ℚ (n + 1)) (m + 1)} {rpmAxis : Vector ℚ (m + 1)}
  {loadAxis : Vector ℚ (n + 1)}

theorem exists_located (axis : Vector ℚ (m + 1)) (value : ℚ) : ∃ i j frac,
    axisIndex axis.toList value = some (i, j, frac) ∧
      Located (m + 1) (breakpoints axis) value i j frac := by
  have hpos : 0 < axis.toList.length := by
    rw [Vector.length_toList]
    exact m.succ_pos
  have h := axisIndex_located hpos value
  rwa [Vector.length_toList] at h

/-- The interpolated value, as the mean of two means of columns. -/
theorem tableAt_eq {rpm load : ℚ} {ri ri1 li li1 : ℕ} {rf lf : ℚ}
    (hrpm : axisIndex rpmAxis.toList rpm = some (ri, ri1, rf))
    (hload : axisIndex loadAxis.toList load = some (li, li1, lf))
    (hri : ri < m + 1 ∧ ri1 < m + 1) (hli : li < n + 1 ∧ li1 < n + 1) :
    tableAt cells rpmAxis loadAxis rpm load =
      some (lerp (lerp (column cells li ri) (column cells li ri1) rf)
        (lerp (column cells li1 ri) (column cells li1 ri1) rf) lf) := by
  rw [tableAt, hrpm, hload]
  simp only [Option.bind_eq_bind, Option.bind_some, bilinear, cellAt_eq_column cells hri.1 hli.1,
    cellAt_eq_column cells hri.2 hli.1, cellAt_eq_column cells hri.1 hli.2,
    cellAt_eq_column cells hri.2 hli.2, bilinear4_eq]
  rfl

/-- At one load, two engine speeds compare as all columns do. -/
theorem le_of_tableAt {rpm rpm' load v v' : ℚ}
    (hv : tableAt cells rpmAxis loadAxis rpm load = some v)
    (hv' : tableAt cells rpmAxis loadAxis rpm' load = some v')
    (hcolumn : ∀ {ri ri1 rf ri' ri1' rf' j},
      Located (m + 1) (breakpoints rpmAxis) rpm ri ri1 rf →
      Located (m + 1) (breakpoints rpmAxis) rpm' ri' ri1' rf' → j < n + 1 →
        lerp (column cells j ri) (column cells j ri1) rf ≤
          lerp (column cells j ri') (column cells j ri1') rf') : v ≤ v' := by
  obtain ⟨ri, ri1, rf, hrpm, hrpmAt⟩ := exists_located rpmAxis rpm
  obtain ⟨ri', ri1', rf', hrpm', hrpmAt'⟩ := exists_located rpmAxis rpm'
  obtain ⟨li, li1, lf, hload, hloadAt⟩ := exists_located loadAxis load
  obtain ⟨hli, hlf⟩ := hloadAt.mem n.succ_pos
  rw [tableAt_eq hrpm hload (hrpmAt.mem m.succ_pos).1 hli] at hv
  rw [tableAt_eq hrpm' hload (hrpmAt'.mem m.succ_pos).1 hli] at hv'
  obtain rfl := Option.some.inj hv
  obtain rfl := Option.some.inj hv'
  exact lerp_le_lerp (hcolumn hrpmAt hrpmAt' hli.1) (hcolumn hrpmAt hrpmAt' hli.2) hlf

/-- **A table that is read at the position that the search finds** interpolates. -/
theorem interpolates_tableAt (cells : Vector (Vector ℚ (n + 1)) (m + 1))
    (rpmAxis : Vector ℚ (m + 1)) (loadAxis : Vector ℚ (n + 1)) :
    Interpolates cells rpmAxis loadAxis (tableAt cells rpmAxis loadAxis) where
  between rpm load := by
    obtain ⟨ri, ri1, rf, hrpm, hrpmAt⟩ := exists_located rpmAxis rpm
    obtain ⟨li, li1, lf, hload, hloadAt⟩ := exists_located loadAxis load
    obtain ⟨hri, hrf⟩ := hrpmAt.mem m.succ_pos
    obtain ⟨hli, hlf⟩ := hloadAt.mem n.succ_pos
    have hcell {i j : ℕ} (hi : i < m + 1) (hj : j < n + 1) := cellAt_eq_column cells hi hj
    refine ⟨ri, ri1, rf, li, li1, lf, _, _, _, _, _, hrpm, hload, hcell hri.1 hli.1,
      hcell hri.2 hli.1, hcell hri.1 hli.2, hcell hri.2 hli.2, tableAt_eq hrpm hload hri hli, ?_⟩
    have hmem (a b t : ℚ) (ht : 0 ≤ t ∧ t ≤ 1) : min a b ≤ lerp a b t ∧ lerp a b t ≤ max a b :=
      lerp_mem ⟨min_le_left a b, le_max_left a b⟩ ⟨min_le_right a b, le_max_right a b⟩ ht
    obtain ⟨hlow, hhigh⟩ := hmem (lerp (column cells li ri) (column cells li ri1) rf)
      (lerp (column cells li1 ri) (column cells li1 ri1) rf) lf hlf
    have hfirst := hmem (column cells li ri) (column cells li ri1) rf hrf
    have hsecond := hmem (column cells li1 ri) (column cells li1 ri1) rf hrf
    exact ⟨(min_le_min hfirst.1 hsecond.1).trans hlow, hhigh.trans (max_le_max hfirst.2 hsecond.2)⟩
  node hrpmSorted hloadSorted i j rpm load hrpmi hloadj := by
    obtain ⟨hi, rfl⟩ := breakpoints_eq hrpmi
    obtain ⟨hj, rfl⟩ := breakpoints_eq hloadj
    obtain ⟨ri, ri1, rf, hrpm, hrpmAt⟩ := exists_located rpmAxis (breakpoints rpmAxis i)
    obtain ⟨li, li1, lf, hload, hloadAt⟩ := exists_located loadAxis (breakpoints loadAxis j)
    rw [tableAt_eq hrpm hload (hrpmAt.mem m.succ_pos).1 (hloadAt.mem n.succ_pos).1,
      hrpmAt.lerp_node (strictMonoOn_breakpoints hrpmSorted) hi,
      hrpmAt.lerp_node (strictMonoOn_breakpoints hrpmSorted) hi, cellAt_eq_column cells hi hj]
    obtain ⟨rfl, rfl⟩ := hloadAt.at_node (strictMonoOn_breakpoints hloadSorted) hj
    rw [lerp_zero]
  rises hsorted hcolumns rpm rpm' load v v' hle hv hv' :=
    le_of_tableAt hv hv' fun h h' hj => h.lerp_mono (strictMonoOn_breakpoints hsorted)
      (monotoneOn_column hcolumns hj) m.succ_pos h' hle
  falls hsorted hcolumns rpm rpm' load v v' hle hv hv' :=
    le_of_tableAt hv' hv fun h' h hj => h.lerp_anti (strictMonoOn_breakpoints hsorted)
      (antitoneOn_column hcolumns hj) m.succ_pos h' hle

end Interpolation

/-! ### The three tables -/

theorem VeTable.interpolate_eq (table : VeTable) :
    table.interpolate = tableAt table.cells table.rpmAxis table.loadAxis := rfl

theorem IgnitionTable.interpolate_eq (table : IgnitionTable) :
    table.interpolate = tableAt table.cells table.rpmAxis table.loadAxis := by
  funext rpm loadKpa
  simp only [interpolate, tableAt, Ignition.axisIndex_eq, Ignition.bilinear_eq]

theorem VvtTargetTable.interpolate_eq (table : VvtTargetTable) :
    table.interpolate = tableAt table.cells table.rpmAxis table.loadAxis := by
  funext rpm loadKpa
  simp only [interpolate, tableAt, Vvt.interpIdx_eq, bilinear, bilinear4, Rat.cast_id]

/-- **The three tables interpolate**, and their searches find the same on any axis. -/
theorem tables_interpolate (ve : VeTable) (ignition : IgnitionTable) (vvt : VvtTargetTable) :
    (Interpolates ve.cells ve.rpmAxis ve.loadAxis ve.interpolate ∧
      Interpolates ignition.cells ignition.rpmAxis ignition.loadAxis ignition.interpolate ∧
      Interpolates vvt.cells vvt.rpmAxis vvt.loadAxis vvt.interpolate) ∧
      ∀ axis value, Ignition.axisIndex axis value = axisIndex axis value ∧
        Vvt.interpIdx axis value = axisIndex axis value := by
  refine ⟨⟨?_, ?_, ?_⟩, fun axis value => ⟨Ignition.axisIndex_eq, Vvt.interpIdx_eq⟩⟩
  · exact ve.interpolate_eq ▸ interpolates_tableAt ve.cells ve.rpmAxis ve.loadAxis
  · exact ignition.interpolate_eq ▸
      interpolates_tableAt ignition.cells ignition.rpmAxis ignition.loadAxis
  · exact vvt.interpolate_eq ▸ interpolates_tableAt vvt.cells vvt.rpmAxis vvt.loadAxis

end StEcu
