import StEcu.Fuel.Ltft
import StEcu.Fuel.WallWetting

/-!
# The fuel calculation

The pulse width of the injectors from the volumetric efficiency, with its corrections, the
short-term and the long-term trim and the fuel cut-off when the throttle is closed (`src/fuel.rs`).
A division by zero or an index out of range has no result.

## Main definitions

* `FuelConfig`, `VeTable`, `FuelState`, `FuelCalculator`.
* `FuelCalculator.calculate`.

## Main results

* `calculate_of_dfco`: a call that cuts the fuel off.
* `exists_basePulseWidthMs`, `exists_dutyPct`, `exists_wallWetting`: no part of any other call
  divides by zero.
-/

namespace StEcu

/-- The engine, its injectors, and the settings of the corrections and of the fuel cut. -/
structure FuelConfig where
  injectorFlowCcMin : ℚ := 440
  displacementCc : ℚ := 1998
  cylinders : UInt8 := 4
  injectorDeadTimeUs : ℚ := 700
  stoichAfr : ℚ := 147 / 10
  targetLambda : ℚ := 1
  closedLoopEnabled : Bool := true
  stftLimitPct : ℚ := 25
  wallWettingEnabled : Bool := true
  wallWettingTauMs : ℚ := 80
  wallWettingX : ℚ := 3 / 10
  dfcoEnabled : Bool := true
  dfcoTpsThresholdPct : ℚ := 1
  dfcoMinCltC : ℚ := 60
  dfcoMinRpm : UInt16 := 1500
  deriving DecidableEq, Repr

/-- The volumetric efficiency over the engine speed and the manifold pressure. -/
structure VeTable where
  cells : Vector (Vector ℚ 48) 48
  rpmAxis : Vector ℚ 48
  loadAxis : Vector ℚ 48
  deriving DecidableEq, Repr

namespace VeTable

/-- The shipped table, a bump over the middle speeds and the high loads. -/
def default : VeTable where
  cells := .ofFn fun r => .ofFn fun l =>
    let rpmNorm : ℚ := (r : ℕ) / 47
    let loadNorm : ℚ := (l : ℕ) / 47
    let rpmFactor := 1 - (rpmNorm - 7 / 10) ^ 2 * (1 / 2)
    let loadFactor := 1 / 2 + loadNorm * (1 / 2)
    min (max (65 + 25 * rpmFactor * loadFactor) 40) 100
  rpmAxis :=
    #v[500, 600, 700, 800, 900, 1000, 1100, 1200, 1300, 1400, 1500, 1600, 1700, 1800, 1900, 2000,
      2200, 2400, 2600, 2800, 3000, 3200, 3400, 3600, 3800, 4000, 4200, 4400, 4600, 4800, 5000,
      5200, 5400, 5600, 5800, 6000, 6200, 6400, 6600, 6800, 7000, 7200, 7400, 7600, 7800, 8000,
      8500, 9000]
  loadAxis :=
    #v[20, 25, 30, 35, 40, 45, 50, 55, 60, 65, 70, 75, 80, 85, 90, 95, 100, 105, 110, 115, 120, 125,
      130, 135, 140, 145, 150, 155, 160, 165, 170, 175, 180, 185, 190, 195, 200, 210, 220, 230, 240,
      250, 260, 270, 280, 290, 300, 310]

/-- The volumetric efficiency at a point. -/
def interpolate (table : VeTable) (rpm mapKpa : ℚ) : Option ℚ := do
  let (ri, ri1, rf) ← axisIndex table.rpmAxis.toList rpm
  let (li, li1, lf) ← axisIndex table.loadAxis.toList mapKpa
  bilinear ri ri1 rf li li1 lf table.cells

theorem exists_interpolate (table : VeTable) (rpm mapKpa : ℚ) :
    ∃ ve, table.interpolate rpm mapKpa = some ve := by
  obtain ⟨ri, ri1, rf, hrpm, hri, hri1, -⟩ := axisIndex_toList table.rpmAxis rpm
  obtain ⟨li, li1, lf, hload, hli, hli1, -⟩ := axisIndex_toList table.loadAxis mapKpa
  obtain ⟨c00, c10, c01, c11, -, -, -, -, hbilinear⟩ :=
    bilinear_eq table.cells rf lf hri hri1 hli hli1
  refine ⟨bilinear4 c00 c10 c01 c11 rf lf, ?_⟩
  rw [interpolate, hrpm, hload]
  exact hbilinear

end VeTable

/-- What a calculation found, step by step. -/
structure FuelState where
  ve : ℚ := 0
  basePwMs : ℚ := 0
  finalPwMs : ℚ := 0
  dutyPct : ℚ := 0
  stft : ℚ := 0
  ltft : ℚ := 0
  accelEnrich : ℚ := 0
  dfcoActive : Bool := false
  correctionIat : ℚ := 0
  correctionClt : ℚ := 0
  correctionBaro : ℚ := 0
  correctionFlex : ℚ := 0
  wallState : WallWettingState := {}
  deriving DecidableEq, Repr

/-- What a call of the calculation is told. -/
structure FuelInputs where
  rpm : ℚ
  mapKpa : ℚ
  baroKpa : ℚ
  cltC : ℚ
  iatC : ℚ
  flexPct : ℚ
  vbatt : ℚ
  tpsPct : ℚ
  lambdaMeasured : ℚ
  dtMs : ℚ
  deriving DecidableEq, Repr

/-! ### Corrections -/

/-- The correction for the density of the intake air. The root is a parameter. -/
def iatCorrection (sqrt : ℚ → ℚ) (iatC : ℚ) : Option ℚ := do
  let ratio ← checkedDiv (29815 / 100) (iatC + 27315 / 100)
  return min (max (sqrt ratio) (7 / 10)) (13 / 10)

/-- The enrichment for a cold engine. -/
def cltCorrection (cltC : ℚ) : ℚ :=
  if 80 ≤ cltC then 1 else 1 + max ((80 - cltC) / 120 * (4 / 10)) 0

/-- The correction for the height, at high load only. -/
def baroCorrection (baroKpa mapKpa : ℚ) : ℚ :=
  if 80 < mapKpa then baroKpa / (101325 / 1000) else 1

/-- The enrichment for ethanol in the fuel. -/
def flexCorrection (flexPct : ℚ) : ℚ := 1 + flexPct / 100 * (36 / 100)

/-- The time that an injector needs to open, which is longer at a low voltage. -/
def injectorDeadTimeMs (vbatt baseDeadUs : ℚ) : ℚ :=
  max ((baseDeadUs + (14 - vbatt) * 50) / 1000) 0

namespace FuelConfig

variable (config : FuelConfig) (inputs : FuelInputs)

/-- The fuel is cut off. -/
def Dfco : Prop :=
  config.dfcoEnabled = true ∧ inputs.tpsPct < config.dfcoTpsThresholdPct ∧
    config.dfcoMinRpm < ratToU16 inputs.rpm ∧ config.dfcoMinCltC < inputs.cltC

instance : Decidable (config.Dfco inputs) := inferInstanceAs (Decidable (_ ∧ _ ∧ _ ∧ _))

/-- The short-term trim follows the oxygen sensor. -/
def ClosedLoop : Prop :=
  config.closedLoopEnabled = true ∧ 1 / 2 < inputs.lambdaMeasured ∧ inputs.lambdaMeasured < 3 / 2

instance : Decidable (config.ClosedLoop inputs) := inferInstanceAs (Decidable (_ ∧ _ ∧ _))

/-- The time to inject what the air in the cylinder needs. -/
def basePulseWidthMs (ve : ℚ) : Option ℚ := do
  let moles ← checkedDiv (ve / 100 * inputs.mapKpa * config.displacementCc * (1 / 1000000))
    (8314 / 1000 * (inputs.iatC + 27315 / 100))
  let airChargeG := moles * (2897 / 100) * 1000
  let fuelMassG ← checkedDiv airChargeG (config.stoichAfr * config.targetLambda)
  let injectorFlowGMs := config.injectorFlowCcMin * (745 / 1000) / 60000
  checkedDiv fuelMassG (max injectorFlowGMs (1 / 1000))

/-- The short-term trim, moved by the error of the mixture within its limits. -/
def nextStft (stft : ℚ) : ℚ :=
  min (max (stft + (config.targetLambda - inputs.lambdaMeasured) * (1 / 10))
    (1 - config.stftLimitPct / 100)) (1 + config.stftLimitPct / 100)

/-- The time between two injections, or a tenth of a second where the engine does not turn. -/
def cycleMs : Option ℚ :=
  let safeRpm := max inputs.rpm 0
  let safeCylinders : ℚ := (max config.cylinders 1).toNat
  if 0 < safeRpm then checkedDiv 60000 (safeRpm * safeCylinders) else some 100

/-- The part of the cycle that the injector is open. -/
def dutyPct (finalPwMs : ℚ) : Option ℚ := do
  let cycleMs ← config.cycleMs inputs
  let safeCycleMs := if 0 < cycleMs then cycleMs else 100
  let ratio ← checkedDiv finalPwMs safeCycleMs
  checkedClamp (ratio * 100) 0 100

end FuelConfig

/-- The settings and the tables of the calculation. -/
structure FuelCalculator where
  config : FuelConfig
  veTable : VeTable
  ltftMap : LtftMap ℚ
  deriving DecidableEq, Repr

namespace FuelCalculator

/-- The calculation with its shipped tables. -/
def new (config : FuelConfig) : FuelCalculator where
  config := config
  veTable := .default
  ltftMap := .default

/-- The trims after the oxygen sensor was read; the long-term trim is learned where the short-term
one is away from one. -/
def closedLoop (calculator : FuelCalculator) (stft : ℚ) (inputs : FuelInputs) :
    Option (LtftMap ℚ × ℚ) :=
  if calculator.config.ClosedLoop inputs then do
    let stft := calculator.config.nextStft inputs stft
    if (1 / 2 ≤ stft ∧ stft ≤ 3 / 2) ∧ 5 / 100 < |stft - 1| then
      let ltftMap ← calculator.ltftMap.update inputs.rpm inputs.mapKpa stft (1 / 1000)
      return (ltftMap, stft)
    else return (calculator.ltftMap, stft)
  else some (calculator.ltftMap, stft)

/-- The pulse width with what the walls take and give, if that is switched on. -/
def wallWetting (calculator : FuelCalculator) (wallState : WallWettingState)
    (inputs : FuelInputs) (basePwMs : ℚ) : Option (WallWettingState × ℚ) :=
  let tau := wallWettingTau inputs.cltC calculator.config.wallWettingTauMs
  if calculator.config.wallWettingEnabled then
    wallState.update basePwMs tau calculator.config.wallWettingX inputs.dtMs
  else some (wallState, basePwMs)

/-- One calculation. While the fuel is cut only the flag, the pulse width and the duty change. -/
def calculate (sqrt : ℚ → ℚ) (calculator : FuelCalculator) (state : FuelState)
    (inputs : FuelInputs) : Option (FuelCalculator × FuelState) :=
  if calculator.config.Dfco inputs then
    some (calculator, { state with dfcoActive := true, finalPwMs := 0, dutyPct := 0 })
  else do
    let ve ← calculator.veTable.interpolate inputs.rpm inputs.mapKpa
    let basePwMs ← calculator.config.basePulseWidthMs inputs ve
    let correctionIat ← iatCorrection sqrt inputs.iatC
    let correctionClt := cltCorrection inputs.cltC
    let correctionBaro := baroCorrection inputs.baroKpa inputs.mapKpa
    let correctionFlex := flexCorrection inputs.flexPct
    let (ltftMap, stft) ← calculator.closedLoop state.stft inputs
    let ltft ← ltftMap.get inputs.rpm inputs.mapKpa
    let (wallState, correctedPw) ← calculator.wallWetting state.wallState inputs basePwMs
    let deadTimeMs := injectorDeadTimeMs inputs.vbatt calculator.config.injectorDeadTimeUs
    let finalPwMs := max (correctedPw * correctionIat * correctionClt * correctionBaro *
      correctionFlex * stft * ltft * (1 + state.accelEnrich) + deadTimeMs) 0
    let dutyPct ← calculator.config.dutyPct inputs finalPwMs
    return ({ calculator with ltftMap },
      { state with
        ve, basePwMs, finalPwMs, dutyPct, stft, ltft, correctionIat, correctionClt, correctionBaro,
        correctionFlex, wallState
        dfcoActive := false })

/-! ### What a call does -/

section Calculate

variable {sqrt : ℚ → ℚ} {calculator : FuelCalculator} {state : FuelState} {inputs : FuelInputs}

theorem calculate_of_dfco (h : calculator.config.Dfco inputs) :
    calculator.calculate sqrt state inputs =
      some (calculator, { state with dfcoActive := true, finalPwMs := 0, dutyPct := 0 }) :=
  if_pos h

theorem exists_iatCorrection (sqrt : ℚ → ℚ) {iatC : ℚ} (h : -(27315 / 100) < iatC) :
    ∃ correction, iatCorrection sqrt iatC = some correction := by
  rw [iatCorrection, checkedDiv_eq (by linarith)]
  exact ⟨_, rfl⟩

theorem exists_basePulseWidthMs {config : FuelConfig} (hafr : 0 < config.stoichAfr)
    (hlambda : 0 < config.targetLambda) (h : -(27315 / 100) < inputs.iatC) (ve : ℚ) :
    ∃ basePwMs, config.basePulseWidthMs inputs ve = some basePwMs := by
  have hmoles : 8314 / 1000 * (inputs.iatC + 27315 / 100) ≠ 0 := by
    have : 0 < inputs.iatC + 27315 / 100 := by linarith
    positivity
  have hmass : config.stoichAfr * config.targetLambda ≠ 0 := by positivity
  have hflow (y : ℚ) : max y (1 / 1000) ≠ 0 := (lt_max_of_lt_right (by norm_num)).ne'
  simp only [FuelConfig.basePulseWidthMs, checkedDiv_eq hmoles, checkedDiv_eq hmass,
    checkedDiv_eq (hflow _), Option.bind_eq_bind, Option.bind_some]
  exact ⟨_, rfl⟩

theorem exists_cycleMs (config : FuelConfig) (inputs : FuelInputs) :
    ∃ cycleMs, config.cycleMs inputs = some cycleMs := by
  have hcylinders : (0 : ℚ) < (max config.cylinders 1).toNat := by
    have hmax : max config.cylinders 1 = if config.cylinders ≤ 1 then 1 else config.cylinders := rfl
    rw [hmax]
    split
    · exact_mod_cast (by decide : 0 < (1 : UInt8).toNat)
    · next h =>
      have := UInt8.lt_iff_toNat_lt.mp (UInt8.not_le.mp h)
      exact_mod_cast (Nat.zero_le _).trans_lt this
  rw [FuelConfig.cycleMs]
  split
  · next hrpm =>
    rw [checkedDiv_eq (by positivity)]
    exact ⟨_, rfl⟩
  · exact ⟨_, rfl⟩

/-- The duty cycle is at most 100 %. -/
theorem exists_dutyPct (config : FuelConfig) (inputs : FuelInputs) (finalPwMs : ℚ) :
    ∃ duty, config.dutyPct inputs finalPwMs = some duty ∧ 0 ≤ duty ∧ duty ≤ 100 := by
  obtain ⟨cycleMs, hcycle⟩ := exists_cycleMs config inputs
  have hsafe : (if 0 < cycleMs then cycleMs else 100) ≠ 0 := by
    split
    · next h => exact h.ne'
    · norm_num
  simp only [FuelConfig.dutyPct, hcycle, checkedDiv_eq hsafe, Option.bind_eq_bind, Option.bind_some]
  rw [checkedClamp_eq (by norm_num)]
  exact ⟨_, rfl, clampRat_mem (by norm_num)⟩

theorem exists_wallWetting (calculator : FuelCalculator) (wallState : WallWettingState)
    (inputs : FuelInputs) (basePwMs : ℚ) : ∃ next correctedPw,
      calculator.wallWetting wallState inputs basePwMs = some (next, correctedPw) := by
  rw [wallWetting]
  split
  · exact wallState.exists_update ..
  · exact ⟨_, _, rfl⟩

end Calculate

end FuelCalculator

end StEcu
