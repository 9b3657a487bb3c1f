import StEcu.Foundation.TransitionSystem
import StEcu.Fuel.Interpolation
import StEcu.Knock.LearningMap

/-!
# The knock detector

What the detector makes of a spectrum (`FftKnockDetector` in `src/knock.rs`): it compares the energy
in a window with the noise that it learned for the cell of the engine speed and the load, retards
the ignition of the cylinder, and corrects what it learned. The sum of two bins wraps around at
`2 ^ w`; the mean of an empty window has no result.

## Main definitions

* `KnockConfig`, `FftKnockDetector`, `FftKnockDetector.evaluate`, `FftKnockDetector.totalRetard`.
* `KnockConfig.windowEnergy`: the energy in the window.
* `KnockBounded`: the bounds of all that a detector keeps.
* `KnockFrame`: what a call leaves as it was.

## Main results

* `knock_step`: what one call preserves.
* `knock_bounds`: the bounds over a run.
-/

namespace StEcu

/-- The frequency band of the detector, its threshold, and the steps of retard and recovery. -/
structure KnockConfig where
  centerFreqHz : ℚ := 6800
  bandwidthHz : ℚ := 500
  thresholdDb : ℚ := 3
  retardStepDeg : ℚ := 2
  retardMaxDeg : ℚ := 10
  recoveryDegPerCycle : ℚ := 1 / 4
  damEnabled : Bool := true
  spectralLearnEnabled : Bool := true
  noiseLearnRate : ℚ := 1 / 100
  deriving DecidableEq, Repr

namespace KnockLearningMap

/-- A map that has learned nothing. -/
def default : KnockLearningMap ℚ where
  noiseFloor := .replicate 16 (.replicate 16 0)
  damMap := .replicate 16 (.replicate 16 1)
  fkc := .replicate 8 0

/-- The row of an engine speed, cut off at the last one. -/
def rpmBin (w : ℕ) (rpm : ℚ) : ℕ := min (ratToUsize w (rpm / 8000 * 16)) 15

/-- The column of a load, cut off at the last one. -/
def loadBin (w : ℕ) (loadKpa : ℚ) : ℕ := min (ratToUsize w (loadKpa / 200 * 16)) 15

end KnockLearningMap

open KnockLearningMap (rpmBin loadBin)

namespace KnockConfig

variable (config : KnockConfig) (w : ℕ)

/-- The width of a bin of the spectrum, of 512 samples at 44.1 kHz. -/
def binHz : ℚ := 44100 / 512

/-- The bin of the centre frequency. -/
def centerBin : ℕ := ratToUsize w (config.centerFreqHz / binHz)

/-- The bins on either side of it, at least one. -/
def bwBins : ℕ := max (ratToUsize w (config.bandwidthHz / binHz)) 1

/-- The first bin of the window. -/
def low : ℕ := min (config.centerBin w - config.bwBins w) 255

/-- The last bin of the window; the sum of the two may wrap around. -/
def high : ℕ := min ((config.centerBin w + config.bwBins w) % 2 ^ w) 255

/-- The mean of the magnitudes in the window; zero where the bins are out of order. -/
def windowEnergy (magBuffer : Vector ℚ 256) : Option ℚ :=
  match checkedSlice magBuffer.toList (config.low w) (config.high w + 1) with
  | some window => checkedDiv window.sum window.length
  | none => some 0

/-- The retard of a cylinder after a cycle. -/
def nextRetard (knocked : Bool) (retard : ℚ) : ℚ :=
  if knocked then min (retard + config.retardStepDeg) config.retardMaxDeg
  else max (retard - config.recoveryDegPerCycle) 0

/-- The correction of a cylinder after a cycle, between -10 and 0. -/
def nextFkc (knocked : Bool) (fkc : ℚ) : ℚ :=
  if knocked then max (fkc - config.retardStepDeg) (-10) else min (fkc + 1 / 100) 0

/-- The noise floor after a quiet cycle, a moving average of the energy. -/
def nextNoise (floor energy : ℚ) : ℚ :=
  floor * (1 - config.noiseLearnRate) + energy * config.noiseLearnRate

end KnockConfig

/-- The settings, the learned map, the spectrum, and the retard of each cylinder. -/
structure FftKnockDetector where
  config : KnockConfig := {}
  learningMap : KnockLearningMap ℚ := .default
  magBuffer : Vector ℚ 256 := .replicate 256 0
  retard : Vector ℚ 8 := .replicate 8 0
  knockEvent : Vector Bool 8 := .replicate 8 false
  level : UInt8 := 0
  deriving DecidableEq, Repr

namespace FftKnockDetector

/-- A detector without a spectrum. -/
def new (config : KnockConfig) (learningMap : KnockLearningMap ℚ) : FftKnockDetector :=
  { config, learningMap }

variable (w : ℕ) (detector : FftKnockDetector)

/-- A call for a cylinder that there is. -/
def evaluateChannel (channel : Fin 8) (rpm loadKpa : ℚ) : Option (FftKnockDetector × Bool) := do
  let config := detector.config
  let map := detector.learningMap
  let energy ← config.windowEnergy w detector.magBuffer
  let r := rpmBin w rpm
  let l := loadBin w loadKpa
  let floor ← cellAt map.noiseFloor r l
  let dam ← cellAt map.damMap r l
  let threshold := floor + config.thresholdDb * (1 / 100)
  let knocked := decide (threshold < energy)
  let share ← checkedDiv energy (threshold + 1 / 1000)
  let learningMap : KnockLearningMap ℚ := {
    noiseFloor :=
      if knocked = false ∧ config.spectralLearnEnabled = true then
        setCell map.noiseFloor r l (config.nextNoise floor energy)
      else map.noiseFloor
    damMap :=
      if knocked = true ∧ config.damEnabled = true then
        setCell map.damMap r l (max (dam - 1 / 100) 0)
      else map.damMap
    fkc := map.fkc.set channel (config.nextFkc knocked (map.fkc.get channel)) }
  return ({ detector with
    learningMap
    retard := detector.retard.set channel (config.nextRetard knocked (detector.retard.get channel))
    knockEvent := detector.knockEvent.set channel knocked
    level := ratToU8 (min (share * 50) 100) }, knocked)

/-- One cycle of a cylinder. For a channel that there is not, only the level is cleared. -/
def evaluate (channel : ℕ) (rpm loadKpa : ℚ) : Option (FftKnockDetector × Bool) :=
  if h : channel < 8 then detector.evaluateChannel w ⟨channel, h⟩ rpm loadKpa
  else some ({ detector with level := 0 }, false)

/-- The base retard and the fine correction of a cylinder. -/
def totalRetard (channel : ℕ) : Option ℚ := do
  let fkc := |← detector.learningMap.fkc[channel]?|
  return (← detector.retard[channel]?) + fkc

end FftKnockDetector

/-! ### Bounds -/

/-- The configurations that the bounds are about. -/
structure KnockConfig.Admissible (config : KnockConfig) : Prop where
  step : 0 ≤ config.retardStepDeg
  retardMax : 0 ≤ config.retardMaxDeg
  recovery : 0 ≤ config.recoveryDegPerCycle
  threshold : 0 ≤ config.thresholdDb
  learnRate : 0 ≤ config.noiseLearnRate ∧ config.noiseLearnRate ≤ 1

/-- The magnitudes are not negative. -/
def NonnegSpectrum (magBuffer : Vector ℚ 256) : Prop := ∀ x ∈ magBuffer.toList, 0 ≤ x

section Config

variable {config : KnockConfig} {w : ℕ}

theorem windowEnergy_nonneg {magBuffer : Vector ℚ 256} (h : NonnegSpectrum magBuffer) {energy : ℚ}
    (henergy : config.windowEnergy w magBuffer = some energy) : 0 ≤ energy := by
  rw [KnockConfig.windowEnergy] at henergy
  split at henergy
  · next window hwindow =>
    rw [checkedSlice] at hwindow
    split at hwindow
    · obtain rfl := Option.some.inj hwindow
      rw [checkedDiv] at henergy
      split at henergy
      · cases henergy
      · obtain rfl := Option.some.inj henergy
        refine div_nonneg (List.sum_nonneg fun x hx => h x ?_) (Nat.cast_nonneg _)
        exact List.mem_of_mem_take (List.mem_of_mem_drop hx)
    · cases hwindow
  · obtain rfl := Option.some.inj henergy
    exact le_rfl

/-- The bins are in order unless their sum wraps around. -/
theorem low_le_high (h : config.centerBin w + config.bwBins w < 2 ^ w) :
    config.low w ≤ config.high w := by
  rw [KnockConfig.low, KnockConfig.high, Nat.mod_eq_of_lt h]
  omega

/-- Only an empty window has no mean. -/
theorem exists_windowEnergy (h : config.low w ≠ config.high w + 1) (magBuffer : Vector ℚ 256) :
    ∃ energy, config.windowEnergy w magBuffer = some energy := by
  have hhigh : config.high w + 1 ≤ magBuffer.toList.length := by
    rw [Vector.length_toList]
    exact Nat.succ_le_succ (min_le_right _ _)
  rw [KnockConfig.windowEnergy]
  by_cases hlow : config.low w ≤ config.high w + 1
  · have hslice : checkedSlice magBuffer.toList (config.low w) (config.high w + 1) = some _ :=
      if_pos ⟨hlow, hhigh⟩
    simp only [hslice, length_slice hhigh]
    exact ⟨_, checkedDiv_eq (Nat.cast_ne_zero.mpr (by omega))⟩
  · have hslice : checkedSlice magBuffer.toList (config.low w) (config.high w + 1) = none :=
      if_neg fun hle => hlow hle.1
    rw [hslice]
    exact ⟨0, rfl⟩

theorem nextRetard_mem (hconfig : config.Admissible) (knocked : Bool) {retard : ℚ}
    (h : 0 ≤ retard ∧ retard ≤ config.retardMaxDeg) :
    0 ≤ config.nextRetard knocked retard ∧
      config.nextRetard knocked retard ≤ config.retardMaxDeg := by
  have hstep := hconfig.step
  have hrecovery := hconfig.recovery
  rw [KnockConfig.nextRetard]
  cases knocked with
  | true => exact ⟨le_min (by linarith) hconfig.retardMax, min_le_right _ _⟩
  | false => exact ⟨le_max_right _ _, max_le (by linarith) hconfig.retardMax⟩

theorem nextFkc_mem (hconfig : config.Admissible) (knocked : Bool) {fkc : ℚ}
    (h : -10 ≤ fkc ∧ fkc ≤ 0) :
    -10 ≤ config.nextFkc knocked fkc ∧ config.nextFkc knocked fkc ≤ 0 := by
  have hstep := hconfig.step
  rw [KnockConfig.nextFkc]
  cases knocked with
  | true => exact ⟨le_max_right _ _, max_le (by linarith) (by norm_num)⟩
  | false => exact ⟨le_min (by linarith) (by norm_num), min_le_right _ _⟩

/-- The learned noise stays between zero and the energies that it was learned from. -/
theorem nextNoise_mem (hconfig : config.Admissible) {floor energy largest : ℚ}
    (hfloor : 0 ≤ floor ∧ floor ≤ largest) (henergy : 0 ≤ energy ∧ energy ≤ largest) :
    0 ≤ config.nextNoise floor energy ∧ config.nextNoise floor energy ≤ largest := by
  have hmean := lerp_mem hfloor henergy hconfig.learnRate
  rwa [lerp, mul_comm, mul_comm config.noiseLearnRate] at hmean

end Config

/-! ### Calls -/

/-- A call of the detector, with the spectrum that was measured before it. -/
structure KnockCall where
  magBuffer : Vector ℚ 256
  channel : ℕ
  rpm : ℚ
  loadKpa : ℚ

/-- The detector that a call finds. -/
def KnockCall.found (call : KnockCall) (detector : FftKnockDetector) : FftKnockDetector :=
  { detector with magBuffer := call.magBuffer }

/-- The cycles, each with its own spectrum and the verdict on it. -/
def knock (w : ℕ) : TransitionSystem FftKnockDetector KnockCall Bool where
  Step t := (t.event.found t.src).evaluate w t.event.channel t.event.rpm t.event.loadKpa =
    some (t.dst, t.output)

/-- The step of a cycle. -/
abbrev KnockStep := Transition FftKnockDetector KnockCall Bool

/-- The energy that a call for a cylinder sees in the window. -/
def energySeen (w : ℕ) (config : KnockConfig) (t : KnockStep) : Option ℚ :=
  if t.event.channel < 8 then config.windowEnergy w t.event.magBuffer else none

/-- The largest energy that the calls of a run saw, and zero if none did. -/
def largestEnergy (w : ℕ) (config : KnockConfig) (tr : List KnockStep) : ℚ :=
  (tr.filterMap (energySeen w config)).foldl max 0

/-- The bounds of what a detector keeps. -/
structure KnockBounded (config : KnockConfig) (largest : ℚ) (detector : FftKnockDetector) :
    Prop where
  retard : ∀ i, 0 ≤ detector.retard.get i ∧ detector.retard.get i ≤ config.retardMaxDeg
  fkc : ∀ i, -10 ≤ detector.learningMap.fkc.get i ∧ detector.learningMap.fkc.get i ≤ 0
  dam : ∀ i j c, cellAt detector.learningMap.damMap i j = some c → 0 ≤ c ∧ c ≤ 1
  noise : ∀ i j c, cellAt detector.learningMap.noiseFloor i j = some c → 0 ≤ c ∧ c ≤ largest

/-- What a call leaves as it was: the other cylinders and the other cells; and all but the level, if
there is no such cylinder. -/
structure KnockFrame (w : ℕ) (t : KnockStep) : Prop where
  config : t.dst.config = t.src.config
  magBuffer : t.dst.magBuffer = t.event.magBuffer
  channel : ∀ i : Fin 8, (i : ℕ) ≠ t.event.channel →
    t.dst.retard.get i = t.src.retard.get i ∧
      t.dst.learningMap.fkc.get i = t.src.learningMap.fkc.get i ∧
      t.dst.knockEvent.get i = t.src.knockEvent.get i
  cell : ∀ i j, ¬ (i = rpmBin w t.event.rpm ∧ j = loadBin w t.event.loadKpa) →
    cellAt t.dst.learningMap.noiseFloor i j = cellAt t.src.learningMap.noiseFloor i j ∧
      cellAt t.dst.learningMap.damMap i j = cellAt t.src.learningMap.damMap i j
  absent : 8 ≤ t.event.channel → t.dst = { t.event.found t.src with level := 0 }

section Calls

variable {w : ℕ} {config : KnockConfig} {detector : FftKnockDetector}

theorem rpmBin_lt (rpm : ℚ) : rpmBin w rpm < 16 := Nat.lt_succ_of_le (min_le_right _ _)

theorem loadBin_lt (loadKpa : ℚ) : loadBin w loadKpa < 16 := Nat.lt_succ_of_le (min_le_right _ _)

/-- The cell of an engine speed and a load is there, in both grids. -/
theorem exists_addressed (w : ℕ) (map : KnockLearningMap ℚ) (rpm loadKpa : ℚ) :
    (∃ floor, cellAt map.noiseFloor (rpmBin w rpm) (loadBin w loadKpa) = some floor) ∧
      ∃ dam, cellAt map.damMap (rpmBin w rpm) (loadBin w loadKpa) = some dam :=
  ⟨exists_cellAt _ (rpmBin_lt rpm) (loadBin_lt loadKpa),
    exists_cellAt _ (rpmBin_lt rpm) (loadBin_lt loadKpa)⟩

/-- What a call for a cylinder leaves behind. -/
theorem evaluateChannel_spec {channel : Fin 8} {rpm loadKpa : ℚ} {next : FftKnockDetector}
    {knocked : Bool} (h : detector.evaluateChannel w channel rpm loadKpa = some (next, knocked)) :
    ∃ energy floor dam, detector.config.windowEnergy w detector.magBuffer = some energy ∧
      cellAt detector.learningMap.noiseFloor (rpmBin w rpm) (loadBin w loadKpa) = some floor ∧
      cellAt detector.learningMap.damMap (rpmBin w rpm) (loadBin w loadKpa) = some dam ∧
      next.config = detector.config ∧ next.magBuffer = detector.magBuffer ∧
      next.learningMap.noiseFloor =
        (if knocked = false ∧ detector.config.spectralLearnEnabled = true then
          setCell detector.learningMap.noiseFloor (rpmBin w rpm) (loadBin w loadKpa)
            (detector.config.nextNoise floor energy)
        else detector.learningMap.noiseFloor) ∧
      next.learningMap.damMap =
        (if knocked = true ∧ detector.config.damEnabled = true then
          setCell detector.learningMap.damMap (rpmBin w rpm) (loadBin w loadKpa)
            (max (dam - 1 / 100) 0)
        else detector.learningMap.damMap) ∧
      next.learningMap.fkc = detector.learningMap.fkc.set channel
        (detector.config.nextFkc knocked (detector.learningMap.fkc.get channel)) ∧
      next.retard = detector.retard.set channel
        (detector.config.nextRetard knocked (detector.retard.get channel)) ∧
      next.knockEvent = detector.knockEvent.set channel knocked := by
  obtain ⟨⟨floor, hfloor⟩, dam, hdam⟩ := exists_addressed w detector.learningMap rpm loadKpa
  simp only [FftKnockDetector.evaluateChannel, Option.bind_eq_bind, Option.bind_eq_some_iff,
    hfloor, hdam, Option.bind_some] at h
  obtain ⟨energy, henergy, share, -, hnext⟩ := h
  obtain ⟨rfl, rfl⟩ := Prod.mk.inj (Option.some.inj hnext)
  exact ⟨energy, floor, dam, henergy, hfloor, hdam, rfl, rfl, rfl, rfl, rfl, rfl, rfl⟩

theorem get_set {α : Type} {n : ℕ} (xs : Vector α n) (i j : Fin n) (a : α) :
    (xs.set i a).get j = if (j : ℕ) = i then a else xs.get j := by
  simp only [eq_comm (a := (j : ℕ))]
  exact Vector.getElem_set i.isLt j.isLt

theorem forall_get_set {n : ℕ} {xs : Vector ℚ n} {i : Fin n} {a lo hi : ℚ}
    (h : ∀ j, lo ≤ xs.get j ∧ xs.get j ≤ hi) (ha : lo ≤ a ∧ a ≤ hi) (j : Fin n) :
    lo ≤ (xs.set i a).get j ∧ (xs.set i a).get j ≤ hi := by
  rw [get_set]
  split
  · exact ha
  · exact h j

/-- A call for a cylinder keeps the bounds, with the energy that it sees. -/
theorem KnockBounded.evaluateChannel {channel : Fin 8} {rpm loadKpa largest energy : ℚ}
    {next : FftKnockDetector} {knocked : Bool} (h : KnockBounded detector.config largest detector)
    (hconfig : detector.config.Admissible) (hspectrum : NonnegSpectrum detector.magBuffer)
    (henergy : detector.config.windowEnergy w detector.magBuffer = some energy)
    (hcall : detector.evaluateChannel w channel rpm loadKpa = some (next, knocked)) :
    KnockBounded detector.config (max largest energy) next := by
  obtain ⟨seen, floor, dam, hseen, hfloor, hcell, -, -, hnoise, hdam, hfkc, hretard, -⟩ :=
    evaluateChannel_spec hcall
  obtain rfl := Option.some.inj (henergy.symm.trans hseen)
  have hnonneg := windowEnergy_nonneg hspectrum henergy
  have hlearned : ∀ i j c, cellAt detector.learningMap.noiseFloor i j = some c →
      0 ≤ c ∧ c ≤ max largest energy := fun i j c hc =>
    ⟨(h.noise i j c hc).1, (h.noise i j c hc).2.trans (le_max_left _ _)⟩
  refine ⟨?_, ?_, ?_, ?_⟩
  · rw [hretard]
    exact forall_get_set h.retard (nextRetard_mem hconfig knocked (h.retard channel))
  · rw [hfkc]
    exact forall_get_set h.fkc (nextFkc_mem hconfig knocked (h.fkc channel))
  · rw [hdam]
    split
    · have hle := (h.dam _ _ dam hcell).2
      exact forall_cellAt_setCell h.dam ⟨le_max_right _ _, max_le (by linarith) zero_le_one⟩
        (rpmBin_lt rpm) (loadBin_lt loadKpa)
    · exact h.dam
  · rw [hnoise]
    split
    · have hnext := nextNoise_mem hconfig (hlearned _ _ floor hfloor)
        ⟨hnonneg, le_max_right largest energy⟩
      exact forall_cellAt_setCell hlearned hnext (rpmBin_lt rpm) (loadBin_lt loadKpa)
    · exact hlearned

/-- A call changes nothing but its cylinder and its cell. -/
theorem knock_frame {t : KnockStep} (ht : (knock w).Step t) : KnockFrame w t := by
  obtain ⟨src, call, knocked, dst⟩ := t
  have hcall : (call.found src).evaluate w call.channel call.rpm call.loadKpa =
    some (dst, knocked) := ht
  rw [FftKnockDetector.evaluate] at hcall
  split at hcall
  · next hchannel =>
    obtain ⟨energy, floor, dam, -, -, -, hc, hmag, hnoise, hdam, hfkc, hretard, hevent⟩ :=
      evaluateChannel_spec hcall
    refine ⟨hc, hmag, fun i hi => ⟨?_, ?_, ?_⟩, fun i j hij => ⟨?_, ?_⟩, fun h => ?_⟩
    · exact hretard ▸ (get_set _ _ _ _).trans (if_neg hi)
    · exact hfkc ▸ (get_set _ _ _ _).trans (if_neg hi)
    · exact hevent ▸ (get_set _ _ _ _).trans (if_neg hi)
    · rw [hnoise]
      split
      · exact cellAt_setCell_of_ne _ _ (rpmBin_lt _) (loadBin_lt _) hij
      · rfl
    · rw [hdam]
      split
      · exact cellAt_setCell_of_ne _ _ (rpmBin_lt _) (loadBin_lt _) hij
      · rfl
    · exact absurd hchannel (not_lt.mpr h)
  · obtain ⟨rfl, -⟩ := Prod.mk.inj (Option.some.inj hcall)
    exact ⟨rfl, rfl, fun _ _ => ⟨rfl, rfl, rfl⟩, fun _ _ _ => ⟨rfl, rfl⟩, fun _ => rfl⟩

/-- A call keeps the configuration and the bounds, with the energy that it sees. -/
theorem knock_step {t : KnockStep} {largest : ℚ} (hconfig : config.Admissible)
    (ht : (knock w).Step t) (hspectrum : NonnegSpectrum t.event.magBuffer)
    (hsrc : t.src.config = config) (h : KnockBounded config largest t.src) :
    KnockBounded config ((energySeen w config t).elim largest (max largest)) t.dst := by
  subst hsrc
  have hcall : (t.event.found t.src).evaluate w t.event.channel t.event.rpm t.event.loadKpa =
    some (t.dst, t.output) := ht
  have hfound : KnockBounded (t.event.found t.src).config largest (t.event.found t.src) :=
    ⟨h.retard, h.fkc, h.dam, h.noise⟩
  rw [FftKnockDetector.evaluate] at hcall
  rw [energySeen]
  split at hcall
  · next hchannel =>
    obtain ⟨energy, -, -, henergy, -⟩ := evaluateChannel_spec hcall
    have hseen : t.src.config.windowEnergy w t.event.magBuffer = some energy := henergy
    rw [if_pos hchannel, hseen]
    exact hfound.evaluateChannel hconfig hspectrum henergy hcall
  · next hchannel =>
    obtain ⟨hnext, -⟩ := Prod.mk.inj (Option.some.inj hcall)
    rw [if_neg hchannel, ← hnext]
    exact ⟨hfound.retard, hfound.fkc, hfound.dam, hfound.noise⟩

theorem exists_evaluateChannel (channel : Fin 8) (rpm loadKpa : ℚ)
    (hthreshold : 0 ≤ detector.config.thresholdDb)
    (hwindow : detector.config.low w ≠ detector.config.high w + 1)
    (hnoise : ∀ i j c, cellAt detector.learningMap.noiseFloor i j = some c → 0 ≤ c) :
    ∃ result, detector.evaluateChannel w channel rpm loadKpa = some result := by
  obtain ⟨energy, henergy⟩ := exists_windowEnergy hwindow detector.magBuffer
  obtain ⟨⟨floor, hfloor⟩, dam, hdam⟩ := exists_addressed w detector.learningMap rpm loadKpa
  have hnonneg := hnoise _ _ floor hfloor
  have hdenom : floor + detector.config.thresholdDb * (1 / 100) + 1 / 1000 ≠ 0 := by
    have : 0 ≤ detector.config.thresholdDb * (1 / 100) := by positivity
    linarith
  simp only [FftKnockDetector.evaluateChannel, henergy, hfloor, hdam, checkedDiv_eq hdenom,
    Option.bind_eq_bind, Option.bind_some]
  exact ⟨_, rfl⟩

/-- A call has a result unless its window is empty. -/
theorem exists_step {largest : ℚ} (hconfig : config.Admissible)
    (hwindow : config.low w ≠ config.high w + 1) (hdetector : detector.config = config)
    (h : KnockBounded config largest detector) (call : KnockCall) :
    ∃ t, (knock w).Step t ∧ t.src = detector ∧ t.event = call := by
  subst hdetector
  obtain ⟨⟨next, knocked⟩, hnext⟩ : ∃ result, (call.found detector).evaluate w call.channel call.rpm
      call.loadKpa = some result := by
    rw [FftKnockDetector.evaluate]
    split
    · exact exists_evaluateChannel _ _ _ hconfig.threshold hwindow
        fun i j c hc => (h.noise i j c hc).1
    · exact ⟨_, rfl⟩
  exact ⟨⟨detector, call, knocked, next⟩, hnext, rfl, rfl⟩

theorem get_replicate_zero {n : ℕ} (i : Fin n) : (Vector.replicate n (0 : ℚ)).get i = 0 :=
  Vector.getElem_replicate i.isLt

theorem bounded_new (hconfig : config.Admissible) :
    KnockBounded config 0 (.new config .default) where
  retard i := (get_replicate_zero i).symm ▸ ⟨le_rfl, hconfig.retardMax⟩
  fkc i := (get_replicate_zero i).symm ▸ ⟨by norm_num, le_rfl⟩
  dam i j c hc := by
    obtain rfl := eq_of_cellAt_replicate hc
    norm_num
  noise i j c hc := by
    obtain rfl := eq_of_cellAt_replicate hc
    norm_num

theorem largestEnergy_concat (tr : List KnockStep) (t : KnockStep) :
    largestEnergy w config (tr ++ [t]) = (energySeen w config t).elim (largestEnergy w config tr)
      (max (largestEnergy w config tr)) := by
  rw [largestEnergy, List.filterMap_append, List.foldl_append, ← largestEnergy,
    List.filterMap_cons]
  cases energySeen w config t with
  | none => rfl
  | some energy => rfl

/-- The bounds over a run, with the energies that its calls saw. -/
theorem knock_run {tr : List KnockStep} (hconfig : config.Admissible)
    (hrun : (knock w).Run (.new config .default) tr detector)
    (hspectrum : ∀ t ∈ tr, NonnegSpectrum t.event.magBuffer) :
    detector.config = config ∧ KnockBounded config (largestEnergy w config tr) detector := by
  induction hrun with
  | nil => exact ⟨rfl, bounded_new hconfig⟩
  | @snoc tr s call knocked s' _ hs ih =>
    obtain ⟨hsrc, hbounded⟩ := ih fun t ht => hspectrum t (List.mem_append_left _ ht)
    refine ⟨(knock_frame hs).config.trans hsrc, ?_⟩
    rw [largestEnergy_concat]
    exact knock_step hconfig hs (hspectrum _ (List.mem_append_right _ (List.mem_singleton_self _)))
      hsrc hbounded

theorem totalRetard_le {largest : ℚ} (h : KnockBounded config largest detector) {channel : ℕ}
    (hchannel : channel < 8) :
    ∃ total, detector.totalRetard channel = some total ∧ total ≤ config.retardMaxDeg + 10 := by
  have hretard := (h.retard ⟨channel, hchannel⟩).2
  have hfkc := h.fkc ⟨channel, hchannel⟩
  refine ⟨detector.retard.get ⟨channel, hchannel⟩ +
    |detector.learningMap.fkc.get ⟨channel, hchannel⟩|, ?_, ?_⟩
  · simp only [FftKnockDetector.totalRetard, Vector.getElem?_eq_getElem hchannel]
    rfl
  · rw [abs_of_nonpos hfkc.2]
    linarith

/-- **The bounds of what the detector keeps**, after any calls from a default map: those of the
retard, of the corrections and of the map, and that of the total retard of a cylinder. Each call
changes its own cylinder and its own cell only; and every call has a result, unless the window of
the configuration is empty. -/
theorem knock_bounds {tr : List KnockStep} (hconfig : config.Admissible)
    (hrun : (knock w).Run (.new config .default) tr detector)
    (hspectrum : ∀ t ∈ tr, NonnegSpectrum t.event.magBuffer) :
    KnockBounded config (largestEnergy w config tr) detector ∧
      (∀ channel < 8, ∃ total, detector.totalRetard channel = some total ∧
        total ≤ config.retardMaxDeg + 10) ∧
      (∀ t ∈ tr, KnockFrame w t) ∧
      (config.low w ≠ config.high w + 1 →
        ∀ call, ∃ t, (knock w).Step t ∧ t.src = detector ∧ t.event = call) := by
  obtain ⟨hdetector, hbounded⟩ := knock_run hconfig hrun hspectrum
  refine ⟨hbounded, fun channel hchannel => totalRetard_le hbounded hchannel,
    fun t ht => knock_frame (hrun.step_of_mem ht), fun hwindow call => ?_⟩
  exact exists_step hconfig hwindow hdetector hbounded call

end Calls

/-- A call on the fourth cylinder, with a spectrum of one magnitude. -/
def flatCall (magnitude : ℚ) : KnockCall := ⟨.replicate 256 magnitude, 3, 3000, 100⟩

theorem nonneg_flatCall {magnitude : ℚ} (h : 0 ≤ magnitude) :
    NonnegSpectrum (flatCall magnitude).magBuffer := by
  intro x hx
  rw [flatCall, Vector.toList_replicate] at hx
  exact List.eq_of_mem_replicate hx ▸ h

/-- A loud call and a quiet one, with the default configuration. -/
theorem knock_bounds_default : ∃ tr detector,
    (knock 32).Run (.new {} .default) tr detector ∧
    tr.map Transition.event = [flatCall (1 / 2), flatCall 0] ∧
    KnockBounded {} (1 / 2) detector ∧ ∀ t ∈ tr, KnockFrame 32 t := by
  have hconfig : KnockConfig.Admissible {} := by
    constructor <;> norm_num
  have hle : KnockConfig.low {} 32 ≤ KnockConfig.high {} 32 := low_le_high (by decide +kernel)
  have hwindow : KnockConfig.low {} 32 ≠ KnockConfig.high {} 32 + 1 := (Nat.lt_succ_of_le hle).ne
  obtain ⟨t₁, h₁, hsrc₁, hevent₁⟩ :=
    exists_step hconfig hwindow rfl (bounded_new hconfig) (flatCall (1 / 2))
  have hrun₁ : (knock 32).Run (.new {} .default) [t₁] t₁.dst := hsrc₁ ▸ .single h₁
  have hspectrum₁ : ∀ t ∈ [t₁], NonnegSpectrum t.event.magBuffer :=
    List.forall_mem_singleton.mpr (hevent₁ ▸ nonneg_flatCall (by norm_num))
  obtain ⟨t₂, h₂, hsrc₂, hevent₂⟩ :=
    (knock_bounds hconfig hrun₁ hspectrum₁).2.2.2 hwindow (flatCall 0)
  have hrun₂ : (knock 32).Run (.new {} .default) [t₁, t₂] t₂.dst :=
    hrun₁.append (hsrc₂ ▸ .single h₂)
  have hspectrum₂ : ∀ t ∈ [t₁, t₂], NonnegSpectrum t.event.magBuffer :=
    List.forall_mem_cons.mpr ⟨hspectrum₁ _ (.head _),
      List.forall_mem_singleton.mpr (hevent₂ ▸ nonneg_flatCall le_rfl)⟩
  obtain ⟨hbounded, -, hframe, -⟩ := knock_bounds hconfig hrun₂ hspectrum₂
  have hlargest : largestEnergy 32 {} [t₁, t₂] = 1 / 2 := by
    have hseen₁ : energySeen 32 {} t₁ = some (1 / 2) := by
      rw [energySeen, hevent₁]
      decide +kernel
    have hseen₂ : energySeen 32 {} t₂ = some 0 := by
      rw [energySeen, hevent₂]
      decide +kernel
    simp only [largestEnergy, List.filterMap_cons, hseen₁, hseen₂, List.filterMap_nil]
    norm_num
  exact ⟨_, _, hrun₂, by rw [List.map_cons, List.map_singleton, hevent₁, hevent₂],
    hlargest ▸ hbounded, hframe⟩

end StEcu
