import Mathlib.Tactic.Linarith
import Mathlib.Tactic.NormNum
import StEcu.Foundation.FixedPoint
import StEcu.Foundation.TransitionSystem

/-!
# Launch control

The engine cuts of a launch (`src/launch.rs`). There are five presets, each with a mode, and four
phases; a call updates the outputs of the phase and then moves on to the next one.

## Main definitions

* `LaunchPreset`, `LaunchState`, `LaunchController.update`.
* `LaunchState.Quiet`, `LaunchState.Settled`: no output is set, and none is set outside a launch.
* `LaunchController.Clears`: what a call must find so that it leaves no output set outside a launch.

## Main results

* `settled_update_iff`: a call leaves the outputs cleared if and only if it finds this.
* `launch_settled_iff`: no output is set outside a launch in a run if and only if all its calls do.
-/

namespace StEcu

/-- What launch control reacts to. -/
inductive LaunchMode
  | disabled
  | twoStep
  | threeStep
  | rolling
  deriving DecidableEq, Repr

/-- The settings of launch control for one purpose. -/
structure LaunchPreset where
  enabled : Bool := false
  mode : LaunchMode := .twoStep
  rpmLimit : UInt16 := 4500
  threeStepRpmHigh : UInt16 := 5500
  sparkCutPct : UInt8 := 60
  fuelCutPct : UInt8 := 0
  retardDeg : ℚ := 15
  slipTargetPct : ℚ := 8
  rollingPidP : ℚ := 2
  rollingPidI : ℚ := 1 / 2
  deriving DecidableEq, Repr

namespace LaunchPreset

/-- The first of the shipped presets, with the lowest limit. -/
def preset1 : LaunchPreset :=
  { enabled := true, rpmLimit := 4000, sparkCutPct := 50, retardDeg := 12 }

/-- The second of the shipped presets. -/
def preset2 : LaunchPreset :=
  { enabled := true, rpmLimit := 4500, sparkCutPct := 60, retardDeg := 15 }

/-- The third of the shipped presets, with the highest limit. -/
def preset3 : LaunchPreset :=
  { enabled := true, rpmLimit := 5000, sparkCutPct := 70, retardDeg := 18 }

end LaunchPreset

/-- The phases of a launch. -/
inductive LaunchPhase
  | idle
  | armed
  | active
  | releasing
  deriving DecidableEq, Repr

/-- The phase of the launch, and what is cut and retarded. -/
structure LaunchState where
  phase : LaunchPhase := .idle
  activePreset : UInt8 := 0
  sparkCutActive : Bool := false
  fuelCutActive : Bool := false
  retardActive : Bool := false
  slipError : ℚ := 0
  rollingPidIntegral : ℚ := 0
  hardCutFlag : Bool := false
  cutRatio : ℚ := 0
  rpmAtLaunch : UInt16 := 0
  deriving DecidableEq, Repr

/-- What a call of the controller is told. -/
structure LaunchInputs where
  clutchPressed : Bool
  launchButton : Bool
  rpm : ℚ
  vssKmh : ℚ
  rearSpeedKmh : ℚ
  dtS : ℚ
  deriving DecidableEq, Repr

/-- The presets that the driver chooses from. -/
structure LaunchController where
  presets : Vector LaunchPreset 5 := #v[.preset1, .preset2, .preset3, {}, {}]
  deriving DecidableEq, Repr

namespace LaunchPreset

variable (preset : LaunchPreset) (state : LaunchState) (inputs : LaunchInputs)

/-- Launch control on the clutch. -/
def updateTwoStep : LaunchState :=
  match state.phase with
  | .idle => if inputs.clutchPressed then { state with phase := .armed } else state
  | .armed =>
    if !inputs.clutchPressed then { state with phase := .idle }
    else { state with phase := .active, rpmAtLaunch := ratToU16 inputs.rpm }
  | .active =>
    if !inputs.clutchPressed then { state with phase := .releasing }
    else if (preset.rpmLimit.toNat : ℚ) < inputs.rpm then
      { state with
        hardCutFlag := true
        sparkCutActive := 0 < preset.sparkCutPct
        fuelCutActive := 0 < preset.fuelCutPct
        cutRatio := preset.sparkCutPct.toNat / 100
        retardActive := true }
    else
      { state with
        hardCutFlag := false, sparkCutActive := false, fuelCutActive := false, cutRatio := 0
        retardActive := true }
  | .releasing =>
    { state with
      sparkCutActive := false, fuelCutActive := false, retardActive := false, cutRatio := 0
      phase := if 10 < inputs.vssKmh then .idle else state.phase }

/-- Launch control on the launch button, with a second limit after it is let go. -/
def updateThreeStep : LaunchState :=
  match state.phase with
  | .idle => if inputs.launchButton then { state with phase := .armed } else state
  | .armed =>
    let cut : Bool := (preset.rpmLimit.toNat : ℚ) < inputs.rpm
    { state with
      sparkCutActive := cut
      cutRatio := if cut then preset.sparkCutPct.toNat / 100 else 0
      retardActive := true
      phase := if !inputs.launchButton then .active else state.phase }
  | .active =>
    { state with
      sparkCutActive := (preset.threeStepRpmHigh.toNat : ℚ) < inputs.rpm
      phase := if 20 < inputs.vssKmh then .releasing else state.phase }
  | .releasing =>
    { state with sparkCutActive := false, cutRatio := 0, retardActive := false, phase := .idle }

/-- The slip that is aimed at, less the slip there is. -/
def slipErrorPct : ℚ :=
  preset.slipTargetPct -
    if 5 < inputs.vssKmh then (inputs.rearSpeedKmh / inputs.vssKmh - 1) * 100 else 0

/-- The integral part of the rolling launch, with one more call in it. -/
def nextIntegral : ℚ :=
  min (max (state.rollingPidIntegral +
    preset.rollingPidI * preset.slipErrorPct inputs * inputs.dtS) (-1)) 1

/-- Launch control on the slip of the wheels, by a loop. -/
def updateRolling : LaunchState :=
  let slipError := preset.slipErrorPct inputs
  let integral := preset.nextIntegral state inputs
  let pidOutput := preset.rollingPidP * slipError + integral
  let cutRatio := min (max (-pidOutput) 0) 1
  { state with
    slipError
    rollingPidIntegral := integral
    cutRatio
    sparkCutActive := 5 / 100 < cutRatio
    phase := if inputs.launchButton then .active else .idle }

/-- One call with a preset. -/
def update : LaunchState :=
  if !preset.enabled then
    { state with phase := .idle, sparkCutActive := false, fuelCutActive := false, cutRatio := 0 }
  else
    match preset.mode with
    | .disabled => { state with phase := .idle, sparkCutActive := false }
    | .twoStep => preset.updateTwoStep state inputs
    | .threeStep => preset.updateThreeStep state inputs
    | .rolling => preset.updateRolling state inputs

end LaunchPreset

namespace LaunchController

variable (controller : LaunchController) (state : LaunchState) (inputs : LaunchInputs)

/-- `LaunchController::active_preset`: the last preset stands for those there are not. -/
def activePreset : LaunchPreset :=
  controller.presets.get ⟨min state.activePreset.toNat 4, by omega⟩

/-- One call of the controller, with the preset that is chosen. -/
def update : LaunchState := (controller.activePreset state).update state inputs

end LaunchController

/-! ### Outside a launch -/

namespace LaunchState

variable (state : LaunchState)

/-- No output is set. -/
structure Quiet : Prop where
  spark : state.sparkCutActive = false
  fuel : state.fuelCutActive = false
  hard : state.hardCutFlag = false
  retard : state.retardActive = false
  ratio : state.cutRatio = 0

/-- Outside a launch no output is set. -/
def Settled : Prop := state.phase = .idle ∨ state.phase = .releasing → state.Quiet

variable {state}

theorem quiet_iff : state.Quiet ↔ state.sparkCutActive = false ∧ state.fuelCutActive = false ∧
    state.hardCutFlag = false ∧ state.retardActive = false ∧ state.cutRatio = 0 :=
  ⟨fun ⟨h₁, h₂, h₃, h₄, h₅⟩ => ⟨h₁, h₂, h₃, h₄, h₅⟩,
    fun ⟨h₁, h₂, h₃, h₄, h₅⟩ => ⟨h₁, h₂, h₃, h₄, h₅⟩⟩

theorem settled_iff_quiet (h : state.phase = .idle ∨ state.phase = .releasing) :
    state.Settled ↔ state.Quiet :=
  ⟨fun hsettled => hsettled h, fun hquiet _ => hquiet⟩

theorem settled_of_inside (h : state.phase = .armed ∨ state.phase = .active) : state.Settled := by
  intro houtside
  rcases h with h | h <;> rw [h] at houtside <;> simp at houtside

end LaunchState

/-- What a call in a phase of a mode must find set or not set, and what its inputs must be, so that
it leaves no output set outside a launch. -/
def LaunchPreset.Clears (preset : LaunchPreset) (state : LaunchState) (inputs : LaunchInputs) :
    Prop :=
  if preset.enabled = false then state.hardCutFlag = false ∧ state.retardActive = false
  else
    match preset.mode, state.phase with
    | .disabled, _ =>
      state.fuelCutActive = false ∧ state.hardCutFlag = false ∧ state.retardActive = false ∧
        state.cutRatio = 0
    | .twoStep, .releasing => state.hardCutFlag = false
    -- the outputs stay as they are when the clutch is released
    | .twoStep, _ => inputs.clutchPressed = true ∨ state.Quiet
    | .threeStep, .idle => inputs.launchButton = true ∨ state.Quiet
    | .threeStep, .armed => True
    -- only the spark cut is updated when the launch ends
    | .threeStep, .active =>
      inputs.vssKmh ≤ 20 ∨ inputs.rpm ≤ preset.threeStepRpmHigh.toNat ∧
        state.fuelCutActive = false ∧ state.hardCutFlag = false ∧ state.retardActive = false ∧
        state.cutRatio = 0
    | .threeStep, .releasing => state.fuelCutActive = false ∧ state.hardCutFlag = false
    -- the spark is cut for the slip, with the button or without it
    | .rolling, _ =>
      inputs.launchButton = true ∨
        0 ≤ preset.rollingPidP * preset.slipErrorPct inputs + preset.nextIntegral state inputs ∧
        state.fuelCutActive = false ∧ state.hardCutFlag = false ∧ state.retardActive = false

/-- The call clears what the preset that is chosen may cut. -/
def LaunchController.Clears (controller : LaunchController) (state : LaunchState)
    (inputs : LaunchInputs) : Prop :=
  (controller.activePreset state).Clears state inputs

section Steps

variable {preset : LaunchPreset} {state : LaunchState} {inputs : LaunchInputs}

theorem settled_updateTwoStep_iff : (preset.updateTwoStep state inputs).Settled ↔
    match state.phase with
    | .releasing => state.hardCutFlag = false
    | _ => inputs.clutchPressed = true ∨ state.Quiet := by
  rw [LaunchPreset.updateTwoStep]
  cases hphase : state.phase with
  | idle =>
    cases hclutch : inputs.clutchPressed with
    | false => simpa using LaunchState.settled_iff_quiet (.inl hphase)
    | true => simpa using LaunchState.settled_of_inside (.inl rfl)
  | armed =>
    cases hclutch : inputs.clutchPressed with
    | false => simp [LaunchState.settled_iff_quiet, LaunchState.quiet_iff]
    | true => simpa using LaunchState.settled_of_inside (.inr rfl)
  | active =>
    cases hclutch : inputs.clutchPressed with
    | false => simp [LaunchState.settled_iff_quiet, LaunchState.quiet_iff]
    | true =>
      refine iff_of_true (LaunchState.settled_of_inside (.inr ?_)) (.inl rfl)
      dsimp only
      rw [if_neg (by decide)]
      split_ifs
      · rfl
      · rfl
  | releasing =>
    rw [LaunchState.settled_iff_quiet (by dsimp only; split_ifs <;> simp)]
    simp [LaunchState.quiet_iff]

theorem settled_updateThreeStep_iff : (preset.updateThreeStep state inputs).Settled ↔
    match state.phase with
    | .idle => inputs.launchButton = true ∨ state.Quiet
    | .armed => True
    | .active =>
      inputs.vssKmh ≤ 20 ∨ inputs.rpm ≤ preset.threeStepRpmHigh.toNat ∧
        state.fuelCutActive = false ∧ state.hardCutFlag = false ∧ state.retardActive = false ∧
        state.cutRatio = 0
    | .releasing => state.fuelCutActive = false ∧ state.hardCutFlag = false := by
  rw [LaunchPreset.updateThreeStep]
  cases hphase : state.phase with
  | idle =>
    cases hbutton : inputs.launchButton with
    | false => simpa using LaunchState.settled_iff_quiet (.inl hphase)
    | true => simpa using LaunchState.settled_of_inside (.inl rfl)
  | armed =>
    refine iff_of_true (LaunchState.settled_of_inside ?_) trivial
    dsimp only
    split_ifs
    · exact .inr rfl
    · exact .inl rfl
  | active =>
    by_cases hfast : 20 < inputs.vssKmh
    · rw [LaunchState.settled_iff_quiet (.inr (if_pos hfast)), LaunchState.quiet_iff]
      simp [not_le.mpr hfast]
    · exact iff_of_true (LaunchState.settled_of_inside (.inr (if_neg hfast)))
        (.inl (not_lt.mp hfast))
  | releasing =>
    rw [LaunchState.settled_iff_quiet (.inl rfl)]
    simp [LaunchState.quiet_iff]

theorem settled_updateRolling_iff : (preset.updateRolling state inputs).Settled ↔
    (inputs.launchButton = true ∨
      0 ≤ preset.rollingPidP * preset.slipErrorPct inputs + preset.nextIntegral state inputs ∧
      state.fuelCutActive = false ∧ state.hardCutFlag = false ∧ state.retardActive = false) := by
  cases hbutton : inputs.launchButton with
  | true =>
    refine iff_of_true (LaunchState.settled_of_inside (.inr ?_)) (.inl rfl)
    rw [LaunchPreset.updateRolling, hbutton]
    rfl
  | false =>
    have hphase : (preset.updateRolling state inputs).phase = .idle := by
      rw [LaunchPreset.updateRolling, hbutton]
      rfl
    rw [LaunchState.settled_iff_quiet (.inl hphase), LaunchState.quiet_iff,
      LaunchPreset.updateRolling]
    dsimp only
    generalize preset.rollingPidP * preset.slipErrorPct inputs + preset.nextIntegral state inputs =
      pidOutput
    -- a cut ratio of zero is no spark cut either
    have hratio : min (max (-pidOutput) 0) 1 = 0 ↔ 0 ≤ pidOutput := by
      constructor
      · intro h
        by_contra hneg
        have hpos : 0 < min (max (-pidOutput) 0) 1 :=
          lt_min (lt_max_of_lt_left (by linarith)) one_pos
        exact hpos.ne' h
      · intro h
        rw [max_eq_right (by linarith), min_eq_left zero_le_one]
    rw [hratio, decide_eq_false_iff_not]
    constructor
    · rintro ⟨-, hfuel, hhard, hretard, hpid⟩
      exact .inr ⟨hpid, hfuel, hhard, hretard⟩
    · rintro (h | ⟨hpid, hfuel, hhard, hretard⟩)
      · cases h
      · refine ⟨?_, hfuel, hhard, hretard, hpid⟩
        rw [hratio.mpr hpid]
        norm_num

/-- **What a call leaves behind.** -/
theorem settled_update_iff :
    (preset.update state inputs).Settled ↔ preset.Clears state inputs := by
  rw [LaunchPreset.update, LaunchPreset.Clears]
  cases henabled : preset.enabled with
  | false =>
    rw [if_pos (by rfl), if_pos rfl, LaunchState.settled_iff_quiet (.inl rfl)]
    simp [LaunchState.quiet_iff]
  | true =>
    rw [if_neg (by decide), if_neg (by decide)]
    cases preset.mode with
    | disabled =>
      rw [LaunchState.settled_iff_quiet (.inl rfl)]
      simp [LaunchState.quiet_iff]
    | twoStep =>
      refine settled_updateTwoStep_iff.trans ?_
      cases state.phase <;> rfl
    | threeStep =>
      refine settled_updateThreeStep_iff.trans ?_
      cases state.phase <;> rfl
    | rolling => exact settled_updateRolling_iff

end Steps

/-! ### Runs -/

/-- A call of the update: presets and their selection may change from call to call. -/
structure LaunchCall where
  controller : LaunchController
  activePreset : UInt8
  inputs : LaunchInputs

/-- The state that a call finds. -/
def LaunchCall.found (call : LaunchCall) (state : LaunchState) : LaunchState :=
  { state with activePreset := call.activePreset }

/-- What a call does. The presets and the choice among them may differ from call to call. -/
def launchStep (state : LaunchState) (call : LaunchCall) : LaunchState × Unit :=
  (call.controller.update (call.found state) call.inputs, ())

/-- The calls of the controller. -/
def launch : TransitionSystem LaunchState LaunchCall Unit := .ofFun launchStep

/-- **No output is set outside a launch**, in any state of a run, if and only if every call of the
run clears what was set. -/
theorem launch_settled_iff {state : LaunchState}
    {tr : List (Transition LaunchState LaunchCall Unit)} (h : launch.Run {} tr state) :
    (∀ t ∈ tr, t.dst.Settled) ↔
      ∀ t ∈ tr, t.event.controller.Clears (t.event.found t.src) t.event.inputs := by
  have hstep (t : Transition LaunchState LaunchCall Unit) (ht : t ∈ tr) : t.dst.Settled ↔
      t.event.controller.Clears (t.event.found t.src) t.event.inputs := by
    have hdst : launchStep t.src t.event = (t.dst, t.output) := h.step_of_mem ht
    have hupdate : t.event.controller.update (t.event.found t.src) t.event.inputs = t.dst :=
      congrArg Prod.fst hdst
    rw [← hupdate]
    exact settled_update_iff
  exact forall₂_congr hstep

/-- A call with the default presets. -/
def clutchCall (clutchPressed : Bool) (rpm : ℚ) : LaunchCall where
  controller := {}
  activePreset := 0
  inputs := ⟨clutchPressed, false, rpm, 0, 0, 1 / 20⟩

/-- A launch above the limit, ended by the clutch. -/
def cutShort : List LaunchCall :=
  [clutchCall true 1000, clutchCall true 5000, clutchCall true 5000, clutchCall false 5000]

/-- The clutch is released while the engine is cut: the launch ends and the cut goes on. -/
theorem cut_after_launch : ∃ tr state, launch.Run {} tr state ∧ state.phase = .releasing ∧
    state.sparkCutActive = true ∧ state.hardCutFlag = true ∧ state.retardActive = true ∧
    state.cutRatio = 1 / 2 ∧ ¬ ∀ t ∈ tr, t.dst.Settled := by
  have hrun := TransitionSystem.run_trace launchStep {} cutShort
  have hend : (TransitionSystem.after launchStep {} cutShort).phase = .releasing ∧
      (TransitionSystem.after launchStep {} cutShort).sparkCutActive = true ∧
      (TransitionSystem.after launchStep {} cutShort).hardCutFlag = true ∧
      (TransitionSystem.after launchStep {} cutShort).retardActive = true ∧
      (TransitionSystem.after launchStep {} cutShort).cutRatio = 1 / 2 := by
    decide +kernel
  obtain ⟨hphase, hspark, hhard, hretard, hratio⟩ := hend
  refine ⟨_, _, hrun, hphase, hspark, hhard, hretard, hratio, fun hsettled => ?_⟩
  have hlast : (TransitionSystem.after launchStep {} cutShort).Settled :=
    hsettled _ (.tail _ (.tail _ (.tail _ (.head _))))
  rw [(hlast (.inr hphase)).spark] at hspark
  cases hspark

/-- A call of a rolling launch. -/
def rollingCall (launchButton : Bool) (rearSpeedKmh : ℚ) : LaunchCall where
  controller := { presets := #v[{ enabled := true, mode := .rolling }, {}, {}, {}, {}] }
  activePreset := 0
  inputs := ⟨false, launchButton, 3000, 20, rearSpeedKmh, 1 / 20⟩

/-- A launch that is given up before the engine is cut, and a rolling launch whose slip is over. -/
def launches : List LaunchCall :=
  [clutchCall true 1000, clutchCall true 3000, clutchCall false 3000,
    { clutchCall false 3000 with inputs := ⟨false, false, 3000, 20, 20, 1 / 20⟩ },
    rollingCall true 40, rollingCall false 20]

/-- Both launches go through their phases and back; the cut of the second ends with it. -/
theorem launch_settled_iff_launches : ∃ tr state, launch.Run {} tr state ∧
    tr.map (fun t => t.dst.phase) = [.armed, .active, .releasing, .idle, .active, .idle] ∧
    tr.map (fun t => t.dst.sparkCutActive) = [false, false, false, false, true, false] ∧
    ∀ t ∈ tr, t.dst.Settled := by
  have hrun := TransitionSystem.run_trace launchStep {} launches
  refine ⟨_, _, hrun, by decide +kernel, by decide +kernel,
    (launch_settled_iff hrun).mpr fun t ht => ?_⟩
  rcases List.mem_cons.mp ht with rfl | ht
  · exact .inl rfl
  rcases List.mem_cons.mp ht with rfl | ht
  · exact .inl rfl
  rcases List.mem_cons.mp ht with rfl | ht
  · exact .inr ⟨rfl, rfl, rfl, rfl, rfl⟩
  rcases List.mem_cons.mp ht with rfl | ht
  · exact rfl
  rcases List.mem_cons.mp ht with rfl | ht
  · exact .inl rfl
  obtain rfl := List.mem_singleton.mp ht
  exact .inr ⟨by decide +kernel, rfl, rfl, rfl⟩

end StEcu
