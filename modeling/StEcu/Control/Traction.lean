import Mathlib.Tactic.Linarith
import Mathlib.Tactic.NormNum
import StEcu.Foundation.FixedPoint
import StEcu.Foundation.TransitionSystem

/-!
# Traction control

The spark retard and the throttle cut against wheel slip (`src/traction.rs`). There are three
presets, each with its own limits, and the preset may be changed between two calls. While the wheels
slip too much the outputs are computed within the limits of the preset; afterwards they go back step
by step, from where they are and whatever the limits are now.

## Main definitions

* `TcPreset`, `TractionState`, `TractionController.update`.
* `TractionController.Respects`: the outputs after a call are within the limits of its preset.
* `TcPreset.WithinReach`: what a call must find so that they are.

## Main results

* `bounded_update`: the outputs are never negative, and the integral part is bounded.
* `traction_respects_preset_iff`: the limits are respected in a run if and only if all its calls
  find this.
-/

namespace StEcu

/-- The settings of traction control for one surface. -/
structure TcPreset where
  enabled : Bool := false
  slipTargetPct : ℚ := 5
  pidP : ℚ := 3
  pidI : ℚ := 8 / 10
  pidD : ℚ := 3 / 10
  sparkRetardMaxDeg : ℚ := 8
  etbCutMaxPct : ℚ := 20
  minSpeedKmh : ℚ := 10
  maxInterventionPct : ℚ := 50
  deriving DecidableEq, Repr

namespace TcPreset

/-- The preset for a dry surface, with the default settings. -/
def dry : TcPreset := { enabled := true }

/-- The preset for a wet surface. -/
def wet : TcPreset where
  enabled := true
  slipTargetPct := 3
  pidP := 4
  pidI := 1
  pidD := 5 / 10
  sparkRetardMaxDeg := 12
  etbCutMaxPct := 35
  minSpeedKmh := 5
  maxInterventionPct := 70

/-- The preset for gravel, which lets the wheels slip most. -/
def gravel : TcPreset where
  enabled := true
  slipTargetPct := 15
  pidP := 15 / 10
  pidI := 3 / 10
  pidD := 1 / 10
  sparkRetardMaxDeg := 5
  etbCutMaxPct := 10
  minSpeedKmh := 15
  maxInterventionPct := 30

end TcPreset

/-- What the controller remembers, and what it takes away. -/
structure TractionState where
  active : Bool := false
  activePreset : UInt8 := 0
  slipActualPct : ℚ := 0
  slipError : ℚ := 0
  pidIntegral : ℚ := 0
  pidErrorPrev : ℚ := 0
  sparkRetardDeg : ℚ := 0
  etbCutPct : ℚ := 0
  deriving DecidableEq, Repr

/-- What a call of the controller is told. -/
structure TractionInputs where
  frontSpeedKmh : ℚ
  rearSpeedKmh : ℚ
  vssKmh : ℚ
  tcSwitchEnabled : Bool
  dtS : ℚ
  deriving DecidableEq, Repr

/-- The presets that the driver chooses from. -/
structure TractionController where
  presets : Vector TcPreset 3 := #v[.dry, .wet, .gravel]
  deriving DecidableEq, Repr

/-- How much faster the rear wheels turn than the front wheels. -/
def TractionInputs.slipActualPct (inputs : TractionInputs) : ℚ :=
  (inputs.rearSpeedKmh / max inputs.frontSpeedKmh 1 - 1) * 100

namespace TcPreset

variable (preset : TcPreset) (state : TractionState) (inputs : TractionInputs)

/-- No intervention takes place. -/
def Off : Prop :=
  preset.enabled = false ∨ inputs.tcSwitchEnabled = false ∨ inputs.vssKmh < preset.minSpeedKmh

instance : Decidable (preset.Off inputs) := inferInstanceAs (Decidable (_ ∨ _ ∨ _))

/-- The wheels slip more than the preset lets them, by more than half a percent. -/
def OverSlip : Prop := preset.slipTargetPct + 1 / 2 < inputs.slipActualPct

instance : Decidable (preset.OverSlip inputs) := inferInstanceAs (Decidable (_ < _))

/-- The integral part of the intervention, with one more call in it. -/
def nextIntegral (error : ℚ) : ℚ :=
  min (max (state.pidIntegral + preset.pidI * error * inputs.dtS) 0)
    (preset.maxInterventionPct / 100)

/-- One call with a preset. -/
def update : TractionState :=
  if preset.Off inputs then
    { state with
      active := false
      sparkRetardDeg := 0
      etbCutPct := 0
      pidIntegral := state.pidIntegral * (9 / 10) }
  else
    let slipActualPct := inputs.slipActualPct
    let slipError := preset.slipTargetPct - slipActualPct
    if ¬ preset.OverSlip inputs then
      { state with
        slipActualPct
        slipError
        active := false
        sparkRetardDeg := max (state.sparkRetardDeg - 1 / 2) 0
        etbCutPct := max (state.etbCutPct - 1) 0
        pidIntegral := state.pidIntegral * (98 / 100) }
    else
      let error := -slipError
      let p := preset.pidP * error
      let pidIntegral := preset.nextIntegral state inputs error
      let d :=
        if 0 < inputs.dtS then preset.pidD * (error - state.pidErrorPrev) / inputs.dtS else 0
      let intervention := min (max (p + pidIntegral + d) 0) 1
      { state with
        slipActualPct
        slipError
        active := true
        pidIntegral
        pidErrorPrev := error
        sparkRetardDeg := min (intervention * preset.sparkRetardMaxDeg) preset.sparkRetardMaxDeg
        etbCutPct := min (intervention * preset.etbCutMaxPct) preset.etbCutMaxPct }

end TcPreset

namespace TractionController

variable (controller : TractionController) (state : TractionState) (inputs : TractionInputs)

/-- `TractionController::active_preset`: the last preset stands for those there are not. -/
def activePreset : TcPreset := controller.presets.get ⟨min state.activePreset.toNat 2, by omega⟩

/-- One call of the controller, with the preset that is chosen. -/
def update : TractionState := (controller.activePreset state).update state inputs

/-- The largest maximal intervention of the presets. -/
def largestInterventionPct : ℚ :=
  max (controller.presets.get 0).maxInterventionPct <|
    max (controller.presets.get 1).maxInterventionPct
      (controller.presets.get 2).maxInterventionPct

/-- The limits of the presets are not negative. -/
def NonnegLimits : Prop :=
  ∀ i, 0 ≤ (controller.presets.get i).sparkRetardMaxDeg ∧
    0 ≤ (controller.presets.get i).etbCutMaxPct ∧ 0 ≤ (controller.presets.get i).maxInterventionPct

end TractionController

/-! ### The limits -/

/-- The outputs are not negative, and the integral part is between zero and a bound. -/
structure TractionState.Bounded (state : TractionState) (bound : ℚ) : Prop where
  spark : 0 ≤ state.sparkRetardDeg
  etb : 0 ≤ state.etbCutPct
  integral : 0 ≤ state.pidIntegral ∧ state.pidIntegral ≤ bound

/-- The outputs are within the limits of a preset. -/
def TcPreset.Covers (preset : TcPreset) (state : TractionState) : Prop :=
  state.sparkRetardDeg ≤ preset.sparkRetardMaxDeg ∧ state.etbCutPct ≤ preset.etbCutMaxPct

/-- Where the outputs go back, they are at most one step above the limits. -/
def TcPreset.WithinReach (preset : TcPreset) (state : TractionState) (inputs : TractionInputs) :
    Prop :=
  ¬ preset.Off inputs → ¬ preset.OverSlip inputs →
    state.sparkRetardDeg ≤ preset.sparkRetardMaxDeg + 1 / 2 ∧
      state.etbCutPct ≤ preset.etbCutMaxPct + 1

section Step

variable {preset : TcPreset} {state : TractionState} {inputs : TractionInputs} {bound : ℚ}

theorem min_mul_mem {x limit : ℚ} (hx : 0 ≤ x) (hlimit : 0 ≤ limit) :
    0 ≤ min (x * limit) limit ∧ min (x * limit) limit ≤ limit :=
  ⟨le_min (mul_nonneg hx hlimit) hlimit, min_le_right _ _⟩

/-- An intervention that goes back by a factor stays in its bounds. -/
theorem mul_mem_of_le_one {x factor : ℚ} (hx : 0 ≤ x ∧ x ≤ bound)
    (hfactor : 0 ≤ factor ∧ factor ≤ 1) : 0 ≤ x * factor ∧ x * factor ≤ bound :=
  ⟨mul_nonneg hx.1 hfactor.1, (mul_le_of_le_one_right hx.1 hfactor.2).trans hx.2⟩

theorem update_of_off (h : preset.Off inputs) : preset.update state inputs =
    { state with
      active := false
      sparkRetardDeg := 0
      etbCutPct := 0
      pidIntegral := state.pidIntegral * (9 / 10) } :=
  if_pos h

/-- Where the wheels slip too much the outputs are a fraction of the limits. -/
theorem update_of_overSlip (hoff : ¬ preset.Off inputs) (hslip : preset.OverSlip inputs) :
    ∃ intervention, 0 ≤ intervention ∧
      (preset.update state inputs).sparkRetardDeg =
        min (intervention * preset.sparkRetardMaxDeg) preset.sparkRetardMaxDeg ∧
      (preset.update state inputs).etbCutPct =
        min (intervention * preset.etbCutMaxPct) preset.etbCutMaxPct ∧
      ∃ error, (preset.update state inputs).pidIntegral =
        preset.nextIntegral state inputs error := by
  rw [TcPreset.update, if_neg hoff, if_neg (not_not.mpr hslip)]
  exact ⟨_, le_min (le_max_right _ _) zero_le_one, rfl, rfl, _, rfl⟩

theorem bounded_update (hspark : 0 ≤ preset.sparkRetardMaxDeg) (hetb : 0 ≤ preset.etbCutMaxPct)
    (hmax : 0 ≤ preset.maxInterventionPct) (hbound : preset.maxInterventionPct / 100 ≤ bound)
    (h : state.Bounded bound) : (preset.update state inputs).Bounded bound := by
  by_cases hoff : preset.Off inputs
  · rw [update_of_off hoff]
    exact ⟨le_refl 0, le_refl 0, mul_mem_of_le_one h.integral (by norm_num)⟩
  by_cases hslip : preset.OverSlip inputs
  · obtain ⟨x, hx, hsparkEq, hetbEq, error, hintegral⟩ := update_of_overSlip hoff hslip
    refine ⟨?_, ?_, ?_⟩
    · rw [hsparkEq]
      exact (min_mul_mem hx hspark).1
    · rw [hetbEq]
      exact (min_mul_mem hx hetb).1
    · rw [hintegral]
      exact ⟨le_min (le_max_right _ _) (by positivity), (min_le_right _ _).trans hbound⟩
  · rw [TcPreset.update, if_neg hoff, if_pos hslip]
    exact ⟨le_max_right _ 0, le_max_right _ 0, mul_mem_of_le_one h.integral (by norm_num)⟩

/-- **When a call respects the limits.** -/
theorem covers_update_iff (hspark : 0 ≤ preset.sparkRetardMaxDeg)
    (hetb : 0 ≤ preset.etbCutMaxPct) :
    preset.Covers (preset.update state inputs) ↔ preset.WithinReach state inputs := by
  rw [TcPreset.Covers, TcPreset.WithinReach]
  by_cases hoff : preset.Off inputs
  · rw [update_of_off hoff]
    exact iff_of_true ⟨hspark, hetb⟩ fun h => absurd hoff h
  by_cases hslip : preset.OverSlip inputs
  · obtain ⟨x, -, hsparkEq, hetbEq, -⟩ := update_of_overSlip hoff hslip
    rw [hsparkEq, hetbEq]
    exact iff_of_true ⟨min_le_right _ _, min_le_right _ _⟩ fun _ h => absurd hslip h
  · rw [TcPreset.update, if_neg hoff, if_pos hslip, forall_prop_of_true hoff,
      forall_prop_of_true hslip]
    refine and_congr ?_ ?_
    · rw [max_le_iff, sub_le_iff_le_add, and_iff_left hspark]
    · rw [max_le_iff, sub_le_iff_le_add, and_iff_left hetb]

end Step

/-! ### Runs -/

/-- A call of the update; the active preset may change from call to call. -/
structure TractionCall where
  activePreset : UInt8
  inputs : TractionInputs

/-- The state that a call finds. -/
def TractionCall.found (call : TractionCall) (state : TractionState) : TractionState :=
  { state with activePreset := call.activePreset }

namespace TractionController

variable (controller : TractionController)

/-- What a call does. The choice among the presets may differ from call to call. -/
def step (state : TractionState) (call : TractionCall) : TractionState × Unit :=
  (controller.update (call.found state) call.inputs, ())

/-- The calls of the controller. -/
def traction : TransitionSystem TractionState TractionCall Unit := .ofFun controller.step

/-- The preset that a call chooses. -/
def presetOf (call : TractionCall) : TcPreset := controller.activePreset (call.found {})

/-- After a call the outputs are between zero and the limits of its preset, the integral part is
between zero and the largest limit there is, and nothing is left where no intervention takes
place. -/
structure Respects (call : TractionCall) (state : TractionState) : Prop where
  bounded : state.Bounded (controller.largestInterventionPct / 100)
  covered : (controller.presetOf call).Covers state
  off : (controller.presetOf call).Off call.inputs →
    state.active = false ∧ state.sparkRetardDeg = 0 ∧ state.etbCutPct = 0

end TractionController

section Runs

variable {controller : TractionController} {state : TractionState}
  {tr : List (Transition TractionState TractionCall Unit)}

theorem maxInterventionPct_le (controller : TractionController) (i : Fin 3) :
    (controller.presets.get i).maxInterventionPct ≤ controller.largestInterventionPct := by
  match i with
  | 0 => exact le_max_left _ _
  | 1 => exact (le_max_left _ _).trans (le_max_right _ _)
  | 2 => exact (le_max_right _ _).trans (le_max_right _ _)

theorem dst_eq_update {t : Transition TractionState TractionCall Unit}
    (h : controller.traction.Step t) :
    t.dst = (controller.presetOf t.event).update (t.event.found t.src) t.event.inputs :=
  (congrArg Prod.fst h).symm

/-- A call keeps the outputs from getting negative and the integral part bounded. -/
theorem bounded_step (hlimits : controller.NonnegLimits)
    {t : Transition TractionState TractionCall Unit} (ht : controller.traction.Step t)
    (h : t.src.Bounded (controller.largestInterventionPct / 100)) :
    t.dst.Bounded (controller.largestInterventionPct / 100) := by
  obtain ⟨hspark, hetb, hmax⟩ := hlimits ⟨min t.event.activePreset.toNat 2, by omega⟩
  rw [dst_eq_update ht]
  refine bounded_update hspark hetb hmax ?_ ⟨h.spark, h.etb, h.integral⟩
  gcongr
  exact maxInterventionPct_le controller _

/-- **The limits of the presets.** In a run every call respects the limits of its preset if and only
if none finds the outputs more than one step above these limits when they go back. -/
theorem traction_respects_preset_iff (hlimits : controller.NonnegLimits)
    (h : controller.traction.Run {} tr state) :
    (∀ t ∈ tr, controller.Respects t.event t.dst) ↔
      ∀ t ∈ tr, (controller.presetOf t.event).WithinReach t.src t.event.inputs := by
  have hstart : TractionState.Bounded {} (controller.largestInterventionPct / 100) := by
    refine ⟨le_refl 0, le_refl 0, le_refl 0, div_nonneg ?_ (by norm_num)⟩
    exact (hlimits 0).2.2.trans (maxInterventionPct_le controller 0)
  refine forall₂_congr fun t ht => ?_
  have hstep := h.step_of_mem ht
  have hsrc := h.invariant_src (I := fun s => s.Bounded (controller.largestInterventionPct / 100))
    hstart (fun _ _ => bounded_step hlimits) ht
  obtain ⟨hspark, hetb, -⟩ := hlimits ⟨min t.event.activePreset.toNat 2, by omega⟩
  have hcovers : (controller.presetOf t.event).Covers t.dst ↔
      (controller.presetOf t.event).WithinReach t.src t.event.inputs := by
    rw [dst_eq_update hstep]
    exact covers_update_iff hspark hetb
  refine ⟨fun hrespects => hcovers.mp hrespects.covered, fun hreach => ?_⟩
  refine ⟨bounded_step hlimits hstep hsrc, hcovers.mpr hreach, fun hoff => ?_⟩
  rw [dst_eq_update hstep, update_of_off hoff]
  exact ⟨rfl, rfl, rfl⟩

/-- A call at 50 km/h with a preset and a slip. -/
def slipCall (activePreset : UInt8) (rearSpeedKmh : ℚ) : TractionCall where
  activePreset := activePreset
  inputs := ⟨50, rearSpeedKmh, 50, true, 1 / 20⟩

/-- Too much slip on a wet road, and none on gravel. -/
def wetToGravel : List TractionCall := [slipCall 1 100, slipCall 2 50]

/-- The preset is changed during an intervention: the spark is retarded by 11.5°, and at most 5° are
allowed. -/
theorem retarded_above_limit : ∃ tr state, (TractionController.traction {}).Run {} tr state ∧
    state.activePreset = 2 ∧ state.sparkRetardDeg = 115 / 10 ∧ state.etbCutPct = 34 ∧
    TcPreset.gravel.sparkRetardMaxDeg = 5 ∧ TcPreset.gravel.etbCutMaxPct = 10 ∧
    ¬ ∀ t ∈ tr, TractionController.Respects {} t.event t.dst := by
  let reached := TransitionSystem.after (TractionController.step {}) {} wetToGravel
  have hrun := TransitionSystem.run_trace (TractionController.step {}) {} wetToGravel
  have hend : reached.activePreset = 2 ∧ reached.sparkRetardDeg = 115 / 10 ∧
      reached.etbCutPct = 34 := by
    decide +kernel
  obtain ⟨hpreset, hspark, hetb⟩ := hend
  refine ⟨_, _, hrun, hpreset, hspark, hetb, rfl, rfl, fun hrespects => ?_⟩
  have hlast : reached.sparkRetardDeg ≤ 5 :=
    (hrespects _ (.tail _ (.head _))).covered.1
  rw [hspark] at hlast
  norm_num at hlast

theorem nonnegLimits_default : TractionController.NonnegLimits {} := by
  rw [TractionController.NonnegLimits]
  decide +kernel

/-- Too much slip on a wet road, which is over after one call. -/
def wetAndBack : List TractionCall := [slipCall 1 100, slipCall 1 50, slipCall 1 50]

/-- The full intervention goes back step by step under the preset it was computed with. -/
theorem traction_respects_preset_iff_wet : ∃ tr state,
    (TractionController.traction {}).Run {} tr state ∧
    tr.map (fun t => t.dst.sparkRetardDeg) = [12, 115 / 10, 11] ∧
    tr.map (fun t => t.dst.etbCutPct) = [35, 34, 33] ∧
    ∀ t ∈ tr, TractionController.Respects {} t.event t.dst := by
  have hrun := TransitionSystem.run_trace (TractionController.step {}) {} wetAndBack
  refine ⟨_, _, hrun, by decide +kernel, by decide +kernel,
    (traction_respects_preset_iff nonnegLimits_default hrun).mpr fun t ht => ?_⟩
  rcases List.mem_cons.mp ht with rfl | ht
  · exact fun _ _ => ⟨by decide +kernel, by decide +kernel⟩
  rcases List.mem_cons.mp ht with rfl | ht
  · exact fun _ _ => ⟨by decide +kernel, by decide +kernel⟩
  obtain rfl := List.mem_singleton.mp ht
  exact fun _ _ => ⟨by decide +kernel, by decide +kernel⟩

end Runs

end StEcu
