import Mathlib.Algebra.Order.Group.MinMax
import StEcu.Foundation.TransitionSystem
import StEcu.Fuel.Interpolation

/-!
# Drive by wire

The throttle that follows the pedal (`src/dbw.rs`). Each of four profiles has its own pedal map, and
the profile may be changed between two calls. When the two throttle sensors disagree the throttle is
capped from then on: nothing takes the limp mode back.

## Main definitions

* `PedalMap`, `PedalMap.mapPedal`: the throttle for a pedal position.
* `DbwConfig`, `DbwState`, `DbwController.update`.
* `DbwController.Sound`: what a call leaves behind.

## Main results

* `PedalMap.mapPedal_eq`: the map interpolates between the breakpoints around the pedal position.
* `dbw_step`: what one call preserves.
* `dbw_limp_latched`: the throttle is capped after every call that follows a disagreement.
-/

namespace StEcu

/-! ### Pedal maps -/

/-- The throttle over the pedal position. -/
structure PedalMap where
  pedalPct : Vector ℚ 8 := #v[0, 10, 20, 30, 40, 60, 80, 100]
  throttlePct : Vector ℚ 8 := #v[0, 10, 20, 30, 45, 65, 85, 100]
  deriving DecidableEq, Repr

namespace PedalMap

/-- The map that opens early. -/
def sport : PedalMap := { throttlePct := #v[0, 15, 30, 48, 65, 82, 92, 100] }

/-- The map that opens late. -/
def eco : PedalMap := { throttlePct := #v[0, 6, 12, 20, 30, 50, 75, 100] }

/-- The map that opens latest. -/
def rain : PedalMap := { throttlePct := #v[0, 4, 9, 15, 24, 42, 68, 100] }

/-- The map that follows the pedal. -/
def drag : PedalMap := { throttlePct := #v[0, 10, 20, 30, 40, 60, 80, 100] }

variable (map : PedalMap) (pedal : ℚ)

/-- The loop over the intervals of the map. -/
def mapSearch : List ℕ → Option ℚ
  | [] => some (map.throttlePct.get 7)
  | i :: is => do
    let lower ← map.pedalPct[i]?
    let upper ← map.pedalPct[i + 1]?
    if lower ≤ pedal ∧ pedal < upper then
      let frac ← checkedDiv (pedal - lower) (upper - lower)
      return (← map.throttlePct[i]?) * (1 - frac) + (← map.throttlePct[i + 1]?) * frac
    else mapSearch is

/-- The throttle for a pedal position. -/
def mapPedal : Option ℚ :=
  if pedal ≤ map.pedalPct.get 0 then some (map.throttlePct.get 0)
  else if map.pedalPct.get 7 ≤ pedal then some (map.throttlePct.get 7)
  else map.mapSearch pedal (List.range 7)

/-- The throttle a fraction of the way from one point of the map to another. -/
def between (i j : ℕ) (frac : ℚ) : Option ℚ := do
  return (← map.throttlePct[i]?) * (1 - frac) + (← map.throttlePct[j]?) * frac

/-- The throttles of a map are percentages. -/
def Percent : Prop := ∀ i : Fin 8, 0 ≤ map.throttlePct.get i ∧ map.throttlePct.get i ≤ 100

instance : Decidable map.Percent := inferInstanceAs (Decidable (∀ _ : Fin 8, _))

variable {map pedal}

theorem between_zero (i : Fin 8) : map.between i i 0 = some (map.throttlePct.get i) := by
  simp [between, Vector.get]

theorem mapSearch_eq (is : List ℕ) : map.mapSearch pedal is =
    (axisSearch map.pedalPct.toList pedal is).bind fun (i, j, frac) => map.between i j frac := by
  induction is with
  | nil =>
    simp only [mapSearch, axisSearch, Vector.length_toList, Option.bind_some]
    exact (between_zero 7).symm
  | cons i is ih =>
    simp only [mapSearch, axisSearch, Vector.getElem?_toList, Option.bind_eq_bind,
      Option.bind_assoc]
    congr 1
    funext lower
    congr 1
    funext upper
    split
    · simp only [Option.bind_assoc]
      rfl
    · exact ih

/-- **The map interpolates** between the breakpoints around the pedal position. -/
theorem mapPedal_eq : map.mapPedal pedal =
    (axisIndex map.pedalPct.toList pedal).bind fun (i, j, frac) => map.between i j frac := by
  have hbreakpoint (i : Fin 8) : map.pedalPct.toList[(i : ℕ)]? = some (map.pedalPct.get i) := by
    simp [Vector.get]
  have hfirst : map.pedalPct.toList[0]? = some (map.pedalPct.get 0) := hbreakpoint 0
  have hlast : map.pedalPct.toList[7]? = some (map.pedalPct.get 7) := hbreakpoint 7
  rw [mapPedal, axisIndex]
  simp only [Vector.length_toList, hfirst, hlast, Option.bind_eq_bind, Option.bind_some]
  split_ifs
  · exact (between_zero 0).symm
  · exact (between_zero 7).symm
  · exact mapSearch_eq _

theorem between_mem (h : map.Percent) {i j : ℕ} (hi : i < 8) (hj : j < 8) {frac : ℚ}
    (hfrac : 0 ≤ frac ∧ frac ≤ 1) :
    ∃ throttle, map.between i j frac = some throttle ∧ 0 ≤ throttle ∧ throttle ≤ 100 := by
  have hmean := lerp_mem (h ⟨i, hi⟩) (h ⟨j, hj⟩) hfrac
  rw [lerp, mul_comm, mul_comm frac] at hmean
  have heq : map.between i j frac =
      some (map.throttlePct[i] * (1 - frac) + map.throttlePct[j] * frac) := by
    simp [between, hi, hj]
  exact ⟨_, heq, hmean⟩

/-- The throttle is a percentage for any pedal position and any breakpoints. -/
theorem Percent.exists_mapPedal (h : map.Percent) (pedal : ℚ) :
    ∃ throttle, map.mapPedal pedal = some throttle ∧ 0 ≤ throttle ∧ throttle ≤ 100 := by
  obtain ⟨i, j, frac, hindex, hi, hj, hfrac⟩ := axisIndex_toList map.pedalPct pedal
  rw [mapPedal_eq, hindex]
  exact between_mem h hi hj hfrac

end PedalMap

/-! ### The controller -/

/-- The profiles that a driver may choose. -/
inductive DbwProfile
  | sport
  | eco
  | rain
  | drag
  deriving DecidableEq, Repr

/-- The gains of the loop, the limits of the sensors and the cap of the limp mode. -/
structure DbwConfig where
  pidP : ℚ := 8 / 10
  pidI : ℚ := 5 / 100
  pidD : ℚ := 15 / 100
  pidMin : ℚ := -1
  pidMax : ℚ := 1
  integralLimit : ℚ := 1 / 2
  tpsPlausibilityThresholdPct : ℚ := 5
  limpThrottleCapPct : ℚ := 10
  deriving DecidableEq, Repr

/-- What the controller remembers, and the duty of the throttle motor. -/
structure DbwState where
  targetPct : ℚ := 0
  actualPct : ℚ := 0
  actual2Pct : ℚ := 0
  pidIntegral : ℚ := 0
  pidErrorPrev : ℚ := 0
  motorDuty : ℚ := 0
  limpMode : Bool := false
  tpsError : Bool := false
  activeProfile : DbwProfile := .sport
  deriving DecidableEq, Repr

/-- What a call of the controller is told. -/
structure DbwInputs where
  tps1Pct : ℚ
  tps2Pct : ℚ
  pedalPct : ℚ
  tcEtbCutPct : ℚ
  dtS : ℚ
  deriving DecidableEq, Repr

/-- The settings of the controller, and the map of each profile. -/
structure DbwController where
  config : DbwConfig := {}
  maps : Vector PedalMap 4 := #v[.sport, .eco, .rain, .drag]
  deriving DecidableEq, Repr

/-- The throttle sensors disagree. -/
def DbwConfig.Implausible (config : DbwConfig) (inputs : DbwInputs) : Prop :=
  config.tpsPlausibilityThresholdPct < |inputs.tps1Pct - inputs.tps2Pct|

instance (config : DbwConfig) (inputs : DbwInputs) : Decidable (config.Implausible inputs) :=
  inferInstanceAs (Decidable (_ < _))

namespace DbwController

variable (controller : DbwController) (state : DbwState) (inputs : DbwInputs)

/-- The map of the profile that is chosen. -/
def activeMap : PedalMap :=
  match state.activeProfile with
  | .sport => controller.maps[0]
  | .eco => controller.maps[1]
  | .rain => controller.maps[2]
  | .drag => controller.maps[3]

/-- The throttle that the pedal asks for and the limp mode and traction control allow. -/
def nextTargetPct (mappedTarget : ℚ) (limpMode : Bool) : ℚ :=
  let tcCutFactor := 1 - min (inputs.tcEtbCutPct / 100) 1
  let uncappedTarget := mappedTarget * tcCutFactor
  if limpMode then min uncappedTarget controller.config.limpThrottleCapPct else uncappedTarget

/-- The integral part, with one more call in it. -/
def nextIntegral (error : ℚ) : ℚ :=
  min (max (state.pidIntegral + controller.config.pidI * error * inputs.dtS)
    (-controller.config.integralLimit)) controller.config.integralLimit

/-- The part of the duty that follows the change of the error. -/
def derivative (error : ℚ) : Option ℚ :=
  if 0 < inputs.dtS then
    checkedDiv (controller.config.pidD * (error - state.pidErrorPrev)) inputs.dtS
  else some 0

/-- One call of the controller: the sensors are compared, the pedal is mapped, and the loop moves
the throttle. -/
def update : Option DbwState := do
  let config := controller.config
  let limpMode := if config.Implausible inputs then true else state.limpMode
  let tpsError := if config.Implausible inputs then true else state.tpsError
  let mappedTarget ← (controller.activeMap state).mapPedal inputs.pedalPct
  let targetPct := controller.nextTargetPct inputs mappedTarget limpMode
  let error := targetPct - inputs.tps1Pct
  let p := config.pidP * error
  let pidIntegral := controller.nextIntegral state inputs error
  let d ← controller.derivative state inputs error
  let motorDuty := min (max (p + pidIntegral + d) config.pidMin) config.pidMax
  return { state with
    targetPct
    actualPct := inputs.tps1Pct
    actual2Pct := inputs.tps2Pct
    pidIntegral
    pidErrorPrev := error
    motorDuty
    limpMode
    tpsError }

/-- The configuration is well formed: the maps give percentages, and the limits are in order. -/
structure WellFormed : Prop where
  maps : ∀ i, (controller.maps.get i).Percent
  cap : 0 ≤ controller.config.limpThrottleCapPct ∧ controller.config.limpThrottleCapPct ≤ 100
  duty : controller.config.pidMin ≤ controller.config.pidMax
  integral : 0 ≤ controller.config.integralLimit

variable {controller inputs}

theorem WellFormed.activeMap (h : controller.WellFormed) (state : DbwState) :
    (controller.activeMap state).Percent := by
  rw [DbwController.activeMap]
  split
  · exact h.maps 0
  · exact h.maps 1
  · exact h.maps 2
  · exact h.maps 3

theorem WellFormed.nextTargetPct_mem (h : controller.WellFormed) {mappedTarget : ℚ}
    (hmapped : 0 ≤ mappedTarget ∧ mappedTarget ≤ 100)
    (htc : 0 ≤ inputs.tcEtbCutPct ∧ inputs.tcEtbCutPct ≤ 100) (limpMode : Bool) :
    (0 ≤ controller.nextTargetPct inputs mappedTarget limpMode ∧
        controller.nextTargetPct inputs mappedTarget limpMode ≤ 100) ∧
      (limpMode = true → controller.nextTargetPct inputs mappedTarget limpMode ≤
        controller.config.limpThrottleCapPct) := by
  have hcut : min (inputs.tcEtbCutPct / 100) 1 ≤ 1 := min_le_right _ _
  have hcut' : 0 ≤ min (inputs.tcEtbCutPct / 100) 1 := le_min (by linarith) zero_le_one
  have hlow : 0 ≤ mappedTarget * (1 - min (inputs.tcEtbCutPct / 100) 1) :=
    mul_nonneg hmapped.1 (by linarith)
  have hhigh : mappedTarget * (1 - min (inputs.tcEtbCutPct / 100) 1) ≤ 100 :=
    (mul_le_of_le_one_right hmapped.1 (by linarith)).trans hmapped.2
  rw [nextTargetPct]
  cases limpMode with
  | false => exact ⟨⟨hlow, hhigh⟩, fun hlimp => nomatch hlimp⟩
  | true =>
    exact ⟨⟨le_min hlow h.cap.1, (min_le_left _ _).trans hhigh⟩, fun _ => min_le_right _ _⟩

/-- The outputs are within the limits of the configuration. -/
structure Sound (controller : DbwController) (state : DbwState) : Prop where
  target : 0 ≤ state.targetPct ∧ state.targetPct ≤ 100
  limp : state.limpMode = true → state.targetPct ≤ controller.config.limpThrottleCapPct
  duty : controller.config.pidMin ≤ state.motorDuty ∧ state.motorDuty ≤ controller.config.pidMax
  integral : |state.pidIntegral| ≤ controller.config.integralLimit

theorem exists_derivative (controller : DbwController) (state : DbwState) (inputs : DbwInputs)
    (error : ℚ) : ∃ d, controller.derivative state inputs error = some d := by
  rw [derivative]
  split
  · next hdt => exact ⟨_, checkedDiv_eq hdt.ne'⟩
  · exact ⟨0, rfl⟩

/-- **A call has a result**, whatever it finds, and only the sensors decide on the limp mode. -/
theorem WellFormed.exists_update (h : controller.WellFormed) (state : DbwState)
    (htc : 0 ≤ inputs.tcEtbCutPct ∧ inputs.tcEtbCutPct ≤ 100) :
    ∃ next, controller.update state inputs = some next ∧ controller.Sound next ∧
      next.limpMode =
        if controller.config.Implausible inputs then true else state.limpMode := by
  obtain ⟨mappedTarget, hmap, hmapped⟩ := (h.activeMap state).exists_mapPedal inputs.pedalPct
  obtain ⟨htarget, hlimp⟩ := h.nextTargetPct_mem hmapped htc
    (if controller.config.Implausible inputs then true else state.limpMode)
  rw [update, hmap]
  simp only [Option.bind_eq_bind, Option.bind_some]
  generalize controller.nextTargetPct inputs mappedTarget _ = targetPct at htarget hlimp ⊢
  obtain ⟨d, hd⟩ := exists_derivative controller state inputs (targetPct - inputs.tps1Pct)
  rw [hd, Option.bind_some]
  refine ⟨_, rfl, ⟨htarget, hlimp, ?_, ?_⟩, rfl⟩
  · exact ⟨le_min (le_max_right _ _) h.duty, min_le_right _ _⟩
  · have hlow : -controller.config.integralLimit ≤ controller.config.integralLimit :=
      neg_le_self h.integral
    exact abs_le.mpr ⟨le_min (le_max_right _ _) hlow, min_le_right _ _⟩

end DbwController

/-! ### Runs -/

/-- A call of the update; the profile may change from call to call. -/
structure DbwCall where
  activeProfile : DbwProfile
  inputs : DbwInputs
  deriving DecidableEq, Repr

/-- The state that a call finds. -/
def DbwCall.found (call : DbwCall) (state : DbwState) : DbwState :=
  { state with activeProfile := call.activeProfile }

/-- The cut that traction control asks for is a percentage. -/
def DbwCall.Percent (call : DbwCall) : Prop :=
  0 ≤ call.inputs.tcEtbCutPct ∧ call.inputs.tcEtbCutPct ≤ 100

namespace DbwController

variable (controller : DbwController)

/-- The calls of the controller. -/
def dbw : TransitionSystem DbwState DbwCall Unit where
  Step t := controller.update (t.event.found t.src) t.event.inputs = some t.dst

instance : DecidablePred controller.dbw.Step := fun _ => inferInstanceAs (Decidable (_ = _))

end DbwController

section Runs

variable {controller : DbwController} {state : DbwState}
  {tr : List (Transition DbwState DbwCall Unit)}

/-- **What one call does**: the outputs are within their limits, and the limp mode stays. -/
theorem dbw_step (hwf : controller.WellFormed) {t : Transition DbwState DbwCall Unit}
    (ht : controller.dbw.Step t) (htc : t.event.Percent) :
    controller.Sound t.dst ∧ (t.dst.limpMode = true ↔
      controller.config.Implausible t.event.inputs ∨ t.src.limpMode = true) := by
  obtain ⟨next, hnext, hsound, hlimp⟩ := hwf.exists_update (t.event.found t.src) htc
  obtain rfl := Option.some.inj (hnext.symm.trans ht)
  refine ⟨hsound, ?_⟩
  rw [hlimp]
  split
  · next himplausible => exact iff_of_true rfl (.inl himplausible)
  · next hplausible => exact (or_iff_right hplausible).symm

/-- **The limp mode is kept.** In a run the outputs are within their limits after every call, and
from the first call on that finds the throttle sensors to disagree the throttle is capped, whatever
the pedal, the profile and the sensors are later. Every call has a result. -/
theorem dbw_limp_latched (hwf : controller.WellFormed) (h : controller.dbw.Run {} tr state)
    (htc : ∀ t ∈ tr, t.event.Percent) :
    (∀ t ∈ tr, controller.Sound t.dst) ∧
      (∀ pre t post, tr = pre ++ t :: post → controller.config.Implausible t.event.inputs →
        ∀ u ∈ t :: post, u.dst.targetPct ≤ controller.config.limpThrottleCapPct) ∧
      ∀ call : DbwCall, call.Percent →
        ∃ next, controller.update (call.found state) call.inputs = some next := by
  have hstep (t) (ht : t ∈ tr) := dbw_step hwf (h.step_of_mem ht) (htc t ht)
  refine ⟨fun t ht => (hstep t ht).1, ?_, fun call hcall => ?_⟩
  · rintro pre t post rfl himplausible u hu
    have hmem (u) (hu : u ∈ t :: post) : u ∈ pre ++ t :: post := List.mem_append_right _ hu
    refine (hstep u (hmem u hu)).1.limp ?_
    have hdst : t.dst.limpMode = true := (hstep t (hmem t (.head _))).2.mpr (.inl himplausible)
    rcases List.mem_cons.mp hu with rfl | hpost
    · exact hdst
    · have hsrc := h.split_mem.2.2.invariant_src (I := fun s => s.limpMode = true) hdst
        (fun v hv _ hv' => (hstep v (hmem v (.tail _ hv))).2.mpr (.inr hv')) hpost
      exact (hstep u (hmem u hu)).2.mpr (.inr hsrc)
  · obtain ⟨next, hnext, -⟩ := hwf.exists_update (call.found state) hcall
    exact ⟨next, hnext⟩

end Runs

theorem wellFormed_dbw_default : DbwController.WellFormed {} where
  maps := by decide +kernel
  cap := by decide +kernel
  duty := by decide +kernel
  integral := by decide +kernel

/-- A call at 1 kHz, with the pedal pressed and no cut. -/
def fullPedalCall (activeProfile : DbwProfile) (tps2Pct : ℚ) : DbwCall where
  activeProfile := activeProfile
  inputs := ⟨20, tps2Pct, 100, 0, 1 / 1000⟩

/-- The sensors disagree once, and agree in another profile afterwards. -/
theorem dbw_limp_latched_default : ∃ tr state, (DbwController.dbw {}).Run {} tr state ∧
    tr.map Transition.event = [fullPedalCall .eco 40, fullPedalCall .drag 20] ∧
    state.targetPct ≤ 10 := by
  have hpercent (profile : DbwProfile) (tps2Pct : ℚ) : (fullPedalCall profile tps2Pct).Percent :=
    ⟨le_rfl, by norm_num [fullPedalCall]⟩
  obtain ⟨s₁, h₁, -⟩ := wellFormed_dbw_default.exists_update
    ((fullPedalCall .eco 40).found {}) (hpercent .eco 40)
  obtain ⟨s₂, h₂, -⟩ := wellFormed_dbw_default.exists_update
    ((fullPedalCall .drag 20).found s₁) (hpercent .drag 20)
  have hrun : (DbwController.dbw {}).Run {} [⟨{}, fullPedalCall .eco 40, (), s₁⟩,
      ⟨s₁, fullPedalCall .drag 20, (), s₂⟩] s₂ :=
    .cons (t := ⟨{}, fullPedalCall .eco 40, (), s₁⟩) h₁
      (.single (t := ⟨s₁, fullPedalCall .drag 20, (), s₂⟩) h₂)
  obtain ⟨-, hlatched, -⟩ := dbw_limp_latched wellFormed_dbw_default hrun
    (by simp only [List.forall_mem_cons, hpercent, List.not_mem_nil, false_imp_iff, implies_true,
      and_self])
  have himplausible : DbwConfig.Implausible {} (fullPedalCall .eco 40).inputs := by
    decide +kernel
  exact ⟨_, _, hrun, rfl, hlatched [] _ _ rfl himplausible _ (.tail _ (.head _))⟩

end StEcu
