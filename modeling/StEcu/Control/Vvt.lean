import StEcu.Control.Curves
import StEcu.Control.PidLoop
import StEcu.Foundation.Cells

/-!
# Cam phasers

The closed loop of the four cam phasers (`src/vvt.rs`). One update goes over all channels; each has
its own entry in the arrays of the state, and only the oil pressure is common to all of them. So the
controller is four controllers of one cam each, which do not interfere.

## Main definitions

* `VvtConfig`, `VvtState`, `VvtController.updateChannel`, `VvtController.update`.
* `VvtController.camAngleFromSensor`: the angle of a cam from its sensor.
* `Cam`, `VvtController.cam`: the controller of one cam.

## Main results

* `VvtController.updateChannel_eq`: the loop updates the cells of a channel as those of one cam.
* `VvtController.camAngleFromSensor_mem`: the angle is less than a turn.
* `VvtController.vvt_follows_cams`: over a run of calls every channel is a run of its own cam on the
  calls that reach it, within the limits of the loop.
-/

namespace StEcu

/-- The duty that is added for thick oil, over its temperature. -/
structure HydraulicFeedForward where
  oilTempC : Vector ℚ 8 := #v[20, 40, 60, 80, 100, 110, 120, 130]
  dutyOffset : Vector ℚ 8 :=
    #v[25 / 100, 18 / 100, 10 / 100, 5 / 100, 2 / 100, 1 / 100, 0, -1 / 100]
  deriving DecidableEq, Repr

/-- `HydraulicFeedForward::duty_offset`. -/
def HydraulicFeedForward.dutyOffsetAt (ff : HydraulicFeedForward) (oilTempC : ℚ) : Option ℚ :=
  interpolate1d ff.oilTempC ff.dutyOffset oilTempC

/-- The gains of the loop, its deadband, the oil pressure that it needs, and the channels in use. -/
structure VvtConfig where
  pidP : ℚ := 6 / 10
  pidI : ℚ := 4 / 100
  pidD : ℚ := 15 / 100
  integralLimit : ℚ := 4 / 10
  angleDeadbandDeg : ℚ := 1
  minOilPressureKpa : ℚ := 100
  enabled : Vector Bool 4 := #v[true, false, false, false]
  deriving DecidableEq, Repr

/-- The gains as those of a loop. -/
def VvtConfig.gains (config : VvtConfig) : PidGains :=
  ⟨config.pidP, config.pidI, config.pidD, config.integralLimit⟩

/-- The angles, the loop and the duty of each cam, and the error flag. -/
structure VvtState where
  actualDeg : Vector ℚ 4 := .replicate 4 0
  targetDeg : Vector ℚ 4 := .replicate 4 0
  pidIntegral : Vector ℚ 4 := .replicate 4 0
  pidErrorPrev : Vector ℚ 4 := .replicate 4 0
  duty : Vector ℚ 4 := .replicate 4 0
  errorFlag : Bool := false
  deriving DecidableEq, Repr

/-- The settings and the tables of the controller. -/
structure VvtController where
  config : VvtConfig := {}
  intakeTarget : VvtTargetTable := .default
  exhaustTarget : VvtTargetTable := .default
  ffTable : HydraulicFeedForward := {}
  deriving DecidableEq, Repr

namespace VvtController

variable (controller : VvtController)

/-- The target of a channel: an exhaust cam is advanced the other way. -/
def target (ch : Fin 4) (rpm loadKpa : ℚ) : Option ℚ :=
  match ch with
  | 0 | 2 => controller.intakeTarget.interpolate rpm loadKpa
  | _ => (controller.exhaustTarget.interpolate rpm loadKpa).map fun target => -target

/-- One turn of the loop over the channels. -/
def updateChannel (rpm loadKpa ffOffset dtS : ℚ) (state : VvtState) (ch : Fin 4) :
    Option VvtState :=
  if controller.config.enabled.get ch = false then
    some { state with duty := state.duty.setFin ch 0 }
  else do
    let target ← controller.target ch rpm loadKpa
    let state := { state with targetDeg := state.targetDeg.setFin ch target }
    let error := target - state.actualDeg.get ch
    if |error| < controller.config.angleDeadbandDeg then return state
    else
      let (sum, pidIntegral) ← controller.config.gains.pid (state.pidIntegral.get ch)
        (state.pidErrorPrev.get ch) error dtS
      return { state with
        pidIntegral := state.pidIntegral.setFin ch pidIntegral
        pidErrorPrev := state.pidErrorPrev.setFin ch error
        duty := state.duty.setFin ch (min (max (sum + ffOffset) (-1)) 1) }

/-- One call of the controller. With too little oil pressure no solenoid is driven. -/
def update (state : VvtState) (rpm loadKpa oilPressureKpa oilTempC dtS : ℚ) : Option VvtState :=
  if oilPressureKpa < controller.config.minOilPressureKpa then
    some { state with errorFlag := true, duty := .replicate 4 0 }
  else do
    let ffOffset ← controller.ffTable.dutyOffsetAt oilTempC
    (List.finRange 4).foldlM (controller.updateChannel rpm loadKpa ffOffset dtS)
      { state with errorFlag := false }

/-- The remainder of a division, with the sign of the dividend. -/
def remainder (x y : ℚ) : ℚ := x - y * (if 0 ≤ x / y then ⌊x / y⌋ else ⌈x / y⌉ : ℤ)

/-- The angle of a cam from the edges of its sensor. -/
def camAngleFromSensor (risingTimestampNs fallingTimestampNs periodNs : UInt64) : ℚ :=
  if periodNs = 0 then 0
  else
    let pulseWidth : ℚ := (fallingTimestampNs.toNat - risingTimestampNs.toNat : ℕ)
    let period : ℚ := periodNs.toNat
    remainder (pulseWidth / period * 360) 360

end VvtController

/-- A call of the controller. The angle of a cam is set by the caller. -/
inductive VvtCall
  | sense (ch : Fin 4) (deg : ℚ)
  | update (rpm loadKpa oilPressureKpa oilTempC dtS : ℚ)
  deriving DecidableEq, Repr

namespace VvtController

variable (controller : VvtController)

/-- What a call does. -/
def step (state : VvtState) : VvtCall → Option VvtState
  | .sense ch deg => some { state with actualDeg := state.actualDeg.setFin ch deg }
  | .update rpm loadKpa oilPressureKpa oilTempC dtS =>
    controller.update state rpm loadKpa oilPressureKpa oilTempC dtS

/-- The calls of the controller. -/
def vvt : TransitionSystem VvtState VvtCall Unit := .ofPartial controller.step

end VvtController

/-! ### One cam -/

/-- What the controller keeps of one cam. -/
structure Cam where
  actualDeg : ℚ := 0
  targetDeg : ℚ := 0
  pidIntegral : ℚ := 0
  pidErrorPrev : ℚ := 0
  duty : ℚ := 0
  deriving DecidableEq, Repr

/-- A call that reaches one cam. -/
inductive CamCall
  | sense (deg : ℚ)
  | update (rpm loadKpa oilPressureKpa oilTempC dtS : ℚ)
  deriving DecidableEq, Repr

namespace VvtController

variable (controller : VvtController)

/-- The loop of one cam. -/
def adjust (rpm loadKpa ffOffset dtS : ℚ) (ch : Fin 4) (cam : Cam) : Option Cam :=
  if controller.config.enabled.get ch = false then some { cam with duty := 0 }
  else (controller.target ch rpm loadKpa).map fun targetDeg =>
    let error := targetDeg - cam.actualDeg
    if |error| < controller.config.angleDeadbandDeg then { cam with targetDeg }
    else
      let pidIntegral := controller.config.gains.nextIntegral cam.pidIntegral error dtS
      { cam with
        targetDeg
        pidIntegral
        pidErrorPrev := error
        duty := min (max (controller.config.pidP * error + pidIntegral +
          controller.config.gains.slope cam.pidErrorPrev error dtS + ffOffset) (-1)) 1 }

/-- What a call does to one cam. -/
def camStep (ch : Fin 4) (cam : Cam) : CamCall → Option Cam
  | .sense deg => some { cam with actualDeg := deg }
  | .update rpm loadKpa oilPressureKpa oilTempC dtS =>
    if oilPressureKpa < controller.config.minOilPressureKpa then some { cam with duty := 0 }
    else (controller.ffTable.dutyOffsetAt oilTempC).bind fun ffOffset =>
      controller.adjust rpm loadKpa ffOffset dtS ch cam

/-- The calls that reach one cam. -/
def cam (ch : Fin 4) : TransitionSystem Cam CamCall Unit := .ofPartial (controller.camStep ch)

end VvtController

/-- What a state keeps of a cam. -/
def VvtState.cam (state : VvtState) (ch : Fin 4) : Cam where
  actualDeg := state.actualDeg.get ch
  targetDeg := state.targetDeg.get ch
  pidIntegral := state.pidIntegral.get ch
  pidErrorPrev := state.pidErrorPrev.get ch
  duty := state.duty.get ch

/-- The entries of a cam replaced. -/
def VvtState.setCam (state : VvtState) (ch : Fin 4) (cam : Cam) : VvtState :=
  { state with
    actualDeg := state.actualDeg.setFin ch cam.actualDeg
    targetDeg := state.targetDeg.setFin ch cam.targetDeg
    pidIntegral := state.pidIntegral.setFin ch cam.pidIntegral
    pidErrorPrev := state.pidErrorPrev.setFin ch cam.pidErrorPrev
    duty := state.duty.setFin ch cam.duty }

/-- The cams are the cells of a state. -/
def camCells : Cells VvtState (Fin 4) Cam where
  get := VvtState.cam
  set := VvtState.setCam
  get_set_self state ch cam := by simp [VvtState.cam, VvtState.setCam, Vector.get_setFin]
  get_set_of_ne state i j cam hne := by
    simp [VvtState.cam, VvtState.setCam, Vector.get_setFin, hne]

namespace VvtController

variable {controller : VvtController} {state next : VvtState} {ch : Fin 4}
  {rpm loadKpa oilPressureKpa oilTempC ffOffset dtS : ℚ}

/-- **A turn of the loop updates the entries of a channel as those of one cam.** -/
theorem updateChannel_eq : controller.updateChannel rpm loadKpa ffOffset dtS state ch =
    (controller.adjust rpm loadKpa ffOffset dtS ch (state.cam ch)).map (state.setCam ch) := by
  rw [updateChannel, adjust]
  split
  · simp [VvtState.cam, VvtState.setCam, Vector.setFin_get]
  · cases controller.target ch rpm loadKpa with
    | none => rfl
    | some target =>
      simp only [Option.bind_eq_bind, Option.bind_some, Option.map_some, Option.pure_def,
        PidGains.exists_pid]
      have hactual : (state.cam ch).actualDeg = state.actualDeg.get ch := rfl
      by_cases hband : |target - state.actualDeg.get ch| < controller.config.angleDeadbandDeg
      · rw [hactual, if_pos hband, if_pos hband]
        simp [VvtState.setCam, VvtState.cam, Vector.setFin_get]
      · rw [hactual, if_neg hband, if_neg hband]
        simp [VvtState.setCam, VvtState.cam, VvtConfig.gains, Vector.setFin_get]

theorem exists_target (controller : VvtController) (ch : Fin 4) (rpm loadKpa : ℚ) :
    ∃ target, controller.target ch rpm loadKpa = some target := by
  have htable (table : VvtTargetTable) : ∃ target, table.interpolate rpm loadKpa = some target := by
    obtain ⟨_, _, _, _, _, _, _, _, _, _, target, _, _, _, _, _, _, htarget, _⟩ :=
      (interpolates_tableAt table.cells table.rpmAxis table.loadAxis).between rpm loadKpa
    exact ⟨target, table.interpolate_eq ▸ htarget⟩
  obtain ⟨intake, hintake⟩ := htable controller.intakeTarget
  obtain ⟨exhaust, hexhaust⟩ := htable controller.exhaustTarget
  rw [target.eq_def]
  split
  · exact ⟨intake, hintake⟩
  · exact ⟨intake, hintake⟩
  · exact ⟨-exhaust, by rw [hexhaust, Option.map_some]⟩

theorem exists_dutyOffsetAt (ff : HydraulicFeedForward) (oilTempC : ℚ) :
    ∃ offset, ff.dutyOffsetAt oilTempC = some offset := by
  obtain ⟨i, j, frac, -, heq⟩ :=
    exists_interpolate1d (by decide) ff.oilTempC ff.dutyOffset oilTempC
  exact ⟨_, heq⟩

/-- The loop over the channels is a loop over the cams. -/
theorem foldlM_updateChannel : (List.finRange 4).foldlM
    (controller.updateChannel rpm loadKpa ffOffset dtS) state =
      camCells.updateAll (controller.adjust rpm loadKpa ffOffset dtS) (List.finRange 4) state := by
  rw [Cells.updateAll]
  congr 1
  funext state ch
  exact updateChannel_eq

/-- **An update of the controller is an update of every cam.** -/
theorem update_cam
    (h : controller.update state rpm loadKpa oilPressureKpa oilTempC dtS = some next) :
    next.errorFlag = decide (oilPressureKpa < controller.config.minOilPressureKpa) ∧
    ∀ ch, controller.camStep ch (state.cam ch)
      (.update rpm loadKpa oilPressureKpa oilTempC dtS) = some (next.cam ch) := by
  rw [update] at h
  split at h
  · next hlow =>
    obtain rfl := Option.some.inj h
    refine ⟨(decide_eq_true hlow).symm, fun ch => ?_⟩
    rw [camStep, if_pos hlow]
    simp only [VvtState.cam, Vector.get_replicate_fin]
  · next hlow =>
    obtain ⟨ffOffset, hoffset, h⟩ := Option.bind_eq_some_iff.mp h
    rw [foldlM_updateChannel] at h
    constructor
    · rw [decide_eq_false hlow]
      exact Cells.observe_updateAll VvtState.errorFlag (fun _ _ _ => rfl) h
    · intro ch
      rw [camStep, if_neg hlow, hoffset]
      exact (Cells.get_updateAll (List.nodup_finRange 4) h ch).1 (List.mem_finRange ch)

theorem exists_update (controller : VvtController) (state : VvtState)
    (rpm loadKpa oilPressureKpa oilTempC dtS : ℚ) : ∃ next,
    controller.update state rpm loadKpa oilPressureKpa oilTempC dtS = some next := by
  rw [update]
  split
  · exact ⟨_, rfl⟩
  · obtain ⟨ffOffset, hoffset⟩ := exists_dutyOffsetAt controller.ffTable oilTempC
    simp only [hoffset, Option.bind_eq_bind, Option.bind_some]
    rw [foldlM_updateChannel]
    refine Option.isSome_iff_exists.mp (Cells.isSome_updateAll (List.nodup_finRange 4) ?_)
    intro ch _
    obtain ⟨target, htarget⟩ := exists_target controller ch rpm loadKpa
    rw [adjust, htarget]
    split <;> rfl

/-- **The angle of a cam is less than a turn.** -/
theorem camAngleFromSensor_mem (risingTimestampNs fallingTimestampNs periodNs : UInt64) :
    camAngleFromSensor risingTimestampNs fallingTimestampNs periodNs ∈ Set.Ico 0 360 := by
  have hremainder (x : ℚ) (hx : 0 ≤ x) : remainder x 360 ∈ Set.Ico 0 360 := by
    rw [remainder, if_pos (by positivity)]
    have hle := Int.floor_le (x / 360)
    have hlt := Int.lt_floor_add_one (x / 360)
    constructor <;> linarith
  rw [camAngleFromSensor]
  split
  · exact ⟨le_rfl, by norm_num⟩
  · exact hremainder _ (by positivity)

/-! ### Runs of one cam -/

/-- What a call adds to the integral part of a cam. -/
def adds (controller : VvtController) (ch : Fin 4) (t : Transition Cam CamCall Unit) : Option ℚ :=
  match t.event with
  | .update rpm loadKpa oilPressureKpa _ dtS =>
    if oilPressureKpa < controller.config.minOilPressureKpa ∨
        controller.config.enabled.get ch = false then none
    else (controller.target ch rpm loadKpa).bind fun targetDeg =>
      if |targetDeg - t.src.actualDeg| < controller.config.angleDeadbandDeg then none
      else some (controller.config.gains.increment (targetDeg - t.src.actualDeg) dtS)
  | _ => none

theorem camStep_fields {cam next : Cam} {call : CamCall}
    (h : controller.camStep ch cam call = some next) :
    next.pidIntegral = (controller.adds ch ⟨cam, call, (), next⟩).elim cam.pidIntegral
      (clampedAdd (-controller.config.integralLimit) controller.config.integralLimit
        cam.pidIntegral) ∧
    (cam.duty ∈ Set.Icc (-1) 1 → next.duty ∈ Set.Icc (-1) 1) ∧
    (controller.config.enabled.get ch = false → cam.duty = 0 → next.duty = 0) := by
  have hzero : (0 : ℚ) ∈ Set.Icc (-1) 1 := ⟨by norm_num, zero_le_one⟩
  cases call with
  | sense deg =>
    obtain rfl := Option.some.inj h
    exact ⟨rfl, id, fun _ => id⟩
  | update rpm loadKpa oilPressureKpa oilTempC dtS =>
    rw [camStep] at h
    by_cases hlow : oilPressureKpa < controller.config.minOilPressureKpa
    · rw [if_pos hlow] at h
      obtain rfl := Option.some.inj h
      exact ⟨by simp [adds, hlow], fun _ => hzero, fun _ _ => rfl⟩
    rw [if_neg hlow] at h
    obtain ⟨ffOffset, -, h⟩ := Option.bind_eq_some_iff.mp h
    rw [adjust] at h
    by_cases hdisabled : controller.config.enabled.get ch = false
    · rw [if_pos hdisabled] at h
      obtain rfl := Option.some.inj h
      exact ⟨by simp [adds, hdisabled], fun _ => hzero, fun _ _ => rfl⟩
    rw [if_neg hdisabled] at h
    obtain ⟨targetDeg, htarget, rfl⟩ := Option.map_eq_some_iff.mp h
    by_cases hband : |targetDeg - cam.actualDeg| < controller.config.angleDeadbandDeg
    · simp only [if_pos hband]
      exact ⟨by simp [adds, hlow, hdisabled, htarget, hband], id, fun _ => id⟩
    · simp only [if_neg hband]
      refine ⟨?_, fun _ => ⟨le_min (le_max_right _ _) (by norm_num), min_le_right _ _⟩,
        fun hoff => absurd hoff hdisabled⟩
      simp [adds, hlow, hdisabled, htarget, hband, PidGains.nextIntegral_eq, VvtConfig.gains]

/-- What a cam says of the run that led to it. -/
structure CamFollows (controller : VvtController) (ch : Fin 4)
    (tr : List (Transition Cam CamCall Unit)) (cam : Cam) : Prop where
  integral : cam.pidIntegral = clampedSum (-controller.config.integralLimit)
    controller.config.integralLimit 0 (tr.filterMap (controller.adds ch))
  duty : cam.duty ∈ Set.Icc (-1) 1
  disabled : controller.config.enabled.get ch = false → cam.duty = 0

theorem camFollows_of_run {cam : Cam} {tr : List (Transition Cam CamCall Unit)}
    (h : (controller.cam ch).Run {} tr cam) : controller.CamFollows ch tr cam where
  integral := PidGains.integral_of_run controller.config.gains Cam.pidIntegral h
    fun _ _ hstep => (camStep_fields hstep).1
  duty := h.invariant (I := fun cam => cam.duty ∈ Set.Icc (-1) 1) ⟨by norm_num, zero_le_one⟩
    fun _ hstep => (camStep_fields hstep).2.1
  disabled hoff := h.invariant (I := fun cam => cam.duty = 0) rfl
    fun _ hstep => (camStep_fields hstep).2.2 hoff

/-! ### Runs of the controller -/

/-- How a call reaches a cam, if it does. -/
def callOf (ch : Fin 4) : VvtCall → Option CamCall
  | .sense ch' deg => if ch' = ch then some (.sense deg) else none
  | .update rpm loadKpa oilPressureKpa oilTempC dtS =>
    some (.update rpm loadKpa oilPressureKpa oilTempC dtS)

theorem sense_of_callOf {ch : Fin 4} {call : VvtCall} {deg : ℚ}
    (h : callOf ch call = some (.sense deg)) : call = .sense ch deg := by
  cases call with
  | sense ch' deg' =>
    rw [callOf] at h
    split at h
    · next heq =>
      obtain rfl := CamCall.sense.inj (Option.some.inj h)
      rw [heq]
    · cases h
  | update rpm loadKpa oilPressureKpa oilTempC dtS => cases Option.some.inj h

/-- Whether a call finds too little oil pressure. -/
def lowPressure (controller : VvtController) (t : Transition VvtState VvtCall Unit) : Option Bool :=
  match t.event with
  | .update _ _ oilPressureKpa _ _ =>
    some (decide (oilPressureKpa < controller.config.minOilPressureKpa))
  | _ => none

theorem step_cam {call : VvtCall} (h : controller.step state call = some next) (ch : Fin 4) :
    (callOf ch call = none → next.cam ch = state.cam ch) ∧
    ∀ camCall, callOf ch call = some camCall →
      controller.camStep ch (state.cam ch) camCall = some (next.cam ch) := by
  cases call with
  | sense ch' deg =>
    obtain rfl := Option.some.inj h
    rw [callOf]
    by_cases heq : ch' = ch
    · subst heq
      rw [if_pos rfl]
      refine ⟨fun hnone => (nomatch hnone), fun camCall hcall => ?_⟩
      obtain rfl := Option.some.inj hcall
      simp [camStep, VvtState.cam, Vector.get_setFin]
    · rw [if_neg heq]
      refine ⟨fun _ => ?_, fun camCall hcall => nomatch hcall⟩
      simp [VvtState.cam, Vector.get_setFin, heq]
  | update rpm loadKpa oilPressureKpa oilTempC dtS =>
    refine ⟨fun hnone => (nomatch hnone), fun camCall hcall => ?_⟩
    obtain rfl := Option.some.inj hcall
    exact (update_cam h).2 ch

/-- Every cam starts from rest. -/
theorem cam_initial (ch : Fin 4) : ({} : VvtState).cam ch = {} := by
  simp only [VvtState.cam, Vector.get_replicate_fin]

/-- The controller, seen through one cam, is the controller of that cam. -/
theorem run_cam {tr : List (Transition VvtState VvtCall Unit)}
    (h : controller.vvt.Run {} tr state) (ch : Fin 4) : ∃ tr',
    (controller.cam ch).Run {} tr' (state.cam ch) ∧
      tr'.map Transition.event = (tr.map Transition.event).filterMap (callOf ch) := by
  rw [← cam_initial ch]
  refine h.project (VvtState.cam · ch) (callOf ch) fun t _ hstep => ?_
  obtain ⟨hnone, hsome⟩ := step_cam hstep ch
  exact ⟨hnone, fun camCall hcall => ⟨(), hsome camCall hcall⟩⟩

theorem step_errorFlag {call : VvtCall} (h : controller.step state call = some next) :
    next.errorFlag = (controller.lowPressure ⟨state, call, (), next⟩).getD state.errorFlag ∧
    ((state.errorFlag = true → ∀ ch, (state.cam ch).duty = 0) →
      next.errorFlag = true → ∀ ch, (next.cam ch).duty = 0) := by
  cases call with
  | sense ch' deg =>
    obtain rfl := Option.some.inj h
    exact ⟨rfl, id⟩
  | update rpm loadKpa oilPressureKpa oilTempC dtS =>
    obtain ⟨hflag, hcams⟩ := update_cam h
    refine ⟨hflag, fun _ hon ch => ?_⟩
    rw [hon] at hflag
    have hcam := hcams ch
    rw [camStep, if_pos (of_decide_eq_true hflag.symm)] at hcam
    rw [← Option.some.inj hcam]

/-- An update leaves the angle of a cam alone. -/
theorem actualDeg_camStep {ch : Fin 4} {cam cam' : Cam} {call : CamCall}
    (h : controller.camStep ch cam call = some cam') :
    call = .sense cam'.actualDeg ∨ cam'.actualDeg = cam.actualDeg := by
  cases call with
  | sense deg =>
    obtain rfl := Option.some.inj h
    exact .inl rfl
  | update rpm loadKpa oilPressureKpa oilTempC dtS =>
    refine .inr ?_
    rw [camStep] at h
    split at h
    · rw [← Option.some.inj h]
    · obtain ⟨ffOffset, -, hadjust⟩ := Option.bind_eq_some_iff.mp h
      rw [adjust] at hadjust
      split at hadjust
      · rw [← Option.some.inj hadjust]
      · obtain ⟨targetDeg, -, rfl⟩ := Option.map_eq_some_iff.mp hadjust
        dsimp only
        split <;> rfl

/-- Where the caller sets the angles that the sensors give, they stay less than a turn. -/
theorem actualDeg_mem_of_run {tr : List (Transition VvtState VvtCall Unit)}
    (h : controller.vvt.Run {} tr state)
    (hsensor : ∀ t ∈ tr, ∀ ch deg, t.event = .sense ch deg → ∃ risingNs fallingNs periodNs,
      deg = camAngleFromSensor risingNs fallingNs periodNs) (ch : Fin 4) :
    (state.cam ch).actualDeg ∈ Set.Ico 0 360 := by
  refine h.invariant_of_mem (I := fun state => (state.cam ch).actualDeg ∈ Set.Ico 0 360) ?_ ?_
  · rw [cam_initial]
    exact ⟨le_rfl, by norm_num⟩
  · intro t ht hstep hsrc
    obtain ⟨hnone, hsome⟩ := step_cam hstep ch
    cases hcall : callOf ch t.event with
    | none => rwa [hnone hcall]
    | some camCall =>
      rcases actualDeg_camStep (hsome camCall hcall) with rfl | heq
      · have hevent : t.event = .sense ch (t.dst.cam ch).actualDeg := sense_of_callOf hcall
        obtain ⟨risingNs, fallingNs, periodNs, hdeg⟩ := hsensor t ht ch _ hevent
        exact hdeg ▸ camAngleFromSensor_mem risingNs fallingNs periodNs
      · rwa [heq]

/-- **The controller is four controllers of one cam each.** Over a run of calls every channel is a
run of its own cam on the calls that reach it, so that two runs that reach a cam with the same calls
leave it alike; its duty is within the range of the solenoid, and zero where the channel is disabled
or the oil pressure was low in the last update. Its angle is less than a turn as long as it is set
to what the sensor gives. -/
theorem vvt_follows_cams (controller : VvtController)
    (tr : List (Transition VvtState VvtCall Unit)) (state : VvtState)
    (h : controller.vvt.Run {} tr state) :
    (∀ ch, ∃ tr', (controller.cam ch).Run {} tr' (state.cam ch) ∧
      tr'.map Transition.event = (tr.map Transition.event).filterMap (callOf ch) ∧
      controller.CamFollows ch tr' (state.cam ch)) ∧
    (∀ ch tr' state', controller.vvt.Run {} tr' state' →
      (tr.map Transition.event).filterMap (callOf ch) =
        (tr'.map Transition.event).filterMap (callOf ch) → state'.cam ch = state.cam ch) ∧
    state.errorFlag = (tr.filterMap controller.lowPressure).getLast?.getD false ∧
    (state.errorFlag = true → ∀ ch, (state.cam ch).duty = 0) ∧
    (∀ call, ∃ next, controller.step state call = some next) ∧
    ((∀ t ∈ tr, ∀ ch deg, t.event = .sense ch deg → ∃ risingNs fallingNs periodNs,
        deg = camAngleFromSensor risingNs fallingNs periodNs) →
      ∀ ch, (state.cam ch).actualDeg ∈ Set.Ico 0 360) := by
  refine ⟨fun ch => ?_, fun ch tr' state' h' hcalls => ?_, ?_, ?_, fun call => ?_,
    fun hsensor ch => actualDeg_mem_of_run h hsensor ch⟩
  · obtain ⟨tr', hrun, hevents⟩ := run_cam h ch
    exact ⟨tr', hrun, hevents, camFollows_of_run hrun⟩
  · obtain ⟨_, hrun, hevents⟩ := run_cam h ch
    obtain ⟨_, hrun', hevents'⟩ := run_cam h' ch
    exact hrun'.eq_of_events hrun (hevents'.trans (hcalls.symm.trans hevents.symm))
  · exact h.observe_getLast VvtState.errorFlag controller.lowPressure
      fun _ _ hstep => (step_errorFlag hstep).1
  · exact h.invariant
      (I := fun state => state.errorFlag = true → ∀ ch, (state.cam ch).duty = 0)
      (fun hon => (nomatch hon)) fun _ hstep => (step_errorFlag hstep).2
  · cases call with
    | sense ch deg => exact ⟨_, rfl⟩
    | update rpm loadKpa oilPressureKpa oilTempC dtS =>
      exact exists_update controller state _ _ _ _ _

/-- Two cams are sensed, and one of them is driven before the oil pressure drops. -/
theorem vvt_follows_cams_lowPressure : ∃ tr state, (vvt {}).Run {} tr state ∧
    state.errorFlag = true ∧ state.actualDeg = #v[10, 0, 0, 7] ∧
    ∀ ch, (state.cam ch).duty = 0 := by
  have hcalls : (TransitionSystem.partialTrace (step {}) {} [.sense 0 10, .sense 3 7,
      .update 3000 80 300 90 (1 / 50), .update 3000 80 50 90 (1 / 50)]).map
      (fun (_, state) => decide (state.errorFlag = true ∧ state.actualDeg = #v[10, 0, 0, 7])) =
      some true := by decide +kernel
  obtain ⟨⟨tr, state⟩, htrace, hcalls⟩ := Option.map_eq_some_iff.mp hcalls
  obtain ⟨hflag, hactual⟩ := of_decide_eq_true hcalls
  have hrun := TransitionSystem.run_partialTrace htrace
  exact ⟨tr, state, hrun, hflag, hactual, (vvt_follows_cams {} tr state hrun).2.2.2.1 hflag⟩

end VvtController

end StEcu
