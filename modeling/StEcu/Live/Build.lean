import StEcu.Live.Actuator
import StEcu.Live.Protection
import StEcu.Live.RotationalIdle
import StEcu.Live.Tcu
import StEcu.Live.Wideband

/-!
# Building a live-data frame

One live sample (`build_live_data_frame` in `src/transport.rs`): the external controller, the
wideband controller, the protection limits and rotational idle each take a tick, and the frame
records what they report. The frame is built in stages, in the order of the source.

## Main definitions

* `LiveState`: the state that only live samples change.
* `buildLiveDataFrame`.

## Main results

* `actuatorStage_eq`, `widebandStage_eq`, `protectionStage_eq`, `rotationalStage_eq`: the fields of
  the frame that each stage changes.
-/

namespace StEcu

/-- The counters and the runtimes behind the live samples. -/
structure LiveState where
  liveSampleCounter : UInt32 := 0
  lastReportedRpm : ℚ := 0
  syncLossCounter : UInt8 := 0
  tcuRuntime : ExternalTcuRuntime := {}
  rotationalIdleRuntime : RotationalIdleRuntime := {}
  widebandRuntime : WidebandRuntime := {}
  protectionConfig : ProtectionConfig := {}
  protectionState : ProtectionState := {}

/-- Milliseconds since the board started, at 20 ms for each live sample. -/
def LiveState.currentRuntimeMs (live : LiveState) : UInt32 :=
  live.liveSampleCounter.saturatingMul 20

/-- Some protection has set its flag. -/
def LiveState.protectionActive (live : LiveState) : Bool :=
  live.protectionState.rpmProtect || live.protectionState.mapProtect ||
    live.protectionState.oilProtect || live.protectionState.afrProtect ||
    live.protectionState.coolantProtect || live.protectionState.egtProtect

/-- The channels that depend on the sample counter and on whether a shift is in progress. -/
def engineFrame (counter : UInt32) (timestampMs : UInt32) (syncLossCounter : UInt8)
    (shifting : Bool) : LiveDataFrame :=
  let pick (a b : ℚ) : ℚ := if shifting then a else b
  let mapKpa := pick 62 36
  let baroKpa : ℚ := 1004 / 10
  let fuelLoad := clampRat (mapKpa / max baroKpa 1 * 100) 10 250
  let intakeC : ℚ := 43
  let coolantC : ℚ := 885 / 10
  { timestampMs
    liveFrameSeq := counter.toUInt8
    syncLossCounter
    rpm := pick 2150 980
    vssKmh := pick 46 44
    tpsPct := pick 24 (35 / 10)
    mapKpa
    baroKpa
    boostKpa := mapKpa - baroKpa
    oilPressureKpa := pick 255 298
    fuelPressureKpa := 392
    coolantC
    intakeC
    oilTempC := 92
    fuelTempC := 37
    auxTemp1C := 805 + (counter % 8).toNat
    auxTemp2C := 790 + (counter % 6).toNat
    afrTarget := 147 / 10
    vbatt := clampRat (138 / 10 + (counter % 11).toNat * (3 / 100) - 12 / 100) (115 / 10) (152 / 10)
    vrefMv := 5
    advanceDeg := pick 8 (135 / 10)
    fuelLoad
    ignLoad := fuelLoad
    vePct := clampRat (52 + fuelLoad * (21 / 100)) 35 120
    idleTargetRpm := 980
    idleValvePct := 34
    statusFlags :=
      Status.running ||| Status.canActive ||| Status.usbConnected ||| Status.closedLoop |||
        (if shifting then Status.flatShift else 0)
    correctionIat := clampRat ((intakeC - 25) * (-12 / 100)) (-8) 8
    correctionClt := if coolantC < 80 then clampRat ((80 - coolantC) * (12 / 100)) 0 8 else 0
    correctionBaro := clampRat ((baroKpa - 1013 / 10) * (8 / 100)) (-5) 5
    correctionFlex := 0 }

/-- Raises an error flag, and the check-engine status with it. -/
def LiveDataFrame.raiseError (frame : LiveDataFrame) (flag : UInt16) : LiveDataFrame :=
  { frame with
    errorFlags := frame.errorFlags ||| flag
    statusFlags := frame.statusFlags ||| Status.checkEngine }

/-- A status flag set. -/
def LiveDataFrame.setStatus (frame : LiveDataFrame) (flag : UInt32) : LiveDataFrame :=
  { frame with statusFlags := frame.statusFlags ||| flag }

/-- Injector pulse width, duty and coil dwell. -/
def actuatorStage (P : Platform) (config : ActuatorRuntimeConfig) (shifting : Bool)
    (frame : LiveDataFrame) : LiveDataFrame :=
  let flowScale := clampRat (460 / max config.injectorFlowCcMin 50) (35 / 100) (24 / 10)
  let basePulsewidthMs :=
    (if shifting then (29 / 10 : ℚ)
      else 165 / 100 + frame.tpsPct * (11 / 1000) + max (frame.mapKpa - 30) 0 * (6 / 1000)) *
      flowScale
  let deadtimeMs :=
    injectorDeadtimeForConditionsMs config.injectorDeadtime14vMs frame.vbatt frame.fuelTempC
  let requestedMs := basePulsewidthMs + deadtimeMs
  let actualMs := clampRat requestedMs actuatorPulsewidthBoundsMs.1 actuatorPulsewidthBoundsMs.2
  let frame := { frame with actualPulsewidthMs := actualMs }
  let frame := if (1 / 1000 : ℚ) < |actualMs - requestedMs| then frame.raiseError ErrorFlag.injector
    else frame
  let eventCycleMs : ℚ := max (120000 / max frame.rpm 1) 1
  let frame := { frame with
    injectorDutyPct := clampRat (frame.actualPulsewidthMs / eventCycleMs * 100) 0 (995 / 10) }
  let frame :=
    if (95 : ℚ) < frame.injectorDutyPct then frame.raiseError ErrorFlag.injector else frame
  let (requestedDwellMs, boundedDwellMs) :=
    dwellForConditionsMs P config frame.vbatt frame.coolantC
  let frame := { frame with dwellMs := boundedDwellMs }
  if (1 / 1000 : ℚ) < |boundedDwellMs - requestedDwellMs| then frame.raiseError ErrorFlag.ignition
  else frame

/-- What the lambda controller adds to a frame. -/
def widebandStage (sample : WidebandSample) (frame : LiveDataFrame) : LiveDataFrame :=
  let frame := { frame with lambda := sample.lambdaPrimary, lambda2 := sample.lambdaSecondary }
  let frame := if sample.heaterReady then frame.setStatus Status.widebandHeaterReady else frame
  let frame := if sample.integratedActive then frame.setStatus Status.widebandIntegratedActive
    else frame
  let frame := if sample.analogFallback then frame.setStatus Status.widebandAnalogFallback
    else frame
  let frame := if sample.source = .externalModule then
    frame.setStatus Status.widebandExternalActive else frame
  let frame := if sample.primaryFault then frame.raiseError ErrorFlag.o2Primary else frame
  if sample.secondaryFault then frame.raiseError ErrorFlag.o2Secondary else frame

/-- The readings of a frame that the protection limits look at. -/
def LiveDataFrame.protectionInputs (frame : LiveDataFrame) : ProtectionInputs where
  rpm := frame.rpm
  mapKpa := frame.mapKpa
  oilPressureKpa := frame.oilPressureKpa
  coolantC := frame.coolantC
  afr := if 5 / 100 < frame.lambda then frame.lambda * (147 / 10) else max frame.afrTarget 1
  egt1C := frame.auxTemp1C
  egt2C := frame.auxTemp2C

/-- The byte of the protections that act. -/
def protectFlags (state : ProtectionState) : UInt8 :=
  let flag (b : Bool) (mask : UInt8) : UInt8 := if b then mask else 0
  flag state.rpmProtect Protect.rpm ||| flag state.mapProtect Protect.map |||
    flag state.oilProtect Protect.oil ||| flag state.afrProtect Protect.afr |||
    flag state.coolantProtect Protect.coolant

/-- What a protection action does to the frame. -/
def applyProtectionAction (action : ProtectionAction) (frame : LiveDataFrame) : LiveDataFrame :=
  match action with
  | .none => frame
  | .ignitionRetard => { frame with advanceDeg := min frame.advanceDeg (-8) }
  | .sparkCut => frame.setStatus (Status.boostCutSpark ||| Status.overrev)
  | .fuelEnrich => { frame with fuelCorrectionPct := max frame.fuelCorrectionPct 5 }
  | .fuelCut =>
    { frame.setStatus Status.boostCutFuel with actualPulsewidthMs := 0, injectorDutyPct := 0 }
  | .sparkAndFuelCut =>
    { frame.setStatus (Status.boostCutSpark ||| Status.boostCutFuel ||| Status.overrev) with
      actualPulsewidthMs := 0, injectorDutyPct := 0, dwellMs := 0 }
  | .limpMode =>
    { frame.setStatus (Status.boostCutSpark ||| Status.boostCutFuel) with
      rpm := min frame.rpm 2500
      tpsPct := min frame.tpsPct 30
      actualPulsewidthMs := min frame.actualPulsewidthMs (45 / 10)
      injectorDutyPct := min frame.injectorDutyPct 35
      dwellMs := min frame.dwellMs (24 / 10) }
  | .shutdown =>
    { frame with
      statusFlags :=
        (frame.statusFlags ||| Status.boostCutSpark ||| Status.boostCutFuel) &&&
          ~~~Status.running
      errorFlags := frame.errorFlags ||| ErrorFlag.critical
      rpm := 0
      tpsPct := 0
      mapKpa := frame.baroKpa
      actualPulsewidthMs := 0
      injectorDutyPct := 0
      dwellMs := 0 }

/-- What the protections add to a frame. -/
def protectionStage (state : ProtectionState) (action : ProtectionAction) (frame : LiveDataFrame) :
    LiveDataFrame :=
  let frame := { frame with protectFlags := protectFlags state }
  let frame := if action ≠ .none then frame.setStatus Status.checkEngine else frame
  let frame := if 1 < state.fuelEnrichFactor then
    { frame with fuelCorrectionPct := clampRat ((state.fuelEnrichFactor - 1) * 100) 0 100 }
    else frame
  applyProtectionAction action frame

/-- What rotational idle adds to a frame. -/
def rotationalStage (sample : RotationalIdleSample) (frame : LiveDataFrame) : LiveDataFrame :=
  let frame := if sample.active then frame.setStatus Status.rotationalIdleActive else frame
  let frame := if sample.armed then frame.setStatus Status.rotationalIdleArmed else frame
  { frame with
    rotationalIdleCutPct := sample.cutPct
    rotationalIdleTimerCs := sample.timerCs
    rotationalIdleActiveCylinders := sample.activeCylinders
    rotationalIdleGateCode := sample.gateReasonCode
    rotationalIdleSyncGuardEvents := sample.syncGuardEvents }

/-- What the transmission adds to a frame. -/
def transmissionStage (sample : TransmissionSample) (frame : LiveDataFrame) : LiveDataFrame :=
  { frame with
    transmissionStatusFlags := sample.statusFlags
    transmissionRequestedGear := sample.requestedGear
    transmissionTorqueReductionPct := sample.torqueReductionPct
    transmissionTorqueReductionTimerCs := sample.torqueReductionTimerCs
    transmissionShiftResultCode := sample.shiftResultCode
    transmissionShiftRequestCounter := sample.shiftRequestCounter
    transmissionShiftTimeoutCounter := sample.shiftTimeoutCounter
    transmissionShiftFaultCode := sample.shiftFaultCode
    transmissionStateCode := sample.stateCode
    transmissionRequestAgeCs := sample.requestAgeCs
    transmissionAckCounter := sample.ackCounter }

/-- The live state after one sample, and the frame; the actuator settings are those of the staged
page 0, if there is one. -/
def buildLiveDataFrame (P : Platform) (live : LiveState) (page0 : Option Bytes) :
    LiveState × LiveDataFrame :=
  let counter := live.liveSampleCounter + 1
  let syncLossCounter :=
    if counter % 190 = 0 then live.syncLossCounter + 1 else live.syncLossCounter
  let (tcuRuntime, tcu) := live.tcuRuntime.tick counter
  let shifting := tcuRuntime.shiftInProgress
  let config := (page0.map parsePage0ActuatorConfig).getD {}
  let frame := actuatorStage P config shifting
    (engineFrame counter (counter.saturatingMul 20) syncLossCounter shifting)
  let (widebandRuntime, wideband) := live.widebandRuntime.tick counter (450 < frame.rpm)
  let frame := widebandStage wideband frame
  let (protectionState, action) :=
    live.protectionConfig.evaluate live.protectionState frame.protectionInputs
  let frame := protectionStage protectionState action frame
  let (rotationalIdleRuntime, rotational) :=
    live.rotationalIdleRuntime.tick counter frame.auxTemp1C frame.tpsPct frame.syncLossCounter
      (frame.protectFlags != 0 || tcu.shiftFaultCode == 5)
  let frame := transmissionStage tcu (rotationalStage rotational frame)
  ({ live with
      liveSampleCounter := counter
      lastReportedRpm := frame.rpm
      syncLossCounter, tcuRuntime, rotationalIdleRuntime, widebandRuntime, protectionState },
    frame)

/-! ### What the stages change -/

namespace LiveDataFrame

variable (c : Prop) [Decidable c] (frame : LiveDataFrame)

theorem ite_setStatus (flag : UInt32) : (if c then frame.setStatus flag else frame) =
    { frame with statusFlags := if c then frame.statusFlags ||| flag else frame.statusFlags } := by
  split_ifs <;> rfl

theorem ite_raiseError (flag : UInt16) : (if c then frame.raiseError flag else frame) =
    { frame with
      errorFlags := if c then frame.errorFlags ||| flag else frame.errorFlags
      statusFlags :=
        if c then frame.statusFlags ||| Status.checkEngine else frame.statusFlags } := by
  split_ifs <;> rfl

end LiveDataFrame

open LiveDataFrame

/-- What the stage of the actuators changes. -/
theorem actuatorStage_eq (P : Platform) (config : ActuatorRuntimeConfig) (shifting : Bool)
    (frame : LiveDataFrame) :
    ∃ actualPulsewidthMs injectorDutyPct dwellMs statusFlags errorFlags,
      actuatorStage P config shifting frame =
        { frame with actualPulsewidthMs, injectorDutyPct, dwellMs, statusFlags, errorFlags } := by
  rw [actuatorStage]
  simp only [ite_raiseError]
  exact ⟨_, _, _, _, _, rfl⟩

/-- What the stage of the lambda sensors changes. -/
theorem widebandStage_eq (sample : WidebandSample) (frame : LiveDataFrame) :
    ∃ statusFlags errorFlags, widebandStage sample frame =
      { frame with
        lambda := sample.lambdaPrimary, lambda2 := sample.lambdaSecondary
        statusFlags, errorFlags } := by
  rw [widebandStage]
  simp only [ite_raiseError, ite_setStatus]
  exact ⟨_, _, rfl⟩

/-- What the stage of the protection changes before the action is taken. -/
theorem protectionStage_eq (state : ProtectionState) (action : ProtectionAction)
    (frame : LiveDataFrame) :
    ∃ statusFlags fuelCorrectionPct, protectionStage state action frame =
      applyProtectionAction action
        { frame with protectFlags := protectFlags state, statusFlags, fuelCorrectionPct } := by
  rw [protectionStage]
  simp only [ite_setStatus]
  split_ifs <;> exact ⟨_, _, rfl⟩

/-- What the stage of the rotational idle changes. -/
theorem rotationalStage_eq (sample : RotationalIdleSample) (frame : LiveDataFrame) :
    ∃ statusFlags, rotationalStage sample frame =
      { frame with
        statusFlags
        rotationalIdleCutPct := sample.cutPct
        rotationalIdleTimerCs := sample.timerCs
        rotationalIdleActiveCylinders := sample.activeCylinders
        rotationalIdleGateCode := sample.gateReasonCode
        rotationalIdleSyncGuardEvents := sample.syncGuardEvents } := by
  rw [rotationalStage]
  simp only [ite_setStatus]
  exact ⟨_, rfl⟩

end StEcu
