import StEcu.Foundation.FixedPoint
import StEcu.Platform

/-!
# The live-data frame

The engine channels that the board reports and their wire format of 128 bytes
(`src/live_data.rs`): big-endian integers, most of them scaled and rounded values, with four pad
bytes.
-/

namespace StEcu

/-! ### Flags -/

namespace Status

/-- The engine runs. -/
def running : UInt32 := (1 : UInt32) <<< 0

/-- The fuel is corrected by lambda. -/
def closedLoop : UInt32 := (1 : UInt32) <<< 5

/-- Flat shift is active. -/
def flatShift : UInt32 := (1 : UInt32) <<< 9

/-- Fuel is cut against too much boost. -/
def boostCutFuel : UInt32 := (1 : UInt32) <<< 10

/-- Spark is cut against too much boost. -/
def boostCutSpark : UInt32 := (1 : UInt32) <<< 11

/-- The CAN bus is in use. -/
def canActive : UInt32 := (1 : UInt32) <<< 19

/-- A host is connected over USB. -/
def usbConnected : UInt32 := (1 : UInt32) <<< 20

/-- The warning lamp is on. -/
def checkEngine : UInt32 := (1 : UInt32) <<< 21

/-- The engine turns too fast. -/
def overrev : UInt32 := (1 : UInt32) <<< 23

/-- Rotational idle cuts cylinders. -/
def rotationalIdleActive : UInt32 := (1 : UInt32) <<< 24

/-- Rotational idle waits to become active. -/
def rotationalIdleArmed : UInt32 := (1 : UInt32) <<< 25

/-- The heater of the lambda sensor is warm. -/
def widebandHeaterReady : UInt32 := (1 : UInt32) <<< 26

/-- Lambda comes from the controller of the board. -/
def widebandIntegratedActive : UInt32 := (1 : UInt32) <<< 27

/-- Lambda comes from the analog input. -/
def widebandAnalogFallback : UInt32 := (1 : UInt32) <<< 28

/-- Lambda comes from a module on the bus. -/
def widebandExternalActive : UInt32 := (1 : UInt32) <<< 29

end Status

namespace TransmissionStatus

/-- The transmission controller answers. -/
def tcuLinkOnline : UInt8 := (1 : UInt8) <<< 0

/-- A shift is under way. -/
def shiftInProgress : UInt8 := (1 : UInt8) <<< 1

/-- The torque is reduced for a shift. -/
def torqueInterventionActive : UInt8 := (1 : UInt8) <<< 2

/-- The torque is to be reduced for a shift. -/
def torqueInterventionRequested : UInt8 := (1 : UInt8) <<< 3

/-- What the transmission controller sends is recent. -/
def rxStreamFresh : UInt8 := (1 : UInt8) <<< 4

/-- What is sent to the transmission controller is recent. -/
def txStreamFresh : UInt8 := (1 : UInt8) <<< 5

end TransmissionStatus

namespace Protect

/-- The engine speed is too high. -/
def rpm : UInt8 := (1 : UInt8) <<< 0

/-- The manifold pressure is too high. -/
def map : UInt8 := (1 : UInt8) <<< 1

/-- The oil pressure is too low. -/
def oil : UInt8 := (1 : UInt8) <<< 2

/-- The mixture is too lean. -/
def afr : UInt8 := (1 : UInt8) <<< 3

/-- The coolant is too hot. -/
def coolant : UInt8 := (1 : UInt8) <<< 4

end Protect

namespace ErrorFlag

/-- The first lambda sensor fails. -/
def o2Primary : UInt16 := (1 : UInt16) <<< 5

/-- The second lambda sensor fails. -/
def o2Secondary : UInt16 := (1 : UInt16) <<< 6

/-- An injector fails. -/
def injector : UInt16 := (1 : UInt16) <<< 9

/-- The ignition fails. -/
def ignition : UInt16 := (1 : UInt16) <<< 10

/-- Some error is critical. -/
def critical : UInt16 := (1 : UInt16) <<< 15

end ErrorFlag

/-! ### The frame -/

/-- The channels of a live sample. -/
structure LiveDataFrame where
  timestampMs : UInt32 := 0
  rpm : ℚ := 0
  rpmAccel : ℚ := 0
  syncLossCounter : UInt8 := 0
  mapKpa : ℚ := 0
  baroKpa : ℚ := 0
  oilPressureKpa : ℚ := 0
  fuelPressureKpa : ℚ := 0
  boostKpa : ℚ := 0
  coolantC : ℚ := 0
  intakeC : ℚ := 0
  oilTempC : ℚ := 0
  fuelTempC : ℚ := 0
  auxTemp1C : ℚ := 0
  auxTemp2C : ℚ := 0
  mcuTempC : ℚ := 0
  tpsPct : ℚ := 0
  pedalPct : ℚ := 0
  fuelLoad : ℚ := 0
  ignLoad : ℚ := 0
  lambda : ℚ := 0
  lambda2 : ℚ := 0
  afrTarget : ℚ := 0
  injectorDutyPct : ℚ := 0
  vePct : ℚ := 0
  fuelCorrectionPct : ℚ := 0
  accelEnrichPct : ℚ := 0
  actualPulsewidthMs : ℚ := 0
  wallFuelMg : ℚ := 0
  advanceDeg : ℚ := 0
  dwellMs : ℚ := 0
  injectionOffsetDeg : ℚ := 0
  vbatt : ℚ := 0
  vrefMv : ℚ := 0
  vssKmh : ℚ := 0
  gear : UInt8 := 0
  vvtB1IntakeDeg : ℚ := 0
  vvtB1ExhaustDeg : ℚ := 0
  vvtB2IntakeDeg : ℚ := 0
  vvtB2ExhaustDeg : ℚ := 0
  knockLevel : UInt8 := 0
  knockRetardDeg : ℚ := 0
  boostTargetKpa : ℚ := 0
  boostDutyPct : UInt8 := 0
  idleTargetRpm : UInt16 := 0
  idleValvePct : UInt8 := 0
  correctionIat : ℚ := 0
  correctionClt : ℚ := 0
  correctionBaro : ℚ := 0
  correctionFlex : ℚ := 0
  statusFlags : UInt32 := 0
  protectFlags : UInt8 := 0
  errorFlags : UInt16 := 0
  liveFrameSeq : UInt8 := 0
  revolutionCounter : UInt16 := 0
  loopsPerSec : UInt16 := 0
  freeHeapPct : UInt8 := 0
  rotationalIdleCutPct : UInt8 := 0
  rotationalIdleTimerCs : UInt16 := 0
  rotationalIdleActiveCylinders : UInt8 := 0
  rotationalIdleGateCode : UInt8 := 0
  rotationalIdleSyncGuardEvents : UInt8 := 0
  transmissionStatusFlags : UInt8 := 0
  transmissionRequestedGear : UInt8 := 0
  transmissionTorqueReductionPct : UInt8 := 0
  transmissionTorqueReductionTimerCs : UInt16 := 0
  transmissionShiftResultCode : UInt8 := 0
  transmissionShiftRequestCounter : UInt8 := 0
  transmissionShiftTimeoutCounter : UInt8 := 0
  transmissionShiftFaultCode : UInt8 := 0
  transmissionStateCode : UInt8 := 0
  transmissionRequestAgeCs : UInt16 := 0
  transmissionAckCounter : UInt8 := 0

/-- The wire format. A cast to an unsigned byte saturates, so the duty cycle, which is not clamped
from below, needs no rule of its own. -/
def LiveDataFrame.encode (frame : LiveDataFrame) : Bytes :=
  u32ToBe frame.timestampMs ++ scaledU16 1 frame.rpm ++ scaledI16 1 frame.rpmAccel ++
    [frame.syncLossCounter] ++ [0] ++ scaledU16 10 frame.mapKpa ++ scaledU16 10 frame.baroKpa ++
    scaledU16 10 frame.oilPressureKpa ++ scaledU16 10 frame.fuelPressureKpa ++
    scaledI16 10 frame.boostKpa ++ scaledI16 10 frame.coolantC ++ scaledI16 10 frame.intakeC ++
    scaledI16 10 frame.oilTempC ++ scaledI16 10 frame.fuelTempC ++ scaledI16 10 frame.auxTemp1C ++
    scaledI16 10 frame.auxTemp2C ++ scaledI8 1 frame.mcuTempC ++ [0] ++
    scaledI16 100 frame.tpsPct ++ scaledI16 100 frame.pedalPct ++ scaledI16 100 frame.fuelLoad ++
    scaledI16 100 frame.ignLoad ++ scaledU16 10000 frame.lambda ++
    scaledU16 10000 frame.lambda2 ++ scaledU16 100 frame.afrTarget ++
    scaledU8 2 frame.injectorDutyPct ++ scaledU8 1 frame.vePct ++
    scaledI16 100 frame.fuelCorrectionPct ++ scaledU8 1 frame.accelEnrichPct ++ [0] ++
    scaledU16 1000 frame.actualPulsewidthMs ++ scaledU16 100 frame.wallFuelMg ++
    scaledI16 10 frame.advanceDeg ++ scaledU16 1000 frame.dwellMs ++
    scaledI16 1 frame.injectionOffsetDeg ++ scaledU16 100 frame.vbatt ++
    scaledI16 1000 frame.vrefMv ++ scaledU16 1 frame.vssKmh ++ [frame.gear] ++ [0] ++
    scaledI16 10 frame.vvtB1IntakeDeg ++ scaledI16 10 frame.vvtB1ExhaustDeg ++
    scaledI16 10 frame.vvtB2IntakeDeg ++ scaledI16 10 frame.vvtB2ExhaustDeg ++
    [frame.knockLevel] ++ scaledI8 1 frame.knockRetardDeg ++ scaledU16 10 frame.boostTargetKpa ++
    [frame.boostDutyPct] ++ u16ToBe frame.idleTargetRpm ++ [frame.idleValvePct] ++
    scaledI16 100 frame.correctionIat ++ scaledI16 100 frame.correctionClt ++
    scaledI16 100 frame.correctionBaro ++ scaledI16 100 frame.correctionFlex ++
    u32ToBe frame.statusFlags ++ [frame.protectFlags] ++ u16ToBe frame.errorFlags ++
    [frame.liveFrameSeq] ++ u16ToBe frame.revolutionCounter ++ u16ToBe frame.loopsPerSec ++
    [frame.freeHeapPct] ++ [frame.rotationalIdleCutPct] ++ u16ToBe frame.rotationalIdleTimerCs ++
    [frame.rotationalIdleActiveCylinders] ++ [frame.rotationalIdleGateCode] ++
    [frame.rotationalIdleSyncGuardEvents] ++ [frame.transmissionStatusFlags] ++
    [frame.transmissionRequestedGear] ++ [frame.transmissionTorqueReductionPct] ++
    u16ToBe frame.transmissionTorqueReductionTimerCs ++ [frame.transmissionShiftResultCode] ++
    [frame.transmissionShiftRequestCounter] ++ [frame.transmissionShiftTimeoutCounter] ++
    [frame.transmissionShiftFaultCode] ++ [frame.transmissionStateCode] ++
    u16ToBe frame.transmissionRequestAgeCs ++ [frame.transmissionAckCounter]

end StEcu
