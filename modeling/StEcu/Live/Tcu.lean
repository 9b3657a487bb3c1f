import StEcu.Foundation.Saturating
import StEcu.Live.Frame

/-!
# The external transmission controller

The shift requests the board makes to an external transmission controller and what becomes of them
(`src/tcu.rs`). One tick is one live sample.
-/

namespace StEcu

/-- What a tick reports of the transmission. -/
structure TransmissionSample where
  statusFlags : UInt8
  requestedGear : UInt8
  torqueReductionPct : UInt8
  torqueReductionTimerCs : UInt16
  shiftResultCode : UInt8
  shiftRequestCounter : UInt8
  shiftTimeoutCounter : UInt8
  shiftFaultCode : UInt8
  stateCode : UInt8
  requestAgeCs : UInt16
  ackCounter : UInt8
  deriving DecidableEq, Repr

/-- What the runtime remembers of the transmission controller and its shift. -/
structure ExternalTcuRuntime where
  shiftActive : Bool := false
  shiftTimerCs : UInt16 := 0
  shiftRequestCounter : UInt8 := 0
  shiftTimeoutCounter : UInt8 := 0
  shiftFaultCode : UInt8 := 0
  stateCode : UInt8 := 0
  requestAgeCs : UInt16 := 0
  ackCounter : UInt8 := 0
  requestedGear : UInt8 := 0
  shiftResultCode : UInt8 := 0
  holdTicks : UInt8 := 0
  rxStreamFresh : Bool := false
  txStreamFresh : Bool := false
  deriving DecidableEq, Repr

namespace ExternalTcuRuntime

/-- The age at which a request has timed out. -/
def timeoutRequestCs : UInt16 := 62

/-- How many ticks the result of a shift stays. -/
def resultHoldTicks : UInt8 := 8

variable (t : ExternalTcuRuntime)

/-- The controller has begun the shift. -/
def shiftInProgress : Bool := t.shiftActive && 3 ≤ t.stateCode

/-- The next shift requested. -/
def startShiftRequest : ExternalTcuRuntime :=
  let counter := t.shiftRequestCounter + 1
  { t with
    shiftActive := true
    shiftRequestCounter := counter
    -- every fifth request is stretched so that it runs into the timeout
    shiftTimerCs := if counter % 5 = 0 then timeoutRequestCs + 8 else 36
    shiftFaultCode := 0
    shiftResultCode := 0
    stateCode := 1
    requestAgeCs := 0
    requestedGear := counter % 6 + 1 }

/-- A shift ended with a fault. -/
def raiseFault (faultCode stateCode resultCode : UInt8) (clearGear : Bool) : ExternalTcuRuntime :=
  { t with
    shiftActive := false
    shiftTimerCs := 0
    shiftFaultCode := faultCode
    stateCode
    shiftResultCode := resultCode
    requestAgeCs := 0
    requestedGear := if clearGear then 0 else t.requestedGear
    holdTicks := resultHoldTicks }

/-- The result of a shift cleared. -/
def clearToIdle : ExternalTcuRuntime :=
  { t with
    stateCode := 0, shiftFaultCode := 0, shiftResultCode := 0, requestedGear := 0
    requestAgeCs := 0 }

/-- Which of the two streams is recent, by the sample counter. -/
def computeStreamFreshness (sampleCounter : UInt32) (linkOnline : Bool) : Bool × Bool :=
  if !linkOnline then (false, false)
  else (!(sampleCounter % 170 < 10), !(sampleCounter % 210 < 10))

/-- One tick of a shift under way: a fault, its end, or the next state. -/
def stepActiveShift (rxStreamFresh txStreamFresh : Bool) : ExternalTcuRuntime :=
  let age := t.requestAgeCs.saturatingAdd 2
  let stateCode := if 18 ≤ age then 3 else if 8 ≤ age then 2 else t.stateCode
  let t := { t with
    requestAgeCs := age, stateCode, shiftTimerCs := t.shiftTimerCs.saturatingSub 2 }
  let counter := t.shiftRequestCounter
  if counter % 5 ≠ 0 ∧ !rxStreamFresh ∧ 10 ≤ age then t.raiseFault 7 5 5 false
  else if counter % 5 ≠ 0 ∧ !txStreamFresh ∧ 14 ≤ age then t.raiseFault 8 5 5 false
  else if counter % 11 = 0 ∧ 14 ≤ age then t.raiseFault 4 5 4 false
  else if counter % 7 = 0 ∧ 10 ≤ age then t.raiseFault 3 5 3 false
  else if timeoutRequestCs ≤ age then
    { t with shiftTimeoutCounter := t.shiftTimeoutCounter + 1 }.raiseFault 2 5 2 true
  else if 46 ≤ age ∧ counter % 13 = 0 then t.raiseFault 6 5 5 false
  else if t.shiftTimerCs = 0 then
    { t with
      shiftActive := false, shiftResultCode := 1, stateCode := 4, ackCounter := t.ackCounter + 1
      requestedGear := 0, requestAgeCs := 0, holdTicks := resultHoldTicks }
  else t

/-- A tick without a link: a request in progress fails, and a hold of two ticks begins. -/
def tickOffline : ExternalTcuRuntime :=
  let t := if t.shiftActive || t.requestedGear > 0 then t.raiseFault 1 6 5 false
    else { t with stateCode := 6 }
  { t with
    shiftActive := false, shiftTimerCs := 0, requestAgeCs := 0, requestedGear := 0
    holdTicks := max t.holdTicks 2 }

/-- A tick with a link: a due request starts, a request in progress steps, a hold counts down. -/
def tickOnline (sampleCounter : UInt32) : ExternalTcuRuntime :=
  let t := if t.stateCode = 6 ∧ t.holdTicks = 0 then t.clearToIdle else t
  let t := if !t.shiftActive ∧ t.holdTicks = 0 ∧ sampleCounter % 30 = 1 then t.startShiftRequest
    else t
  if t.shiftActive then t.stepActiveShift t.rxStreamFresh t.txStreamFresh
  else if t.holdTicks > 0 then
    let t := { t with holdTicks := t.holdTicks - 1 }
    if t.holdTicks = 0 ∧ t.stateCode ≠ 6 then t.clearToIdle else t
  else t

/-- What the board reports of the controller. -/
def sample (linkOnline : Bool) : TransmissionSample :=
  let flag (b : Bool) (mask : UInt8) : UInt8 := if b then mask else 0
  let shifting := t.shiftActive && 3 ≤ t.stateCode
  { statusFlags :=
      flag linkOnline TransmissionStatus.tcuLinkOnline |||
        flag t.rxStreamFresh TransmissionStatus.rxStreamFresh |||
        flag t.txStreamFresh TransmissionStatus.txStreamFresh |||
        flag t.shiftActive TransmissionStatus.torqueInterventionRequested |||
        flag shifting TransmissionStatus.shiftInProgress |||
        flag shifting TransmissionStatus.torqueInterventionActive
    requestedGear := t.requestedGear
    torqueReductionPct :=
      if t.shiftActive ∧ 2 ≤ t.stateCode then (if 3 ≤ t.stateCode then 26 else 14) else 0
    torqueReductionTimerCs := t.shiftTimerCs
    shiftResultCode := t.shiftResultCode
    shiftRequestCounter := t.shiftRequestCounter
    shiftTimeoutCounter := t.shiftTimeoutCounter
    shiftFaultCode := t.shiftFaultCode
    stateCode := t.stateCode
    requestAgeCs := t.requestAgeCs
    ackCounter := t.ackCounter }

/-- One tick: the link, then the shift under way, or the hold of the last result, or the next
request. -/
def tick (sampleCounter : UInt32) : ExternalTcuRuntime × TransmissionSample :=
  let linkOnline : Bool := 12 ≤ sampleCounter % 240
  let (rxStreamFresh, txStreamFresh) := computeStreamFreshness sampleCounter linkOnline
  let t := { t with rxStreamFresh, txStreamFresh }
  let t := if linkOnline then t.tickOnline sampleCounter else t.tickOffline
  (t, t.sample linkOnline)

end ExternalTcuRuntime

end StEcu
