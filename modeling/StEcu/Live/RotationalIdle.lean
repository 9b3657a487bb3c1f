import StEcu.Foundation.FixedPoint
import StEcu.Foundation.Saturating

/-!
# Rotational idle

The cylinder-cut idle and the gates that hold it back (`src/rotational_idle.rs`).
-/

namespace StEcu

/-- What a tick reports. -/
structure RotationalIdleSample where
  active : Bool
  armed : Bool
  cutPct : UInt8
  timerCs : UInt16
  activeCylinders : UInt8
  gateReasonCode : UInt8
  syncGuardEvents : UInt8
  deriving DecidableEq, Repr

/-- What the runtime remembers from tick to tick. -/
structure RotationalIdleRuntime where
  enabled : Bool := true
  active : Bool := false
  armed : Bool := false
  activationDelayCs : UInt16 := 0
  timerCs : UInt16 := 0
  cutPct : UInt8 := 0
  activeCylinders : UInt8 := 0
  gateReasonCode : UInt8 := 1
  lastSyncLossCounter : UInt8 := 0
  schedulerSlot : UInt8 := 0
  activationCount : UInt16 := 0
  timeoutCount : UInt16 := 0
  syncGuardEventsTotal : UInt16 := 0
  totalActiveTimeCs : UInt32 := 0
  lastGateReasonCode : UInt8 := 1
  gateReasonHistogram : List UInt16 := List.replicate 16 0
  deriving DecidableEq, Repr

namespace RotationalIdleRuntime

/-- The exhaust temperature from which rotational idle may run. -/
def minEgtC : ℚ := 780

/-- The engine demand up to which rotational idle may run. -/
def maxEngineDemandPct : ℚ := 8

variable (r : RotationalIdleRuntime)

/-- What the runtime reports. -/
def sample : RotationalIdleSample where
  active := r.active
  armed := r.armed
  cutPct := r.cutPct
  timerCs := r.timerCs
  activeCylinders := r.activeCylinders
  gateReasonCode := r.gateReasonCode
  syncGuardEvents := (min r.syncGuardEventsTotal 255).toUInt8

/-- Rotational idle switched off, for a reason. -/
def deactivate (gateReasonCode : UInt8) : RotationalIdleRuntime :=
  { r with
    active := false, armed := false, activationDelayCs := 0, timerCs := 0, cutPct := 0
    activeCylinders := 0, gateReasonCode }

/-- A reason not to run: it is counted, and rotational idle switched off. -/
def applyGate (gateReasonCode : UInt8) : RotationalIdleRuntime :=
  let histogram := if gateReasonCode < 16 then
    r.gateReasonHistogram.modify gateReasonCode.toNat (UInt16.saturatingAdd · 1)
    else r.gateReasonHistogram
  { r with gateReasonHistogram := histogram, lastGateReasonCode := gateReasonCode }.deactivate
    gateReasonCode

/-- The next slot of the scheduler, with the share of cylinders that it cuts. -/
def advanceScheduler (sampleCounter : UInt32) (egtC engineDemandPct : ℚ) :
    RotationalIdleRuntime :=
  let slot := (sampleCounter / 5 % 6).toUInt8
  let egtBonus := clampRat (max (egtC - minEgtC) 0 / 120) 0 1 * 14
  let demandHeadroom :=
    clampRat ((maxEngineDemandPct - engineDemandPct) / maxEngineDemandPct) 0 1 * 10
  let baseCut := 24 + egtBonus + demandHeadroom
  let patternBias : ℚ :=
    if slot = 0 ∨ slot = 3 then -2 else if slot = 1 ∨ slot = 4 then 2 else 5
  { r with
    schedulerSlot := slot
    cutPct := UInt8.ofNat (roundHalfAway (clampRat (baseCut + patternBias) 18 60)).toNat
    activeCylinders := if slot % 3 = 0 then 2 else 3 }

/-- Rotational idle switched on. -/
def activate (sampleCounter : UInt32) (egtC engineDemandPct : ℚ) : RotationalIdleRuntime :=
  { r with
    active := true, timerCs := 0, activationCount := r.activationCount.saturatingAdd 1
    schedulerSlot := (sampleCounter % 6).toUInt8 }.advanceScheduler sampleCounter egtC
    engineDemandPct

/-- A tick that no gate holds back. -/
def tickArmed (sampleCounter : UInt32) (egtC engineDemandPct : ℚ) : RotationalIdleRuntime :=
  let r := { r with armed := true, gateReasonCode := 0 }
  if !r.active then
    let r := { r with activationDelayCs := r.activationDelayCs.saturatingAdd 2 }
    if 20 ≤ r.activationDelayCs then r.activate sampleCounter egtC engineDemandPct else r
  else
    let r := { r with
      timerCs := r.timerCs.saturatingAdd 2
      totalActiveTimeCs := r.totalActiveTimeCs.saturatingAdd 2 }
    let r := r.advanceScheduler sampleCounter egtC engineDemandPct
    if 900 ≤ r.timerCs then
      { r with timeoutCount := r.timeoutCount.saturatingAdd 1 }.applyGate 8
    else r

/-- One tick: the gates in their order, then the delay before it switches on, or the scheduler. -/
def tick (sampleCounter : UInt32) (egtC engineDemandPct : ℚ) (syncLossCounter : UInt8)
    (protectionActive : Bool) : RotationalIdleRuntime × RotationalIdleSample :=
  let syncDelta := syncLossCounter - r.lastSyncLossCounter
  let r := { r with lastSyncLossCounter := syncLossCounter }
  let r :=
    if !r.enabled then r.applyGate 1
    else if protectionActive then r.applyGate 10
    else if syncDelta > 0 then
      { r with
        syncGuardEventsTotal :=
          r.syncGuardEventsTotal.saturatingAdd syncDelta.toUInt16 }.applyGate 9
    else if egtC < minEgtC then r.applyGate 3
    else if maxEngineDemandPct < engineDemandPct then r.applyGate 4
    else r.tickArmed sampleCounter egtC engineDemandPct
  (r, r.sample)

end RotationalIdleRuntime

end StEcu
