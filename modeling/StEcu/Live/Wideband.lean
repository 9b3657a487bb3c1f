import Mathlib.Algebra.Order.Field.Rat
import StEcu.Foundation.Saturating

/-!
# The wideband lambda controller

Heater warm-up, injected fault windows and the choice of the lambda source (`src/wideband.rs`).
-/

namespace StEcu

/-- Where lambda comes from. -/
inductive WidebandSource
  | integratedController
  | externalModule
  | analogFallback
  | unknown
  deriving DecidableEq, Repr

/-- What a tick reports. -/
structure WidebandSample where
  heaterReady : Bool
  calibrationReady : Bool
  integratedActive : Bool
  analogFallback : Bool
  primaryFault : Bool
  secondaryFault : Bool
  lambdaPrimary : ℚ
  lambdaSecondary : ℚ
  source : WidebandSource

/-- How long the heater warms up. -/
def heaterWarmupCs : UInt16 := 260

/-- What the runtime remembers from tick to tick. -/
structure WidebandRuntime where
  heaterWarmupRemainingCs : UInt16 := heaterWarmupCs
  primaryFaultHoldCs : UInt16 := 0
  secondaryFaultHoldCs : UInt16 := 0
  deriving DecidableEq, Repr

/-- The sample while the engine stands still. -/
def WidebandSample.engineOff : WidebandSample where
  heaterReady := false
  calibrationReady := false
  integratedActive := false
  analogFallback := true
  primaryFault := false
  secondaryFault := false
  lambdaPrimary := 102 / 100
  lambdaSecondary := 103 / 100
  source := .unknown

/-- A fault hold after one tick: set at the start of its window, then counted down. -/
def faultHold (window : Bool) (start hold : UInt16) : UInt16 :=
  (if window then start else hold).saturatingSub 2

/-- One tick. Without a running engine everything starts anew. -/
def WidebandRuntime.tick (w : WidebandRuntime) (sampleCounter : UInt32) (engineRunning : Bool) :
    WidebandRuntime × WidebandSample :=
  if !engineRunning then ({}, .engineOff)
  else
    let warmup := w.heaterWarmupRemainingCs.saturatingSub 2
    let heaterReady : Bool := warmup = 0
    let primaryHold := faultHold (heaterReady && sampleCounter % 220 = 0) 42 w.primaryFaultHoldCs
    let secondaryHold :=
      faultHold (heaterReady && sampleCounter % 360 = 0) 28 w.secondaryFaultHoldCs
    let primaryFault : Bool := primaryHold > 0
    let secondaryFault : Bool := secondaryHold > 0
    let healthy := heaterReady && !primaryFault && !secondaryFault
    let externalModuleActive := healthy && sampleCounter % 280 < 26
    let integratedActive := healthy && !externalModuleActive
    let ripple : ℚ := ((sampleCounter % 17).toNat - 8) * (8 / 10000)
    ({ heaterWarmupRemainingCs := warmup, primaryFaultHoldCs := primaryHold
       secondaryFaultHoldCs := secondaryHold },
      { heaterReady
        calibrationReady := heaterReady
        integratedActive
        analogFallback := !integratedActive && !externalModuleActive
        primaryFault
        secondaryFault
        lambdaPrimary :=
          if integratedActive then 998 / 1000 + ripple
          else if externalModuleActive then 1006 / 1000 + ripple * (7 / 10)
          else 1028 / 1000 + ripple
        lambdaSecondary :=
          if integratedActive then 1004 / 1000 + ripple * (8 / 10)
          else if externalModuleActive then 101 / 100 + ripple * (6 / 10)
          else 1034 / 1000 + ripple * (8 / 10)
        source :=
          if integratedActive then .integratedController
          else if externalModuleActive then .externalModule
          else .analogFallback })

end StEcu
