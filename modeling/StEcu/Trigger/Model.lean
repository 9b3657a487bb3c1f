import StEcu.Foundation.Binary32
import StEcu.Foundation.Saturating

/-!
# Trigger patterns and their correlation with the engine cycle

The two patterns of `src/trigger_model.rs`: evenly spaced distributor events, and a wheel with a gap
of missing teeth.

## Main definitions

* `TriggerSyncCorrelation`, `distributorEven`, `missingTooth`.

## Main results

* `exists_distributorEven_iff`, `exists_missingTooth_iff`: the patterns that are valid.
-/

namespace StEcu

/-- Engines of two and of four strokes. -/
inductive EngineStroke
  | twoStroke
  | fourStroke
  deriving DecidableEq, Repr

namespace EngineStroke

/-- The angle of an engine cycle. -/
def cycleDegrees : EngineStroke → UInt16
  | twoStroke => 360
  | fourStroke => 720

/-- The turns of the crank in an engine cycle. -/
def revolutionsPerCycle : EngineStroke → UInt16
  | twoStroke => 1
  | fourStroke => 2

end EngineStroke

/-- The edges of a tooth that count. -/
inductive TriggerEdgePolicy
  | risingOnly
  | risingAndFalling
  deriving DecidableEq, Repr

/-- The number of edges of a tooth that count. -/
def TriggerEdgePolicy.edgeMultiplier : TriggerEdgePolicy → UInt16
  | risingOnly => 1
  | risingAndFalling => 2

/-- Why a trigger wheel is not possible. -/
inductive TriggerModelError
  | invalidCylinderCount (cylinders : UInt8)
  | invalidToothLayout (totalTeeth missingTeeth : UInt16)
  deriving DecidableEq, Repr

/-- What a trigger wheel tells in an engine cycle. -/
structure TriggerSyncCorrelation where
  strategy : String
  engineCycleDeg : UInt16
  primaryEventsPerCycle : UInt16
  primaryEdgesPerCycle : UInt16
  secondaryEventsPerCycle : UInt16
  referenceSpacingDeg : Binary32
  dominantGapRatio : Option Binary32
  totalTeeth : Option UInt16
  missingTeeth : Option UInt16
  requiresSecondaryForPhase : Bool
  supportsFullSequential : Bool
  deriving DecidableEq

/-- The trigger of a distributor with one event for each cylinder. -/
def distributorEven (cylinders : UInt8) (stroke : EngineStroke) (edgePolicy : TriggerEdgePolicy) :
    Except TriggerModelError TriggerSyncCorrelation :=
  if cylinders = 0 ∨ 16 < cylinders then .error (.invalidCylinderCount cylinders)
  else
    let primaryEvents := cylinders.toUInt16
    .ok
      { strategy := "distributor_even"
        engineCycleDeg := stroke.cycleDegrees
        primaryEventsPerCycle := primaryEvents
        primaryEdgesPerCycle := primaryEvents.saturatingMul edgePolicy.edgeMultiplier
        secondaryEventsPerCycle := if stroke = .fourStroke then 1 else 0
        referenceSpacingDeg := .ofRat stroke.cycleDegrees.toNat / .ofRat primaryEvents.toNat
        dominantGapRatio := none
        totalTeeth := none
        missingTeeth := none
        requiresSecondaryForPhase := stroke = .fourStroke
        supportsFullSequential := stroke = .fourStroke }

/-- The trigger of a wheel with missing teeth. -/
def missingTooth (totalTeeth missingTeeth : UInt16) (stroke : EngineStroke)
    (edgePolicy : TriggerEdgePolicy) : Except TriggerModelError TriggerSyncCorrelation :=
  if totalTeeth < 4 ∨ 512 < totalTeeth ∨ missingTeeth = 0 ∨ totalTeeth ≤ missingTeeth then
    .error (.invalidToothLayout totalTeeth missingTeeth)
  else
    let primaryEvents := (totalTeeth - missingTeeth).saturatingMul stroke.revolutionsPerCycle
    .ok
      { strategy := "missing_tooth"
        engineCycleDeg := stroke.cycleDegrees
        primaryEventsPerCycle := primaryEvents
        primaryEdgesPerCycle := primaryEvents.saturatingMul edgePolicy.edgeMultiplier
        secondaryEventsPerCycle := if stroke = .fourStroke then 1 else 0
        referenceSpacingDeg := 360 / .ofRat totalTeeth.toNat
        dominantGapRatio := some (.ofRat (missingTeeth + 1).toNat)
        totalTeeth := some totalTeeth
        missingTeeth := some missingTeeth
        requiresSecondaryForPhase := stroke = .fourStroke
        supportsFullSequential := stroke = .fourStroke }

/-- A distributor has one to sixteen cylinders. -/
theorem exists_distributorEven_iff {cylinders : UInt8} {stroke : EngineStroke}
    {edgePolicy : TriggerEdgePolicy} :
    (∃ corr, distributorEven cylinders stroke edgePolicy = .ok corr) ↔
      cylinders ≠ 0 ∧ cylinders ≤ 16 := by
  rw [distributorEven]
  by_cases h : cylinders = 0 ∨ 16 < cylinders
  · rw [if_pos h]
    exact iff_of_false (fun ⟨_, hok⟩ => nomatch hok)
      fun hvalid => h.elim hvalid.1 (UInt8.not_lt.mpr hvalid.2)
  · rw [if_neg h]
    rw [not_or, UInt8.not_lt] at h
    exact iff_of_true ⟨_, rfl⟩ h

/-- A wheel has 4 to 512 teeth, some of them missing. -/
theorem exists_missingTooth_iff {totalTeeth missingTeeth : UInt16} {stroke : EngineStroke}
    {edgePolicy : TriggerEdgePolicy} :
    (∃ corr, missingTooth totalTeeth missingTeeth stroke edgePolicy = .ok corr) ↔
      4 ≤ totalTeeth ∧ totalTeeth ≤ 512 ∧ missingTeeth ≠ 0 ∧ missingTeeth < totalTeeth := by
  rw [missingTooth]
  by_cases h :
      totalTeeth < 4 ∨ 512 < totalTeeth ∨ missingTeeth = 0 ∨ totalTeeth ≤ missingTeeth
  · rw [if_pos h]
    refine iff_of_false (fun ⟨_, hok⟩ => nomatch hok) fun ⟨hfew, hmany, hnone, hall⟩ => ?_
    rcases h with h | h | h | h
    · exact UInt16.not_lt.mpr hfew h
    · exact UInt16.not_lt.mpr hmany h
    · exact hnone h
    · exact UInt16.not_lt.mpr h hall
  · rw [if_neg h]
    simp only [not_or, UInt16.not_lt, UInt16.not_le] at h
    exact iff_of_true ⟨_, rfl⟩ h

end StEcu
