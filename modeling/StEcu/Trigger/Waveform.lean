import Mathlib.Data.List.Destutter
import Mathlib.Data.List.Sort
import StEcu.Foundation.CheckedWrites
import StEcu.Trigger.Model
import StEcu.Trigger.Presets

/-!
# The trigger waveform

The pictures of the trigger that are rendered from its state (`src/trigger_runtime.rs`): a capture
of both inputs in 128 samples, and a log of the intervals between teeth. Rendering fails where the
source would panic, at an index out of range or at a fallback that must be valid.

## Main definitions

* `RuntimeProfile`, `TriggerRuntime.runtimeProfile`: the events of an engine cycle.
* `WaveformSnapshot`, `TriggerRuntime.buildWaveform`.
* `TriggerRuntime.triggerCapture`, `TriggerRuntime.triggerToothLog`.
-/

namespace StEcu

/-- What the pictures of a trigger are rendered from. -/
structure RuntimeProfile where
  engineCycleDeg : UInt16
  primaryEventsPerCycle : UInt16
  secondaryEventsPerCycle : UInt16
  dominantGapRatio : Option Binary32
  syncGapToothCount : UInt8
  referenceEventIndex : UInt16
  deriving DecidableEq

/-- A rendered waveform: its samples, its teeth and its reference marks. -/
structure WaveformSnapshot where
  syncState : String
  triggerRpm : UInt16
  captureWindowUs : UInt32
  samplePeriodUs : UInt16
  toothCount : UInt16
  syncGapToothCount : UInt8
  primaryEdgeCount : UInt16
  secondaryEdgeCount : UInt16
  primarySamples : Bytes
  secondarySamples : Bytes
  referenceEventIndex : UInt16
  dominantGapRatio : Binary32
  toothIntervalsUs : List UInt32
  secondaryEventIndexes : List UInt16
  deriving DecidableEq

/-- The events of a manufacturer's wheel in an engine cycle. -/
def oemNominalEventsForKey (key : String) : UInt16 :=
  match key with
  | "honda_k20_12_1" => 12
  | "toyota_36_2_2_2" => 64
  | "gm_24x" => 48
  | "nissan_360_slot" => 90
  | "subaru_6_7" => 12
  | "mitsubishi_4g63" => 8
  | "mazda_36_2_1" => 70
  | "ford_st170" => 70
  | "gm_58x" => 116
  | "toyota_2jz_vvti" => 68
  | "bmw_m54_60_2" => 116
  | "ford_coyote" => 70
  | "subaru_ej_36_2_2_2" => 64
  | "mazda_bp_4_1" => 8
  | "nissan_vq_36_2_2_2" => 64
  | "dual_wheel" => 48
  | _ => 36

/-- The time of an engine cycle at an engine speed. -/
def captureWindowUs (engineCycleDeg rpm : UInt16) : UInt32 :=
  let revUs := 60000000 / (max rpm 1).toUInt32
  max (revUs.saturatingMul engineCycleDeg.toUInt32 / 360) 1

/-- A correlation, or else its fallback, which must be valid. -/
def orFallback (corr fallback : Except TriggerModelError TriggerSyncCorrelation) :
    Option TriggerSyncCorrelation :=
  match corr with
  | .ok corr => some corr
  | .error _ => fallback.toOption

/-! ### Intervals -/

/-- A tooth interval with its jitter. The source computes it in 32 signed bits. -/
def jitteredInterval (baseIntervalUs sampleCounter : UInt32) (index : ℕ) : UInt32 :=
  let jitterStep : ℤ := (max (baseIntervalUs / 40) 1).toNat
  let jitter : ℤ := ((sampleCounter + UInt32.ofNat index) % 7).toNat - 3
  UInt32.ofNat (max (baseIntervalUs.toNat + jitter * jitterStep) 1).toNat

/-- The interval of the gap. -/
def scaleGap (ratio : Binary32) (interval : UInt32) : UInt32 :=
  UInt32.ofNat (((Binary32.ofRat interval.toNat * ratio).round.max 1).castTo 0xFFFFFFFF)

namespace RuntimeProfile

variable (profile : RuntimeProfile)

/-- The number of teeth that are rendered, from six to 96. -/
def eventCount : ℕ := max 6 (min (max profile.primaryEventsPerCycle 4).toNat 96)

/-- The interval that is the gap. -/
def gapIndex : ℕ := profile.eventCount / 2

/-- The times between the teeth, with jitter and with the gap. -/
def toothIntervals (captureWindowUs sampleCounter : UInt32) : List UInt32 :=
  let baseIntervalUs := max (captureWindowUs / UInt32.ofNat profile.eventCount) 1
  let intervals :=
    (List.range profile.eventCount).map (jitteredInterval baseIntervalUs sampleCounter)
  match profile.dominantGapRatio with
  | some ratio => intervals.modify profile.gapIndex (scaleGap ratio)
  | none => intervals

end RuntimeProfile

/-- The sum and the number of the intervals outside the gap. -/
def baselineOf (gapIndex : ℕ) (intervals : List UInt32) : UInt64 × UInt64 :=
  intervals.zipIdx.foldl (fun (sum, count) (interval, index) =>
    if index = gapIndex then (sum, count)
    else (sum.saturatingAdd interval.toUInt64, count.saturatingAdd 1)) (0, 0)

/-- How the interval of the gap compares with the others, for a pattern that has a gap. -/
def RuntimeProfile.measuredGapRatio (profile : RuntimeProfile) (intervals : List UInt32) :
    Option Binary32 :=
  if profile.dominantGapRatio.isSome ∧ 1 < profile.eventCount then do
    let interval ← intervals[profile.gapIndex]?
    let dominant := Binary32.ofRat interval.toNat
    let (baselineSum, baselineCount) := baselineOf profile.gapIndex intervals
    if 0 < baselineCount then
      let baseline := (Binary32.ofRat baselineSum.toNat / .ofRat baselineCount.toNat).max 1
      return (dominant / baseline).max 1
    else return 1
  else some 1

/-! ### Samples -/

/-- The loop over the intervals: the time so far, the primary samples, and where the pulses are. -/
structure PrimaryPulses where
  elapsed : UInt32 := 0
  primarySamples : Bytes := List.replicate 128 0
  pulsePositions : List ℕ := []

/-- One tooth drawn, at the place of its time in the cycle. Places are computed in 32-bit floats. -/
def PrimaryPulses.pulse (totalIntervalUs : UInt32) (pulses : PrimaryPulses) (interval : UInt32) :
    Option PrimaryPulses := do
  let elapsed := pulses.elapsed.saturatingAdd interval
  let ratio := Binary32.ofRat elapsed.toNat / .ofRat totalIntervalUs.toNat
  let position := ((Binary32.ofRat 128 - 2) * ratio).round.castTo 0xFFFFFFFF
  let clamped := min position 126
  let primarySamples ← writeAt pulses.primarySamples clamped 1
  let primarySamples ← writeAt primarySamples (clamped + 1) 1
  return { elapsed, primarySamples, pulsePositions := pulses.pulsePositions ++ [clamped] }

/-- All teeth drawn, one after the other. -/
def primaryPulses (intervals : List UInt32) : Option PrimaryPulses :=
  let totalIntervalUs := max (intervals.foldl UInt32.saturatingAdd 0) 1
  intervals.foldlM (PrimaryPulses.pulse totalIntervalUs) {}

/-- The intervals at which the secondary input has an event, sorted and without repetitions. -/
def secondaryEventIndexes (secondaryCount intervalCount : ℕ) : List UInt16 :=
  let slots := min secondaryCount 8
  let indexes := (List.range slots).map fun slot =>
    UInt16.ofNat (min ((slot + 1) * intervalCount / (slots + 1)) (intervalCount - 1))
  (indexes.insertionSort (· ≤ ·)).destutter (· ≠ ·)

/-- A mark of the second wheel drawn at one of the teeth. -/
def markSecondary (pulsePositions : List ℕ) (samples : Bytes) (index : UInt16) : Option Bytes :=
  let position := min (pulsePositions[index.toNat]?.getD 64) 125
  writeRange samples position (position + 3) 1

namespace TriggerRuntime

variable (t : TriggerRuntime)

/-- The decoder that is chosen. -/
def activePreset : TriggerDecoderPreset := findPreset t.config.activePresetKey

/-- The profile of the trigger that is chosen. -/
def runtimeProfile (preset : TriggerDecoderPreset) : Option RuntimeProfile :=
  let phased := t.config.secondaryEnabled || t.config.camSync
  match t.config.mode with
  | .missingTooth totalTeeth missingTeeth => do
    let (sanitizedTotal, sanitizedMissing) := sanitizeMissingToothLayout totalTeeth missingTeeth
    let corr ← orFallback (missingTooth sanitizedTotal sanitizedMissing .fourStroke .risingOnly)
      (missingTooth 60 2 .fourStroke .risingOnly)
    return {
      engineCycleDeg := corr.engineCycleDeg
      primaryEventsPerCycle := max corr.primaryEventsPerCycle 4
      secondaryEventsPerCycle := if phased then max corr.secondaryEventsPerCycle 1 else 0
      dominantGapRatio := corr.dominantGapRatio
      syncGapToothCount := (min sanitizedMissing 255).toUInt8
      referenceEventIndex := corr.primaryEventsPerCycle / 2 }
  | .distributor cylinders => do
    let corr ← orFallback
      (distributorEven (sanitizeCylinderCount cylinders) .fourStroke .risingOnly)
      (distributorEven 4 .fourStroke .risingOnly)
    return {
      engineCycleDeg := corr.engineCycleDeg
      primaryEventsPerCycle := max corr.primaryEventsPerCycle 4
      secondaryEventsPerCycle := if phased then 1 else 0
      dominantGapRatio := none
      syncGapToothCount := 0
      referenceEventIndex := 0 }
  | .dualWheel primaryTeeth secondaryEvents =>
    let primary := clampTeeth primaryTeeth
    some {
      engineCycleDeg := 720
      primaryEventsPerCycle := primary.saturatingMul 2
      secondaryEventsPerCycle := if phased then (max secondaryEvents 1).toUInt16 else 0
      dominantGapRatio := none
      syncGapToothCount := 0
      referenceEventIndex := primary / 2 }
  | .catalogDefault =>
    let hasGap := preset.syncStrategy = "missing_tooth_plus_home"
    some {
      engineCycleDeg := preset.expectedEngineCycleDeg
      primaryEventsPerCycle := oemNominalEventsForKey preset.key
      secondaryEventsPerCycle := if preset.requiresSecondary || phased then 2 else 0
      dominantGapRatio := if hasGap then some (.ofRat (29 / 20)) else none
      syncGapToothCount := if hasGap then 1 else 0
      referenceEventIndex := 0 }

/-- The waveform of a decoder. -/
def buildWaveform (syncState : String) (preset : TriggerDecoderPreset) :
    Option WaveformSnapshot := do
  let profile ← t.runtimeProfile preset
  let triggerRpm := (780 : UInt16).saturatingAdd (t.sampleCounter % 180).toUInt16
  let captureWindowUs := captureWindowUs profile.engineCycleDeg triggerRpm
  let intervals := profile.toothIntervals captureWindowUs t.sampleCounter
  let dominantGapRatio ← profile.measuredGapRatio intervals
  let pulses ← primaryPulses intervals
  let secondaryEventIndexes :=
    secondaryEventIndexes profile.secondaryEventsPerCycle.toNat intervals.length
  let secondarySamples ←
    secondaryEventIndexes.foldlM (markSecondary pulses.pulsePositions) (List.replicate 128 0)
  return {
    syncState
    triggerRpm
    captureWindowUs
    samplePeriodUs := (min (max (captureWindowUs / 128) 1) 0xFFFF).toUInt16
    toothCount := UInt16.ofNat intervals.length
    syncGapToothCount := profile.syncGapToothCount
    primaryEdgeCount := (UInt16.ofNat intervals.length).saturatingMul 2
    secondaryEdgeCount := (UInt16.ofNat secondaryEventIndexes.length).saturatingMul 2
    primarySamples := pulses.primarySamples
    secondarySamples
    referenceEventIndex :=
      if profile.dominantGapRatio.isSome then UInt16.ofNat profile.gapIndex
      else min profile.referenceEventIndex (UInt16.ofNat (intervals.length - 1))
    dominantGapRatio
    toothIntervalsUs := intervals
    secondaryEventIndexes }

/-- The capture of a state whose counters advanced. -/
def capture (syncState : String) : Option TriggerCapture := do
  let preset := t.activePreset
  let waveform ← t.buildWaveform syncState preset
  let profile ← t.runtimeProfile preset
  return {
    presetKey := preset.key
    presetLabel := preset.label
    syncState := waveform.syncState
    triggerRpm := waveform.triggerRpm
    syncLossCounter := t.syncLossCounter
    syncedCycles := t.syncedCycles
    engineCycleDeg := profile.engineCycleDeg
    captureWindowUs := waveform.captureWindowUs
    samplePeriodUs := waveform.samplePeriodUs
    primaryLabel := preset.primaryInputLabel
    secondaryLabel := preset.secondaryInputLabel
    toothCount := waveform.toothCount
    syncGapToothCount := waveform.syncGapToothCount
    primaryEdgeCount := waveform.primaryEdgeCount
    secondaryEdgeCount := waveform.secondaryEdgeCount
    primarySamples := waveform.primarySamples
    secondarySamples := waveform.secondarySamples }

/-- The tooth log of a state whose counters advanced. -/
def toothLog (syncState : String) : Option TriggerToothLog := do
  let preset := t.activePreset
  let waveform ← t.buildWaveform syncState preset
  let profile ← t.runtimeProfile preset
  return {
    presetKey := preset.key
    presetLabel := preset.label
    syncState := waveform.syncState
    triggerRpm := waveform.triggerRpm
    engineCycleDeg := profile.engineCycleDeg
    primaryLabel := preset.primaryInputLabel
    secondaryLabel := preset.secondaryInputLabel
    referenceEventIndex := waveform.referenceEventIndex
    dominantGapRatio := waveform.dominantGapRatio.toBits
    toothIntervalsUs := waveform.toothIntervalsUs
    secondaryEventIndexes := waveform.secondaryEventIndexes }

/-- The scope picture after the counters advanced. -/
def triggerCapture (counter : UInt32) : Option (TriggerRuntime × TriggerCapture) :=
  let (t, syncState) := t.advanceState counter
  (t.capture syncState).map fun capture => (t, capture)

/-- The tooth log after the counters advanced. -/
def triggerToothLog (counter : UInt32) : Option (TriggerRuntime × TriggerToothLog) :=
  let (t, syncState) := t.advanceState counter
  (t.toothLog syncState).map fun log => (t, log)

end TriggerRuntime

end StEcu
