import StEcu.Trigger.Waveform

/-!
# The trigger pictures are safe

Whatever page selects the decoder and however its counters advance, the pictures of the trigger are
rendered, without an index out of range and without a fallback, and the decoders of their payloads
accept them. The profile of a pattern is taken from sanitised numbers of teeth and cylinders, and so
this holds of every state of the trigger runtime.

## Main definitions

* `FallbackFree`: the pattern of a mode is valid as it is.
* `WaveformSnapshot.WellFormed`: what holds of a rendered waveform.

## Main results

* `fallbackFree`, `TriggerRuntime.exists_buildWaveform`.
* `trigger_pictures_safe`.
-/

namespace StEcu

/-! ### The profile of a pattern -/

/-- The pattern of a mode is valid, so that its fallback is not taken. -/
def FallbackFree : RuntimeMode → Prop
  | .missingTooth totalTeeth missingTeeth =>
    ∃ corr, missingTooth (sanitizeMissingToothLayout totalTeeth missingTeeth).1
      (sanitizeMissingToothLayout totalTeeth missingTeeth).2 .fourStroke .risingOnly = .ok corr
  | .distributor cylinders =>
    ∃ corr, distributorEven (sanitizeCylinderCount cylinders) .fourStroke .risingOnly = .ok corr
  | .dualWheel .. | .catalogDefault => True

theorem fallbackFree (mode : RuntimeMode) : FallbackFree mode := by
  cases mode with
  | missingTooth totalTeeth missingTeeth =>
    exact exists_missingTooth_iff.mpr (sanitizeMissingToothLayout_mem totalTeeth missingTeeth)
  | distributor cylinders =>
    exact exists_distributorEven_iff.mpr
      ⟨sanitizeCylinderCount_ne_zero cylinders, sanitizeCylinderCount_le cylinders⟩
  | dualWheel | catalogDefault => trivial

theorem TriggerRuntime.exists_runtimeProfile (t : TriggerRuntime) (preset : TriggerDecoderPreset) :
    ∃ profile, t.runtimeProfile preset = some profile := by
  have hfree := fallbackFree t.config.mode
  rw [runtimeProfile]
  cases hmode : t.config.mode with
  | missingTooth totalTeeth missingTeeth =>
    rw [hmode] at hfree
    obtain ⟨corr, hcorr⟩ := hfree
    dsimp only
    rw [hcorr]
    exact ⟨_, rfl⟩
  | distributor cylinders =>
    rw [hmode] at hfree
    obtain ⟨corr, hcorr⟩ := hfree
    dsimp only
    rw [hcorr]
    exact ⟨_, rfl⟩
  | dualWheel | catalogDefault => exact ⟨_, rfl⟩

/-! ### Intervals -/

/-- A capture window is short enough for signed arithmetic of 32 bits on its intervals. -/
theorem toNat_captureWindowUs_lt (engineCycleDeg rpm : UInt16) :
    (captureWindowUs engineCycleDeg rpm).toNat < 2 ^ 24 := by
  rw [captureWindowUs, UInt32.toNat_max, UInt32.toNat_div]
  have := UInt32.toNat_lt (UInt32.saturatingMul (60000000 / (max rpm 1).toUInt32)
    engineCycleDeg.toUInt32)
  simp only [UInt32.reduceToNat]
  omega

/-- An interval and its jitter add up to an integer of 32 signed bits. -/
theorem jittered_mem {base phase step : ℕ} (hbase : base < 2 ^ 24) (hphase : phase < 7)
    (hstep : step < 2 ^ 24) :
    -2 ^ 31 ≤ (base : ℤ) + ((phase : ℤ) - 3) * step ∧
      (base : ℤ) + ((phase : ℤ) - 3) * step < 2 ^ 31 := by
  have hlo : -3 * (step : ℤ) ≤ ((phase : ℤ) - 3) * step :=
    mul_le_mul_of_nonneg_right (by omega) (Int.natCast_nonneg step)
  have hhi : ((phase : ℤ) - 3) * step ≤ 3 * step :=
    mul_le_mul_of_nonneg_right (by omega) (Int.natCast_nonneg step)
  omega

theorem one_le_jitteredInterval {baseIntervalUs : UInt32} (h : baseIntervalUs.toNat < 2 ^ 24)
    (sampleCounter : UInt32) (index : ℕ) :
    1 ≤ jitteredInterval baseIntervalUs sampleCounter index := by
  have hphase : ((sampleCounter + UInt32.ofNat index) % 7).toNat < 7 := by
    rw [UInt32.toNat_mod]
    exact Nat.mod_lt _ (by decide)
  have hstep : (max (baseIntervalUs / 40) 1).toNat < 2 ^ 24 := by
    rw [UInt32.toNat_max, UInt32.toNat_div]
    simp only [UInt32.reduceToNat]
    omega
  have hmem := jittered_mem h hphase hstep
  rw [jitteredInterval, UInt32.le_iff_toNat_le, UInt32.toNat_ofNat_of_lt']
  · simp only [UInt32.reduceToNat]
    omega
  · simp only [UInt32.size]
    omega

theorem one_le_scaleGap (ratio : Binary32) (interval : UInt32) : 1 ≤ scaleGap ratio interval := by
  have hone := Binary32.one_le_castTo_max_one (Binary32.ofRat interval.toNat * ratio).round
    (show 1 ≤ 0xFFFFFFFF by decide)
  have hlimit := Binary32.castTo_le ((Binary32.ofRat interval.toNat * ratio).round.max 1) 0xFFFFFFFF
  rw [scaleGap, UInt32.le_iff_toNat_le,
    UInt32.toNat_ofNat_of_lt' (by simp only [UInt32.size]; omega)]
  exact hone

namespace RuntimeProfile

variable (profile : RuntimeProfile)

theorem six_le_eventCount : 6 ≤ profile.eventCount := le_max_left _ _

theorem eventCount_le : profile.eventCount ≤ 96 := max_le (by decide) (min_le_right _ _)

theorem gapIndex_lt : profile.gapIndex < profile.eventCount :=
  Nat.div_lt_self (by have := profile.six_le_eventCount; omega) (by decide)

theorem length_toothIntervals (captureWindowUs sampleCounter : UInt32) :
    (profile.toothIntervals captureWindowUs sampleCounter).length = profile.eventCount := by
  rw [toothIntervals]
  cases profile.dominantGapRatio <;> simp

theorem one_le_of_mem_toothIntervals {captureWindowUs sampleCounter interval : UInt32}
    (hwindow : captureWindowUs.toNat < 2 ^ 24)
    (h : interval ∈ profile.toothIntervals captureWindowUs sampleCounter) : 1 ≤ interval := by
  have hbase : (max (captureWindowUs / UInt32.ofNat profile.eventCount) 1).toNat < 2 ^ 24 := by
    have := Nat.div_le_self captureWindowUs.toNat (UInt32.ofNat profile.eventCount).toNat
    rw [UInt32.toNat_max, UInt32.toNat_div]
    simp only [UInt32.reduceToNat]
    omega
  have heven : ∀ interval ∈ (List.range profile.eventCount).map
      (jitteredInterval (max (captureWindowUs / UInt32.ofNat profile.eventCount) 1) sampleCounter),
      1 ≤ interval := by
    intro interval hmem
    obtain ⟨index, -, rfl⟩ := List.mem_map.mp hmem
    exact one_le_jitteredInterval hbase sampleCounter index
  rw [toothIntervals] at h
  cases hratio : profile.dominantGapRatio with
  | none =>
    rw [hratio] at h
    exact heven interval h
  | some ratio =>
    rw [hratio] at h
    obtain ⟨i, hi, rfl⟩ := List.mem_iff_getElem.mp h
    rw [List.getElem_modify]
    split_ifs
    · exact one_le_scaleGap ratio _
    · exact heven _ (List.getElem_mem _)

/-- The gap is one of the intervals. -/
theorem exists_measuredGapRatio {intervals : List UInt32}
    (hlength : intervals.length = profile.eventCount) :
    ∃ ratio, profile.measuredGapRatio intervals = some ratio := by
  rw [measuredGapRatio]
  split_ifs with hgap
  · rw [List.getElem?_eq_getElem (hlength ▸ profile.gapIndex_lt)]
    dsimp only [Option.bind_eq_bind, Option.bind_some]
    split_ifs
    · exact ⟨_, rfl⟩
    · exact ⟨_, rfl⟩
  · exact ⟨_, rfl⟩

end RuntimeProfile

/-! ### Samples -/

theorem exists_pulse (totalIntervalUs : UInt32) {pulses : PrimaryPulses}
    (h : pulses.primarySamples.length = 128) (interval : UInt32) :
    ∃ next, pulses.pulse totalIntervalUs interval = some next ∧
      next.primarySamples.length = 128 := by
  rw [PrimaryPulses.pulse]
  generalize (Binary32.castTo _ _) = position
  obtain ⟨samples, hsamples, hlength⟩ :=
    exists_writeAt (show min position 126 < pulses.primarySamples.length by omega) 1
  obtain ⟨samples', hsamples', hlength'⟩ :=
    exists_writeAt (show min position 126 + 1 < samples.length by omega) 1
  rw [hsamples, Option.bind_eq_bind, Option.bind_some, hsamples', Option.bind_some]
  exact ⟨_, rfl, (hlength'.trans hlength).trans h⟩

theorem exists_primaryPulses (intervals : List UInt32) :
    ∃ pulses, primaryPulses intervals = some pulses ∧ pulses.primarySamples.length = 128 :=
  List.exists_foldlM (fun _ hpulses interval _ => exists_pulse _ hpulses interval) rfl

/-- The three samples of an event are in the capture, wherever the pulses are. -/
theorem exists_markSecondary (pulsePositions : List ℕ) {samples : Bytes}
    (h : samples.length = 128) (index : UInt16) :
    ∃ next, markSecondary pulsePositions samples index = some next ∧ next.length = 128 := by
  rw [markSecondary, ← h]
  exact exists_writeRange (by omega) (by omega) 1

/-! ### Events of the secondary input -/

/-- A sorted list without repetitions is strictly increasing. -/
theorem pairwise_lt_of_isChain_ne {l : List UInt16} (hle : l.Pairwise (· ≤ ·))
    (hne : l.IsChain (· ≠ ·)) : l.Pairwise (· < ·) := by
  refine List.isChain_iff_pairwise.mp (List.isChain_iff_getElem.mpr fun i hi => ?_)
  exact UInt16.lt_of_le_of_ne (List.pairwise_iff_getElem.mp hle i (i + 1) _ hi i.lt_succ_self)
    (List.isChain_iff_getElem.mp hne i hi)

theorem pairwise_secondaryEventIndexes (secondaryCount intervalCount : ℕ) :
    (secondaryEventIndexes secondaryCount intervalCount).Pairwise (· < ·) := by
  rw [secondaryEventIndexes]
  exact pairwise_lt_of_isChain_ne
    ((List.pairwise_insertionSort _ _).sublist (List.destutter_sublist _ _))
    (List.isChain_destutter _ _)

theorem length_secondaryEventIndexes_le (secondaryCount intervalCount : ℕ) :
    (secondaryEventIndexes secondaryCount intervalCount).length ≤ 8 := by
  rw [secondaryEventIndexes]
  refine (List.destutter_sublist _ _).length_le.trans ?_
  rw [List.length_insertionSort, List.length_map, List.length_range]
  exact min_le_right _ _

theorem lt_of_mem_secondaryEventIndexes {secondaryCount intervalCount : ℕ} {index : UInt16}
    (hpos : 0 < intervalCount) (hle : intervalCount ≤ 96)
    (h : index ∈ secondaryEventIndexes secondaryCount intervalCount) :
    index.toNat < intervalCount := by
  rw [secondaryEventIndexes] at h
  have hmem := (List.mem_insertionSort _).mp ((List.destutter_sublist _ _).mem h)
  obtain ⟨slot, -, rfl⟩ := List.mem_map.mp hmem
  rw [UInt16.toNat_ofNat_of_lt' (by simp only [UInt16.size]; omega)]
  omega

/-! ### The waveform -/

/-- What holds of a rendered waveform. -/
structure WaveformSnapshot.WellFormed (waveform : WaveformSnapshot) : Prop where
  length_primarySamples : waveform.primarySamples.length = 128
  length_secondarySamples : waveform.secondarySamples.length = 128
  length_toothIntervalsUs : waveform.toothIntervalsUs.length = waveform.toothCount.toNat
  six_le_toothCount : 6 ≤ waveform.toothCount.toNat
  toothCount_le : waveform.toothCount.toNat ≤ 96
  one_le_toothIntervalsUs : ∀ interval ∈ waveform.toothIntervalsUs, 1 ≤ interval
  referenceEventIndex_lt : waveform.referenceEventIndex.toNat < waveform.toothIntervalsUs.length
  pairwise_secondaryEventIndexes : waveform.secondaryEventIndexes.Pairwise (· < ·)
  secondaryEventIndexes_lt :
    ∀ index ∈ waveform.secondaryEventIndexes, index.toNat < waveform.toothIntervalsUs.length
  length_secondaryEventIndexes : waveform.secondaryEventIndexes.length ≤ 8

/-- What holds of a capture and a tooth log of one state. -/
structure PicturesSafe (capture : TriggerCapture) (log : TriggerToothLog) : Prop where
  length_primarySamples : capture.primarySamples.length = 128
  length_secondarySamples : capture.secondarySamples.length = 128
  toothIntervalsUs_ne_nil : log.toothIntervalsUs ≠ []
  one_le_toothIntervalsUs : ∀ interval ∈ log.toothIntervalsUs, 1 ≤ interval
  length_toothIntervalsUs : log.toothIntervalsUs.length = capture.toothCount.toNat
  toothCount_mem : 6 ≤ capture.toothCount ∧ capture.toothCount ≤ 96
  referenceEventIndex_lt : log.referenceEventIndex.toNat < log.toothIntervalsUs.length
  pairwise_secondaryEventIndexes : log.secondaryEventIndexes.Pairwise (· < ·)
  secondaryEventIndexes_lt :
    ∀ index ∈ log.secondaryEventIndexes, index.toNat < log.toothIntervalsUs.length
  decode_capture :
    Wire.decodeTriggerCapturePayload.run (encodeTriggerCapturePayload capture) = .ok capture
  decode_log : Wire.decodeTriggerToothLogPayload.run (encodeTriggerToothLogPayload log) = .ok log

namespace TriggerRuntime

variable (t : TriggerRuntime)

theorem exists_buildWaveform (syncState : String) (preset : TriggerDecoderPreset) :
    ∃ waveform, t.buildWaveform syncState preset = some waveform ∧ waveform.WellFormed ∧
      waveform.syncState = syncState := by
  obtain ⟨profile, hprofile⟩ := t.exists_runtimeProfile preset
  rw [buildWaveform, hprofile, Option.bind_eq_bind, Option.bind_some]
  dsimp only
  have hwindow := toNat_captureWindowUs_lt profile.engineCycleDeg
    ((780 : UInt16).saturatingAdd (t.sampleCounter % 180).toUInt16)
  generalize captureWindowUs profile.engineCycleDeg _ = window at hwindow ⊢
  have hlength := profile.length_toothIntervals window t.sampleCounter
  have hone := fun interval (h : interval ∈ profile.toothIntervals window t.sampleCounter) =>
    profile.one_le_of_mem_toothIntervals hwindow h
  generalize profile.toothIntervals window t.sampleCounter = intervals at hlength hone ⊢
  obtain ⟨ratio, hratio⟩ := profile.exists_measuredGapRatio hlength
  obtain ⟨pulses, hpulses, hprimary⟩ := exists_primaryPulses intervals
  obtain ⟨samples, hsamples, hsecondary⟩ : ∃ samples,
      (secondaryEventIndexes profile.secondaryEventsPerCycle.toNat intervals.length).foldlM
        (markSecondary pulses.pulsePositions) (List.replicate 128 0) = some samples ∧
      samples.length = 128 :=
    List.exists_foldlM
      (fun _ hsamples index _ => exists_markSecondary pulses.pulsePositions hsamples index) rfl
  simp only [hratio, hpulses, hsamples, Option.bind_eq_bind, Option.bind_some]
  have hsix := profile.six_le_eventCount
  have hle := profile.eventCount_le
  have hcount : (UInt16.ofNat intervals.length).toNat = intervals.length :=
    UInt16.toNat_ofNat_of_lt' (by simp only [UInt16.size]; omega)
  refine ⟨_, rfl, ⟨hprimary, hsecondary, hcount.symm, ?_, ?_, hone, ?_,
    pairwise_secondaryEventIndexes _ _,
    fun index => lt_of_mem_secondaryEventIndexes (by omega) (by omega),
    length_secondaryEventIndexes_le _ _⟩, rfl⟩
  · rw [hcount]
    omega
  · rw [hcount]
    omega
  · dsimp only
    have hgap := profile.gapIndex_lt
    split_ifs
    · rw [UInt16.toNat_ofNat_of_lt' (by simp only [UInt16.size]; omega)]
      omega
    · rw [UInt16.toNat_min, UInt16.toNat_ofNat_of_lt' (by simp only [UInt16.size]; omega)]
      omega

/-- The sync states are short strings. -/
theorem shortString_advanceState (counter : UInt32) : ShortString (t.advanceState counter).2 := by
  rw [advanceState]
  dsimp only
  split_ifs <;> decide

/-- Both pictures of a state show one waveform. -/
theorem exists_pictures {syncState : String} (hsync : ShortString syncState) :
    ∃ capture log, t.capture syncState = some capture ∧ t.toothLog syncState = some log ∧
      PicturesSafe capture log := by
  obtain ⟨waveform, hwaveform, hwell, hstate⟩ := t.exists_buildWaveform syncState t.activePreset
  obtain ⟨profile, hprofile⟩ := t.exists_runtimeProfile t.activePreset
  have hpreset := encodable_findPreset t.config.activePresetKey
  simp only [capture, toothLog, hwaveform, hprofile, Option.bind_eq_bind, Option.bind_some]
  have hcount := hwell.length_toothIntervalsUs
  have hsix := hwell.six_le_toothCount
  have hle := hwell.toothCount_le
  refine ⟨_, _, rfl, rfl, ?_⟩
  exact
    { length_primarySamples := hwell.length_primarySamples
      length_secondarySamples := hwell.length_secondarySamples
      toothIntervalsUs_ne_nil := List.length_pos_iff.mp (by dsimp only; omega)
      one_le_toothIntervalsUs := hwell.one_le_toothIntervalsUs
      length_toothIntervalsUs := hcount
      toothCount_mem := ⟨UInt16.le_iff_toNat_le.mpr hsix, UInt16.le_iff_toNat_le.mpr hle⟩
      referenceEventIndex_lt := hwell.referenceEventIndex_lt
      pairwise_secondaryEventIndexes := hwell.pairwise_secondaryEventIndexes
      secondaryEventIndexes_lt := hwell.secondaryEventIndexes_lt
      decode_capture := Wire.decode_encodeTriggerCapturePayload
        { presetKey := hpreset.key
          presetLabel := hpreset.label
          syncState := hstate ▸ hsync
          primaryLabel := hpreset.primaryInputLabel
          secondaryLabel := hpreset.secondaryInputLabel
          length_secondarySamples :=
            hwell.length_secondarySamples.trans hwell.length_primarySamples.symm
          length_primarySamples := hwell.length_primarySamples.trans_le (by decide) }
      decode_log := Wire.decode_encodeTriggerToothLogPayload
        { presetKey := hpreset.key
          presetLabel := hpreset.label
          syncState := hstate ▸ hsync
          primaryLabel := hpreset.primaryInputLabel
          secondaryLabel := hpreset.secondaryInputLabel
          length_toothIntervalsUs := by dsimp only; omega
          length_secondaryEventIndexes :=
            hwell.length_secondaryEventIndexes.trans (by decide) } }

end TriggerRuntime

/-- **The trigger pictures are safe.** Whatever page 0 selected the decoder and whatever counters
were observed since, the pictures of the next tick are rendered without the fallback of a pattern,
advance the state as that tick does, and are read back by the decoders. -/
theorem trigger_pictures_safe (t : TriggerRuntime) (payload : Bytes) (counters : List UInt32)
    (counter : UInt32) :
    let s := counters.foldl TriggerRuntime.observeTick (t.applyPage0Payload payload)
    FallbackFree s.config.mode ∧ ∃ capture log,
      s.triggerCapture counter = some (s.observeTick counter, capture) ∧
      s.triggerToothLog counter = some (s.observeTick counter, log) ∧
      PicturesSafe capture log := by
  intro s
  obtain ⟨capture, log, hcapture, hlog, hsafe⟩ :=
    (s.observeTick counter).exists_pictures (s.shortString_advanceState counter)
  refine ⟨fallbackFree _, capture, log, ?_, ?_, hsafe⟩
  · exact congrArg (Option.map fun capture => (s.observeTick counter, capture)) hcapture
  · exact congrArg (Option.map fun log => (s.observeTick counter, log)) hlog

end StEcu
