import StEcu.Protocol.RoundTrip
import StEcu.Trigger.Runtime

/-!
# The trigger decoder presets

The catalogue of `src/trigger.rs`. Its first preset stands for a key that is not in it.

## Main definitions

* `supportedTriggerDecoders`, `findPreset`.

## Main results

* `encodable_findPreset`: a preset found fits its place in the directory.
-/

namespace StEcu

/-- The decoders that the firmware knows, the default one first. -/
def supportedTriggerDecoders : List TriggerDecoderPreset := [
    { key := "generic_60_2"
      label := "Generic 60-2 + Home"
      family := "Universal Missing-Tooth"
      decoder := "missing_tooth_60_2"
      patternKind := "missing_tooth"
      primaryInputLabel := "Crank VR/Hall"
      secondaryInputLabel := some "Cam Home"
      primarySensorKind := "vr_or_hall"
      secondarySensorKind := some "hall_or_optical"
      edgePolicy := "configurable"
      syncStrategy := "missing_tooth_plus_home"
      primaryPatternHint := "60-2 crank wheel on the primary input"
      secondaryPatternHint := some "Single home or cam-sync event every 720 deg"
      referenceDescription :=
        "Locks on the missing-tooth gap and confirms engine phase from the home input."
      expectedEngineCycleDeg := 720
      requiresSecondary := true
      supportsSequential := true },
    { key := "generic_36_1"
      label := "Generic 36-1 + Home"
      family := "Universal Missing-Tooth"
      decoder := "missing_tooth_36_1"
      patternKind := "missing_tooth"
      primaryInputLabel := "Crank VR/Hall"
      secondaryInputLabel := some "Cam Home"
      primarySensorKind := "vr_or_hall"
      secondarySensorKind := some "hall_or_optical"
      edgePolicy := "configurable"
      syncStrategy := "missing_tooth_plus_home"
      primaryPatternHint := "36-1 crank wheel on the primary input"
      secondaryPatternHint := some "Single home or cam-sync event every 720 deg"
      referenceDescription :=
        "Missing-tooth lock from a 36-1 crank pattern with phase confirmation from home input."
      expectedEngineCycleDeg := 720
      requiresSecondary := true
      supportsSequential := true },
    { key := "dual_wheel"
      label := "Dual Wheel + Home"
      family := "Universal Dual-Wheel"
      decoder := "dual_wheel_phase"
      patternKind := "oem_pattern"
      primaryInputLabel := "Crank Wheel"
      secondaryInputLabel := some "Cam Home"
      primarySensorKind := "vr_or_hall"
      secondarySensorKind := some "hall_or_optical"
      edgePolicy := "configurable"
      syncStrategy := "dual_wheel_phase"
      primaryPatternHint := "Evenly spaced crank wheel events on primary input"
      secondaryPatternHint := some "Single or dual cam-home events per 720 deg cycle"
      referenceDescription :=
        "Dual-wheel phase decoder using crank spacing with cam-home validation for full-cycle sync."
      expectedEngineCycleDeg := 720
      requiresSecondary := true
      supportsSequential := true },
    { key := "distributor_basic_4"
      label := "Distributor Basic (4 cyl)"
      family := "Basic Distributor"
      decoder := "distributor_even_4"
      patternKind := "distributor"
      primaryInputLabel := "Distributor Signal"
      secondaryInputLabel := none
      primarySensorKind := "hall_or_vr"
      secondarySensorKind := none
      edgePolicy := "configurable"
      syncStrategy := "even_spacing_distributor"
      primaryPatternHint := "4 evenly spaced events per 720 deg engine cycle"
      secondaryPatternHint := none
      referenceDescription :=
        "Basic distributor mode for 4-cylinder engines using evenly spaced events."
      expectedEngineCycleDeg := 720
      requiresSecondary := false
      supportsSequential := false },
    { key := "distributor_basic_6"
      label := "Distributor Basic (6 cyl)"
      family := "Basic Distributor"
      decoder := "distributor_even_6"
      patternKind := "distributor"
      primaryInputLabel := "Distributor Signal"
      secondaryInputLabel := none
      primarySensorKind := "hall_or_vr"
      secondarySensorKind := none
      edgePolicy := "configurable"
      syncStrategy := "even_spacing_distributor"
      primaryPatternHint := "6 evenly spaced events per 720 deg engine cycle"
      secondaryPatternHint := none
      referenceDescription :=
        "Basic distributor mode for 6-cylinder engines using evenly spaced events."
      expectedEngineCycleDeg := 720
      requiresSecondary := false
      supportsSequential := false },
    { key := "distributor_basic_8"
      label := "Distributor Basic (8 cyl)"
      family := "Basic Distributor"
      decoder := "distributor_even_8"
      patternKind := "distributor"
      primaryInputLabel := "Distributor Signal"
      secondaryInputLabel := none
      primarySensorKind := "hall_or_vr"
      secondarySensorKind := none
      edgePolicy := "configurable"
      syncStrategy := "even_spacing_distributor"
      primaryPatternHint := "8 evenly spaced events per 720 deg engine cycle"
      secondaryPatternHint := none
      referenceDescription :=
        "Basic distributor mode for 8-cylinder engines using evenly spaced events."
      expectedEngineCycleDeg := 720
      requiresSecondary := false
      supportsSequential := false },
    { key := "honda_k20_12_1"
      label := "Honda K20 / K24"
      family := "Honda K-Series"
      decoder := "oem_honda_k_12_1"
      patternKind := "oem_pattern"
      primaryInputLabel := "Crank (CKP)"
      secondaryInputLabel := some "Cam / TDC (CMP)"
      primarySensorKind := "hall"
      secondarySensorKind := some "hall"
      edgePolicy := "decoder_defined"
      syncStrategy := "ckp_plus_cmp_phase"
      primaryPatternHint := "12 CKP windows on the crank pattern"
      secondaryPatternHint := some "Honda K cam and TDC phase windows"
      referenceDescription :=
        "Uses CKP window timing plus CMP phase windows to identify the full engine cycle."
      expectedEngineCycleDeg := 720
      requiresSecondary := true
      supportsSequential := true },
    { key := "toyota_36_2_2_2"
      label := "Toyota 36-2-2-2"
      family := "Toyota VVT-i"
      decoder := "oem_toyota_36_2_2_2"
      patternKind := "oem_pattern"
      primaryInputLabel := "Crank (NE)"
      secondaryInputLabel := some "Cam (G)"
      primarySensorKind := "vr"
      secondarySensorKind := some "hall"
      edgePolicy := "decoder_defined"
      syncStrategy := "ckp_plus_cmp_phase"
      primaryPatternHint := "36-2-2-2 crank pattern on the NE input"
      secondaryPatternHint := some "Toyota G cam phase pulses"
      referenceDescription :=
        "Uses the NE gap structure and G cam pulses to synchronize crank position and phase."
      expectedEngineCycleDeg := 720
      requiresSecondary := true
      supportsSequential := true },
    { key := "gm_24x"
      label := "GM 24x"
      family := "GM LS"
      decoder := "oem_gm_24x"
      patternKind := "oem_pattern"
      primaryInputLabel := "Crank 24x"
      secondaryInputLabel := some "Cam Sync"
      primarySensorKind := "hall"
      secondarySensorKind := some "hall"
      edgePolicy := "decoder_defined"
      syncStrategy := "ckp_plus_cmp_phase"
      primaryPatternHint := "24x crank pattern on the primary input"
      secondaryPatternHint := some "Single cam-sync event per engine cycle"
      referenceDescription :=
        "Synchronizes from the 24x crank pattern and validates engine phase from cam sync."
      expectedEngineCycleDeg := 720
      requiresSecondary := true
      supportsSequential := true },
    { key := "nissan_360_slot"
      label := "Nissan 360 Slot"
      family := "Nissan CAS"
      decoder := "oem_nissan_360_slot"
      patternKind := "oem_pattern"
      primaryInputLabel := "Outer Track"
      secondaryInputLabel := some "Inner Track"
      primarySensorKind := "optical"
      secondarySensorKind := some "optical"
      edgePolicy := "decoder_defined"
      syncStrategy := "dual_track_cas"
      primaryPatternHint := "360-slot outer optical track"
      secondaryPatternHint := some "Inner optical sync track"
      referenceDescription :=
        "Combines outer-track position events with inner-track sync slots for full phase lock."
      expectedEngineCycleDeg := 720
      requiresSecondary := true
      supportsSequential := true },
    { key := "subaru_6_7"
      label := "Subaru 6/7"
      family := "Subaru EJ"
      decoder := "oem_subaru_6_7"
      patternKind := "oem_pattern"
      primaryInputLabel := "Crank (6-tooth)"
      secondaryInputLabel := some "Cam (7-window)"
      primarySensorKind := "hall"
      secondarySensorKind := some "hall"
      edgePolicy := "decoder_defined"
      syncStrategy := "ckp_plus_cmp_phase"
      primaryPatternHint := "Subaru 6-slot crank pattern on CKP"
      secondaryPatternHint := some "Subaru 7-window cam phase pattern"
      referenceDescription := "Combines Subaru crank and cam windows for phase-accurate sync."
      expectedEngineCycleDeg := 720
      requiresSecondary := true
      supportsSequential := true },
    { key := "mitsubishi_4g63"
      label := "Mitsubishi 4G63"
      family := "Mitsubishi EVO"
      decoder := "oem_mitsubishi_4g63"
      patternKind := "oem_pattern"
      primaryInputLabel := "Crank (CAS primary)"
      secondaryInputLabel := some "Cam (CAS phase)"
      primarySensorKind := "optical"
      secondarySensorKind := some "optical"
      edgePolicy := "decoder_defined"
      syncStrategy := "dual_track_cas"
      primaryPatternHint := "4G63 optical/cas primary track"
      secondaryPatternHint := some "4G63 phase track for cylinder identification"
      referenceDescription :=
        "Uses the Mitsubishi CAS dual-track arrangement for full engine phase lock."
      expectedEngineCycleDeg := 720
      requiresSecondary := true
      supportsSequential := true },
    { key := "mazda_36_2_1"
      label := "Mazda 36-2-1"
      family := "Mazda MZR"
      decoder := "oem_mazda_36_2_1"
      patternKind := "oem_pattern"
      primaryInputLabel := "Crank (36-2-1)"
      secondaryInputLabel := some "Cam Sync"
      primarySensorKind := "hall"
      secondarySensorKind := some "hall"
      edgePolicy := "decoder_defined"
      syncStrategy := "ckp_plus_cmp_phase"
      primaryPatternHint := "Mazda 36-2-1 CKP sequence"
      secondaryPatternHint := some "Single CMP phase sync event"
      referenceDescription := "Identifies missing-tooth subgrouping and validates phase with CMP."
      expectedEngineCycleDeg := 720
      requiresSecondary := true
      supportsSequential := true },
    { key := "ford_st170"
      label := "Ford ST170"
      family := "Ford Zetec"
      decoder := "oem_ford_st170"
      patternKind := "oem_pattern"
      primaryInputLabel := "Crank (36-1)"
      secondaryInputLabel := some "Cam Sync"
      primarySensorKind := "vr"
      secondarySensorKind := some "hall"
      edgePolicy := "decoder_defined"
      syncStrategy := "missing_tooth_plus_home"
      primaryPatternHint := "Ford 36-1 crank wheel"
      secondaryPatternHint := some "Single cam event per cycle"
      referenceDescription := "Uses the 36-1 crank gap and cam-home event to synchronize phase."
      expectedEngineCycleDeg := 720
      requiresSecondary := true
      supportsSequential := true },
    { key := "gm_58x"
      label := "GM LS 58x"
      family := "GM Gen IV / V LS"
      decoder := "oem_gm_58x"
      patternKind := "oem_pattern"
      primaryInputLabel := "Crank 58x"
      secondaryInputLabel := some "Cam Sync"
      primarySensorKind := "hall"
      secondarySensorKind := some "hall"
      edgePolicy := "decoder_defined"
      syncStrategy := "ckp_plus_cmp_phase"
      primaryPatternHint := "GM 58x crank pattern on CKP"
      secondaryPatternHint := some "Single cam-sync event per 720 deg"
      referenceDescription :=
        "Uses the GM 58x crank wheel and cam-sync pulse to lock crank position and phase."
      expectedEngineCycleDeg := 720
      requiresSecondary := true
      supportsSequential := true },
    { key := "toyota_2jz_vvti"
      label := "Toyota 2JZ VVT-i"
      family := "Toyota JZ"
      decoder := "oem_toyota_2jz_vvti"
      patternKind := "oem_pattern"
      primaryInputLabel := "Crank (36-2)"
      secondaryInputLabel := some "Cam (VVT-i)"
      primarySensorKind := "vr"
      secondarySensorKind := some "hall"
      edgePolicy := "decoder_defined"
      syncStrategy := "missing_tooth_plus_home"
      primaryPatternHint := "2JZ 36-2 crank wheel on NE input"
      secondaryPatternHint := some "Single VVT-i cam phase event per cycle"
      referenceDescription :=
        "Combines 36-2 crank tooth timing with cam phase sync for full 720 deg lock."
      expectedEngineCycleDeg := 720
      requiresSecondary := true
      supportsSequential := true },
    { key := "bmw_m54_60_2"
      label := "BMW M54 / S54"
      family := "BMW M5x/S5x"
      decoder := "oem_bmw_m54_60_2"
      patternKind := "oem_pattern"
      primaryInputLabel := "Crank (60-2)"
      secondaryInputLabel := some "Dual VANOS Cam"
      primarySensorKind := "hall"
      secondarySensorKind := some "hall"
      edgePolicy := "decoder_defined"
      syncStrategy := "missing_tooth_plus_home"
      primaryPatternHint := "BMW 60-2 crank pattern"
      secondaryPatternHint := some "Cam phase windows from VANOS cam sensors"
      referenceDescription :=
        "Uses 60-2 crank position and cam phase windows to resolve full cycle and phase."
      expectedEngineCycleDeg := 720
      requiresSecondary := true
      supportsSequential := true },
    { key := "ford_coyote"
      label := "Ford Coyote 5.0"
      family := "Ford Modular Ti-VCT"
      decoder := "oem_ford_coyote"
      patternKind := "oem_pattern"
      primaryInputLabel := "Crank (36-1)"
      secondaryInputLabel := some "Dual Cam Sync"
      primarySensorKind := "hall"
      secondarySensorKind := some "hall"
      edgePolicy := "decoder_defined"
      syncStrategy := "missing_tooth_plus_home"
      primaryPatternHint := "Ford 36-1 crank trigger"
      secondaryPatternHint := some "Ti-VCT cam phase windows"
      referenceDescription :=
        "Locks from the 36-1 crank gap and validates cylinder phase from cam windows."
      expectedEngineCycleDeg := 720
      requiresSecondary := true
      supportsSequential := true },
    { key := "subaru_ej_36_2_2_2"
      label := "Subaru EJ 36-2-2-2"
      family := "Subaru EJ Phase 2"
      decoder := "oem_subaru_ej_36_2_2_2"
      patternKind := "oem_pattern"
      primaryInputLabel := "Crank (36-2-2-2)"
      secondaryInputLabel := some "Cam Phase"
      primarySensorKind := "hall"
      secondarySensorKind := some "hall"
      edgePolicy := "decoder_defined"
      syncStrategy := "ckp_plus_cmp_phase"
      primaryPatternHint := "Subaru phase-2 36-2-2-2 CKP wheel"
      secondaryPatternHint := some "Subaru cam phase windows"
      referenceDescription :=
        "Decodes Subaru phase-2 gap pattern and cam windows for sequential phase lock."
      expectedEngineCycleDeg := 720
      requiresSecondary := true
      supportsSequential := true },
    { key := "mazda_bp_4_1"
      label := "Mazda BP 4+1"
      family := "Mazda BP / Miata"
      decoder := "oem_mazda_bp_4_1"
      patternKind := "oem_pattern"
      primaryInputLabel := "Crank (4-tooth)"
      secondaryInputLabel := some "Cam (1-tooth)"
      primarySensorKind := "hall_or_optical"
      secondarySensorKind := some "hall_or_optical"
      edgePolicy := "decoder_defined"
      syncStrategy := "ckp_plus_cmp_phase"
      primaryPatternHint := "4 evenly spaced crank events per engine revolution"
      secondaryPatternHint := some "Single cam phase event every 720 deg"
      referenceDescription :=
        "Mazda BP trigger family using a simple crank pattern plus cam phase marker."
      expectedEngineCycleDeg := 720
      requiresSecondary := true
      supportsSequential := true },
    { key := "nissan_vq_36_2_2_2"
      label := "Nissan VQ 36-2-2-2"
      family := "Nissan VQ"
      decoder := "oem_nissan_vq_36_2_2_2"
      patternKind := "oem_pattern"
      primaryInputLabel := "Crank (36-2-2-2)"
      secondaryInputLabel := some "Cam Phase"
      primarySensorKind := "hall"
      secondarySensorKind := some "hall"
      edgePolicy := "decoder_defined"
      syncStrategy := "ckp_plus_cmp_phase"
      primaryPatternHint := "VQ crank wheel with 36-2-2-2 structure"
      secondaryPatternHint := some "Nissan cam phase events"
      referenceDescription :=
        "Uses VQ crank gap grouping and cam phase pulses to keep stable sync and phase."
      expectedEngineCycleDeg := 720
      requiresSecondary := true
      supportsSequential := true }
  ]

/-- The decoder of a key, or the default one. -/
def findPreset (key : String) : TriggerDecoderPreset :=
  (supportedTriggerDecoders.find? (·.key == key)).getD
    (supportedTriggerDecoders.head (List.cons_ne_nil _ _))

theorem findPreset_mem (key : String) : findPreset key ∈ supportedTriggerDecoders := by
  rw [findPreset]
  cases h : supportedTriggerDecoders.find? (·.key == key) with
  | none => exact List.head_mem (List.cons_ne_nil _ _)
  | some preset => exact List.mem_of_find?_eq_some h

/-- Every preset fits its place in the directory. -/
theorem encodable_supportedTriggerDecoders :
    ∀ preset ∈ supportedTriggerDecoders, preset.Encodable := by
  decide +kernel

theorem encodable_findPreset (key : String) : (findPreset key).Encodable :=
  encodable_supportedTriggerDecoders _ (findPreset_mem key)

end StEcu
