import StEcu.Foundation.BigEndian
import StEcu.Foundation.Saturating
import StEcu.Platform

/-!
# The trigger runtime

Which trigger decoder is active and how its counters advance (`src/trigger_runtime.rs`). The
decoder is selected from page 0; a page too short to hold the selection stands for the default one.

## Main definitions

* `Page0TriggerConfig.parse`, `selectDecoderFromPage0`.
* `TriggerRuntime`, `TriggerRuntime.applyPage0Payload`, `TriggerRuntime.advanceState`.
* `TriggerRuntime.Config`: the part of the state that comes from page 0.
-/

namespace StEcu

/-- The kinds of triggers that the runtime renders. -/
inductive RuntimeMode
  | missingTooth (totalTeeth missingTeeth : UInt16)
  | distributor (cylinders : UInt8)
  | dualWheel (primaryTeeth : UInt16) (secondaryEvents : UInt8)
  | catalogDefault
  deriving DecidableEq, Repr

/-- The trigger settings of page 0. -/
structure Page0TriggerConfig where
  cylinders : UInt8 := 4
  triggerType : UInt8 := 0
  totalTeeth : UInt16 := 60
  missingTeeth : UInt16 := 2
  camSync : Bool := true
  secondaryEnabled : Bool := true
  deriving DecidableEq, Repr

/-- A number of cylinders that is possible. -/
def sanitizeCylinderCount (value : UInt8) : UInt8 := if value = 0 then 4 else min value 16

theorem sanitizeCylinderCount_ne_zero (value : UInt8) : sanitizeCylinderCount value ≠ 0 := by
  rw [sanitizeCylinderCount]
  split_ifs with hzero
  · decide
  · rw [ne_eq, ← UInt8.toNat_inj, UInt8.toNat_min] at *
    simp only [UInt8.reduceToNat] at *
    omega

theorem sanitizeCylinderCount_le (value : UInt8) : sanitizeCylinderCount value ≤ 16 := by
  rw [sanitizeCylinderCount, UInt8.le_iff_toNat_le]
  split_ifs
  · decide
  · rw [UInt8.toNat_min]
    exact min_le_right _ _

/-- The trigger settings of a page that is long enough; its magic is not looked at. -/
def Page0TriggerConfig.parse (payload : Bytes) : Option Page0TriggerConfig :=
  if payload.length ≤ 57 then none
  else
    some
      { cylinders := sanitizeCylinderCount (payload.getD 5 0)
        triggerType := payload.getD 44 0
        totalTeeth := u16OfBe (slice payload 46 48)
        missingTeeth := u16OfBe (slice payload 48 50)
        camSync := payload.getD 55 0 != 0
        secondaryEnabled := payload.getD 57 0 != 0 }

/-- The decoder that is chosen, and the trigger that it renders. -/
structure TriggerSelection where
  presetKey : String
  mode : RuntimeMode
  deriving DecidableEq, Repr

/-- The number of cylinders of a distributor: four, six or eight. -/
def normalizeDistributorCylinders (value : UInt8) : UInt8 :=
  let cylinders := sanitizeCylinderCount value
  if 8 ≤ cylinders then 8 else if 6 ≤ cylinders then 6 else 4

/-- A number of teeth and of missing ones that is possible. -/
def sanitizeMissingToothLayout (totalTeeth missingTeeth : UInt16) : UInt16 × UInt16 :=
  let total := if totalTeeth < 4 then 60 else min totalTeeth 512
  let missing := if missingTeeth = 0 then 2 else min missingTeeth (total - 1)
  (total, if missing = 0 then 1 else missing)

/-- A sanitised wheel has 4 to 512 teeth, some of them missing. -/
theorem sanitizeMissingToothLayout_mem (totalTeeth missingTeeth : UInt16) :
    4 ≤ (sanitizeMissingToothLayout totalTeeth missingTeeth).1 ∧
      (sanitizeMissingToothLayout totalTeeth missingTeeth).1 ≤ 512 ∧
      (sanitizeMissingToothLayout totalTeeth missingTeeth).2 ≠ 0 ∧
      (sanitizeMissingToothLayout totalTeeth missingTeeth).2 <
        (sanitizeMissingToothLayout totalTeeth missingTeeth).1 := by
  rw [sanitizeMissingToothLayout]
  dsimp only
  have htotal : 4 ≤ (if totalTeeth < 4 then 60 else min totalTeeth 512).toNat ∧
      (if totalTeeth < 4 then 60 else min totalTeeth 512).toNat ≤ 512 := by
    split_ifs with hfew
    · decide
    · rw [UInt16.lt_iff_toNat_lt] at hfew
      rw [UInt16.toNat_min]
      simp only [UInt16.reduceToNat] at *
      omega
  generalize (if totalTeeth < 4 then 60 else min totalTeeth 512) = total at htotal ⊢
  have hless : (total - 1).toNat = total.toNat - 1 := by
    rw [UInt16.toNat_sub_of_le _ _ (UInt16.le_iff_toNat_le.mpr (by simp; omega))]
    rfl
  have hmissing : (if missingTeeth = 0 then 2 else min missingTeeth (total - 1)).toNat <
      total.toNat := by
    split_ifs
    · simp only [UInt16.reduceToNat]
      omega
    · rw [UInt16.toNat_min]
      omega
  generalize (if missingTeeth = 0 then 2 else min missingTeeth (total - 1)) = missing at hmissing ⊢
  simp only [UInt16.le_iff_toNat_le, UInt16.lt_iff_toNat_lt]
  refine ⟨htotal.1, htotal.2, ?_⟩
  split_ifs with hzero
  · exact ⟨by decide, htotal.1.trans_lt' (by decide)⟩
  · exact ⟨hzero, hmissing⟩

/-- A number of teeth brought into the range of a primary wheel. -/
def clampTeeth (teeth : UInt16) : UInt16 := max 4 (min teeth 96)

/-- The selection of the missing-tooth decoder. -/
def missingMode (config : Page0TriggerConfig) : TriggerSelection :=
  let (totalTeeth, missingTeeth) :=
    sanitizeMissingToothLayout config.totalTeeth config.missingTeeth
  { presetKey := if totalTeeth = 36 ∧ missingTeeth = 1 then "generic_36_1" else "generic_60_2"
    mode := .missingTooth totalTeeth missingTeeth }

/-- The decoder that the settings of page 0 choose. -/
def selectDecoderFromPage0 (config : Page0TriggerConfig) : TriggerSelection :=
  let distributorCyl := normalizeDistributorCylinders config.cylinders
  let distributorKey :=
    if distributorCyl = 8 then "distributor_basic_8"
    else if distributorCyl = 6 then "distributor_basic_6"
    else "distributor_basic_4"
  let primaryTeeth := clampTeeth config.totalTeeth
  let secondaryEvents : UInt8 := if config.secondaryEnabled then 2 else 1
  match config.triggerType.toNat with
  | 0 => missingMode config
  | 1 => ⟨"subaru_6_7", .catalogDefault⟩
  | 2 => ⟨"mitsubishi_4g63", .catalogDefault⟩
  | 3 => ⟨"gm_24x", .catalogDefault⟩
  | 4 | 5 => ⟨"honda_k20_12_1", .catalogDefault⟩
  | 6 => ⟨"nissan_vq_36_2_2_2", .catalogDefault⟩
  | 7 => ⟨"nissan_360_slot", .catalogDefault⟩
  | 8 => ⟨"toyota_36_2_2_2", .catalogDefault⟩
  | 9 => ⟨"ford_st170", .catalogDefault⟩
  | 10 =>
    if config.secondaryEnabled || config.camSync then ⟨"dual_wheel", .dualWheel primaryTeeth 1⟩
    else missingMode config
  | 11 | 12 => ⟨distributorKey, .distributor distributorCyl⟩
  | 13 => ⟨"dual_wheel", .dualWheel primaryTeeth secondaryEvents⟩
  | 14 =>
    if config.secondaryEnabled || config.camSync then
      ⟨"dual_wheel", .dualWheel primaryTeeth secondaryEvents⟩
    else if config.missingTeeth > 0 then missingMode config
    else ⟨distributorKey, .distributor distributorCyl⟩
  | _ => missingMode config

/-- The keys of the supported presets, in catalogue order. -/
def supportedTriggerDecoderKeys : List String :=
  ["generic_60_2", "generic_36_1", "dual_wheel", "distributor_basic_4", "distributor_basic_6",
    "distributor_basic_8", "honda_k20_12_1", "toyota_36_2_2_2", "gm_24x", "nissan_360_slot",
    "subaru_6_7", "mitsubishi_4g63", "mazda_36_2_1", "ford_st170", "gm_58x", "toyota_2jz_vvti",
    "bmw_m54_60_2", "ford_coyote", "subaru_ej_36_2_2_2", "mazda_bp_4_1", "nissan_vq_36_2_2_2"]

/-- The key of the preset found; the first preset where there is none. -/
def findPresetKey (key : String) : String :=
  (supportedTriggerDecoderKeys.find? fun preset => preset == key).getD "generic_60_2"

/-- The part of the trigger state that comes from page 0. -/
structure TriggerRuntime.Config where
  activePresetKey : String := "generic_60_2"
  mode : RuntimeMode := .missingTooth 60 2
  cylinders : UInt8 := 4
  camSync : Bool := true
  secondaryEnabled : Bool := true
  deriving DecidableEq, Repr

/-- The settings of the trigger, and the counters that its pictures depend on. -/
structure TriggerRuntime where
  config : TriggerRuntime.Config := {}
  sampleCounter : UInt32 := 0
  syncLossCounter : UInt32 := 0
  syncedCycles : UInt32 := 0
  deriving DecidableEq, Repr

/-- The configuration that a page 0 stands for. -/
def TriggerRuntime.Config.ofPage0 (payload : Bytes) : TriggerRuntime.Config :=
  let config := (Page0TriggerConfig.parse payload).getD {}
  let selection := selectDecoderFromPage0 config
  { activePresetKey := findPresetKey selection.presetKey
    mode := selection.mode
    cylinders := sanitizeCylinderCount config.cylinders
    camSync := config.camSync
    secondaryEnabled := config.secondaryEnabled }

namespace TriggerRuntime

variable (t : TriggerRuntime)

/-- The settings taken from page 0. -/
def applyPage0Payload (payload : Bytes) : TriggerRuntime :=
  { t with config := .ofPage0 payload }

/-- Advances the counters and says whether the decoder is in sync. -/
def advanceState (counter : UInt32) : TriggerRuntime × String :=
  let next := t.sampleCounter + 1
  let sampleCounter := if next < counter then counter else next
  let lost := sampleCounter % 173 = 0
  ({ t with
      sampleCounter
      syncLossCounter := if lost then t.syncLossCounter.saturatingAdd 1 else t.syncLossCounter
      syncedCycles := if lost then t.syncedCycles else t.syncedCycles.saturatingAdd 1 },
    if lost then "syncing" else "locked")

/-- The counters brought up to a sample. -/
def observeTick (counter : UInt32) : TriggerRuntime := (t.advanceState counter).1

@[simp] theorem config_advanceState (counter : UInt32) :
    (t.advanceState counter).1.config = t.config := rfl

@[simp] theorem config_observeTick (counter : UInt32) :
    (t.observeTick counter).config = t.config := rfl

end TriggerRuntime

end StEcu
