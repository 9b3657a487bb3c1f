import StEcu.Live.Actuator
import StEcu.Transport.Reference

/-!
# The two readers of page 0

The trigger decoder and the actuator settings both come from the staged page 0. The trigger of a
board always is the one of that page. The readers do not agree on which pages are valid: a page
with another magic or version stands for the default actuator settings, but its bytes are taken
for trigger settings all the same.

## Main definitions

* `RejectedByActuator`: the pages that the actuator settings reject for their magic or version.
* `ReadsAsDefaultTrigger`: the pages whose bytes read as the default trigger settings.

## Main results

* `page0_consumers_agree_iff`: the trigger of a board is the one of page 0, and a rejected page
  stands for the default trigger settings if and only if its bytes read as these.
-/

namespace StEcu

/-! ### Settings that are brought to the default ones -/

/-- A value cut off at a bound is a smaller one only if it was this one. -/
theorem cutOff_eq_iff {α : Type*} [LE α] [DecidableLE α] {value bound default : α}
    (hle : default ≤ bound) (hne : bound ≠ default) :
    (if value ≤ bound then value else bound) = default ↔ value = default := by
  split_ifs with hvalue
  · exact Iff.rfl
  · refine ⟨fun h => absurd h hne, ?_⟩
    rintro rfl
    exact absurd hle hvalue

theorem sanitizeCylinderCount_eq_default_iff (value : UInt8) :
    sanitizeCylinderCount value = 4 ↔ value = 0 ∨ value = 4 := by
  have hmin : min value 16 = 4 ↔ value = 4 := cutOff_eq_iff (by decide) (by decide)
  rw [sanitizeCylinderCount]
  split_ifs with hzero
  · exact ⟨fun _ => .inl hzero, fun _ => rfl⟩
  · rw [hmin, or_iff_right hzero]

theorem sanitizeMissingToothLayout_eq_default_iff (totalTeeth missingTeeth : UInt16) :
    sanitizeMissingToothLayout totalTeeth missingTeeth = (60, 2) ↔
      (totalTeeth < 4 ∨ totalTeeth = 60) ∧ (missingTeeth = 0 ∨ missingTeeth = 2) := by
  have htotal : (if totalTeeth < 4 then 60 else min totalTeeth 512) = 60 ↔
      totalTeeth < 4 ∨ totalTeeth = 60 := by
    have hmin : min totalTeeth 512 = 60 ↔ totalTeeth = 60 :=
      cutOff_eq_iff (by decide) (by decide)
    split_ifs with hsmall
    · exact ⟨fun _ => .inl hsmall, fun _ => rfl⟩
    · rw [hmin, or_iff_right hsmall]
  have hmissing : (if missingTeeth = 0 then 2 else min missingTeeth 59) = 2 ↔
      missingTeeth = 0 ∨ missingTeeth = 2 := by
    have hmin : min missingTeeth 59 = 2 ↔ missingTeeth = 2 :=
      cutOff_eq_iff (by decide) (by decide)
    split_ifs with hzero
    · exact ⟨fun _ => .inl hzero, fun _ => rfl⟩
    · rw [hmin, or_iff_right hzero]
  -- a count of zero is raised to one, and so never becomes two
  have hraise (missing : UInt16) : (if missing = 0 then 1 else missing) = 2 ↔ missing = 2 := by
    split_ifs with hzero
    · subst hzero
      decide
    · exact Iff.rfl
  rw [sanitizeMissingToothLayout, Prod.mk.injEq, htotal]
  refine and_congr_right fun h => ?_
  rw [htotal.mpr h, hraise]
  exact hmissing

/-! ### Which pages read as the default -/

/-- A page whose bytes read as the default trigger settings, or as settings that are brought to
these; or a page too short to have any. -/
def ReadsAsDefaultTrigger (payload : Bytes) : Prop :=
  payload.length ≤ 57 ∨
    (payload.getD 5 0 = 0 ∨ payload.getD 5 0 = 4) ∧
    (payload.getD 44 0 = 0 ∨ 15 ≤ payload.getD 44 0) ∧
    ((u16OfBe (slice payload 46 48) < 4 ∨ u16OfBe (slice payload 46 48) = 60) ∧
      (u16OfBe (slice payload 48 50) = 0 ∨ u16OfBe (slice payload 48 50) = 2)) ∧
    payload.getD 55 0 ≠ 0 ∧ payload.getD 57 0 ≠ 0

/-- A page that the actuator settings reject for its magic or version. -/
def RejectedByActuator (payload : Bytes) : Prop :=
  39 < payload.length ∧ (payload.take 4 ≠ page0Magic ∨ payload.getD 4 0 ≠ page0Version)

instance (payload : Bytes) : Decidable (ReadsAsDefaultTrigger payload) :=
  inferInstanceAs (Decidable (_ ∨ _))

instance (payload : Bytes) : Decidable (RejectedByActuator payload) :=
  inferInstanceAs (Decidable (_ ∧ _))

theorem parsePage0ActuatorConfig_of_rejected {payload : Bytes} (h : RejectedByActuator payload) :
    parsePage0ActuatorConfig payload = {} := by
  rw [parsePage0ActuatorConfig, if_neg (by have := h.1; omega), if_pos h.2]

/-- The default settings select the default decoder. -/
theorem TriggerRuntime.Config.ofPage0_nil : TriggerRuntime.Config.ofPage0 [] = {} := by decide

theorem toNat_triggerType_iff {triggerType : UInt8} :
    triggerType = 0 ∨ 15 ≤ triggerType ↔ triggerType.toNat = 0 ∨ 15 ≤ triggerType.toNat :=
  or_congr UInt8.toNat_inj.symm UInt8.le_iff_toNat_le

/-- The types of trigger that select the missing-tooth decoder whatever the cam does. -/
theorem selectDecoderFromPage0_of_missing {config : Page0TriggerConfig}
    (h : config.triggerType = 0 ∨ 15 ≤ config.triggerType) :
    selectDecoderFromPage0 config = missingMode config := by
  rw [toNat_triggerType_iff] at h
  rw [selectDecoderFromPage0]
  split
  case h_1 | h_16 => rfl
  all_goals omega

/-- With the cam signal on, every other type selects another decoder. -/
theorem mode_selectDecoderFromPage0_ne {config : Page0TriggerConfig}
    (h : ¬ (config.triggerType = 0 ∨ 15 ≤ config.triggerType)) (hcam : config.camSync = true)
    (totalTeeth missingTeeth : UInt16) :
    (selectDecoderFromPage0 config).mode ≠ .missingTooth totalTeeth missingTeeth := by
  rw [toNat_triggerType_iff] at h
  rw [selectDecoderFromPage0, hcam, Bool.or_true]
  split
  case h_1 => omega
  case h_16 => grind
  all_goals exact fun hmode => (nomatch hmode)

theorem mode_missingMode (config : Page0TriggerConfig) : (missingMode config).mode =
    .missingTooth (sanitizeMissingToothLayout config.totalTeeth config.missingTeeth).1
      (sanitizeMissingToothLayout config.totalTeeth config.missingTeeth).2 := rfl

/-- The trigger settings that select the default decoder. -/
theorem selectDecoderFromPage0_eq_default_iff {config : Page0TriggerConfig}
    (hcam : config.camSync = true) :
    (findPresetKey (selectDecoderFromPage0 config).presetKey = "generic_60_2" ∧
        (selectDecoderFromPage0 config).mode = .missingTooth 60 2) ↔
      (config.triggerType = 0 ∨ 15 ≤ config.triggerType) ∧
        sanitizeMissingToothLayout config.totalTeeth config.missingTeeth = (60, 2) := by
  by_cases htype : config.triggerType = 0 ∨ 15 ≤ config.triggerType
  · rw [selectDecoderFromPage0_of_missing htype, mode_missingMode, and_iff_right htype,
      RuntimeMode.missingTooth.injEq, Prod.ext_iff]
    refine and_iff_right_of_imp fun h => ?_
    rw [missingMode]
    dsimp only
    rw [if_neg fun h' => absurd (h'.1.symm.trans h.1) (by decide)]
    decide
  · exact iff_of_false (fun h => mode_selectDecoderFromPage0_ne htype hcam 60 2 h.2)
      fun h => htype h.1

/-- **Which pages stand for the default trigger settings.** -/
theorem ofPage0_eq_default_iff (payload : Bytes) :
    TriggerRuntime.Config.ofPage0 payload = {} ↔ ReadsAsDefaultTrigger payload := by
  rw [ReadsAsDefaultTrigger]
  by_cases hlen : payload.length ≤ 57
  · have hparse : Page0TriggerConfig.parse payload = none := if_pos hlen
    rw [TriggerRuntime.Config.ofPage0, hparse]
    exact iff_of_true TriggerRuntime.Config.ofPage0_nil (.inl hlen)
  · rw [or_iff_right hlen, TriggerRuntime.Config.ofPage0, Page0TriggerConfig.parse, if_neg hlen,
      Option.getD_some, TriggerRuntime.Config.mk.injEq]
    dsimp only
    rw [sanitizeCylinderCount_eq_default_iff, or_iff_right (sanitizeCylinderCount_ne_zero _),
      sanitizeCylinderCount_eq_default_iff, ← sanitizeMissingToothLayout_eq_default_iff,
      bne_iff_ne, bne_iff_ne]
    constructor
    · rintro ⟨hkey, hmode, hcylinders, hcam, hsecondary⟩
      obtain ⟨htype, hlayout⟩ := (selectDecoderFromPage0_eq_default_iff
        (by simpa using hcam)).mp ⟨hkey, hmode⟩
      exact ⟨hcylinders, htype, hlayout, hcam, hsecondary⟩
    · rintro ⟨hcylinders, htype, hlayout, hcam, hsecondary⟩
      rw [← and_assoc]
      refine ⟨?_, hcylinders, hcam, hsecondary⟩
      exact (selectDecoderFromPage0_eq_default_iff (by simpa using hcam)).mpr ⟨htype, hlayout⟩

variable {P : Platform} {A : Catalogue}

/-- **The two readers of page 0.** The trigger of a board always is the one that the staged page 0
selects. A page that the actuator settings reject for its magic or version, and so replace by the
default settings, stands for the default trigger settings if and only if its bytes read as these. -/
theorem page0_consumers_agree_iff {r : FirmwareRuntime} (h : Reachable P A r) :
    (∃ page, r.store.readPage basePageId = some page ∧
      r.triggerRuntime.config = (({} : TriggerRuntime).applyPage0Payload page).config) ∧
    ∀ (payload : Bytes) (t : TriggerRuntime), RejectedByActuator payload →
      parsePage0ActuatorConfig payload = {} ∧
      ((t.applyPage0Payload payload).config = {} ↔ ReadsAsDefaultTrigger payload) := by
  obtain ⟨page, hpage, -⟩ := h.sound.store.exists_readPage basePageId (n := 512) rfl
  exact ⟨⟨page, hpage, h.sound.trigger page hpage⟩, fun payload t hrejected =>
    ⟨parsePage0ActuatorConfig_of_rejected hrejected, ofPage0_eq_default_iff payload⟩⟩

/-- A new board: its page 0 is erased, and has no magic. The actuators fall back to their default
settings, and the trigger loses its cam signals. -/
theorem page0_consumers_disagree_new : ∃ r : FirmwareRuntime,
    Reachable referencePlatform referenceCatalogue r ∧
    r.store.readPage basePageId = some (List.replicate 512 0) ∧
    RejectedByActuator (List.replicate 512 0) ∧
    parsePage0ActuatorConfig (List.replicate 512 0) = {} ∧
    r.triggerRuntime.config = { camSync := false, secondaryEnabled := false } := by
  obtain ⟨r, hr, hreach⟩ := exists_reachable_new (P := referencePlatform)
    (A := referenceCatalogue) .ecuV1 false
  have hpage : r.store.readPage basePageId = some (List.replicate 512 0) :=
    (FirmwareRuntime.booted_of_newWithStore ConfigStore.wellFormed_newZeroed hr).readPage_other
      basePageId (by decide) (by decide)
  have hrejected : RejectedByActuator (List.replicate 512 0) := by decide +kernel
  exact ⟨r, hreach, hpage, hrejected, parsePage0ActuatorConfig_of_rejected hrejected,
    (hreach.sound.trigger _ hpage).trans (by decide +kernel)⟩

/-- The trigger of a new board, and a page without a magic that has the cam signals on. -/
theorem page0_consumers_agree_new : ∃ r : FirmwareRuntime,
    Reachable referencePlatform referenceCatalogue r ∧
    (∃ page, r.store.readPage basePageId = some page ∧
      r.triggerRuntime.config = (({} : TriggerRuntime).applyPage0Payload page).config) ∧
    (({} : TriggerRuntime).applyPage0Payload
      (((List.replicate 512 0).set 55 1).set 57 1)).config = {} := by
  obtain ⟨r, -, hreach⟩ := exists_reachable_new (P := referencePlatform)
    (A := referenceCatalogue) .ecuV1 false
  obtain ⟨hpage, hpayloads⟩ := page0_consumers_agree_iff hreach
  exact ⟨r, hreach, hpage, (hpayloads _ {} (by decide +kernel)).2.mpr (by decide +kernel)⟩

end StEcu
