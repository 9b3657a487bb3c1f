import StEcu.Transport.AnswerSize
import StEcu.Trigger.WaveformSafety

/-!
# The constant answers of a board

The directories that a board answers with whatever its state is (`src/transport.rs`,
`src/diagnostics.rs`, `src/network.rs`), and the catalogue that is made of them and of the rendered
pictures of the trigger.

## Main definitions

* `FreezeFrame`, `encodeFreezeFramesPayload`.
* `sampleFreezeFrames`, `sensorRawDirectory`, `canTemplateDirectory`, `canSignalDirectory`,
  `headlessProfile`.
* `boardCatalogue`: the answers of a board.

## Main results

* `decode_encodeFreezeFramesPayload`: freeze frames are read back.
* `fits_boardCatalogue`: the answers of the catalogue fit a frame.
* `answers_received`: the answers of a run are received from their frames, in any chunks.
-/

namespace StEcu

/-! ### Freeze frames -/

/-- The state of the engine when a fault was found, in raw units. -/
structure FreezeFrame where
  code : String
  label : String
  reason : String
  revCounter : UInt32
  rpm : UInt16
  mapKpaX10 : UInt16
  tpsPctX100 : UInt16
  coolantCX10 : Int16
  lambdaX10000 : UInt16
  vbattX100 : UInt16
  gear : UInt8
  deriving DecidableEq, Repr

/-- The answer that lists the freeze frames. -/
def encodeFreezeFramesPayload (entries : List FreezeFrame) : Bytes :=
  UInt8.ofNat entries.length :: entries.flatMap fun entry =>
    pushString entry.code ++ pushString entry.label ++ pushString entry.reason ++
      u32ToBe entry.revCounter ++ u16ToBe entry.rpm ++ u16ToBe entry.mapKpaX10 ++
      u16ToBe entry.tpsPctX100 ++ u16ToBe entry.coolantCX10.toUInt16 ++
      u16ToBe entry.lambdaX10000 ++ u16ToBe entry.vbattX100 ++ [entry.gear]

/-- The strings of the freeze frame fit their length bytes. -/
structure FreezeFrame.Encodable (entry : FreezeFrame) : Prop where
  code : ShortString entry.code
  label : ShortString entry.label
  reason : ShortString entry.reason

/-- What is read back of a freeze frame. -/
def FreezeFrame.decoded (entry : FreezeFrame) : Wire.DecodedFreezeFrame where
  code := entry.code
  label := entry.label
  reason := entry.reason
  revCounter := entry.revCounter
  rpm := entry.rpm
  mapKpa := entry.mapKpaX10.toNat / 10
  tpsPct := entry.tpsPctX100.toNat / 100
  coolantC := entry.coolantCX10.toInt / 10
  lambda := entry.lambdaX10000.toNat / 10000
  vbatt := entry.vbattX100.toNat / 100
  gear := entry.gear

section FreezeFrames

open ByteReader Wire

theorem reads_freezeFrame {entry : FreezeFrame} (h : entry.Encodable) (rest : Bytes) :
    Reads freezeFrame
      (pushString entry.code ++ pushString entry.label ++ pushString entry.reason ++
        u32ToBe entry.revCounter ++ u16ToBe entry.rpm ++ u16ToBe entry.mapKpaX10 ++
        u16ToBe entry.tpsPctX100 ++ u16ToBe entry.coolantCX10.toUInt16 ++
        u16ToBe entry.lambdaX10000 ++ u16ToBe entry.vbattX100 ++ [entry.gear]) rest
      entry.decoded := by
  refine .of_append_nil ?_
  simp only [List.append_assoc, List.cons_append, List.nil_append]
  exact reads_string h.code <| reads_string h.label <| reads_string h.reason <|
    .require (by simp) <| .u32 <| .u16 <| .u16 <| .u16 <| .u16 <| .u16 <| .u16 <| .byte <|
    .pure rfl

theorem decode_encodeFreezeFramesPayload {entries : List FreezeFrame} (hlen : entries.length ≤ 255)
    (h : ∀ entry ∈ entries, entry.Encodable) :
    decodeFreezeFramesPayload.run (encodeFreezeFramesPayload entries) =
      .ok (entries.map FreezeFrame.decoded) :=
  decodeDirectory_run hlen fun entry hentry rest => reads_freezeFrame (h entry hentry) rest

end FreezeFrames

/-! ### The directories -/

/-- The freeze frames that every board reports. -/
def sampleFreezeFrames : List FreezeFrame :=
  [{ code := "P0118", label := "Coolant Temp Sensor High", reason := "sensor_plausibility"
     revCounter := 48231, rpm := 2840, mapKpaX10 := 572, tpsPctX100 := 1460, coolantCX10 := -318
     lambdaX10000 := 10720, vbattX100 := 1418, gear := 3 },
   { code := "P0193", label := "Fuel Pressure Sensor High", reason := "pressure_range_high"
     revCounter := 50984, rpm := 4125, mapKpaX10 := 1834, tpsPctX100 := 6230, coolantCX10 := 862
     lambdaX10000 := 9180, vbattX100 := 1394, gear := 4 }]

/-- The sensor inputs of the board. -/
def sensorRawDirectory : List SensorRawDirectoryEntry :=
  [⟨0, "clt", "Coolant Temp", "degC", "PC1", "CLT", 400, 2800, 100, 3200⟩,
    ⟨1, "iat", "Intake Temp", "degC", "PC2", "IAT", 500, 2800, 100, 3200⟩,
    ⟨2, "tps", "Throttle Position", "%", "PA3", "TPS", 150, 3200, 50, 3250⟩,
    ⟨3, "map", "MAP Sensor", "kPa", "PC0", "MAP", 330, 3000, 100, 3200⟩,
    ⟨4, "vbatt", "Battery Sense", "V", "PA4", "VBATT", 1800, 2800, 500, 3200⟩,
    ⟨5, "oil_pressure", "Oil Pressure", "kPa", "PC3", "OILP", 330, 3000, 100, 3200⟩,
    ⟨6, "fuel_pressure", "Fuel Pressure", "kPa", "PC4", "FPR", 330, 3000, 100, 3200⟩,
    ⟨7, "baro", "Barometric Pressure", "kPa", "PF8", "BARO", 300, 3000, 100, 3200⟩,
    ⟨8, "wideband", "Wideband Input", "lambda", "PF9", "WB_O2", 200, 3000, 100, 3200⟩,
    ⟨9, "flex_fuel", "Flex Fuel", "%", "PE9", "FLEX", 200, 3000, 100, 3200⟩,
    ⟨10, "oil_temp", "Oil Temp", "degC", "PF10", "OILT", 350, 2800, 100, 3200⟩]

/-- The CAN frames of the board. -/
def canTemplateDirectory : List CanTemplateDirectoryEntry :=
  [⟨1, "st_engine_stream_tx", "ST Engine Stream TX", "tx", "stream", 0x7E0, false, 8⟩,
    ⟨2, "st_fault_stream_tx", "ST Fault Stream TX", "tx", "diagnostic", 0x7E1, false, 8⟩,
    ⟨3, "st_tcu_request_rx", "ST TCU Request RX", "rx", "integration", 0x620, false, 8⟩,
    ⟨4, "st_wideband_status_rx", "ST Wideband Status RX", "rx", "wideband", 0x640, false, 8⟩,
    ⟨5, "st_dash_fast_tx", "ST Dash Fast TX", "tx", "dash", 0x700, false, 8⟩,
    ⟨6, "st_dash_slow_tx", "ST Dash Slow TX", "tx", "dash", 0x701, false, 8⟩]

/-- The signals in the frames of the templates; `bits` are those of a 32-bit float. -/
def canSignals (bits : ℚ → UInt32) : List CanSignalDirectoryEntry :=
  [⟨1, 1, "engine_rpm", "Engine RPM", "rpm",
      0, 16, false, true, bits 1, bits 0, bits 0, bits 12000, "rpm"⟩,
    ⟨2, 1, "engine_map_kpa", "MAP", "map_kpa",
      16, 16, false, true, bits (1 / 10), bits 0, bits 0, bits 500, "kPa"⟩,
    ⟨3, 1, "engine_tps_pct", "TPS", "tps_pct",
      32, 8, false, true, bits (5 / 10), bits 0, bits 0, bits 100, "%"⟩,
    ⟨4, 2, "fault_active", "Fault Active", "fault_active",
      0, 1, false, true, bits 1, bits 0, bits 0, bits 1, "bool"⟩,
    ⟨5, 2, "fault_code", "Fault Code", "fault_code",
      8, 16, false, true, bits 1, bits 0, bits 0, bits 65535, "raw"⟩,
    ⟨6, 3, "tcu_torque_reduction_pct", "TCU Torque Reduction", "torque_reduction_pct",
      0, 8, false, true, bits 1, bits 0, bits 0, bits 100, "%"⟩,
    ⟨7, 3, "tcu_target_gear", "TCU Target Gear", "gear_target",
      8, 8, false, true, bits 1, bits 0, bits 0, bits 10, "gear"⟩,
    ⟨8, 3, "tcu_shift_request", "TCU Shift Request", "shift_request",
      16, 8, false, true, bits 1, bits 0, bits 0, bits 1, "bool"⟩,
    ⟨9, 4, "wideband_lambda", "Wideband Lambda", "lambda",
      0, 16, false, true, bits (1 / 10000), bits 0, bits (6 / 10), bits (16 / 10), "lambda"⟩,
    ⟨10, 4, "wideband_status", "Wideband Status", "wideband_status",
      16, 8, false, true, bits 1, bits 0, bits 0, bits 255, "raw"⟩,
    ⟨11, 5, "dash_speed_kmh", "Dash Speed", "vss_kmh",
      0, 16, false, true, bits (1 / 10), bits 0, bits 0, bits 320, "km/h"⟩,
    ⟨12, 5, "dash_gear", "Dash Gear", "gear",
      16, 8, false, true, bits 1, bits 0, bits 0, bits 10, "gear"⟩,
    ⟨13, 6, "dash_coolant_c", "Dash Coolant", "coolant_c",
      0, 16, true, true, bits (1 / 10), bits 0, bits (-40), bits 180, "degC"⟩,
    ⟨14, 6, "dash_oil_pressure", "Dash Oil Pressure", "oil_pressure_kpa",
      16, 16, false, true, bits (1 / 10), bits 0, bits 0, bits 800, "kPa"⟩]

/-- The signals in the CAN frames of the board. -/
def canSignalDirectory (P : Platform) : List CanSignalDirectoryEntry := canSignals P.f32Bits

/-- The links of a board without a display. -/
def headlessProfile : NetworkProfile where
  productTrack := .headlessEcu
  multiMasterCan := false
  links :=
    [{ kind := .usbSerial
       realtimeSafe := false
       firmwareUpdateAllowed := true
       classes := [.identity, .calibrationPages, .calibrationTables, .pageStatuses, .pinMetadata,
         .liveData, .datalog, .diagnostics, .firmwareUpdate] },
     { kind := .canFdPrimary
       realtimeSafe := true
       firmwareUpdateAllowed := false
       classes := [.identity, .pageStatuses, .pinMetadata, .liveData, .dashboardFrames,
         .diagnostics, .ioExpansion] },
     { kind := .wifiBridge
       realtimeSafe := false
       firmwareUpdateAllowed := false
       classes := [.identity, .calibrationPages, .calibrationTables, .pageStatuses, .pinMetadata,
         .liveData, .datalog, .diagnostics] }]

/-- The answers of a board. -/
def boardCatalogue (P : Platform) : Catalogue where
  freezeFrames := encodeFreezeFramesPayload sampleFreezeFrames
  triggerDecoderDirectory := encodeTriggerDecoderDirectoryPayload supportedTriggerDecoders
  canTemplateDirectory := encodeCanTemplateDirectoryPayload canTemplateDirectory
  canSignalDirectory := encodeCanSignalDirectoryPayload (canSignalDirectory P)
  pinDirectory := encodePinDirectoryPayload
  sensorRawDirectory := encodeSensorRawDirectoryPayload sensorRawDirectory
  networkProfile := encodeNetworkProfilePayload headlessProfile
  triggerCapture t syncState := ((t.capture syncState).map encodeTriggerCapturePayload).getD []
  triggerToothLog t syncState := ((t.toothLog syncState).map encodeTriggerToothLogPayload).getD []

theorem triggerCapture_boardCatalogue {P : Platform} {t : TriggerRuntime} {syncState : String}
    {capture : TriggerCapture} (h : t.capture syncState = some capture) :
    (boardCatalogue P).triggerCapture t syncState = encodeTriggerCapturePayload capture := by
  change ((t.capture syncState).map encodeTriggerCapturePayload).getD [] = _
  rw [h, Option.map_some, Option.getD_some]

theorem triggerToothLog_boardCatalogue {P : Platform} {t : TriggerRuntime} {syncState : String}
    {log : TriggerToothLog} (h : t.toothLog syncState = some log) :
    (boardCatalogue P).triggerToothLog t syncState = encodeTriggerToothLogPayload log := by
  change ((t.toothLog syncState).map encodeTriggerToothLogPayload).getD [] = _
  rw [h, Option.map_some, Option.getD_some]

/-! ### Its entries -/

/-- The strings of the directories are short. -/
theorem encodable_sampleFreezeFrames : ∀ entry ∈ sampleFreezeFrames, entry.Encodable := by
  have hall : ∀ entry ∈ sampleFreezeFrames,
      ShortString entry.code ∧ ShortString entry.label ∧ ShortString entry.reason := by decide
  intro entry hentry
  obtain ⟨hcode, hlabel, hreason⟩ := hall entry hentry
  exact ⟨hcode, hlabel, hreason⟩

theorem encodable_sensorRawDirectory : ∀ entry ∈ sensorRawDirectory, entry.Encodable := by
  have hall : ∀ entry ∈ sensorRawDirectory, ShortString entry.key ∧ ShortString entry.label ∧
      ShortString entry.unit ∧ ShortString entry.pinId ∧ ShortString entry.pinLabel := by
    decide +kernel
  intro entry hentry
  obtain ⟨hkey, hlabel, hunit, hpinId, hpinLabel⟩ := hall entry hentry
  exact ⟨hkey, hlabel, hunit, hpinId, hpinLabel⟩

theorem encodable_canTemplateDirectory : ∀ entry ∈ canTemplateDirectory, entry.Encodable := by
  have hall : ∀ entry ∈ canTemplateDirectory, ShortString entry.key ∧ ShortString entry.label ∧
      ShortString entry.direction ∧ ShortString entry.category := by decide +kernel
  intro entry hentry
  obtain ⟨hkey, hlabel, hdirection, hcategory⟩ := hall entry hentry
  exact ⟨hkey, hlabel, hdirection, hcategory⟩

theorem encodable_canSignals (bits : ℚ → UInt32) : ∀ entry ∈ canSignals bits, entry.Encodable := by
  have hall : ∀ entry ∈ canSignals bits, ShortString entry.key ∧ ShortString entry.label ∧
      ShortString entry.mapsTo ∧ ShortString entry.unit := by
    simp only [canSignals, List.forall_mem_cons]
    decide +kernel
  intro entry hentry
  obtain ⟨hkey, hlabel, hmapsTo, hunit⟩ := hall entry hentry
  exact ⟨hkey, hlabel, hmapsTo, hunit⟩

/-! ### Their sizes -/

theorem length_encodeTriggerCapturePayload_le {entry : TriggerCapture} (h : entry.Encodable)
    (hsamples : entry.primarySamples.length ≤ 128) :
    (encodeTriggerCapturePayload entry).length ≤ maxPayload := by
  have h₁ := FirmwareRuntime.length_pushString_le h.presetKey
  have h₂ := FirmwareRuntime.length_pushString_le h.presetLabel
  have h₃ := FirmwareRuntime.length_pushString_le h.syncState
  have h₄ := FirmwareRuntime.length_pushString_le h.primaryLabel
  have h₅ := FirmwareRuntime.length_pushString_le h.secondaryLabel.short
  have h₆ := h.length_secondarySamples
  simp only [encodeTriggerCapturePayload, List.length_append, List.length_cons, List.length_nil,
    length_u16ToBe, length_u32ToBe, maxPayload]
  omega

theorem length_encodeTriggerToothLogPayload_le {entry : TriggerToothLog} (h : entry.Encodable)
    (hintervals : entry.toothIntervalsUs.length ≤ 96) :
    (encodeTriggerToothLogPayload entry).length ≤ maxPayload := by
  have h₁ := FirmwareRuntime.length_pushString_le h.presetKey
  have h₂ := FirmwareRuntime.length_pushString_le h.presetLabel
  have h₃ := FirmwareRuntime.length_pushString_le h.syncState
  have h₄ := FirmwareRuntime.length_pushString_le h.primaryLabel
  have h₅ := FirmwareRuntime.length_pushString_le h.secondaryLabel.short
  have h₆ : (entry.toothIntervalsUs.flatMap u32ToBe).length ≤ entry.toothIntervalsUs.length * 4 :=
    FirmwareRuntime.length_flatMap_le fun word _ => (length_u32ToBe word).le
  have h₇ : (entry.secondaryEventIndexes.flatMap u16ToBe).length ≤
      entry.secondaryEventIndexes.length * 2 :=
    FirmwareRuntime.length_flatMap_le fun word _ => (length_u16ToBe word).le
  have h₈ := h.length_secondaryEventIndexes
  simp only [encodeTriggerToothLogPayload, List.length_append, List.length_cons, List.length_nil,
    length_u16ToBe, length_u32ToBe, maxPayload]
  omega

namespace TriggerRuntime

variable {t : TriggerRuntime} {syncState : String}

theorem capture_encodable (hsync : ShortString syncState) {capture : TriggerCapture}
    (h : t.capture syncState = some capture) :
    capture.Encodable ∧ capture.primarySamples.length ≤ 128 := by
  obtain ⟨waveform, hwaveform, hwell, hstate⟩ := t.exists_buildWaveform syncState t.activePreset
  obtain ⟨profile, hprofile⟩ := t.exists_runtimeProfile t.activePreset
  have hpreset := encodable_findPreset t.config.activePresetKey
  simp only [TriggerRuntime.capture, hwaveform, hprofile, Option.bind_eq_bind,
    Option.bind_some, Option.pure_def, Option.some.injEq] at h
  have hprimary := hwell.length_primarySamples
  have hsecondary := hwell.length_secondarySamples
  rw [← h]
  exact ⟨⟨hpreset.key, hpreset.label, hstate ▸ hsync, hpreset.primaryInputLabel,
    hpreset.secondaryInputLabel, hsecondary.trans hprimary.symm, by dsimp only; omega⟩,
    hprimary.le⟩

theorem toothLog_encodable (hsync : ShortString syncState) {log : TriggerToothLog}
    (h : t.toothLog syncState = some log) :
    log.Encodable ∧ log.toothIntervalsUs.length ≤ 96 := by
  obtain ⟨waveform, hwaveform, hwell, hstate⟩ := t.exists_buildWaveform syncState t.activePreset
  obtain ⟨profile, hprofile⟩ := t.exists_runtimeProfile t.activePreset
  have hpreset := encodable_findPreset t.config.activePresetKey
  simp only [TriggerRuntime.toothLog, hwaveform, hprofile, Option.bind_eq_bind,
    Option.bind_some, Option.pure_def, Option.some.injEq] at h
  have hcount := hwell.length_toothIntervalsUs
  have hle := hwell.toothCount_le
  have hindexes := hwell.length_secondaryEventIndexes
  rw [← h]
  exact ⟨⟨hpreset.key, hpreset.label, hstate ▸ hsync, hpreset.primaryInputLabel,
    hpreset.secondaryInputLabel, by dsimp only; omega, by dsimp only; omega⟩,
    by dsimp only; omega⟩

end TriggerRuntime

/-- The directories without floats. -/
theorem directories_fit :
    (encodeFreezeFramesPayload sampleFreezeFrames).length ≤ maxPayload ∧
    (encodeTriggerDecoderDirectoryPayload supportedTriggerDecoders).length ≤ maxPayload ∧
    (encodeCanTemplateDirectoryPayload canTemplateDirectory).length ≤ maxPayload ∧
    encodePinDirectoryPayload.length ≤ maxPayload ∧
    (encodeSensorRawDirectoryPayload sensorRawDirectory).length ≤ maxPayload ∧
    (encodeNetworkProfilePayload headlessProfile).length ≤ maxPayload := by
  decide +kernel

theorem length_encodeCanSignalDirectoryPayload (bits : ℚ → UInt32) :
    (encodeCanSignalDirectoryPayload (canSignals bits)).length ≤ maxPayload := by
  have hstrings : ∀ entry ∈ canSignals bits, (utf8 entry.key).length + (utf8 entry.label).length +
      (utf8 entry.mapsTo).length + (utf8 entry.unit).length ≤ 100 := by
    simp only [canSignals, List.forall_mem_cons]
    decide +kernel
  have hentries : (canSignals bits).length = 14 := rfl
  have hbytes : ∀ entry ∈ canSignals bits, ([entry.id, entry.templateId, entry.startBit,
      entry.bitLength, entry.flags] ++ u32ToBe entry.scale ++ u32ToBe entry.offset ++
      u32ToBe entry.min ++ u32ToBe entry.max ++ pushString entry.key ++ pushString entry.label ++
      pushString entry.mapsTo ++ pushString entry.unit).length ≤ 125 := by
    intro entry hentry
    have hlen := hstrings entry hentry
    simp only [List.length_append, List.length_cons, List.length_nil, length_u32ToBe, pushString]
    omega
  have hall := FirmwareRuntime.length_flatMap_le hbytes
  rw [encodeCanSignalDirectoryPayload, List.length_cons, maxPayload]
  omega

/-- **The answers of the catalogue fit a frame.** -/
theorem fits_boardCatalogue (P : Platform) : (boardCatalogue P).Fits where
  freezeFrames := directories_fit.1
  triggerDecoderDirectory := directories_fit.2.1
  canTemplateDirectory := directories_fit.2.2.1
  canSignalDirectory := length_encodeCanSignalDirectoryPayload P.f32Bits
  pinDirectory := directories_fit.2.2.2.1
  sensorRawDirectory := directories_fit.2.2.2.2.1
  networkProfile := directories_fit.2.2.2.2.2
  triggerCapture t sampleCounter := by
    have hsync := t.shortString_advanceState sampleCounter
    obtain ⟨capture, -, hcapture, -, -⟩ :=
      (t.advanceState sampleCounter).1.exists_pictures hsync
    obtain ⟨hencodable, hsamples⟩ := TriggerRuntime.capture_encodable hsync hcapture
    rw [triggerCapture_boardCatalogue hcapture]
    exact length_encodeTriggerCapturePayload_le hencodable hsamples
  triggerToothLog t sampleCounter := by
    have hsync := t.shortString_advanceState sampleCounter
    obtain ⟨-, log, -, hlog, -⟩ := (t.advanceState sampleCounter).1.exists_pictures hsync
    obtain ⟨hencodable, hintervals⟩ := TriggerRuntime.toothLog_encodable hsync hlog
    rw [triggerToothLog_boardCatalogue hlog]
    exact length_encodeTriggerToothLogPayload_le hencodable hintervals

section Run

variable {P : Platform} {identity : FirmwareIdentity} {simulator : Bool} {s : ConfigStore}
  {r₀ r : FirmwareRuntime} {tr : List Step}

/-- **The answers of a run are received**, in order and each once, however their frames are cut into
chunks: every answer of a board fits a frame. -/
theorem answers_received (hP : AeadLaw P) (hdebug : DebugLaw P) (hlit : LiteralLaw P)
    (hidentity : identity.Encodable) (hs : ReachableStore P (boardCatalogue P) s)
    (hboot : FirmwareRuntime.newWithStore P identity simulator s = some r₀)
    (hrun : (firmware P (boardCatalogue P)).Run r₀ tr r) :
    (∀ t ∈ tr, t.output.payload.length ≤ maxPayload) ∧
      ∀ chunks : List Bytes,
        chunks.flatten = (tr.map Transition.output).flatMap (Packet.toBytes P) →
        (packetFraming P).receiveAll [] chunks = .ok (tr.map Transition.output, []) := by
  have hfits := fitsFrame_of_run hP hdebug hlit (fits_boardCatalogue P) hidentity hs hboot hrun
  refine ⟨hfits, fun chunks hchunks => packetFraming_lawful.receiveAll_eq ?_ hchunks⟩
  intro answer hanswer
  obtain ⟨t, ht, rfl⟩ := List.mem_map.mp hanswer
  exact hfits t ht

theorem referencePlatform_literal : LiteralLaw referencePlatform where
  debugStr text := by
    have hquote : (utf8 "\"").length = 1 := by decide
    change (utf8 ("\"" ++ text ++ "\"")).length ≤ _
    rw [length_utf8_append, length_utf8_append]
    omega
  jsonStr text := by
    have hquote : (utf8 "\"").length = 1 := by decide
    change (utf8 ("\"" ++ text ++ "\"")).length ≤ _
    rw [length_utf8_append, length_utf8_append]
    omega

/-- A board that is asked for its pins and rejects a page: both answers are received from the bytes
of the wire in one chunk. -/
theorem answers_received_ecuV1 : ∃ r₀ tr r,
    FirmwareRuntime.newWithStore referencePlatform .ecuV1 false (.newZeroed referencePlatform) =
      some r₀ ∧
    (firmware referencePlatform (boardCatalogue referencePlatform)).Run r₀ tr r ∧
    tr.map (fun t => t.event.packet) = [⟨.getPinDirectory, []⟩, ⟨.readPage, []⟩] ∧
    (packetFraming referencePlatform).receiveAll []
      [(tr.map Transition.output).flatMap (Packet.toBytes referencePlatform)] =
        .ok (tr.map Transition.output, []) := by
  obtain ⟨r₀, hboot, -⟩ := exists_reachable_new (P := referencePlatform)
    (A := boardCatalogue referencePlatform) .ecuV1 false
  have hrun := TransitionSystem.run_trace
    (handle referencePlatform (boardCatalogue referencePlatform)) r₀
    [⟨⟨0, 0, none⟩, ⟨.getPinDirectory, []⟩⟩, ⟨⟨0, 0, none⟩, ⟨.readPage, []⟩⟩]
  exact ⟨r₀, _, _, hboot, hrun, rfl, (answers_received referencePlatform_aead
    referencePlatform_debug referencePlatform_literal
    ⟨by decide, by decide, by decide, by decide, by decide, by decide⟩ .newZeroed hboot hrun).2 _
    (List.append_nil _)⟩

end Run

end StEcu
