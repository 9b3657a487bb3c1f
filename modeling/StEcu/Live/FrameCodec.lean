import StEcu.Foundation.ByteReader
import StEcu.Foundation.FieldLayout
import StEcu.Live.Frame

/-!
# Decoding the live-data frame

The wire format of the live-data frame is written down three times: in the encoder, in the decoder
and in the table at the head of `src/live_data.rs`. The three agree, and the encoder and the decoder
are inverse to each other.

## Main definitions

* `LiveDataFrame.decode`: the decoder.
* `liveLayout`, `livePads`: the table.
* `LiveDataFrame.Encodable`: the values of a frame are in range and integral once they are scaled.

## Main results

* `encode_eq_writeFields`, `decode_reads_fields`: the encoder and the decoder follow the table.
* `live_data_layout`: they follow it and are inverse to each other.
-/

namespace StEcu

section Decode

open ByteReader

/-- The frame that some bytes hold, as the host decodes it. -/
def LiveDataFrame.decode : ByteReader Empty LiveDataFrame := do
  let timestampMs ← u32
  let rpm : ℚ := (← u16).toNat
  let rpmAccel : ℚ := (← i16)
  let syncLossCounter ← byte
  skip 1
  let mapKpa : ℚ := (← u16).toNat / 10
  let baroKpa : ℚ := (← u16).toNat / 10
  let oilPressureKpa : ℚ := (← u16).toNat / 10
  let fuelPressureKpa : ℚ := (← u16).toNat / 10
  let boostKpa : ℚ := (← i16) / 10
  let coolantC : ℚ := (← i16) / 10
  let intakeC : ℚ := (← i16) / 10
  let oilTempC : ℚ := (← i16) / 10
  let fuelTempC : ℚ := (← i16) / 10
  let auxTemp1C : ℚ := (← i16) / 10
  let auxTemp2C : ℚ := (← i16) / 10
  let mcuTempC : ℚ := (← i8)
  skip 1
  let tpsPct : ℚ := (← i16) / 100
  let pedalPct : ℚ := (← i16) / 100
  let fuelLoad : ℚ := (← i16) / 100
  let ignLoad : ℚ := (← i16) / 100
  let lambda : ℚ := (← u16).toNat / 10000
  let lambda2 : ℚ := (← u16).toNat / 10000
  let afrTarget : ℚ := (← u16).toNat / 100
  let injectorDutyPct : ℚ := (← byte).toNat / 2
  let vePct : ℚ := (← byte).toNat
  let fuelCorrectionPct : ℚ := (← i16) / 100
  let accelEnrichPct : ℚ := (← byte).toNat
  skip 1
  let actualPulsewidthMs : ℚ := (← u16).toNat / 1000
  let wallFuelMg : ℚ := (← u16).toNat / 100
  let advanceDeg : ℚ := (← i16) / 10
  let dwellMs : ℚ := (← u16).toNat / 1000
  let injectionOffsetDeg : ℚ := (← i16)
  let vbatt : ℚ := (← u16).toNat / 100
  let vrefMv : ℚ := (← i16) / 1000
  let vssKmh : ℚ := (← u16).toNat
  let gear ← byte
  skip 1
  let vvtB1IntakeDeg : ℚ := (← i16) / 10
  let vvtB1ExhaustDeg : ℚ := (← i16) / 10
  let vvtB2IntakeDeg : ℚ := (← i16) / 10
  let vvtB2ExhaustDeg : ℚ := (← i16) / 10
  let knockLevel ← byte
  let knockRetardDeg : ℚ := (← i8)
  let boostTargetKpa : ℚ := (← u16).toNat / 10
  let boostDutyPct ← byte
  let idleTargetRpm ← u16
  let idleValvePct ← byte
  let correctionIat : ℚ := (← i16) / 100
  let correctionClt : ℚ := (← i16) / 100
  let correctionBaro : ℚ := (← i16) / 100
  let correctionFlex : ℚ := (← i16) / 100
  let statusFlags ← u32
  let protectFlags ← byte
  let errorFlags ← u16
  let liveFrameSeq ← byte
  let revolutionCounter ← u16
  let loopsPerSec ← u16
  let freeHeapPct ← byte
  let rotationalIdleCutPct ← byte
  let rotationalIdleTimerCs ← u16
  let rotationalIdleActiveCylinders ← byte
  let rotationalIdleGateCode ← byte
  let rotationalIdleSyncGuardEvents ← byte
  let transmissionStatusFlags ← byte
  let transmissionRequestedGear ← byte
  let transmissionTorqueReductionPct ← byte
  let transmissionTorqueReductionTimerCs ← u16
  let transmissionShiftResultCode ← byte
  let transmissionShiftRequestCounter ← byte
  let transmissionShiftTimeoutCounter ← byte
  let transmissionShiftFaultCode ← byte
  let transmissionStateCode ← byte
  let transmissionRequestAgeCs ← u16
  let transmissionAckCounter ← byte
  return {
    timestampMs, rpm, rpmAccel, syncLossCounter, mapKpa, baroKpa, oilPressureKpa,
    fuelPressureKpa, boostKpa, coolantC, intakeC, oilTempC, fuelTempC, auxTemp1C, auxTemp2C,
    mcuTempC, tpsPct, pedalPct, fuelLoad, ignLoad, lambda, lambda2, afrTarget, injectorDutyPct,
    vePct, fuelCorrectionPct, accelEnrichPct, actualPulsewidthMs, wallFuelMg, advanceDeg,
    dwellMs, injectionOffsetDeg, vbatt, vrefMv, vssKmh, gear, vvtB1IntakeDeg, vvtB1ExhaustDeg,
    vvtB2IntakeDeg, vvtB2ExhaustDeg, knockLevel, knockRetardDeg, boostTargetKpa, boostDutyPct,
    idleTargetRpm, idleValvePct, correctionIat, correctionClt, correctionBaro, correctionFlex,
    statusFlags, protectFlags, errorFlags, liveFrameSeq, revolutionCounter, loopsPerSec,
    freeHeapPct, rotationalIdleCutPct, rotationalIdleTimerCs, rotationalIdleActiveCylinders,
    rotationalIdleGateCode, rotationalIdleSyncGuardEvents, transmissionStatusFlags,
    transmissionRequestedGear, transmissionTorqueReductionPct,
    transmissionTorqueReductionTimerCs, transmissionShiftResultCode,
    transmissionShiftRequestCounter, transmissionShiftTimeoutCounter,
    transmissionShiftFaultCode, transmissionStateCode, transmissionRequestAgeCs,
    transmissionAckCounter }

end Decode

/-! ### The table -/

/-- A pad byte. -/
def pad (offset : ℕ) : RecordField LiveDataFrame := ⟨offset, .unsigned 1 1, fun _ => 0⟩

/-- Offset, width and scale of each field; a field in two's complement is `twos`. -/
def liveLayout : List (RecordField LiveDataFrame) :=
  [
    ⟨0, .unsigned 4 1, (·.timestampMs.toNat)⟩,
    ⟨4, .unsigned 2 1, (·.rpm)⟩,
    ⟨6, .twos 2 1, (·.rpmAccel)⟩,
    ⟨8, .unsigned 1 1, (·.syncLossCounter.toNat)⟩,
    pad 9,
    ⟨10, .unsigned 2 10, (·.mapKpa)⟩,
    ⟨12, .unsigned 2 10, (·.baroKpa)⟩,
    ⟨14, .unsigned 2 10, (·.oilPressureKpa)⟩,
    ⟨16, .unsigned 2 10, (·.fuelPressureKpa)⟩,
    ⟨18, .twos 2 10, (·.boostKpa)⟩,
    ⟨20, .twos 2 10, (·.coolantC)⟩,
    ⟨22, .twos 2 10, (·.intakeC)⟩,
    ⟨24, .twos 2 10, (·.oilTempC)⟩,
    ⟨26, .twos 2 10, (·.fuelTempC)⟩,
    ⟨28, .twos 2 10, (·.auxTemp1C)⟩,
    ⟨30, .twos 2 10, (·.auxTemp2C)⟩,
    ⟨32, .twos 1 1, (·.mcuTempC)⟩,
    pad 33,
    ⟨34, .twos 2 100, (·.tpsPct)⟩,
    ⟨36, .twos 2 100, (·.pedalPct)⟩,
    ⟨38, .twos 2 100, (·.fuelLoad)⟩,
    ⟨40, .twos 2 100, (·.ignLoad)⟩,
    ⟨42, .unsigned 2 10000, (·.lambda)⟩,
    ⟨44, .unsigned 2 10000, (·.lambda2)⟩,
    ⟨46, .unsigned 2 100, (·.afrTarget)⟩,
    ⟨48, .unsigned 1 2, (·.injectorDutyPct)⟩,
    ⟨49, .unsigned 1 1, (·.vePct)⟩,
    ⟨50, .twos 2 100, (·.fuelCorrectionPct)⟩,
    ⟨52, .unsigned 1 1, (·.accelEnrichPct)⟩,
    pad 53,
    ⟨54, .unsigned 2 1000, (·.actualPulsewidthMs)⟩,
    ⟨56, .unsigned 2 100, (·.wallFuelMg)⟩,
    ⟨58, .twos 2 10, (·.advanceDeg)⟩,
    ⟨60, .unsigned 2 1000, (·.dwellMs)⟩,
    ⟨62, .twos 2 1, (·.injectionOffsetDeg)⟩,
    ⟨64, .unsigned 2 100, (·.vbatt)⟩,
    ⟨66, .twos 2 1000, (·.vrefMv)⟩,
    ⟨68, .unsigned 2 1, (·.vssKmh)⟩,
    ⟨70, .unsigned 1 1, (·.gear.toNat)⟩,
    pad 71,
    ⟨72, .twos 2 10, (·.vvtB1IntakeDeg)⟩,
    ⟨74, .twos 2 10, (·.vvtB1ExhaustDeg)⟩,
    ⟨76, .twos 2 10, (·.vvtB2IntakeDeg)⟩,
    ⟨78, .twos 2 10, (·.vvtB2ExhaustDeg)⟩,
    ⟨80, .unsigned 1 1, (·.knockLevel.toNat)⟩,
    ⟨81, .twos 1 1, (·.knockRetardDeg)⟩,
    ⟨82, .unsigned 2 10, (·.boostTargetKpa)⟩,
    ⟨84, .unsigned 1 1, (·.boostDutyPct.toNat)⟩,
    ⟨85, .unsigned 2 1, (·.idleTargetRpm.toNat)⟩,
    ⟨87, .unsigned 1 1, (·.idleValvePct.toNat)⟩,
    ⟨88, .twos 2 100, (·.correctionIat)⟩,
    ⟨90, .twos 2 100, (·.correctionClt)⟩,
    ⟨92, .twos 2 100, (·.correctionBaro)⟩,
    ⟨94, .twos 2 100, (·.correctionFlex)⟩,
    ⟨96, .unsigned 4 1, (·.statusFlags.toNat)⟩,
    ⟨100, .unsigned 1 1, (·.protectFlags.toNat)⟩,
    ⟨101, .unsigned 2 1, (·.errorFlags.toNat)⟩,
    ⟨103, .unsigned 1 1, (·.liveFrameSeq.toNat)⟩,
    ⟨104, .unsigned 2 1, (·.revolutionCounter.toNat)⟩,
    ⟨106, .unsigned 2 1, (·.loopsPerSec.toNat)⟩,
    ⟨108, .unsigned 1 1, (·.freeHeapPct.toNat)⟩,
    ⟨109, .unsigned 1 1, (·.rotationalIdleCutPct.toNat)⟩,
    ⟨110, .unsigned 2 1, (·.rotationalIdleTimerCs.toNat)⟩,
    ⟨112, .unsigned 1 1, (·.rotationalIdleActiveCylinders.toNat)⟩,
    ⟨113, .unsigned 1 1, (·.rotationalIdleGateCode.toNat)⟩,
    ⟨114, .unsigned 1 1, (·.rotationalIdleSyncGuardEvents.toNat)⟩,
    ⟨115, .unsigned 1 1, (·.transmissionStatusFlags.toNat)⟩,
    ⟨116, .unsigned 1 1, (·.transmissionRequestedGear.toNat)⟩,
    ⟨117, .unsigned 1 1, (·.transmissionTorqueReductionPct.toNat)⟩,
    ⟨118, .unsigned 2 1, (·.transmissionTorqueReductionTimerCs.toNat)⟩,
    ⟨120, .unsigned 1 1, (·.transmissionShiftResultCode.toNat)⟩,
    ⟨121, .unsigned 1 1, (·.transmissionShiftRequestCounter.toNat)⟩,
    ⟨122, .unsigned 1 1, (·.transmissionShiftTimeoutCounter.toNat)⟩,
    ⟨123, .unsigned 1 1, (·.transmissionShiftFaultCode.toNat)⟩,
    ⟨124, .unsigned 1 1, (·.transmissionStateCode.toNat)⟩,
    ⟨125, .unsigned 2 1, (·.transmissionRequestAgeCs.toNat)⟩,
    ⟨127, .unsigned 1 1, (·.transmissionAckCounter.toNat)⟩
  ]

/-- The places of a frame that hold no channel. -/
def livePads : List ℕ := [9, 33, 53, 71]

/-- The scaled values are integers in the range of their format. -/
def LiveDataFrame.Encodable (frame : LiveDataFrame) : Prop :=
  ∀ field ∈ liveLayout, field.format.Fits (field.value frame)

theorem tiles_liveLayout : Tiles liveLayout 0 128 := by decide

/-- The table leaves out no field of a frame. -/
theorem LiveDataFrame.ext_of_layout {frame frame' : LiveDataFrame}
    (h : ∀ field ∈ liveLayout, field.value frame = field.value frame') : frame = frame' := by
  cases frame
  cases frame'
  rw [LiveDataFrame.mk.injEq]
  simpa only [liveLayout, pad, List.forall_mem_cons, Nat.cast_inj, UInt8.toNat_inj,
    UInt16.toNat_inj, UInt32.toNat_inj, true_and, List.not_mem_nil, IsEmpty.forall_iff,
    implies_true, and_true] using h

/-! ### The encoder -/

/-- **The encoder follows the table.** -/
theorem encode_eq_writeFields (frame : LiveDataFrame) :
    frame.encode = writeFields liveLayout frame := by
  rw [writeFields, List.flatMap_eq_foldl]
  simp only [liveLayout, pad, List.foldl_cons, List.foldl_nil, List.nil_append,
    FixedFormat.write_unsigned_two, FixedFormat.write_unsigned_one, FixedFormat.write_twos_one,
    FixedFormat.write_twos_two, FixedFormat.write_u32, Nat.cast_ofNat, Nat.cast_one,
    FixedFormat.scaledU16_toNat, FixedFormat.scaledU8_toNat, FixedFormat.scaledU8_zero]
  rfl

/-! ### The decoder -/

section

open ByteReader

variable {b : Bytes}

theorem toNat_u16OfBe_take {p : ℕ} (hp : p + 1 < b.length) :
    (u16OfBe ((b.drop p).take 2)).toNat = ofBe ((b.drop p).take 2) := by
  have hlen : ((b.drop p).take 2).length = 2 := by
    rw [List.length_take, List.length_drop]
    omega
  have hlt : ofBe ((b.drop p).take 2) < 2 ^ 16 := (ofBe_lt _).trans_eq (by rw [hlen]; rfl)
  rw [u16OfBe, UInt16.toNat_ofNat', Nat.mod_eq_of_lt hlt]

theorem toNat_u32OfBe_take {p : ℕ} (hp : p + 3 < b.length) :
    (u32OfBe ((b.drop p).take 4)).toNat = ofBe ((b.drop p).take 4) := by
  have hlen : ((b.drop p).take 4).length = 4 := by
    rw [List.length_take, List.length_drop]
    omega
  have hlt : ofBe ((b.drop p).take 4) < 2 ^ 32 := (ofBe_lt _).trans_eq (by rw [hlen]; rfl)
  rw [u32OfBe, UInt32.toNat_ofNat', Nat.mod_eq_of_lt hlt]

theorem toNat_eq_ofBe_take {p : ℕ} (hp : p < b.length) :
    b[p].toNat = ofBe ((b.drop p).take 1) := by
  rw [take_drop_succ hp, List.take_zero]
  simp [ofBe]

/-- **The decoder follows the table.** -/
theorem decode_reads_fields (hb : b.length = 128) :
    ∃ frame, LiveDataFrame.decode.run b = .ok frame ∧
      ∀ field ∈ liveLayout, field.offset ∉ livePads →
        field.value frame = field.format.read (field.bytes b) := by
  rw [run]
  simp (disch := omega) only [LiveDataFrame.decode, read_bind, read_u16, read_u32, read_i16,
    read_i8, read_byte, read_skip, read_pure, Nat.reduceAdd]
  refine ⟨_, rfl, ?_⟩
  simp only [liveLayout, pad, List.forall_mem_cons, livePads, RecordField.bytes,
    FixedFormat.read_unsigned, FixedFormat.read_twos]
  simp (disch := omega) only [toNat_u16OfBe_take, toNat_u32OfBe_take, toNat_eq_ofBe_take]
  simp [FixedFormat.unsigned, FixedFormat.twos]

end

/-! ### Both -/

theorem eq_pad_of_mem_livePads : ∀ field ∈ liveLayout, field.offset ∈ livePads →
    field = pad field.offset := by
  simp only [liveLayout, List.forall_mem_cons, livePads]
  simp [pad]

theorem length_encode (frame : LiveDataFrame) : frame.encode.length = 128 := by
  rw [encode_eq_writeFields, ← Nat.zero_add (writeFields liveLayout frame).length]
  exact tiles_liveLayout.length_writeFields frame

theorem bytes_encode (frame : LiveDataFrame) {field : RecordField LiveDataFrame}
    (h : field ∈ liveLayout) :
    field.bytes frame.encode = field.format.write (field.value frame) := by
  rw [encode_eq_writeFields]
  exact tiles_liveLayout.bytes_writeFields h frame

/-- A frame that was read from a buffer whose pad bytes are zero is encoded as this buffer. -/
theorem encode_of_reads_fields {b : Bytes} (hb : b.length = 128) {frame : LiveDataFrame}
    (hframe : ∀ field ∈ liveLayout, field.offset ∉ livePads →
      field.value frame = field.format.read (field.bytes b))
    (hpads : ∀ i ∈ livePads, b.getD i 0 = 0) : frame.encode = b := by
  have htiles : Tiles liveLayout 0 b.length := hb ▸ tiles_liveLayout
  rw [encode_eq_writeFields]
  refine htiles.writeFields_eq fun field hfield => ?_
  by_cases hpad : field.offset ∈ livePads
  · have hlt : field.offset < b.length := by
      rw [hb]
      revert hpad
      exact (by decide : ∀ i ∈ livePads, i < 128) field.offset
    have hzero := hpads _ hpad
    rw [List.getD_eq_getElem?_getD, List.getElem?_eq_getElem hlt, Option.getD_some] at hzero
    rw [eq_pad_of_mem_livePads field hfield hpad, RecordField.bytes]
    change (FixedFormat.unsigned 1 1).write 0 = (b.drop field.offset).take 1
    rw [ByteReader.take_drop_succ hlt, hzero, List.take_zero, FixedFormat.write_unsigned_one,
      Nat.cast_one, FixedFormat.scaledU8_zero]
  · rw [hframe field hfield hpad, FixedFormat.write_read (htiles.length_bytes hfield)]

/-- A frame that fits its format is the one that is read from its encoding. -/
theorem eq_of_reads_encode {frame decoded : LiveDataFrame} (h : frame.Encodable)
    (hread : ∀ field ∈ liveLayout, field.offset ∉ livePads →
      field.value decoded = field.format.read (field.bytes frame.encode)) : decoded = frame := by
  refine LiveDataFrame.ext_of_layout fun field hfield => ?_
  by_cases hpad : field.offset ∈ livePads
  · rw [eq_pad_of_mem_livePads field hfield hpad]
    rfl
  · rw [hread field hfield hpad, bytes_encode frame hfield,
      FixedFormat.read_write (h field hfield)]

/-- **The layout of the live data.** The fields of the table lie one behind the other, the encoder
writes each of them and the decoder reads each of them in its format at its offset; a buffer whose
pad bytes are zero is encoded again as it was, and a frame whose scaled values are in range and
integral is decoded again as it was. -/
theorem live_data_layout :
    Tiles liveLayout 0 128 ∧
    (∀ frame : LiveDataFrame, ∀ field ∈ liveLayout,
      field.bytes frame.encode = field.format.write (field.value frame)) ∧
    (∀ b : Bytes, b.length = 128 → ∃ frame, LiveDataFrame.decode.run b = .ok frame ∧
      (∀ field ∈ liveLayout, field.offset ∉ livePads →
        field.value frame = field.format.read (field.bytes b)) ∧
      ((∀ i ∈ livePads, b.getD i 0 = 0) → frame.encode = b)) ∧
    ∀ frame : LiveDataFrame, frame.Encodable →
      LiveDataFrame.decode.run frame.encode = .ok frame := by
  refine ⟨tiles_liveLayout, fun frame _ => bytes_encode frame, fun b hb => ?_, fun frame h => ?_⟩
  · obtain ⟨frame, hrun, hframe⟩ := decode_reads_fields hb
    exact ⟨frame, hrun, hframe, encode_of_reads_fields hb hframe⟩
  · obtain ⟨decoded, hrun, hread⟩ := decode_reads_fields (length_encode frame)
    rw [hrun, eq_of_reads_encode h hread]

end StEcu
