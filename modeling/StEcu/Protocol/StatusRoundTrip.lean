import StEcu.Protocol.Integrity
import StEcu.Protocol.RoundTrip

/-!
# Status payloads are read back

The payloads of a fixed shape that report the state of the board: page statuses, acknowledgements,
capabilities, the firmware update, the data log, raw samples, table metadata and tables. Their
decoders look at the length of the whole payload.

## Main results

* `Wire.decode_encodePageStatusesPayload`, `Wire.decode_encodeLogStatusPayload`,
  `Wire.decode_encodeLogbookSummaryPayload`, `Wire.decode_encodeFirmwareUpdateStatusPayload`,
  `Wire.decode_toPayload`, …: one for each payload.
-/

namespace StEcu

/-- The strings of the entry are short and its values are 32-bit integers. -/
structure TableDirectoryEntry.Encodable (table : TableDirectoryEntry) : Prop where
  key : ShortString table.key
  xLabel : ShortString table.xLabel
  yLabel : ShortString table.yLabel
  zLabel : ShortString table.zLabel
  unit : ShortString table.unit
  le_minValueRaw : -2 ^ 31 ≤ table.minValueRaw
  minValueRaw_lt : table.minValueRaw < 2 ^ 31
  le_maxValueRaw : -2 ^ 31 ≤ table.maxValueRaw
  maxValueRaw_lt : table.maxValueRaw < 2 ^ 31
  le_defaultValueRaw : -2 ^ 31 ≤ table.defaultValueRaw
  defaultValueRaw_lt : table.defaultValueRaw < 2 ^ 31

theorem encodable_tableDirectory : ∀ table ∈ tableDirectory, table.Encodable := by
  have hall : ∀ table ∈ tableDirectory, ((ShortString table.key ∧ ShortString table.xLabel ∧
      ShortString table.yLabel) ∧ ShortString table.zLabel ∧ ShortString table.unit) ∧
      (-2 ^ 31 ≤ table.minValueRaw ∧ table.minValueRaw < 2 ^ 31) ∧
      (-2 ^ 31 ≤ table.maxValueRaw ∧ table.maxValueRaw < 2 ^ 31) ∧
      -2 ^ 31 ≤ table.defaultValueRaw ∧ table.defaultValueRaw < 2 ^ 31 := by decide +kernel
  intro table htable
  obtain ⟨⟨⟨hkey, hx, hy⟩, hz, hunit⟩, ⟨hmin, hmin'⟩, ⟨hmax, hmax'⟩, hdefault, hdefault'⟩ :=
    hall table htable
  exact ⟨hkey, hx, hy, hz, hunit, hmin, hmin', hmax, hmax', hdefault, hdefault'⟩

namespace Wire

open ByteReader

theorem decode_encodeAckPayload (pageId : UInt8) (needsBurn : Bool) :
    decodeAckPayload.run (encodeAckPayload pageId needsBurn) = .ok (pageId, needsBurn) :=
  ReadsBehind.run <| .lengthIs rfl <| .byte <| .byte <| Reads.behind <| .pure <| by
    rw [boolByte_ne_zero]

theorem ofCode_code_capability (value : Capability) :
    Capability.ofCode value.code = some value := by
  cases value <;> rfl

theorem decode_encodeCapabilitiesPayload {capabilities : List Capability}
    (hlen : capabilities.length ≤ 255) :
    decodeCapabilitiesPayload.run (encodeCapabilitiesPayload capabilities) = .ok capabilities := by
  have hcount := toNat_length_byte hlen
  refine ReadsBehind.run <| .get <| .lengthIs ?_ <| .rest <|
    reads_ofOption (mapM_ofCode ofCode_code_capability _)
  rw [hcount, List.length_append, List.length_map, List.length_append, List.length_nil,
    List.length_singleton]
  omega

/-- What is read back of the status of a page. -/
def DecodedPageStatus.ofStatus (status : ConfigPageStatus) : DecodedPageStatus where
  pageId := status.pageId
  ramCrc := status.ramCrc
  flashCrc := status.flashCrc
  needsBurn := status.needsBurn
  flashGeneration := status.flashGeneration
  flashValid := status.flashValid

theorem reads_pageStatus (status : ConfigPageStatus) (rest : Bytes) :
    Reads (pageStatus true)
      (status.pageId :: u32ToBe status.ramCrc ++ u32ToBe status.flashCrc ++
        [boolByte status.needsBurn] ++ u32ToBe status.flashGeneration ++
        [boolByte status.flashValid]) rest (.ofStatus status) := by
  have hflash (rest : Bytes) : Reads (pageFlashState true)
      (u32ToBe status.flashGeneration ++ [boolByte status.flashValid]) rest
      (status.flashGeneration, status.flashValid) :=
    .u32 <| .byte <| .pure <| by rw [boolByte_ne_zero]
  refine .of_append_nil ?_
  simp only [List.append_assoc, List.cons_append, List.nil_append]
  refine .byte <| .u32 <| .u32 <| .byte <| ?_
  refine .of_append_nil <| .bind hflash <| .pure ?_
  rw [boolByte_ne_zero]
  rfl

theorem decode_encodePageStatusesPayload {statuses : List ConfigPageStatus}
    (hlen : statuses.length ≤ 255) :
    decodePageStatusesPayload.run (encodePageStatusesPayload statuses) =
      .ok (statuses.map .ofStatus) := by
  have hcount := toNat_length_byte hlen
  refine ReadsBehind.run <| .get <| .hasLength ?_ <| Reads.behind <|
    .times hcount fun status _ rest => reads_pageStatus status rest
  have hbytes : (statuses.flatMap fun status => status.pageId :: u32ToBe status.ramCrc ++
      u32ToBe status.flashCrc ++ [boolByte status.needsBurn] ++ u32ToBe status.flashGeneration ++
      [boolByte status.flashValid]).length = statuses.length * 15 := by
    simp [List.length_flatMap]
  rw [List.length_append, hbytes, hcount]
  rfl

/-- The byte `0xFF` stands for no bank. -/
theorem pendingBank_getD {bank : Option UInt8} (h : bank ≠ some 0xFF) :
    (if bank.getD 0xFF = 0xFF then none else some (bank.getD 0xFF)) = bank := by
  cases bank with
  | none => rfl
  | some bank => exact if_neg fun heq => h (congrArg some heq)

theorem decode_encodeFirmwareUpdateStatusPayload {status : FirmwareUpdateStatusPayload}
    (h : status.pendingBank ≠ some 0xFF) :
    decodeFirmwareUpdateStatusPayload.run (encodeFirmwareUpdateStatusPayload status) =
      .ok status := by
  refine ReadsBehind.run <| .lengthIs rfl <| Reads.behind <| .of_append_nil ?_
  simp only [encodeFirmwareUpdateStatusPayload, List.append_assoc, List.cons_append,
    List.nil_append]
  refine .byte <| .byte <| .byte <| .byte <| .byte <| .u16 <| .u32 <| .u32 <| .u32 <| .pure ?_
  rw [pendingBank_getD h]

theorem decode_encodeLogStatusPayload (status : LogStatusPayload) :
    decodeLogStatusPayload.run (encodeLogStatusPayload status) = .ok status := by
  refine ReadsBehind.run <| .lengthIs rfl <| Reads.behind <| .of_append_nil ?_
  simp only [encodeLogStatusPayload, List.append_assoc, List.cons_append, List.nil_append]
  exact .byte <| .byte <| .byte <| .byte <| .u32 <| .u32 <| .u32 <| .u16 <| .u16 <| .pure <| by
    rw [boolByte_ne_zero, boolByte_ne_zero, boolByte_ne_zero]

theorem decode_encodeLogbookSummaryPayload (summary : LogbookSummaryPayload) :
    decodeLogbookSummaryPayload.run (encodeLogbookSummaryPayload summary) = .ok summary := by
  refine ReadsBehind.run <| .lengthIs rfl <| Reads.behind <| .of_append_nil ?_
  simp only [encodeLogbookSummaryPayload, List.append_assoc, List.cons_append, List.nil_append]
  exact .u32 <| .u16 <| .u32 <| .u32 <| .u32 <| .u32 <| .u32 <| .u16 <| .byte <| .u32 <| .pure <| by
    rw [boolByte_ne_zero]

theorem decode_encodeSensorRawPayload {P : Platform} (adc : UInt16) (voltage : ℚ) :
    decodeSensorRawPayload.run (encodeSensorRawPayload P adc voltage) =
      .ok ⟨adc, P.f32Bits voltage⟩ := by
  refine ReadsBehind.run <| .lengthIs rfl <| Reads.behind <| .of_append_nil ?_
  simp only [encodeSensorRawPayload, List.append_assoc]
  exact .u16 <| .u32 <| .pure rfl

/-- A table of the size that it announces is read back. -/
theorem decode_toPayload {table : RawTablePayload} (hx : table.xBins.length = table.xCount.toNat)
    (hy : table.yBins.length = table.yCount.toNat)
    (hdata : table.data.length = table.xCount.toNat * table.yCount.toNat) :
    decodeRawTablePayload.run table.toPayload = .ok table := by
  have hwords (words : List UInt16) : (words.flatMap u16ToBe).length = words.length * 2 := by
    simp [List.length_flatMap]
  have htimes {count : ℕ} {words : List UInt16} (hcount : words.length = count) (rest : Bytes) :
      Reads (times count u16 : Reader (List UInt16)) (words.flatMap u16ToBe) rest words :=
    .times_self hcount.symm fun word _ _ => reads_u16 word
  rw [RawTablePayload.toPayload]
  simp only [List.append_assoc, List.cons_append, List.nil_append]
  refine ReadsBehind.run <| .require (by simp) <| .byte <| .byte <| .byte <| .lengthIs ?_ <|
    Reads.behind <| .bind (htimes hx) <| .bind (htimes hy) <| .of_append_nil <|
    .bind (htimes hdata) <| .pure rfl
  simp only [List.length_append, hwords, hx, hy, hdata, List.length_cons, List.length_nil]
  omega

/-! ### Table metadata -/

/-- What is read back of the entry of a table. -/
def DecodedTableMetadataEntry.ofEntry (table : TableDirectoryEntry) :
    DecodedTableMetadataEntry where
  id := table.id
  xScale := table.xScale
  yScale := table.yScale
  valueScale := table.valueScale
  minValueRaw := table.minValueRaw
  maxValueRaw := table.maxValueRaw
  defaultValueRaw := table.defaultValueRaw
  key := table.key
  xLabel := table.xLabel
  yLabel := table.yLabel
  zLabel := table.zLabel
  unit := table.unit

/-- A signed word is read back where it fits 32 bits. -/
theorem toInt_i32 {n : ℤ} (hmin : -2 ^ 31 ≤ n) (hmax : n < 2 ^ 31) :
    (UInt32.ofNat (n % 2 ^ 32).toNat).toInt32.toInt = n := by
  have hword : (UInt32.ofNat (n % 2 ^ 32).toNat).toInt32.toInt =
      (((n % 2 ^ 32).toNat : ℕ) : ℤ).bmod (2 ^ 32) := BitVec.toInt_ofNat ..
  rw [hword, Int.toNat_of_nonneg (by omega), Int.bmod_def]
  omega

theorem reads_tableMetadataEntry {table : TableDirectoryEntry} (h : table.Encodable)
    (rest : Bytes) :
    Reads tableMetadataEntry
      (table.id :: u16ToBe table.xScale ++ u16ToBe table.yScale ++ u16ToBe table.valueScale ++
        i32ToBe table.minValueRaw ++ i32ToBe table.maxValueRaw ++ i32ToBe table.defaultValueRaw ++
        pushString table.key ++ pushString table.xLabel ++ pushString table.yLabel ++
        pushString table.zLabel ++ pushString table.unit) rest (.ofEntry table) := by
  refine .of_append_nil ?_
  simp only [i32ToBe, List.append_assoc, List.cons_append]
  refine .require ?_ <| .byte <| .u16 <| .u16 <| .u16 <| .u32 <| .u32 <| .u32 <|
    reads_string h.key <| reads_string h.xLabel <| reads_string h.yLabel <|
    reads_string h.zLabel <| reads_string h.unit <| .pure ?_
  · simp only [List.length_cons, List.length_append, length_u16ToBe, length_u32ToBe]
    omega
  · rw [toInt_i32 h.le_minValueRaw h.minValueRaw_lt, toInt_i32 h.le_maxValueRaw h.maxValueRaw_lt,
      toInt_i32 h.le_defaultValueRaw h.defaultValueRaw_lt]
    rfl

/-- The table metadata that the firmware serves is read back. -/
theorem decode_encodeTableMetadataPayload :
    decodeTableMetadataPayload.run encodeTableMetadataPayload = .ok (tableDirectory.map .ofEntry) :=
  decodeDirectory_run (by decide) fun table htable _ =>
    reads_tableMetadataEntry (encodable_tableDirectory table htable) _

end Wire

end StEcu
