import StEcu.Config.Store
import StEcu.Io.PageCodec
import StEcu.Protocol.Packet

/-!
# Payload codecs

The payloads that the runtime reads and writes (`src/protocol.rs`), one encoder or decoder for
each as the source has them. Every decoder checks the length first, so that a malformed payload is
rejected as a whole.

## Main definitions

* Requests: `decodePageRequest`, `decodePagePayload`, `decodePinAssignmentsPayload`,
  `decodeRawTablePayload`, `decodeSyncRtcPayload`, `decodeFlashResumeRequestPayload`.
* Answers: `encodePagePayload`, `encodeAckPayload`, `encodeFlashResumePayload`, ….

## Main results

* `decode_encodePagePayload`: a page payload of at most 65535 bytes is read back.
-/

namespace StEcu

/-- A truth value as a byte. -/
def boolByte (b : Bool) : UInt8 := if b then 1 else 0

/-! ### Pages -/

/-- The page that a request is about. -/
def decodePageRequest (payload : Bytes) : Except ProtocolError UInt8 :=
  match payload with
  | [pageId] => .ok pageId
  | _ => .error .malformedPayload

/-- A page that was sent, with the checksum that it came with. -/
structure DecodedPagePayload where
  pageId : UInt8
  payloadCrc : UInt32
  payload : Bytes
  deriving DecidableEq, Repr

/-- A page with its length and its checksum. -/
def encodePagePayload (P : Platform) (pageId : UInt8) (data : Bytes) : Bytes :=
  pageId :: u16ToBe (UInt16.ofNat data.length) ++ u32ToBe (P.crc32 data) ++ data

/-- The page of a payload whose length and checksum are right. -/
def decodePagePayload (P : Platform) (payload : Bytes) : Except ProtocolError DecodedPagePayload :=
  if payload.length < 7 then .error .malformedPayload
  else
    let len := (u16OfBe (slice payload 1 3)).toNat
    if payload.length ≠ len + 7 then .error .malformedPayload
    else
      let payloadCrc := u32OfBe (slice payload 3 7)
      let data := payload.drop 7
      if payloadCrc ≠ P.crc32 data then .error .malformedPayload
      else .ok ⟨payload.getD 0 0, payloadCrc, data⟩

/-- The answer to a page command: the page, and whether it is to be burned. -/
def encodeAckPayload (pageId : UInt8) (needsBurn : Bool) : Bytes := [pageId, boolByte needsBurn]

/-- The statuses of some pages, behind their number. -/
def encodePageStatusesPayload (statuses : List ConfigPageStatus) : Bytes :=
  UInt8.ofNat statuses.length :: statuses.flatMap fun status =>
    status.pageId :: u32ToBe status.ramCrc ++ u32ToBe status.flashCrc ++
      [boolByte status.needsBurn] ++ u32ToBe status.flashGeneration ++
      [boolByte status.flashValid]

/-- The answer that lists the pages. -/
def encodePageDirectoryPayload : Bytes :=
  UInt8.ofNat pageDirectory.length :: pageDirectory.flatMap fun page =>
    page.id :: u16ToBe page.byteLength ++ pushString page.key

/-! ### Identity -/

/-- The answer to a request for the identity. -/
def encodeIdentityPayload (identity : FirmwareIdentity) (capabilities : List Capability) : Bytes :=
  [identity.protocolVersion] ++ u16ToBe identity.schemaVersion ++
    [UInt8.ofNat capabilities.length] ++ pushString identity.firmwareId ++
    pushString identity.firmwareSemver ++ pushString identity.boardId ++
    pushString identity.serial ++ pushString identity.signature ++
    pushString identity.resetReason ++ capabilities.map Capability.code

/-- The answer to a request for the capabilities. -/
def encodeCapabilitiesPayload (capabilities : List Capability) : Bytes :=
  UInt8.ofNat capabilities.length :: capabilities.map Capability.code

/-! ### Pin assignments -/

/-- An assignment that the host sent. -/
structure DecodedPinAssignment where
  function : EcuFunction
  pinId : String
  pinLabel : String
  deriving DecidableEq, Repr

/-- Some assignments, behind their number. -/
def encodePinAssignmentsPayload (assignments : List ResolvedPinAssignment) : Bytes :=
  UInt8.ofNat assignments.length :: assignments.flatMap fun assignment =>
    assignment.function.code :: pushString assignment.pinId ++ pushString assignment.pinLabel

/-- `read_string` on the bytes not yet read: the string and what follows it. -/
def readString : Bytes → Option (String × Bytes)
  | [] => none
  | len :: rest =>
    if rest.length < len.toNat then none
    else (fromUtf8 (rest.take len.toNat)).map fun value => (value, rest.drop len.toNat)

/-- The loop of the pin-assignment decoder: a number of entries and what follows them. -/
def readPinAssignments : ℕ → Bytes → Option (List DecodedPinAssignment × Bytes)
  | 0, rest => some ([], rest)
  | count + 1, functionCode :: rest => do
    let function ← EcuFunction.ofCode functionCode
    let (pinId, rest) ← readString rest
    let (pinLabel, rest) ← readString rest
    let (assignments, rest) ← readPinAssignments count rest
    return (⟨function, pinId, pinLabel⟩ :: assignments, rest)
  | _ + 1, [] => none

/-- The assignments of a payload that has nothing behind them. -/
def decodePinAssignmentsPayload (payload : Bytes) :
    Except ProtocolError (List DecodedPinAssignment) :=
  match payload with
  | [] => .error .malformedPayload
  | count :: body =>
    match readPinAssignments count.toNat body with
    | some (assignments, []) => .ok assignments
    | _ => .error .malformedPayload

/-! ### Tables -/

/-- A calibration table: its axes and its cells, in raw values. -/
structure RawTablePayload where
  tableId : UInt8
  xCount : UInt8
  yCount : UInt8
  xBins : List UInt16
  yBins : List UInt16
  data : List UInt16
  deriving DecidableEq, Repr

/-- The bytes of a table. -/
def RawTablePayload.toPayload (table : RawTablePayload) : Bytes :=
  [table.tableId, table.xCount, table.yCount] ++ table.xBins.flatMap u16ToBe ++
    table.yBins.flatMap u16ToBe ++ table.data.flatMap u16ToBe

/-- A number of 16-bit words from the front of a byte string, and what follows them. -/
def readWords : ℕ → Bytes → List UInt16 × Bytes
  | 0, rest => ([], rest)
  | count + 1, rest =>
    let (words, rest') := readWords count (rest.drop 2)
    (u16OfBe (rest.take 2) :: words, rest')

/-- The table of a payload whose length fits its axes. -/
def decodeRawTablePayload (payload : Bytes) : Except ProtocolError RawTablePayload :=
  match payload with
  | tableId :: xCount :: yCount :: body =>
    let x := xCount.toNat
    let y := yCount.toNat
    if payload.length ≠ 3 + (x + y + x * y) * 2 then .error .malformedPayload
    else
      let (xBins, body) := readWords x body
      let (yBins, body) := readWords y body
      let (data, _) := readWords (x * y) body
      .ok { tableId, xCount, yCount, xBins, yBins, data }
  | _ => .error .malformedPayload

/-- The answer that lists the tables. -/
def encodeTableDirectoryPayload : Bytes :=
  UInt8.ofNat tableDirectory.length :: tableDirectory.flatMap fun table =>
    [table.id, table.xCount, table.yCount, boolByte table.signed] ++ pushString table.key

/-- `i32::to_be_bytes`. -/
def i32ToBe (n : Int) : Bytes := u32ToBe (UInt32.ofNat (n % 2 ^ 32).toNat)

/-- The answer with the scales, bounds and labels of the tables. -/
def encodeTableMetadataPayload : Bytes :=
  UInt8.ofNat tableDirectory.length :: tableDirectory.flatMap fun table =>
    table.id :: u16ToBe table.xScale ++ u16ToBe table.yScale ++ u16ToBe table.valueScale ++
      i32ToBe table.minValueRaw ++ i32ToBe table.maxValueRaw ++ i32ToBe table.defaultValueRaw ++
      pushString table.key ++ pushString table.xLabel ++ pushString table.yLabel ++
      pushString table.zLabel ++ pushString table.unit

/-! ### Firmware update -/

/-- What the host is told of a firmware update. -/
structure FirmwareUpdateStatusPayload where
  state : UInt8
  activeBank : UInt8
  lastGoodBank : UInt8
  pendingBank : Option UInt8
  bootAttempts : UInt8
  rollbackCounter : UInt16
  candidateSize : UInt32
  candidateCrc : UInt32
  healthWindowRemainingMs : UInt32
  deriving DecidableEq, Repr

/-- The bytes of an update status. Without a pending bank there is 0xFF in its place. -/
def encodeFirmwareUpdateStatusPayload (status : FirmwareUpdateStatusPayload) : Bytes :=
  [status.state, status.activeBank, status.lastGoodBank, status.pendingBank.getD 0xFF,
    status.bootAttempts] ++ u16ToBe status.rollbackCounter ++ u32ToBe status.candidateSize ++
    u32ToBe status.candidateCrc ++ u32ToBe status.healthWindowRemainingMs

/-- A request to go on with a transfer, of a given session or of any. -/
structure FlashResumeRequestPayload where
  sessionId : Option UInt32
  deriving DecidableEq, Repr

/-- The position from which a transfer goes on. -/
def encodeFlashResumePayload (sessionId nextBlock rollingCrc : UInt32) : Bytes :=
  u32ToBe sessionId ++ u32ToBe nextBlock ++ u32ToBe rollingCrc

/-- The request of an empty payload, or of one with a session. -/
def decodeFlashResumeRequestPayload (payload : Bytes) :
    Except ProtocolError FlashResumeRequestPayload :=
  if payload.length = 0 then .ok ⟨none⟩
  else if payload.length = 4 then .ok ⟨some (u32OfBe payload)⟩
  else .error .malformedPayload

/-! ### Data log -/

/-- What the host is told of the log session. -/
structure LogStatusPayload where
  active : Bool
  storagePresent : Bool
  rtcSynced : Bool
  logbookEntries : UInt8
  sessionId : UInt32
  elapsedMs : UInt32
  bytesWritten : UInt32
  blockCount : UInt16
  blockSize : UInt16
  deriving DecidableEq, Repr

/-- The bytes of a log status. -/
def encodeLogStatusPayload (status : LogStatusPayload) : Bytes :=
  [boolByte status.active, boolByte status.storagePresent, boolByte status.rtcSynced,
    status.logbookEntries] ++ u32ToBe status.sessionId ++ u32ToBe status.elapsedMs ++
    u32ToBe status.bytesWritten ++ u16ToBe status.blockCount ++ u16ToBe status.blockSize

/-- What the host is told of the past sessions. -/
structure LogbookSummaryPayload where
  sessions : UInt32
  entries : UInt16
  totalElapsedMs : UInt32
  totalBytesWritten : UInt32
  lastSessionId : UInt32
  lastElapsedMs : UInt32
  lastBytesWritten : UInt32
  lastBlockCount : UInt16
  rtcSynced : Bool
  lastRtcSyncMs : UInt32
  deriving DecidableEq, Repr

/-- The bytes of a logbook summary. -/
def encodeLogbookSummaryPayload (summary : LogbookSummaryPayload) : Bytes :=
  u32ToBe summary.sessions ++ u16ToBe summary.entries ++ u32ToBe summary.totalElapsedMs ++
    u32ToBe summary.totalBytesWritten ++ u32ToBe summary.lastSessionId ++
    u32ToBe summary.lastElapsedMs ++ u32ToBe summary.lastBytesWritten ++
    u16ToBe summary.lastBlockCount ++ [boolByte summary.rtcSynced] ++
    u32ToBe summary.lastRtcSyncMs

/-- A block of the log with its number, the number of all blocks, its length and its checksum. -/
def encodeLogBlockPayload (P : Platform) (blockIndex totalBlocks : UInt16) (data : Bytes) : Bytes :=
  u16ToBe blockIndex ++ u16ToBe totalBlocks ++ u16ToBe (UInt16.ofNat data.length) ++
    u32ToBe (P.crc32 data) ++ data

/-- The epoch that the host sent. -/
def decodeSyncRtcPayload (payload : Bytes) : Except ProtocolError UInt64 :=
  if payload.length ≠ 8 then .error .malformedPayload else .ok (u64OfBe payload)

/-! ### Sensors -/

/-- A raw sensor reading: the counts of the converter and the voltage. -/
def encodeSensorRawPayload (P : Platform) (adc : UInt16) (voltage : ℚ) : Bytes :=
  u16ToBe adc ++ u32ToBe (P.f32Bits voltage)

/-! ### Reading a page payload back -/

variable {P : Platform}

theorem decode_encodePagePayload {pageId : UInt8} {data : Bytes} (h : data.length ≤ 0xFFFF) :
    decodePagePayload P (encodePagePayload P pageId data) =
      .ok ⟨pageId, P.crc32 data, data⟩ := by
  have hlen : (encodePagePayload P pageId data).length = data.length + 7 := by
    simp [encodePagePayload]
    omega
  have hl : slice (encodePagePayload P pageId data) 1 3 = u16ToBe (UInt16.ofNat data.length) := rfl
  have hc : slice (encodePagePayload P pageId data) 3 7 = u32ToBe (P.crc32 data) := rfl
  have hd : (encodePagePayload P pageId data).drop 7 = data := rfl
  have h0 : (encodePagePayload P pageId data).getD 0 0 = pageId := rfl
  have hn : (UInt16.ofNat data.length).toNat = data.length := by
    rw [UInt16.toNat_ofNat']
    omega
  rw [decodePagePayload]
  simp only [hlen, hl, hc, hd, h0, u16OfBe_u16ToBe, u32OfBe_u32ToBe, hn]
  simp

end StEcu
