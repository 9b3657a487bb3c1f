import StEcu.Foundation.ByteReader
import StEcu.Protocol.Directories

/-!
# Payload decoders, byte by byte

The payload decoders of the host protocol (`src/protocol.rs`) as readers of byte strings: where the
source checks the length a reader rejects the payload, and where it indexes a reader indexes too, so
that a missing check would show as an access out of bounds.

Voltages and the other 32-bit floats of the protocol are their bit patterns here; the frozen values
of a freeze frame are the exact quotients.

## Main definitions

* `Wire.Reader`, `Wire.readString`, `Wire.decodeDirectory`.
* `Wire.decodeIdentityPayload`, `Wire.decodePinDirectoryPayload`, …: one reader for each decoder of
  the source.
-/

namespace StEcu.Wire

open ByteReader

/-- The decoders of the host. -/
abbrev Reader := ByteReader ProtocolError

/-- The error of a payload of the wrong shape. -/
abbrev malformed : ProtocolError := .malformedPayload

/-- `read_string`: a length byte and that many bytes of UTF-8. -/
def readString : Reader String := do
  let len ← get malformed
  require len.toNat malformed
  let bytes ← slice len.toNat
  ofOption malformed (fromUtf8 bytes)

/-- A string, where the empty one stands for none. -/
def nonEmpty (value : String) : Option String := if value.isEmpty then none else some value

/-- The shape of the directories: a count, that many entries, and nothing behind them. -/
def decodeDirectory {α : Type} (entry : Reader α) : Reader (List α) := do
  let count ← get malformed
  let entries ← times count.toNat entry
  atEnd malformed
  return entries

/-- A string of at most 255 bytes is read back. -/
theorem reads_readString {value : String} (h : (utf8 value).length ≤ 255) (rest : Bytes) :
    Reads readString (pushString value) rest value := by
  have hlen : (UInt8.ofNat (utf8 value).length).toNat = (utf8 value).length := by
    rw [UInt8.toNat_ofNat']
    omega
  refine .of_append_nil ?_
  exact .get <| .require (by simp [hlen]) <| .slice hlen <| reads_ofOption (fromUtf8_utf8 value)

/-! ### Identity -/

/-- What a host knows of a firmware. -/
structure DecodedIdentity where
  protocolVersion : UInt8
  schemaVersion : UInt16
  firmwareId : String
  firmwareSemver : String
  boardId : String
  serial : String
  signature : String
  resetReason : Option String
  capabilities : Bytes
  deriving DecidableEq, Repr

/-- The reset reason, which older firmware leaves out. -/
def resetReason (capabilityCount : UInt8) : Reader (Option String) := do
  let legacy ← endsAfter capabilityCount.toNat
  if legacy then
    return none
  else
    let parsedResetReason ← readString
    let complete ← endsAfter capabilityCount.toNat
    if complete then
      return nonEmpty parsedResetReason
    else
      reject malformed

/-- The identity, in either of its two shapes. -/
def decodeIdentityPayload : Reader DecodedIdentity := do
  require 4 malformed
  let protocolVersion ← byte
  let schemaVersion ← u16
  let capabilityCount ← byte
  let firmwareId ← readString
  let firmwareSemver ← readString
  let boardId ← readString
  let serial ← readString
  let signature ← readString
  let resetReason ← resetReason capabilityCount
  require capabilityCount.toNat malformed
  let capabilities ← slice capabilityCount.toNat
  return { protocolVersion, schemaVersion, firmwareId, firmwareSemver, boardId, serial, signature,
           resetReason, capabilities }

/-- The capabilities, all of which must be known. -/
def decodeCapabilitiesPayload : Reader (List Capability) := do
  let count ← get malformed
  lengthIs (count.toNat + 1) malformed
  let codes ← rest
  ofOption malformed (codes.mapM Capability.ofCode)

/-! ### Directories -/

/-- What a host knows of a table. -/
structure DecodedTableMetadataEntry where
  id : UInt8
  xScale : UInt16
  yScale : UInt16
  valueScale : UInt16
  minValueRaw : Int
  maxValueRaw : Int
  defaultValueRaw : Int
  key : String
  xLabel : String
  yLabel : String
  zLabel : String
  unit : String
  deriving DecidableEq, Repr

/-- One table of the metadata. -/
def tableMetadataEntry : Reader DecodedTableMetadataEntry := do
  require 19 malformed
  let id ← byte
  let xScale ← u16
  let yScale ← u16
  let valueScale ← u16
  let minValueRaw ← u32
  let maxValueRaw ← u32
  let defaultValueRaw ← u32
  let key ← readString
  let xLabel ← readString
  let yLabel ← readString
  let zLabel ← readString
  let unit ← readString
  return { id, xScale, yScale, valueScale, minValueRaw := minValueRaw.toInt32.toInt,
           maxValueRaw := maxValueRaw.toInt32.toInt,
           defaultValueRaw := defaultValueRaw.toInt32.toInt, key, xLabel, yLabel, zLabel, unit }

/-- The metadata of the tables. -/
def decodeTableMetadataPayload : Reader (List DecodedTableMetadataEntry) :=
  decodeDirectory tableMetadataEntry

/-- A route is read back as it was. -/
abbrev DecodedPinRoute := PinRoute

/-- What a host knows of a pin. -/
structure DecodedPinDirectoryEntry where
  pinId : String
  label : String
  electricalClass : String
  flags : UInt16
  timerInstance : String
  timerChannel : String
  adcInstance : String
  adcChannel : Option UInt8
  boardPath : String
  routes : List DecodedPinRoute
  deriving DecidableEq, Repr

/-- One route of a pin. -/
def pinRoute : Reader DecodedPinRoute := do
  let code ← get malformed
  let functionClass ← ofOption malformed (PinFunctionClass.ofCode code)
  let muxMode ← readString
  let signal ← readString
  let exclusiveResource ← readString
  return { functionClass, muxMode, signal, exclusiveResource := nonEmpty exclusiveResource }

/-- One pin of the directory. -/
def pinDirectoryEntry : Reader DecodedPinDirectoryEntry := do
  let pinId ← readString
  let label ← readString
  let electricalClass ← readString
  require 2 malformed
  let flags ← u16
  let timerInstance ← readString
  let timerChannel ← readString
  let adcInstance ← readString
  let adcChannelRaw ← get malformed
  let boardPath ← readString
  let routeCount ← get malformed
  let routes ← times routeCount.toNat pinRoute
  return { pinId, label, electricalClass, flags, timerInstance, timerChannel, adcInstance,
           adcChannel := if adcChannelRaw = 0xFF then none else some adcChannelRaw, boardPath,
           routes }

/-- The pins of the board. -/
def decodePinDirectoryPayload : Reader (List DecodedPinDirectoryEntry) :=
  decodeDirectory pinDirectoryEntry

/-- One assignment. -/
def pinAssignment : Reader DecodedPinAssignment := do
  let functionCode ← get malformed
  let function ← ofOption malformed (EcuFunction.ofCode functionCode)
  let pinId ← readString
  let pinLabel ← readString
  return { function, pinId, pinLabel }

/-- The assignments of the board. -/
def decodePinAssignmentsPayload : Reader (List DecodedPinAssignment) :=
  decodeDirectory pinAssignment

/-- An output is read back as it was. -/
abbrev DecodedOutputTestDirectoryEntry := OutputTestDirectoryEntry

/-- The group of outputs with a code. -/
def outputGroupKey (code : UInt8) : Option String :=
  match code with
  | 0x01 => some "injectors"
  | 0x02 => some "coils"
  | 0x03 => some "aux"
  | 0x04 => some "valves"
  | _ => none

/-- One output of the directory. -/
def outputTestDirectoryEntry : Reader DecodedOutputTestDirectoryEntry := do
  require 4 malformed
  let channel ← byte
  let groupCode ← byte
  let group ← ofOption malformed (outputGroupKey groupCode)
  let defaultPulseMs ← u16
  let function ← readString
  let label ← readString
  return { channel, function, label, group,
           defaultPulseMs := if defaultPulseMs = 0xFFFF then none else some defaultPulseMs }

/-- The outputs that may be tested. -/
def decodeOutputTestDirectoryPayload : Reader (List DecodedOutputTestDirectoryEntry) :=
  decodeDirectory outputTestDirectoryEntry

/-- A raw sensor reading, the voltage as its bits. -/
structure DecodedSensorRaw where
  adc : UInt16
  voltage : UInt32
  deriving DecidableEq, Repr

/-- The raw reading of a sensor. -/
def decodeSensorRawPayload : Reader DecodedSensorRaw := do
  lengthIs 6 malformed
  let adc ← u16
  let voltage ← u32
  return { adc, voltage }

/-- A sensor input is read back as it was. -/
abbrev DecodedSensorRawDirectoryEntry := SensorRawDirectoryEntry

/-- One sensor input of the directory. -/
def sensorRawDirectoryEntry : Reader DecodedSensorRawDirectoryEntry := do
  require 9 malformed
  let channel ← byte
  let expectedMinMv ← u16
  let expectedMaxMv ← u16
  let faultLowMv ← u16
  let faultHighMv ← u16
  let key ← readString
  let label ← readString
  let unit ← readString
  let pinId ← readString
  let pinLabel ← readString
  return { channel, key, label, unit, pinId, pinLabel, expectedMinMv, expectedMaxMv, faultLowMv,
           faultHighMv }

/-- The sensor inputs. -/
def decodeSensorRawDirectoryPayload : Reader (List DecodedSensorRawDirectoryEntry) :=
  decodeDirectory sensorRawDirectoryEntry

/-- What a host knows of a freeze frame, in physical units. -/
structure DecodedFreezeFrame where
  code : String
  label : String
  reason : String
  revCounter : UInt32
  rpm : UInt16
  mapKpa : ℚ
  tpsPct : ℚ
  coolantC : ℚ
  lambda : ℚ
  vbatt : ℚ
  gear : UInt8
  deriving DecidableEq, Repr

/-- One freeze frame. -/
def freezeFrame : Reader DecodedFreezeFrame := do
  let code ← readString
  let label ← readString
  let reason ← readString
  require 17 malformed
  let revCounter ← u32
  let rpm ← u16
  let mapKpa ← u16
  let tpsPct ← u16
  let coolantC ← u16
  let lambda ← u16
  let vbatt ← u16
  let gear ← byte
  return { code, label, reason, revCounter, rpm, mapKpa := mapKpa.toNat / 10,
           tpsPct := tpsPct.toNat / 100, coolantC := coolantC.toInt16.toInt / 10,
           lambda := lambda.toNat / 10000, vbatt := vbatt.toNat / 100, gear }

/-- The freeze frames. -/
def decodeFreezeFramesPayload : Reader (List DecodedFreezeFrame) := decodeDirectory freezeFrame

/-! ### Trigger -/

/-- A trigger decoder is read back as it was. -/
abbrev DecodedTriggerDecoderPreset := TriggerDecoderPreset

/-- One trigger decoder of the directory. -/
def triggerDecoderPreset : Reader DecodedTriggerDecoderPreset := do
  require 4 malformed
  let requiresSecondary ← byte
  let supportsSequential ← byte
  let expectedEngineCycleDeg ← u16
  let key ← readString
  let label ← readString
  let family ← readString
  let decoder ← readString
  let patternKind ← readString
  let primaryInputLabel ← readString
  let secondaryInputLabel ← readString
  let primarySensorKind ← readString
  let secondarySensorKind ← readString
  let edgePolicy ← readString
  let syncStrategy ← readString
  let primaryPatternHint ← readString
  let secondaryPatternHint ← readString
  let referenceDescription ← readString
  return { key, label, family, decoder, patternKind, primaryInputLabel,
           secondaryInputLabel := nonEmpty secondaryInputLabel, primarySensorKind,
           secondarySensorKind := nonEmpty secondarySensorKind, edgePolicy, syncStrategy,
           primaryPatternHint, secondaryPatternHint := nonEmpty secondaryPatternHint,
           referenceDescription, expectedEngineCycleDeg,
           requiresSecondary := requiresSecondary != 0,
           supportsSequential := supportsSequential != 0 }

/-- The trigger decoders. -/
def decodeTriggerDecoderDirectoryPayload : Reader (List DecodedTriggerDecoderPreset) :=
  decodeDirectory triggerDecoderPreset

/-- A scope picture is read back as it was. -/
abbrev DecodedTriggerCapture := TriggerCapture

/-- A scope picture of the trigger. -/
def decodeTriggerCapturePayload : Reader DecodedTriggerCapture := do
  let presetKey ← readString
  let presetLabel ← readString
  let syncState ← readString
  require 19 malformed
  let triggerRpm ← u16
  let syncLossCounter ← u32
  let syncedCycles ← u32
  let engineCycleDeg ← u16
  let captureWindowUs ← u32
  let samplePeriodUs ← u16
  let primaryLabel ← readString
  let secondaryLabel ← readString
  require 7 malformed
  let toothCount ← u16
  let syncGapToothCount ← byte
  let primaryEdgeCount ← u16
  let secondaryEdgeCount ← u16
  let sampleCount ← u16
  require (sampleCount.toNat * 2) malformed
  let primarySamples ← slice sampleCount.toNat
  let secondarySamples ← slice sampleCount.toNat
  atEnd malformed
  return { presetKey, presetLabel, syncState, triggerRpm, syncLossCounter, syncedCycles,
           engineCycleDeg, captureWindowUs, samplePeriodUs, primaryLabel,
           secondaryLabel := nonEmpty secondaryLabel, toothCount, syncGapToothCount,
           primaryEdgeCount, secondaryEdgeCount, primarySamples, secondarySamples }

/-- A tooth log is read back as it was. -/
abbrev DecodedTriggerToothLog := TriggerToothLog

/-- A tooth log of the trigger. -/
def decodeTriggerToothLogPayload : Reader DecodedTriggerToothLog := do
  let presetKey ← readString
  let presetLabel ← readString
  let syncState ← readString
  require 10 malformed
  let triggerRpm ← u16
  let engineCycleDeg ← u16
  let primaryLabel ← readString
  let secondaryLabel ← readString
  require 8 malformed
  let referenceEventIndex ← u16
  let dominantGapRatio ← u32
  let toothCount ← u16
  require (toothCount.toNat * 4 + 1) malformed
  let toothIntervalsUs ← times toothCount.toNat u32
  let secondaryCount ← byte
  require (secondaryCount.toNat * 2) malformed
  let secondaryEventIndexes ← times secondaryCount.toNat u16
  atEnd malformed
  return { presetKey, presetLabel, syncState, triggerRpm, engineCycleDeg, primaryLabel,
           secondaryLabel := nonEmpty secondaryLabel, referenceEventIndex, dominantGapRatio,
           toothIntervalsUs, secondaryEventIndexes }

/-! ### CAN -/

/-- A CAN frame is read back as it was. -/
abbrev DecodedCanTemplateDirectoryEntry := CanTemplateDirectoryEntry

/-- One CAN frame of the directory. -/
def canTemplateDirectoryEntry : Reader DecodedCanTemplateDirectoryEntry := do
  require 7 malformed
  let id ← byte
  let canId ← u32
  let extendedId ← byte
  let dlc ← byte
  let key ← readString
  let label ← readString
  let direction ← readString
  let category ← readString
  return { id, key, label, direction, category, canId, extendedId := extendedId != 0, dlc }

/-- The CAN frames. -/
def decodeCanTemplateDirectoryPayload : Reader (List DecodedCanTemplateDirectoryEntry) :=
  decodeDirectory canTemplateDirectoryEntry

/-- A signal is read back as it was. -/
abbrev DecodedCanSignalDirectoryEntry := CanSignalDirectoryEntry

/-- One signal of the directory. -/
def canSignalDirectoryEntry : Reader DecodedCanSignalDirectoryEntry := do
  require 21 malformed
  let id ← byte
  let templateId ← byte
  let startBit ← byte
  let bitLength ← byte
  let flags ← byte
  let scale ← u32
  let offset ← u32
  let min ← u32
  let max ← u32
  let key ← readString
  let label ← readString
  let mapsTo ← readString
  let unit ← readString
  return { id, templateId, key, label, mapsTo, startBit, bitLength,
           signed := (flags &&& 0x01) != 0, littleEndian := (flags &&& 0x02) != 0, scale, offset,
           min, max, unit }

/-- The signals in the CAN frames. -/
def decodeCanSignalDirectoryPayload : Reader (List DecodedCanSignalDirectoryEntry) :=
  decodeDirectory canSignalDirectoryEntry

/-! ### Pages -/

/-- What a host knows of a page; the older shape leaves out what flash holds. -/
structure DecodedPageStatus where
  pageId : UInt8
  ramCrc : UInt32
  flashCrc : UInt32
  needsBurn : Bool
  flashGeneration : UInt32
  flashValid : Bool
  deriving DecidableEq, Repr

/-- The generation and validity of a page, which older firmware leaves out. -/
def pageFlashState (extended : Bool) : Reader (UInt32 × Bool) :=
  if extended then do
    let flashGeneration ← u32
    let flashValid ← byte
    return (flashGeneration, flashValid != 0)
  else
    return (0, true)

/-- One page status, in the newer shape or in the older one. -/
def pageStatus (extended : Bool) : Reader DecodedPageStatus := do
  let pageId ← byte
  let ramCrc ← u32
  let flashCrc ← u32
  let needsBurn ← byte
  let flash ← pageFlashState extended
  return { pageId, ramCrc, flashCrc, needsBurn := needsBurn != 0, flashGeneration := flash.1,
           flashValid := flash.2 }

/-- The page statuses, in the shape that the length tells. -/
def decodePageStatusesPayload : Reader (List DecodedPageStatus) := do
  let count ← get malformed
  let extended ← hasLength (1 + count.toNat * 15)
  if extended then
    times count.toNat (pageStatus true)
  else
    lengthIs (1 + count.toNat * 10) malformed
    times count.toNat (pageStatus false)

/-- The page that a request is about. -/
def decodePageRequest : Reader UInt8 := do
  lengthIs 1 malformed
  byte

/-- The page of an acknowledgement, and whether it is to be burned. -/
def decodeAckPayload : Reader (UInt8 × Bool) := do
  lengthIs 2 malformed
  let pageId ← byte
  let needsBurn ← byte
  return (pageId, needsBurn != 0)

/-- A page, if its checksum is right. -/
def decodePagePayload (P : Platform) : Reader DecodedPagePayload := do
  require 7 malformed
  let pageId ← byte
  let len ← u16
  lengthIs (len.toNat + 7) malformed
  let payloadCrc ← u32
  let payload ← rest
  if payloadCrc ≠ P.crc32 payload then
    reject malformed
  else
    return { pageId, payloadCrc, payload }

/-- The code of a rejection and its reason. -/
def decodeNackPayload : Reader (UInt8 × String) := do
  require 1 malformed
  let code ← byte
  let reason ← readString
  atEnd malformed
  return (code, reason)

/-! ### Firmware update -/

/-- The status of a firmware update. -/
def decodeFirmwareUpdateStatusPayload : Reader FirmwareUpdateStatusPayload := do
  lengthIs 19 malformed
  let state ← byte
  let activeBank ← byte
  let lastGoodBank ← byte
  let pendingBank ← byte
  let bootAttempts ← byte
  let rollbackCounter ← u16
  let candidateSize ← u32
  let candidateCrc ← u32
  let healthWindowRemainingMs ← u32
  return { state, activeBank, lastGoodBank,
           pendingBank := if pendingBank = 0xFF then none else some pendingBank, bootAttempts,
           rollbackCounter, candidateSize, candidateCrc, healthWindowRemainingMs }

/-- The position from which a transfer goes on. -/
def decodeFlashResumePayload : Reader (UInt32 × UInt32 × UInt32) := do
  lengthIs 12 malformed
  let sessionId ← u32
  let nextBlock ← u32
  let rollingCrc ← u32
  return (sessionId, nextBlock, rollingCrc)

/-- A request to go on with a transfer. -/
def decodeFlashResumeRequestPayload : Reader FlashResumeRequestPayload := do
  let empty ← hasLength 0
  if empty then
    return ⟨none⟩
  else
    lengthIs 4 malformed
    let sessionId ← u32
    return ⟨some sessionId⟩

/-! ### Network profile -/

/-- A link is read back as it was. -/
abbrev DecodedNetworkLink := LinkContract

/-- A profile is read back as it was. -/
abbrev DecodedNetworkProfile := NetworkProfile

/-- One link of the profile. -/
def networkLink : Reader DecodedNetworkLink := do
  require 4 malformed
  let kindCode ← byte
  let kind ← ofOption malformed (TransportLinkKind.ofCode kindCode)
  let realtimeSafe ← byte
  let firmwareUpdateAllowed ← byte
  let classCount ← byte
  require classCount.toNat malformed
  let codes ← slice classCount.toNat
  let classes ← ofOption malformed (codes.mapM MessageClass.ofCode)
  return { kind, realtimeSafe := realtimeSafe != 0,
           firmwareUpdateAllowed := firmwareUpdateAllowed != 0, classes }

/-- The links of the board. -/
def decodeNetworkProfilePayload : Reader DecodedNetworkProfile := do
  require 3 malformed
  let trackCode ← byte
  let productTrack ← ofOption malformed (ProductTrack.ofCode trackCode)
  let multiMasterCan ← byte
  let linkCount ← byte
  let links ← times linkCount.toNat networkLink
  atEnd malformed
  return { productTrack, multiMasterCan := multiMasterCan != 0, links }

/-! ### Data log -/

/-- The status of the log session. -/
def decodeLogStatusPayload : Reader LogStatusPayload := do
  lengthIs 20 malformed
  let active ← byte
  let storagePresent ← byte
  let rtcSynced ← byte
  let logbookEntries ← byte
  let sessionId ← u32
  let elapsedMs ← u32
  let bytesWritten ← u32
  let blockCount ← u16
  let blockSize ← u16
  return { active := active != 0, storagePresent := storagePresent != 0,
           rtcSynced := rtcSynced != 0, logbookEntries, sessionId, elapsedMs, bytesWritten,
           blockCount, blockSize }

/-- The summary of the past sessions. -/
def decodeLogbookSummaryPayload : Reader LogbookSummaryPayload := do
  lengthIs 33 malformed
  let sessions ← u32
  let entries ← u16
  let totalElapsedMs ← u32
  let totalBytesWritten ← u32
  let lastSessionId ← u32
  let lastElapsedMs ← u32
  let lastBytesWritten ← u32
  let lastBlockCount ← u16
  let rtcSynced ← byte
  let lastRtcSyncMs ← u32
  return { sessions, entries, totalElapsedMs, totalBytesWritten, lastSessionId, lastElapsedMs,
           lastBytesWritten, lastBlockCount, rtcSynced := rtcSynced != 0, lastRtcSyncMs }

/-- What a host knows of a block of the log. -/
structure DecodedLogBlockPayload where
  blockIndex : UInt16
  totalBlocks : UInt16
  payloadCrc : UInt32
  payload : Bytes
  deriving DecidableEq, Repr

/-- A block of the log, if its checksum is right. -/
def decodeLogBlockPayload (P : Platform) : Reader DecodedLogBlockPayload := do
  require 10 malformed
  let blockIndex ← u16
  let totalBlocks ← u16
  let dataLen ← u16
  lengthIs (10 + dataLen.toNat) malformed
  let payloadCrc ← u32
  let payload ← rest
  if payloadCrc ≠ P.crc32 payload then
    reject malformed
  else
    return { blockIndex, totalBlocks, payloadCrc, payload }

/-- The epoch of a request to set the clock. -/
def decodeSyncRtcPayload : Reader UInt64 := do
  lengthIs 8 malformed
  let bytes ← slice 8
  return u64OfBe bytes

/-! ### Tables -/

/-- A calibration table. -/
def decodeRawTablePayload : Reader RawTablePayload := do
  require 3 malformed
  let tableId ← byte
  let xCount ← byte
  let yCount ← byte
  lengthIs (3 + (xCount.toNat + yCount.toNat + xCount.toNat * yCount.toNat) * 2) malformed
  let xBins ← times xCount.toNat u16
  let yBins ← times yCount.toNat u16
  let data ← times (xCount.toNat * yCount.toNat) u16
  return { tableId, xCount, yCount, xBins, yBins, data }

end StEcu.Wire
