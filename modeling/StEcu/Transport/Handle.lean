import StEcu.Transport.Runtime

/-!
# Handling a packet

`FirmwareRuntime::handle_packet` in `src/transport.rs`: the health window is ticked, then the
command of the packet is carried out and answered. A handler returns the runtime it leaves behind
and its answer. The checks of a command that change nothing are functions of their own, which
return the rejection or what the command goes on with.

## Main definitions

* `FirmwareRuntime.handlePacket`, `FirmwareRuntime.dispatch`.
* One handler for each command that can change something: `FirmwareRuntime.writePage`,
  `FirmwareRuntime.enterBootloader`, `FirmwareRuntime.flashVerify`, ….
-/

namespace StEcu

/-- The code and the reason of a rejected packet. -/
abbrev Rejection := RuntimeNackCode × String

/-- The answer of a rejection. -/
def Rejection.packet (e : Rejection) : Packet := nack e.1 e.2

@[simp] theorem Rejection.cmd_packet (e : Rejection) : e.packet.cmd = .nack := rfl

namespace FirmwareRuntime

variable (P : Platform) (r : FirmwareRuntime)

/-- A command that either rejects its packet and changes nothing, or goes on. -/
def orReject {α : Type} (result : Except Rejection α)
    (next : α → FirmwareRuntime × Packet) : FirmwareRuntime × Packet :=
  match result with
  | .error e => (r, e.packet)
  | .ok a => next a

/-! ### Data log -/

/-- The logbook is emptied, unless a session is active. -/
def resetLogbookCommand : FirmwareRuntime × Packet :=
  if r.log.active then (r, nack .malformedPayload "cannot reset logbook while logging")
  else ({ r with log := r.log.resetLogbook }, ack)

/-- The clock of the log is set, if the epoch is within its bounds. -/
def syncRtcCommand (payload : Bytes) : FirmwareRuntime × Packet :=
  match decodeSyncRtcPayload payload with
  | .error _ => (r, nack .malformedPayload "bad sync-rtc payload")
  | .ok epochMs =>
    if epochMs < syncRtcMinEpochMs ∨ syncRtcMaxEpochMs < epochMs then
      (r, nack .rangeOverflow "sync-rtc epoch out of supported range")
    else ({ r with log := r.log.syncRtc epochMs }, ack)

/-- A block of the log, with the number of all blocks. -/
def readLogBlockAnswer (payload : Bytes) : Packet :=
  if payload.length ≠ 2 then nack .malformedPayload "bad read-log-block payload"
  else
    let blockIndex := u16OfBe payload
    let totalBlocks := r.log.currentLogBlockCount
    if totalBlocks ≤ blockIndex then nack .malformedPayload "invalid log block index"
    else
      match r.log.readLogBlock blockIndex.toNat with
      | none => nack .malformedPayload "log block unavailable"
      | some blockData => ⟨.logBlockData, encodeLogBlockPayload P blockIndex totalBlocks blockData⟩

/-! ### Tables -/

/-- A calibration table. -/
def readTableAnswer (payload : Bytes) : Packet :=
  match payload.head? with
  | none => nack .malformedPayload "bad read-table payload"
  | some tableId =>
    match r.tables.find? fun table => table.tableId == tableId with
    | some table => ⟨.tableData, table.toPayload⟩
    | none => nack .malformedPayload "invalid table id"

/-- A table is replaced by one of the same size. -/
def writeTableCommand (payload : Bytes) : FirmwareRuntime × Packet :=
  match decodeRawTablePayload payload with
  | .error _ => (r, nack .malformedPayload "bad write-table payload")
  | .ok table =>
    match r.writeTableFrame table with
    | .error _ => (r, nack .malformedPayload "invalid table payload")
    | .ok r => (r, ack)

/-- The cell that a write-cell payload addresses: the index of its table, the table, the offset of
the cell and the new value. -/
def checkWriteCell (payload : Bytes) : Except Rejection (ℕ × RawTablePayload × ℕ × UInt16) :=
  if payload.length ≠ 5 then .error (.malformedPayload, "bad write-cell payload")
  else
    let xIndex := (payload.getD 1 0).toNat
    let yIndex := (payload.getD 2 0).toNat
    let value := u16OfBe (slice payload 3 5)
    match r.tableIndex (payload.getD 0 0) with
    | none => .error (.malformedPayload, "invalid table id")
    | some index =>
      match r.tables[index]? with
      | none => .error (.malformedPayload, "invalid table id")
      | some table =>
        if table.xCount.toNat ≤ xIndex ∨ table.yCount.toNat ≤ yIndex then
          .error (.malformedPayload, "cell out of bounds")
        else .ok (index, table, yIndex * table.xCount.toNat + xIndex, value)

/-- One cell of a table is replaced. -/
def writeCellCommand (payload : Bytes) : FirmwareRuntime × Packet :=
  r.orReject (r.checkWriteCell payload) fun (index, table, offset, value) =>
    ({ r with tables := r.tables.set index { table with data := table.data.set offset value } },
      ack)

/-! ### Output test -/

/-- Whether an output test may run; `true` where it is forced on against a running engine. -/
def checkOutputTest (payload : Bytes) : Except Rejection Bool :=
  if payload.length < 2 then .error (.malformedPayload, "bad output-test payload")
  else
    let forceOn := payload.getD 1 0 &&& 1 != 0
    if r.flash.sessionActive then
      .error (.unsafeState, "output-test blocked during flash session")
    else if r.live.protectionActive then
      .error (.unsafeState, "output-test blocked by active protection")
    else
      let forceUnsafe := payload.getD 4 0 != 0
      if 100 < r.live.lastReportedRpm ∧ !forceUnsafe then
        .error (.unsafeState, "output test blocked while engine running")
      else if !outputTestDirectory.any fun entry => entry.channel == payload.getD 0 0 then
        .error (.malformedPayload, "unknown output-test channel")
      else .ok (forceOn && forceUnsafe && decide (100 < r.live.lastReportedRpm))

/-- An output is tested; where that is forced against a running engine, the logbook gets a
marker. -/
def runOutputTest (payload : Bytes) : FirmwareRuntime × Packet :=
  r.orReject (r.checkOutputTest payload) fun audit =>
    if audit then ({ r with log := r.log.recordLogbookAuditMarker }, ack) else (r, ack)

/-! ### Pages -/

/-- The acknowledgement of a command that wrote a page. -/
def pageAck (pageId : UInt8) : Packet :=
  ⟨.ack, encodeAckPayload pageId ((r.store.needsBurn pageId).getD false)⟩

/-- Some pins are assigned over the ones in force, and the page of the pins is staged. -/
def pinAssign (payload : Bytes) : FirmwareRuntime × Packet :=
  match decodePinAssignmentsPayload payload with
  | .error _ => (r, nack .malformedPayload "bad pin-assignment payload")
  | .ok [] => (r, nack .malformedPayload "empty pin-assignment payload")
  | .ok assignments =>
    let requests := assignments.map fun assignment =>
      ({ function := assignment.function, pinId := assignment.pinId } : PinAssignmentRequest)
    match r.applyPinAssignmentOverrides requests with
    | (r, .ok ()) => (r, r.pageAck ConfigPage.pinAssignment.id)
    | (r, .error error) =>
      (r, nack .malformedPayload ("pin-assignment rejected: " ++ error.debugText P))

/-- A page is read, encrypted where the board does so; its nonce is used up. -/
def readPage (payload : Bytes) : FirmwareRuntime × Packet :=
  match decodePageRequest payload with
  | .error _ => (r, nack .malformedPayload "bad read-page payload")
  | .ok pageId =>
    match r.store.readPage pageId with
    | none => (r, nack .invalidPage "invalid page id")
    | some page =>
      match r.encryptPageForTransport P page with
      | (r, .ok payload) => (r, ⟨.pageData, encodePagePayload P pageId payload⟩)
      | (r, .error _) => (r, nack .storageFailure "page encryption failed")

/-- What follows a RAM page written by the host: the pin-assignment page is parsed, and replaced
if it is not accepted; page 0 selects the trigger decoder. -/
def afterPageWrite (pageId : UInt8) (payloadLen : ℕ) : FirmwareRuntime × Packet :=
  if pageId = ConfigPage.pinAssignment.id then
    match r.reloadPinAssignmentsFromRamPage with
    | .ok r => (r, r.pageAck pageId)
    | .error _ =>
      -- the result of writing the replacement is ignored
      match r.store.writePage pageId (r.revertedPinPage payloadLen) with
      | .ok store =>
        ({ r with store }, nack .malformedPayload "invalid pin-assignment page payload")
      | .error _ => (r, nack .malformedPayload "invalid pin-assignment page payload")
  else if pageId = ConfigPage.baseEngineFuelComm.id then
    (r.syncTriggerRuntimeFromPage0, r.syncTriggerRuntimeFromPage0.pageAck pageId)
  else (r, r.pageAck pageId)

/-- A page is staged, and taken over where it is page 0 or the page of the pins. -/
def writePage (payload : Bytes) : FirmwareRuntime × Packet :=
  match decodePagePayload P payload with
  | .error _ => (r, nack .malformedPayload "bad write-page payload")
  | .ok page =>
    match r.decryptPageFromTransport P page.payload with
    | .error .malformedPayload => (r, nack .malformedPayload "bad encrypted page payload")
    | .error _ => (r, nack .storageFailure "page decryption unavailable")
    | .ok data =>
      match r.store.writePage page.pageId data with
      | .error _ => (r, nack .storageFailure "page write failed")
      | .ok store => { r with store }.afterPageWrite page.pageId data.length

/-- A page is burned. -/
def burnPage (payload : Bytes) : FirmwareRuntime × Packet :=
  match decodePageRequest payload with
  | .error _ => (r, nack .malformedPayload "bad burn-page payload")
  | .ok pageId =>
    match r.store.burnPage P pageId with
    | (store, .error _) => ({ r with store }, nack .storageFailure "page burn failed")
    | (store, .ok ()) =>
      let r := { r with store }
      (if pageId = ConfigPage.baseEngineFuelComm.id then r.syncTriggerRuntimeFromPage0 else r,
        ⟨.ack, encodeAckPayload pageId false⟩)

/-! ### Firmware update -/

/-- A failed authentication attempt. -/
def authFailure (now : ℕ) (code : RuntimeNackCode) (reason : String) : FirmwareRuntime × Packet :=
  ({ r with auth := r.auth.recordFailure now }, nack code reason)

/-- The bootloader authentication of a board that requires it, once any lockout that is over has
been forgotten. -/
def authenticate (clock : Clock) (payload : Bytes) : FirmwareRuntime × Packet :=
  if r.auth.isLocked clock.now then
    (r, nack .lockActive ("bootloader auth locked after failed attempts; retry in " ++
      toString (r.auth.lockoutRemainingMs clock.now).toNat ++ " ms"))
  else if payload.isEmpty then
    let (auth, challenge) := r.auth.issueChallenge P r.identity clock.unixNanos
      r.live.liveSampleCounter r.flash.nextBlock
    ({ r with auth }, ⟨.ack, challenge⟩)
  else if r.auth.isRateLimited clock.now then
    (r, nack .rateLimitExceeded "bootloader auth rate limited; wait 5s between attempts")
  else if payload.length ≠ bootloaderResponseLen then
    r.authFailure clock.now .malformedPayload "bad bootloader auth payload"
  else
    match r.auth.pendingChallenge with
    | none => r.authFailure clock.now .notAuthenticated "bootloader challenge required"
    | some challenge =>
      let r := { r with auth := { r.auth with pendingChallenge := none } }
      match computeBootloaderAuthTag P r.identity challenge with
      | none => r.authFailure clock.now .cryptoFail "bootloader auth unavailable"
      | some expectedTag =>
        if expectedTag ≠ payload then
          r.authFailure clock.now .notAuthenticated "bootloader auth mismatch"
        else (r.beginFlashSession, ack)

/-- A session begins, after a challenge was answered where the board asks for one. -/
def enterBootloader (clock : Clock) (payload : Bytes) : FirmwareRuntime × Packet :=
  if !r.bootloaderAuthRequired then (r.beginFlashSession, ack)
  else { r with auth := r.auth.refreshWindow clock.now }.authenticate P clock payload

/-- A transfer goes on, from the session that is open or from the scratch. -/
def flashResume (payload : Bytes) : FirmwareRuntime × Packet :=
  if !r.flash.sessionActive then (r, nack .badSequence "flash session not started")
  else
    match decodeFlashResumeRequestPayload payload with
    | .error _ => (r, nack .malformedPayload "bad flash-resume payload")
    | .ok request =>
      match r.tryRestoreFlashResumeScratch request with
      | .ok (r, _) =>
        (r, ⟨.ack, encodeFlashResumePayload r.flash.sessionId r.flash.nextBlock
          (r.flash.resumeRollingCrc P)⟩)
      | .error .malformedPayload => (r, nack .badSequence "flash resume session mismatch")
      | .error .storageFailure => (r, nack .storageFailure "flash resume scratch invalid")
      | .error code => (r, nack code "flash resume unavailable")

/-- The bytes that a flash block adds to the image. -/
def checkFlashBlock (payload : Bytes) : Except Rejection Bytes :=
  if !r.flash.sessionActive then .error (.badSequence, "flash session not started")
  else if payload.length ≤ flashBlockHeaderLen then
    .error (.malformedPayload, "bad flash-block payload")
  else if flashBlockHeaderLen + flashBlockMaxBytes < payload.length then
    .error (.rangeOverflow, "flash block too large")
  else if u32OfBe (payload.take flashBlockHeaderLen) ≠ r.flash.nextBlock then
    .error (.badSequence, "unexpected flash block index")
  else
    let block := payload.drop flashBlockHeaderLen
    if flashBufferMaxBytes < r.flash.buffer.length + block.length then
      .error (.rangeOverflow, "flash image too large")
    else .ok block

/-- The runtime after one more block of the image. -/
def appendFlashBlock (block : Bytes) : FirmwareRuntime :=
  { r with
    flash := r.flash.appendBlock block
    update := { r.update with state := .receiving } }.maybePersistFlashResumeScratch P

/-- A block is appended to the image. -/
def flashBlock (payload : Bytes) : FirmwareRuntime × Packet :=
  r.orReject (r.checkFlashBlock payload) fun block => (r.appendFlashBlock P block, ack)

/-- The optional fields of a verify payload. -/
structure VerifyFields where
  crc : Option Bytes := none
  authTag : Option Bytes := none
  signature : Option Bytes := none

/-- The length of a verify payload says which fields it has. -/
def parseVerifyFields (payload : Bytes) : Option VerifyFields :=
  match payload.length with
  | 0 => some {}
  | 4 => some { crc := some payload }
  | 16 => some { authTag := some payload }
  | 20 => some { crc := some (payload.take 4), authTag := some (slice payload 4 20) }
  | 68 => some { crc := some (payload.take 4), signature := some (slice payload 4 68) }
  | 84 =>
    some
      { crc := some (payload.take 4)
        authTag := some (slice payload 4 20)
        signature := some (slice payload 20 84) }
  | _ => none

/-- The checks on the authentication tag of a verify payload, where there is one. -/
def checkFlashAuthTag (actualCrc : UInt32) : Option Bytes → Except Rejection Unit
  | none => .ok ()
  | some expectedTag =>
    match computeFlashAuthTag P r.identity r.flash.buffer actualCrc with
    | none => .error (.cryptoFail, "flash auth unavailable")
    | some actualTag =>
      if actualTag ≠ expectedTag then .error (.cryptoFail, "flash auth mismatch") else .ok ()

/-- The checks on the signature of a verify payload, which may be required. -/
def checkFlashSignature (actualCrc : UInt32) : Option Bytes → Except Rejection Unit
  | none =>
    if r.flashSignatureRequired then .error (.badSignature, "flash signature required") else .ok ()
  | some signature =>
    if !verifyFlashSignature P r.flash.buffer actualCrc signature then
      .error (.badSignature, "flash signature mismatch")
    else .ok ()

/-- The checks of a verify command; the checksum of an image that passes. -/
def checkFlashVerify (payload : Bytes) : Except Rejection UInt32 :=
  if !r.flash.sessionActive || r.flash.buffer.isEmpty then
    .error (.malformedPayload, "nothing to verify")
  else
    match parseVerifyFields payload with
    | none => .error (.malformedPayload, "bad flash-verify payload")
    | some fields =>
      if r.flash.buffer.all fun byte => byte == 0 then
        .error (.malformedPayload, "flash image is blank")
      else
        let actualCrc := P.crc32 r.flash.buffer
        if fields.crc.any fun crc => u32OfBe crc != actualCrc then
          .error (.malformedPayload, "flash crc mismatch")
        else
          match r.checkFlashAuthTag P actualCrc fields.authTag with
          | .error e => .error e
          | .ok () =>
            match r.checkFlashSignature P actualCrc fields.signature with
            | .error e => .error e
            | .ok () => .ok actualCrc

/-- The runtime after its image passed verification. -/
def markFlashVerified (crc : UInt32) : FirmwareRuntime :=
  { r with
    flash := r.flash.markVerified crc
    update := { r.update with state := .verified } }

/-- The image is verified. -/
def flashVerify (payload : Bytes) : FirmwareRuntime × Packet :=
  r.orReject (r.checkFlashVerify P payload) fun crc => (r.markFlashVerified crc, ack)

/-- The checks of a complete command; the checksum of the image. -/
def checkFlashComplete : Except Rejection UInt32 :=
  if !r.flash.sessionActive then .error (.badSequence, "flash session not started")
  else if !r.flash.verified then
    .error (.malformedPayload, "flash image must be verified before complete")
  else if r.flash.verifiedLen ≠ r.flash.buffer.length then
    .error (.malformedPayload, "flash image changed after verify")
  else
    let finalCrc := P.crc32 r.flash.buffer
    if r.flash.verifiedCrc ≠ some finalCrc then
      .error (.malformedPayload, "flash image changed after verify")
    else .ok finalCrc

/-- The runtime after its image was installed as a candidate. -/
def installCandidate (crc : UInt32) (now : ℕ) : FirmwareRuntime :=
  { r with
    update := r.update.beginUpdateHealthWindow crc r.flash.buffer.length now
    store := r.store.clearFlashResumeScratch }.resetFlashTransferState

/-- The verified image is installed for trial. -/
def flashComplete (now : ℕ) : FirmwareRuntime × Packet :=
  r.orReject (r.checkFlashComplete P) fun crc => (r.installCandidate crc now, ack)

/-- The image on trial is committed. -/
def confirmBootHealthy : FirmwareRuntime × Packet :=
  match r.update.confirmPendingUpdate with
  | some update => ({ r with update }, ack)
  | none => (r, nack .malformedPayload "no pending health-window update to confirm")

/-! ### The dispatcher -/

/-- A picture of the trigger, taken after its counters advanced. -/
def triggerPicture (render : TriggerRuntime → String → Bytes) (cmd : Cmd) :
    FirmwareRuntime × Packet :=
  let (triggerRuntime, syncState) := r.triggerRuntime.advanceState r.live.liveSampleCounter
  ({ r with triggerRuntime }, ⟨cmd, render triggerRuntime syncState⟩)

/-- The `match` of `handle_packet`. -/
def dispatch (A : Catalogue) (clock : Clock) (packet : Packet) : FirmwareRuntime × Packet :=
  let payload := packet.payload
  match packet.cmd with
  | .ping => (r, ⟨.pong, []⟩)
  | .getVersion => (r, ⟨.versionResponse, encodeIdentityPayload r.identity r.capabilities⟩)
  | .getCapabilities => (r, ⟨.capabilities, encodeCapabilitiesPayload r.capabilities⟩)
  | .getLiveData =>
    let (r, frame) := r.sampleLiveData P
    (r, ⟨.liveData, frame.encode⟩)
  | .getSensorRaw =>
    let (adc, voltage) := sensorRawSample (payload.headD 0)
    (r, ⟨.sensorRaw, encodeSensorRawPayload P adc voltage⟩)
  | .getFreezeFrames => (r, ⟨.freezeFrames, A.freezeFrames⟩)
  | .getTriggerCapture => r.triggerPicture A.triggerCapture .triggerCapture
  | .getTriggerDecoderDirectory => (r, ⟨.triggerDecoderDirectory, A.triggerDecoderDirectory⟩)
  | .getTriggerToothLog => r.triggerPicture A.triggerToothLog .triggerToothLog
  | .getCanTemplateDirectory => (r, ⟨.canTemplateDirectory, A.canTemplateDirectory⟩)
  | .getCanSignalDirectory => (r, ⟨.canSignalDirectory, A.canSignalDirectory⟩)
  | .logStart =>
    ({ r with log := r.log.start r.live.liveSampleCounter r.live.currentRuntimeMs }, ack)
  | .logStop => ({ r with log := r.log.stop r.live.currentRuntimeMs }, ack)
  | .logStatus =>
    (r, ⟨.logStatusResponse,
      encodeLogStatusPayload (r.log.logStatusPayload r.live.currentRuntimeMs)⟩)
  | .getLogbookSummary =>
    (r, ⟨.logbookSummaryResponse, encodeLogbookSummaryPayload r.log.buildLogbookSummary⟩)
  | .resetLogbook => r.resetLogbookCommand
  | .syncRtc => r.syncRtcCommand payload
  | .readLogBlock => (r, r.readLogBlockAnswer P payload)
  | .getPageDirectory => (r, ⟨.pageDirectory, encodePageDirectoryPayload⟩)
  | .getTableDirectory => (r, ⟨.tableDirectory, encodeTableDirectoryPayload⟩)
  | .getTableMetadata => (r, ⟨.tableMetadata, encodeTableMetadataPayload⟩)
  | .readTable => (r, r.readTableAnswer payload)
  | .writeTable => r.writeTableCommand payload
  | .writeCell => r.writeCellCommand payload
  | .getPinDirectory => (r, ⟨.pinDirectory, A.pinDirectory⟩)
  | .getPinAssignments => (r, ⟨.pinAssignments, encodePinAssignmentsPayload r.pinAssignments⟩)
  | .pinAssign => r.pinAssign P payload
  | .getDtc => (r, ⟨.dtcList, encodeDtcEntries P r.dtcEntries⟩)
  | .clearDtc => ({ r with dtcEntries := [] }, ack)
  | .getOutputTestDirectory =>
    (r, ⟨.outputTestDirectory, encodeOutputTestDirectoryPayload StEcu.outputTestDirectory⟩)
  | .runOutputTest => r.runOutputTest payload
  | .getSensorRawDirectory => (r, ⟨.sensorRawDirectory, A.sensorRawDirectory⟩)
  | .getPageStatuses =>
    (r, ⟨.pageStatuses, encodePageStatusesPayload (r.store.allPageStatuses P)⟩)
  | .getNetworkProfile => (r, ⟨.networkProfile, A.networkProfile⟩)
  | .readPage => r.readPage P payload
  | .writePage => r.writePage P payload
  | .burnPage => r.burnPage P payload
  | .enterBootloader => r.enterBootloader P clock payload
  | .flashResume => r.flashResume P payload
  | .flashBlock => r.flashBlock P payload
  | .flashVerify => r.flashVerify P payload
  | .flashComplete => r.flashComplete P clock.now
  | .getUpdateStatus =>
    (r, ⟨.updateStatus,
      encodeFirmwareUpdateStatusPayload r.update.firmwareUpdateStatusPayload⟩)
  | .confirmBootHealthy => r.confirmBootHealthy
  | _ => (r, nack .unsupportedCommand "command not implemented")

/-- One packet: the health window is checked first. -/
def handlePacket (A : Catalogue) (clock : Clock) (packet : Packet) : FirmwareRuntime × Packet :=
  (r.tickUpdateHealthWindow clock.tick).dispatch P A clock packet

end FirmwareRuntime

end StEcu
