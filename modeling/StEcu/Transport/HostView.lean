import StEcu.Live.FrameCodec
import StEcu.Protocol.StatusRoundTrip
import StEcu.Protocol.WireAgreement
import StEcu.Transport.Catalogue
import StEcu.Transport.FlashSessions
import StEcu.Transport.TimeBase
import StEcu.Transport.UpdateLifecycle

/-!
# What the host reads

The decoders of the protocol, on the side of the host, turn an answer into a value. Over any run
that value is the state of the board behind the answer: its live sample, the directories it serves,
its tables, pages and pins, its log and its update. The page and the table directory and the trouble
codes have no decoder in the protocol; their answers are the bytes that encode them. A command may
be rejected, but an accepted one is acknowledged, and the board has become what the command asked
for.

## Main definitions

* `LiveDataFrame.ReadsBackAs`: a live sample after each of its fields was written and read.
* `DecodesToPage`: the data that a page payload carries.
* `TouchesPage`, `AcksPage`: what an acknowledged page command did, and what its answer says.
* `Describes`: what the host learns from an answer, for each command.

## Main results

* `FirmwareRuntime.dispatch_describes`: one answer.
* `answers_describe_board`: the answers of a run.
-/

namespace StEcu

open Wire (DecodedPageStatus DecodedTableMetadataEntry nonEmpty)

/-- A live sample as it is read back, each field rounded and cut off as its format does. -/
def LiveDataFrame.ReadsBackAs (frame decoded : LiveDataFrame) : Prop :=
  ∀ field ∈ liveLayout,
    field.value decoded = field.format.read (field.format.write (field.value frame))

/-- A payload decodes to a page with this data, decrypted under the key of the board `r` if it
encrypts pages. -/
def DecodesToPage (P : Platform) (r : FirmwareRuntime) (payload : Bytes) (pageId : UInt8)
    (data : Bytes) : Prop :=
  ∃ page, (Wire.decodePagePayload P).run payload = .ok page ∧ page.pageId = pageId ∧
    r.decryptPageFromTransport P page.payload = .ok data

/-- The page that a command wrote, burned or assigned pins on, and how the board `r`, which was
`before`, holds it. -/
def TouchesPage (P : Platform) (before r : FirmwareRuntime) (packet : Packet) (pageId : UInt8) :
    Prop :=
  match packet.cmd with
  | .writePage => ∃ data, DecodesToPage P before packet.payload pageId data ∧
      r.store.readPage pageId = some data
  | .burnPage => Wire.decodePageRequest.run packet.payload = .ok pageId ∧
      r.store.needsBurn pageId = some false
  | _ => pageId = pinPageId

/-- The answer acknowledges a page of the board `r` and says whether it needs burning. -/
def AcksPage (r : FirmwareRuntime) (answer : Packet) (pageId : UInt8) : Prop :=
  answer.cmd = .ack ∧ ∃ needsBurn, r.store.needsBurn pageId = some needsBurn ∧
    Wire.decodeAckPayload.run answer.payload = .ok (pageId, needsBurn)

/-- The answer to a packet, of a board that was `before`, describes the board `r` that it comes
from. -/
def Describes (P : Platform) (before r : FirmwareRuntime) (packet answer : Packet) : Prop :=
  match packet.cmd with
  | .ping => answer = ⟨.pong, []⟩
  | .getVersion => Wire.decodeIdentityPayload.run answer.payload =
      .ok (.ofIdentity r.identity (nonEmpty r.identity.resetReason)
        (r.capabilities.map Capability.code))
  | .getCapabilities => Wire.decodeCapabilitiesPayload.run answer.payload = .ok r.capabilities
  -- the sample is the one with which the board came to its live state
  | .getLiveData => ∃ frame decoded,
      buildLiveDataFrame P before.live (before.store.readPage ConfigPage.baseEngineFuelComm.id) =
        (r.live, frame) ∧
      LiveDataFrame.decode.run answer.payload = .ok decoded ∧ frame.ReadsBackAs decoded ∧
      decoded.timestampMs = r.live.currentRuntimeMs
  | .getFreezeFrames => Wire.decodeFreezeFramesPayload.run answer.payload =
      .ok (sampleFreezeFrames.map FreezeFrame.decoded)
  | .getTriggerDecoderDirectory =>
      Wire.decodeTriggerDecoderDirectoryPayload.run answer.payload = .ok supportedTriggerDecoders
  | .getCanTemplateDirectory =>
      Wire.decodeCanTemplateDirectoryPayload.run answer.payload = .ok canTemplateDirectory
  | .getCanSignalDirectory =>
      Wire.decodeCanSignalDirectoryPayload.run answer.payload = .ok (canSignalDirectory P)
  | .getPageDirectory => answer = ⟨.pageDirectory, encodePageDirectoryPayload⟩
  | .getTableDirectory => answer = ⟨.tableDirectory, encodeTableDirectoryPayload⟩
  | .getPinDirectory =>
      Wire.decodePinDirectoryPayload.run answer.payload = .ok (stEcuV1Pins.map .ofPin)
  | .getSensorRawDirectory =>
      Wire.decodeSensorRawDirectoryPayload.run answer.payload = .ok sensorRawDirectory
  | .getOutputTestDirectory =>
      Wire.decodeOutputTestDirectoryPayload.run answer.payload = .ok outputTestDirectory
  | .getNetworkProfile =>
      Wire.decodeNetworkProfilePayload.run answer.payload = .ok headlessProfile
  | .getTableMetadata => Wire.decodeTableMetadataPayload.run answer.payload =
      .ok (tableDirectory.map DecodedTableMetadataEntry.ofEntry)
  | .getSensorRaw => Wire.decodeSensorRawPayload.run answer.payload =
      .ok ⟨(sensorRawSample (packet.payload.headD 0)).1,
        P.f32Bits (sensorRawSample (packet.payload.headD 0)).2⟩
  | .getTriggerCapture => ∃ syncState capture,
      before.triggerRuntime.advanceState before.live.liveSampleCounter =
        (r.triggerRuntime, syncState) ∧
      r.triggerRuntime.capture syncState = some capture ∧
      Wire.decodeTriggerCapturePayload.run answer.payload = .ok capture
  | .getTriggerToothLog => ∃ syncState log,
      before.triggerRuntime.advanceState before.live.liveSampleCounter =
        (r.triggerRuntime, syncState) ∧
      r.triggerRuntime.toothLog syncState = some log ∧
      Wire.decodeTriggerToothLogPayload.run answer.payload = .ok log
  -- the list is text, empty exactly if no code is stored
  | .getDtc => answer = ⟨.dtcList, encodeDtcEntries P r.dtcEntries⟩ ∧
      (answer.payload = utf8 "[]" ↔ r.dtcEntries = [])
  | .clearDtc => answer = ack ∧ r.dtcEntries = []
  | .runOutputTest => answer.cmd = .nack ∨ answer = ack ∧
      r.flash.sessionActive = false ∧ r.live.protectionActive = false ∧
      (r.live.lastReportedRpm ≤ 100 ∨ packet.payload.getD 4 0 ≠ 0) ∧
      ∃ entry ∈ outputTestDirectory, entry.channel = packet.payload.getD 0 0
  | .getPinAssignments => Wire.decodePinAssignmentsPayload.run answer.payload =
      .ok (r.pinAssignments.map fun assignment =>
        ⟨assignment.function, assignment.pinId, assignment.pinLabel⟩)
  | .getPageStatuses => Wire.decodePageStatusesPayload.run answer.payload =
      .ok ((r.store.allPageStatuses P).map DecodedPageStatus.ofStatus)
  | .logStart => answer = ack ∧ r.log.active = true
  | .logStop => answer = ack ∧ r.log.active = false
  | .logStatus => Wire.decodeLogStatusPayload.run answer.payload =
      .ok (r.log.logStatusPayload r.live.currentRuntimeMs)
  | .getLogbookSummary =>
      Wire.decodeLogbookSummaryPayload.run answer.payload = .ok r.log.buildLogbookSummary
  | .resetLogbook => answer.cmd = .nack ∨ answer = ack ∧ r.log.active = false ∧
      r.log = before.log.resetLogbook
  | .syncRtc => answer.cmd = .nack ∨ answer = ack ∧ ∃ epochMs,
      Wire.decodeSyncRtcPayload.run packet.payload = .ok epochMs ∧
      syncRtcMinEpochMs ≤ epochMs ∧ epochMs ≤ syncRtcMaxEpochMs ∧
      r.log = before.log.syncRtc epochMs
  | .getUpdateStatus => Wire.decodeFirmwareUpdateStatusPayload.run answer.payload =
      .ok r.update.firmwareUpdateStatusPayload
  | .readTable => answer.cmd = .nack ∨ ∃ tableId table,
      packet.payload.head? = some tableId ∧ r.table? tableId = some table ∧
      Wire.decodeRawTablePayload.run answer.payload = .ok table
  | .writeTable => answer.cmd = .nack ∨ answer = ack ∧ ∃ table,
      Wire.decodeRawTablePayload.run packet.payload = .ok table ∧
      r.table? table.tableId = some table
  | .writeCell => answer.cmd = .nack ∨ answer = ack ∧ ∃ (tableId x y : UInt8) (value : UInt16),
      packet.payload = [tableId, x, y] ++ u16ToBe value ∧
      r.cell? tableId x.toNat y.toNat = some value
  | .readLogBlock => answer.cmd = .nack ∨ ∃ block,
      r.log.readLogBlock (u16OfBe packet.payload).toNat = some block ∧
      (Wire.decodeLogBlockPayload P).run answer.payload =
        .ok ⟨u16OfBe packet.payload, r.log.currentLogBlockCount, P.crc32 block, block⟩
  | .readPage => answer.cmd = .nack ∨ ∃ pageId data,
      Wire.decodePageRequest.run packet.payload = .ok pageId ∧
      before.store.readPage pageId = some data ∧ DecodesToPage P r answer.payload pageId data
  | .writePage | .burnPage => answer.cmd = .nack ∨ ∃ pageId,
      TouchesPage P before r packet pageId ∧ AcksPage r answer pageId
  | .pinAssign => answer.cmd = .nack ∨
      (∃ pageId, TouchesPage P before r packet pageId ∧ AcksPage r answer pageId) ∧
      ∃ assignments,
        Wire.decodePinAssignmentsPayload.run packet.payload = .ok assignments ∧
        applyAssignmentOverrides before.pinAssignments (assignments.map fun assignment =>
          ⟨assignment.function, assignment.pinId⟩) = .ok r.pinAssignments
  -- a challenge that is to be answered, or a session without a block
  | .enterBootloader => answer.cmd = .nack ∨ answer.cmd = .ack ∧
      (answer.payload.length = bootloaderChallengeLen ∧
          r.auth.pendingChallenge = some answer.payload ∨
        answer.payload = [] ∧ r.flash.sessionActive = true ∧ r.flash.nextBlock = 0 ∧
          r.flash.buffer = [] ∧ r.update.state = .receiving)
  | .flashResume => answer.cmd = .nack ∨ (∃ request,
        Wire.decodeFlashResumeRequestPayload.run packet.payload = .ok request) ∧
      Wire.decodeFlashResumePayload.run answer.payload =
        .ok (r.flash.sessionId, r.flash.nextBlock, r.flash.resumeRollingCrc P)
  | .flashBlock => answer.cmd = .nack ∨ answer = ack ∧
      r.flash.buffer = before.flash.buffer ++ packet.payload.drop flashBlockHeaderLen ∧
      r.flash.nextBlock =
        (u32OfBe (packet.payload.take flashBlockHeaderLen)).saturatingAdd 1 ∧
      r.update.state = .receiving
  | .flashVerify => answer.cmd = .nack ∨ answer = ack ∧ r.flash.verified = true ∧
      r.flash.verifiedCrc = some (P.crc32 r.flash.buffer) ∧
      r.flash.verifiedLen = r.flash.buffer.length ∧ r.update.state = .verified
  | .flashComplete => answer.cmd = .nack ∨ answer = ack ∧ r.flash.sessionActive = false ∧
      r.update.state = .healthWindow ∧ r.update.pendingBank = some r.update.nextUpdateBank ∧
      r.update.healthWindowRemainingMs = updateHealthWindowMs
  | .confirmBootHealthy => answer.cmd = .nack ∨ answer = ack ∧ r.update.state = .committed ∧
      r.update.pendingBank = none ∧ r.update.lastGoodBank = r.update.activeBank
  -- the answers themselves, and the curves, are no commands
  | _ => answer = nack .unsupportedCommand "command not implemented"

namespace FirmwareRuntime

variable {P : Platform} {A : Catalogue} {r : FirmwareRuntime}

/-! ### Pages -/

theorem Sound.needsBurn_getD (h : r.Sound P) {pageId : UInt8} {n : ℕ}
    (hn : pageLengthAt pageId.toNat = some n) :
    r.store.needsBurn pageId = some ((r.store.needsBurn pageId).getD false) := by
  obtain ⟨page, hpage, -⟩ := h.store.exists_readPage pageId hn
  obtain ⟨-, flash, hflash, -⟩ := h.store.exists_flash hpage
  rw [ConfigStore.needsBurn_eq hpage hflash, Option.getD_some]

/-- An acknowledgement of a page says whether it needs burning. -/
theorem Sound.acksPage (h : r.Sound P) {pageId : UInt8} {n : ℕ}
    (hn : pageLengthAt pageId.toNat = some n) : AcksPage r (r.pageAck pageId) pageId :=
  ⟨rfl, _, h.needsBurn_getD hn, Wire.decode_encodeAckPayload _ _⟩

theorem Carries.decodesToPage {payload data : Bytes} {pageId : UInt8}
    (h : r.Carries P payload pageId data) : DecodesToPage P r payload pageId data := by
  obtain ⟨page, hdec, hid, hdecrypt⟩ := h
  exact ⟨page, Wire.agrees_decodePagePayload.run_eq_ok hdec, hid, hdecrypt⟩

/-- A page that was written is there. -/
theorem Carries.touchesPage {r' : FirmwareRuntime} {packet : Packet} {pageId : UInt8} {data : Bytes}
    {n : ℕ} (h : r.Carries P packet.payload pageId data) (hs : r.Sound P)
    (hn : pageLengthAt pageId.toNat = some n) (hcmd : packet.cmd = .writePage)
    (hstore : r'.store = r.store.withRam pageId data) : TouchesPage P r r' packet pageId := by
  obtain ⟨old, hold, -⟩ := hs.store.exists_readPage pageId hn
  rw [TouchesPage, hcmd]
  refine ⟨data, h.decodesToPage, ?_⟩
  rw [hstore, ConfigStore.readPage_withRam_self _ _ _ hold]

/-- A page that is read is rejected, or its answer decodes to it. -/
theorem Effect.describes_readPage (hP : AeadLaw P) {clock : Clock} {packet answer : Packet}
    {r' : FirmwareRuntime} (he : Effect P clock packet r r' answer) (h : r.Sound P)
    (hcmd : packet.cmd = .readPage) : answer.cmd = .nack ∨ ∃ pageId data,
      Wire.decodePageRequest.run packet.payload = .ok pageId ∧
      r.store.readPage pageId = some data ∧ DecodesToPage P r' answer.payload pageId data := by
  have h' := he.sound h
  cases he with
  | rejected e | authRejected auth e | encryptionFailed pageId page enc e
  | pinPageReverted data reverted e => exact .inl rfl
  | pageRead pageId page _ hdec hread hplain =>
    have hlen := pageLengthAt_le (h.store.length_readPage hread)
    have hc : r.Carries P (encodePagePayload P pageId page) pageId page :=
      carries_encodePagePayload hplain pageId (by omega)
    exact .inr ⟨pageId, page, Wire.agrees_decodePageRequest.run_eq_ok hdec, hread, hc.decodesToPage⟩
  | pageEncrypted pageId page ciphertext enc _ hdec hread hcrypto henc hct =>
    have hlen := pageLengthAt_le (h.store.length_readPage hread)
    obtain ⟨store, next, heq⟩ := maybePersistPageCryptoCounter_eq (P := P)
      (r := { r with tuneEncryption := some enc.advanceNonce }) enc.advanceNonce.state.nonceCounter
    rw [heq] at h' ⊢
    have hc := h'.carries_encrypted hP hcrypto rfl pageId enc.length_nonceBytes hlen hct
    exact .inr ⟨pageId, page, Wire.agrees_decodePageRequest.run_eq_ok hdec, hread, hc.decodesToPage⟩
  | observed live triggerRuntime tables dtcEntries log answer hother =>
    rw [hcmd] at hother
    cases hother
  | challenged auth challenge hother | sessionStarted hother | pageWritten pageId data hother
  | basePageWritten data hother | pinPageWritten data pins hother | pageBurned pageId page hother
  | pinsAssigned pins page hother | resumeIdle answer hother | resumed scratch answer hother
  | blockAppended block hother | imageVerified crc hother | imageInstalled crc hother
  | bootConfirmed bank hother => cases hcmd.symm.trans hother

/-- A command that touches a page or the pins is rejected or acknowledged with what it leaves. -/
theorem Effect.describes_ack {clock : Clock} {packet answer : Packet} {r' : FirmwareRuntime}
    (he : Effect P clock packet r r' answer) (h : r.Sound P)
    (hcmd : packet.cmd = .writePage ∨ packet.cmd = .burnPage ∨ packet.cmd = .pinAssign) :
    answer.cmd = .nack ∨
      ∃ pageId, TouchesPage P r r' packet pageId ∧ AcksPage r' answer pageId := by
  have h' := he.sound h
  cases he with
  | rejected e | authRejected auth e | encryptionFailed pageId page enc e
  | pinPageReverted data reverted e => exact .inl rfl
  | pageWritten pageId data hwrite hc hlen =>
    exact .inr ⟨pageId, hc.touchesPage h hlen hwrite rfl, h'.acksPage hlen⟩
  | basePageWritten data hwrite hc hlen =>
    exact .inr ⟨basePageId, hc.touchesPage h hlen hwrite rfl, h'.acksPage hlen⟩
  | pinPageWritten data pins hwrite hc =>
    exact .inr ⟨pinPageId, hc.touchesPage h (n := 512) rfl hwrite rfl,
      h'.acksPage (n := 512) rfl⟩
  | pinsAssigned pins page hassign =>
    refine .inr ⟨pinPageId, ?_, h'.acksPage (n := 512) rfl⟩
    rw [TouchesPage, hassign]
  | pageBurned pageId page hburn hdec hread =>
    obtain ⟨-, hram, -, -, hflash, -⟩ := h.store.burnPage_spec hread
    have hpage : (r.store.burnPage P pageId).1.readPage pageId = some page := by
      rw [ConfigStore.readPage, hram]
      exact hread
    have hclean := ConfigStore.needsBurn_eq hpage hflash
    rw [bne_self_eq_false] at hclean
    refine .inr ⟨pageId, ?_, rfl, false, hclean, Wire.decode_encodeAckPayload _ _⟩
    rw [TouchesPage, hburn]
    exact ⟨Wire.agrees_decodePageRequest.run_eq_ok hdec, hclean⟩
  | observed live triggerRuntime tables dtcEntries log answer hother =>
    rcases hcmd with hcmd | hcmd | hcmd
    all_goals
      rw [hcmd] at hother
      cases hother
  | challenged auth challenge hother | sessionStarted hother | pageRead pageId page hother
  | pageEncrypted pageId page ciphertext enc hother | resumeIdle answer hother
  | resumed scratch answer hother | blockAppended block hother | imageVerified crc hother
  | imageInstalled crc hother | bootConfirmed bank hother =>
    rw [hother] at hcmd
    simp at hcmd

/-- Pins that are assigned override the ones before. -/
theorem pinAssign_describes (h : r.Sound P) (payload : Bytes) :
    (r.pinAssign P payload).2.cmd = .nack ∨ ∃ assignments,
      Wire.decodePinAssignmentsPayload.run payload = .ok assignments ∧
      applyAssignmentOverrides r.pinAssignments (assignments.map fun assignment =>
        ⟨assignment.function, assignment.pinId⟩) =
          .ok (r.pinAssign P payload).1.pinAssignments := by
  rw [pinAssign]
  split
  · exact .inl rfl
  · exact .inl rfl
  next assignments _ hdec =>
  have hrun := Wire.agrees_decodePinAssignmentsPayload.run_eq_ok hdec
  dsimp only
  rw [applyPinAssignmentOverrides]
  cases hover : applyAssignmentOverrides r.pinAssignments (assignments.map fun assignment =>
      ⟨assignment.function, assignment.pinId⟩) with
  | error error => exact .inl rfl
  | ok pinAssignments =>
    obtain ⟨page, hser⟩ := (validateAssignmentSet_eq_ok_iff.mp hover).2.exists_serialize
    refine .inr ⟨assignments, hrun, hover.trans ?_⟩
    simp only [syncPinAssignmentPage_eq h.store hser]

/-! ### The live data and the trouble codes -/

/-- Every live sample is read back, up to the precision of its fields. -/
theorem exists_decode_encode (frame : LiveDataFrame) : ∃ decoded,
    LiveDataFrame.decode.run frame.encode = .ok decoded ∧ frame.ReadsBackAs decoded := by
  obtain ⟨decoded, hrun, hread⟩ := decode_reads_fields (length_encode frame)
  refine ⟨decoded, hrun, fun field hfield => ?_⟩
  by_cases hpad : field.offset ∈ livePads
  · have hzero : (FixedFormat.unsigned 1 1).Fits (0 : ℕ) := FixedFormat.fits_unsigned (by decide)
    rw [Nat.cast_zero] at hzero
    rw [eq_pad_of_mem_livePads field hfield hpad]
    exact (FixedFormat.read_write hzero).symm
  · rw [hread field hfield hpad, bytes_encode frame hfield]

/-- The time of a sample loses nothing. -/
theorem timestampMs_of_readsBackAs {frame decoded : LiveDataFrame}
    (h : frame.ReadsBackAs decoded) : decoded.timestampMs = frame.timestampMs := by
  have htime := h ⟨0, .unsigned 4 1, (·.timestampMs.toNat)⟩ (.head _)
  rw [FixedFormat.read_write (FixedFormat.fits_unsigned frame.timestampMs.toNat_lt)] at htime
  exact UInt32.toNat_inj.mp (Nat.cast_injective htime)

theorem sampleLiveData_describes : ∃ frame decoded,
    buildLiveDataFrame P r.live (r.store.readPage ConfigPage.baseEngineFuelComm.id) =
      ((r.sampleLiveData P).1.live, frame) ∧
    LiveDataFrame.decode.run (r.sampleLiveData P).2.encode = .ok decoded ∧
    frame.ReadsBackAs decoded ∧
    decoded.timestampMs = (r.sampleLiveData P).1.live.currentRuntimeMs := by
  obtain ⟨decoded, hrun, hread⟩ := exists_decode_encode (r.sampleLiveData P).2
  refine ⟨(r.sampleLiveData P).2, decoded, rfl, hrun, hread, ?_⟩
  rw [timestampMs_of_readsBackAs hread]
  exact timestampMs_buildLiveDataFrame P r.live _

/-- Texts that are joined begin with the first of them. -/
theorem exists_intercalate_cons (s t : String) (l : List String) :
    ∃ rest, s.intercalate (t :: l) = t ++ rest := by
  cases l with
  | nil => exact ⟨"", by rw [String.intercalate_singleton, String.append_empty]⟩
  | cons u l => exact ⟨s ++ s.intercalate (u :: l), by
      rw [String.intercalate_cons_cons, String.append_assoc]⟩

theorem length_utf8_append_pos (s t : String) (h : 0 < (utf8 t).length) :
    0 < (utf8 (s ++ t)).length := by
  rw [length_utf8_append]
  omega

theorem encodeDtcEntries_cons_ne (entry : RuntimeDtcEntry) (entries : List RuntimeDtcEntry) :
    encodeDtcEntries P (entry :: entries) ≠ utf8 "[]" := by
  have hopen : (utf8 "[").length = 1 := by decide
  have hclose : (utf8 "]").length = 1 := by decide
  have hempty : (utf8 "[]").length = 2 := by decide
  have hbrace : 0 < (utf8 "\x7d").length := by decide
  have hpos : 0 < (utf8 (entry.json P)).length := length_utf8_append_pos _ _ hbrace
  obtain ⟨rest, hrest⟩ :=
    exists_intercalate_cons "," (entry.json P) (entries.map (RuntimeDtcEntry.json P))
  intro h
  have hlen := congrArg List.length h
  rw [encodeDtcEntries, List.map_cons, hrest, hempty] at hlen
  simp only [length_utf8_append, hopen, hclose] at hlen
  omega

/-- The list of no trouble codes is told from every other one. -/
theorem encodeDtcEntries_eq_iff (entries : List RuntimeDtcEntry) :
    encodeDtcEntries P entries = utf8 "[]" ↔ entries = [] := by
  cases entries with
  | nil =>
    have htext : encodeDtcEntries P [] = utf8 "[]" := rfl
    exact iff_of_true htext rfl
  | cons entry entries =>
    exact iff_of_false (encodeDtcEntries_cons_ne entry entries) (List.cons_ne_nil _ _)

/-! ### Tables, the log and the pins -/

theorem readTableAnswer_describes (h : r.HasTables) (payload : Bytes) :
    (r.readTableAnswer payload).cmd = .nack ∨ ∃ tableId table,
      payload.head? = some tableId ∧ r.table? tableId = some table ∧
      Wire.decodeRawTablePayload.run (r.readTableAnswer payload).payload = .ok table := by
  rw [readTableAnswer]
  split
  · exact .inl rfl
  next tableId hhead =>
  split
  next table hfind =>
    obtain ⟨entry, -, hfits⟩ := exists_fits h (List.mem_of_find?_eq_some hfind)
    refine .inr ⟨tableId, table, hhead, hfind, Wire.decode_toPayload ?_ ?_ ?_⟩
    · rw [hfits.length_xBins, hfits.xCount_eq]
    · rw [hfits.length_yBins, hfits.yCount_eq]
    · rw [hfits.length_data, hfits.xCount_eq, hfits.yCount_eq]
  · exact .inl rfl

theorem Records.readLogBlockAnswer_describes (h : r.Records) (payload : Bytes) :
    (r.readLogBlockAnswer P payload).cmd = .nack ∨ ∃ block,
      r.log.readLogBlock (u16OfBe payload).toNat = some block ∧
      (Wire.decodeLogBlockPayload P).run (r.readLogBlockAnswer P payload).payload =
        .ok ⟨u16OfBe payload, r.log.currentLogBlockCount, P.crc32 block, block⟩ := by
  rw [readLogBlockAnswer]
  split
  · exact .inl rfl
  dsimp only
  split
  · exact .inl rfl
  split
  · exact .inl rfl
  next block hblock =>
    have hlen := h.blocks _ block hblock
    exact .inr ⟨block, hblock, Wire.agrees_decodeLogBlockPayload.run_eq_ok
      (decode_encodeLogBlockPayload (by omega))⟩

theorem encodable_of_validAssignmentSet {as : List ResolvedPinAssignment}
    (h : ValidAssignmentSet as) : ∀ a ∈ as, a.Encodable := by
  intro a ha
  obtain ⟨pin, hfind, -, -, hlabel⟩ := (h.wellPlaced a ha).exists_pin
  have hpin := length_label_le (List.mem_of_find?_eq_some hfind)
  refine ⟨Nat.le_trans (h.length_pinId_le a ha) (by decide), ?_⟩
  rw [hlabel]
  exact Nat.le_trans hpin (by decide)

theorem writeTableCommand_describes (payload : Bytes) :
    (r.writeTableCommand payload).2.cmd = .nack ∨ (r.writeTableCommand payload).2 = ack ∧
      ∃ table, Wire.decodeRawTablePayload.run payload = .ok table ∧
        (r.writeTableCommand payload).1.table? table.tableId = some table := by
  rw [writeTableCommand]
  split
  · exact .inl rfl
  next table hdec =>
  split
  · exact .inl rfl
  next hframe =>
  obtain ⟨index, current, hindex, -, -, heq⟩ := writeTableFrame_ok hframe
  refine .inr ⟨rfl, table, Wire.agrees_decodeRawTablePayload.run_eq_ok hdec, ?_⟩
  rw [heq, table?]
  exact List.find?_key_set_self hindex rfl

theorem cell?_of_table? {tableId : UInt8} {table : RawTablePayload}
    (h : r.table? tableId = some table) (x y : ℕ) : r.cell? tableId x y = table.cell? x y := by
  rw [cell?, h, Option.bind_some]

theorem writeCellCommand_describes (h : r.HasTables) (payload : Bytes) :
    (r.writeCellCommand payload).2.cmd = .nack ∨ (r.writeCellCommand payload).2 = ack ∧
      ∃ (tableId x y : UInt8) (value : UInt16), payload = [tableId, x, y] ++ u16ToBe value ∧
        (r.writeCellCommand payload).1.cell? tableId x.toNat y.toNat = some value := by
  rw [writeCellCommand]
  cases hcheck : r.checkWriteCell payload with
  | error e => exact .inl rfl
  | ok cell =>
    obtain ⟨index, table, offset, value⟩ := cell
    obtain ⟨x, y, hpayload, hindex, hcurrent, hx, hy, rfl⟩ := checkWriteCell_ok hcheck
    obtain ⟨entry, hfits⟩ := h.exists_of_mem (List.mem_of_getElem? hcurrent)
    refine .inr ⟨rfl, table.tableId, x, y, value, hpayload, ?_⟩
    have hnew : ({ r with tables := r.tables.set index (table.setData
        (rowMajor table.xCount.toNat x.toNat y.toNat) value) } : FirmwareRuntime).table?
          table.tableId =
        some (table.setData (rowMajor table.xCount.toNat x.toNat y.toNat) value) :=
      List.find?_key_set_self hindex rfl
    exact (cell?_of_table? hnew _ _).trans (hfits.cell?_setData_self hx hy value)

theorem resetLogbookCommand_describes : r.resetLogbookCommand.2.cmd = .nack ∨
    r.resetLogbookCommand.2 = ack ∧ r.resetLogbookCommand.1.log.active = false ∧
      r.resetLogbookCommand.1.log = r.log.resetLogbook := by
  rw [resetLogbookCommand]
  split_ifs with hactive
  · exact .inl rfl
  · exact .inr ⟨rfl, Bool.eq_false_iff.mpr hactive, rfl⟩

theorem syncRtcCommand_describes (payload : Bytes) :
    (r.syncRtcCommand payload).2.cmd = .nack ∨ (r.syncRtcCommand payload).2 = ack ∧
      ∃ epochMs, Wire.decodeSyncRtcPayload.run payload = .ok epochMs ∧
        syncRtcMinEpochMs ≤ epochMs ∧ epochMs ≤ syncRtcMaxEpochMs ∧
        (r.syncRtcCommand payload).1.log = r.log.syncRtc epochMs := by
  rw [syncRtcCommand]
  split
  · exact .inl rfl
  next epochMs hdec =>
  split_ifs with hrange
  · exact .inl rfl
  · rw [not_or, UInt64.not_lt, UInt64.not_lt] at hrange
    exact .inr ⟨rfl, epochMs, Wire.agrees_decodeSyncRtcPayload.run_eq_ok hdec, hrange.1, hrange.2,
      rfl⟩

/-- An output test runs only on an output of the directory, where nothing speaks against it. -/
theorem guards_of_checkOutputTest {payload : Bytes} {audit : Bool}
    (h : r.checkOutputTest payload = .ok audit) :
    r.flash.sessionActive = false ∧ r.live.protectionActive = false ∧
      (r.live.lastReportedRpm ≤ 100 ∨ payload.getD 4 0 ≠ 0) ∧
      ∃ entry ∈ outputTestDirectory, entry.channel = payload.getD 0 0 := by
  rw [checkOutputTest] at h
  dsimp only at h
  split_ifs at h with hlen hsession hprotection hrunning hchannel
  refine ⟨Bool.eq_false_iff.mpr hsession, Bool.eq_false_iff.mpr hprotection, ?_, ?_⟩
  · rw [or_iff_not_imp_left, not_le]
    intro hrpm
    simpa [hrpm] using hrunning
  · simpa using hchannel

theorem runOutputTest_describes (payload : Bytes) :
    (r.runOutputTest payload).2.cmd = .nack ∨ (r.runOutputTest payload).2 = ack ∧
      (r.runOutputTest payload).1.flash.sessionActive = false ∧
      (r.runOutputTest payload).1.live.protectionActive = false ∧
      ((r.runOutputTest payload).1.live.lastReportedRpm ≤ 100 ∨ payload.getD 4 0 ≠ 0) ∧
      ∃ entry ∈ outputTestDirectory, entry.channel = payload.getD 0 0 := by
  rw [runOutputTest]
  cases hcheck : r.checkOutputTest payload with
  | error e => exact .inl rfl
  | ok audit =>
    obtain ⟨hsession, hprotection, hrunning, hchannel⟩ := guards_of_checkOutputTest hcheck
    cases audit with
    | false => exact .inr ⟨rfl, hsession, hprotection, hrunning, hchannel⟩
    | true => exact .inr ⟨rfl, hsession, hprotection, hrunning, hchannel⟩

/-! ### The firmware update -/

theorem authenticate_describes (clock : Clock) (payload : Bytes) :
    (r.authenticate P clock payload).2.cmd = .nack ∨ (r.authenticate P clock payload).2.cmd = .ack ∧
      ((r.authenticate P clock payload).2.payload.length = bootloaderChallengeLen ∧
          (r.authenticate P clock payload).1.auth.pendingChallenge =
            some (r.authenticate P clock payload).2.payload ∨
        (r.authenticate P clock payload).2.payload = [] ∧
          ∃ r' : FirmwareRuntime, (r.authenticate P clock payload).1 = r'.beginFlashSession) := by
  rw [authenticate]
  split
  · exact .inl rfl
  split
  · exact .inr ⟨rfl, .inl ⟨BootloaderAuth.length_issueChallenge .., rfl⟩⟩
  split
  · exact .inl rfl
  split
  · exact .inl rfl
  split
  · exact .inl rfl
  dsimp only
  split
  · exact .inl rfl
  split
  · exact .inl rfl
  · exact .inr ⟨rfl, .inr ⟨rfl, _, rfl⟩⟩

/-- A bootloader request is answered by a challenge, or a session without a block begins. -/
theorem enterBootloader_describes (clock : Clock) (payload : Bytes) :
    (r.enterBootloader P clock payload).2.cmd = .nack ∨
      (r.enterBootloader P clock payload).2.cmd = .ack ∧
      ((r.enterBootloader P clock payload).2.payload.length = bootloaderChallengeLen ∧
          (r.enterBootloader P clock payload).1.auth.pendingChallenge =
            some (r.enterBootloader P clock payload).2.payload ∨
        (r.enterBootloader P clock payload).2.payload = [] ∧
          (r.enterBootloader P clock payload).1.flash.sessionActive = true ∧
          (r.enterBootloader P clock payload).1.flash.nextBlock = 0 ∧
          (r.enterBootloader P clock payload).1.flash.buffer = [] ∧
          (r.enterBootloader P clock payload).1.update.state = .receiving) := by
  rw [enterBootloader]
  split
  · exact .inr ⟨rfl, .inr ⟨rfl, rfl, rfl, rfl, rfl⟩⟩
  · refine (authenticate_describes clock payload).imp_right (And.imp_right (Or.imp_right ?_))
    rintro ⟨hpayload, r', heq⟩
    rw [heq]
    exact ⟨hpayload, rfl, rfl, rfl, rfl⟩

theorem flashResume_describes (payload : Bytes) : (r.flashResume P payload).2.cmd = .nack ∨
    (∃ request, Wire.decodeFlashResumeRequestPayload.run payload = .ok request) ∧
    Wire.decodeFlashResumePayload.run (r.flashResume P payload).2.payload =
      .ok ((r.flashResume P payload).1.flash.sessionId, (r.flashResume P payload).1.flash.nextBlock,
        (r.flashResume P payload).1.flash.resumeRollingCrc P) := by
  rw [flashResume]
  split
  · exact .inl rfl
  split
  · exact .inl rfl
  next request hdec =>
  have hrun := Wire.agrees_decodeFlashResumeRequestPayload.run_eq_ok hdec
  split
  · exact .inr ⟨⟨request, hrun⟩, Wire.decode_encodeFlashResumePayload _ _ _⟩
  all_goals exact .inl rfl

/-- A block that is acknowledged extends the image. -/
theorem flashBlock_describes (payload : Bytes) : (r.flashBlock P payload).2.cmd = .nack ∨
    (r.flashBlock P payload).2 = ack ∧
      (r.flashBlock P payload).1.flash.buffer =
        r.flash.buffer ++ payload.drop flashBlockHeaderLen ∧
      (r.flashBlock P payload).1.flash.nextBlock =
        (u32OfBe (payload.take flashBlockHeaderLen)).saturatingAdd 1 ∧
      (r.flashBlock P payload).1.update.state = .receiving := by
  rw [flashBlock]
  cases hcheck : r.checkFlashBlock payload with
  | error e => exact .inl rfl
  | ok block =>
    obtain ⟨rfl, hindex, -⟩ := block_of_checkFlashBlock hcheck
    obtain ⟨scratch, heq⟩ :=
      appendFlashBlock_eq (P := P) (r := r) (payload.drop flashBlockHeaderLen)
    refine .inr ⟨rfl, ?_⟩
    rw [hindex]
    change (r.appendFlashBlock P _).flash.buffer = _ ∧ _
    rw [orReject, heq]
    exact ⟨rfl, rfl, rfl⟩

/-- An image that passes verification is remembered by its length and checksum. -/
theorem flashVerify_describes (payload : Bytes) : (r.flashVerify P payload).2.cmd = .nack ∨
    (r.flashVerify P payload).2 = ack ∧ (r.flashVerify P payload).1.flash.verified = true ∧
      (r.flashVerify P payload).1.flash.verifiedCrc =
        some (P.crc32 (r.flashVerify P payload).1.flash.buffer) ∧
      (r.flashVerify P payload).1.flash.verifiedLen =
        (r.flashVerify P payload).1.flash.buffer.length ∧
      (r.flashVerify P payload).1.update.state = .verified := by
  rw [flashVerify]
  cases hcheck : r.checkFlashVerify P payload with
  | error e => exact .inl rfl
  | ok crc =>
    obtain ⟨-, -, -, rfl, -⟩ := checkFlashVerify_eq_ok hcheck
    exact .inr ⟨rfl, rfl, rfl, rfl, rfl⟩

theorem flashComplete_describes (now : ℕ) : (r.flashComplete P now).2.cmd = .nack ∨
    (r.flashComplete P now).2 = ack ∧ (r.flashComplete P now).1.flash.sessionActive = false ∧
      (r.flashComplete P now).1.update.state = .healthWindow ∧
      (r.flashComplete P now).1.update.pendingBank =
        some (r.flashComplete P now).1.update.nextUpdateBank ∧
      (r.flashComplete P now).1.update.healthWindowRemainingMs = updateHealthWindowMs := by
  rw [flashComplete]
  cases r.checkFlashComplete P with
  | error e => exact .inl rfl
  | ok crc => exact .inr ⟨rfl, rfl, rfl, rfl, rfl⟩

theorem confirmBootHealthy_describes : r.confirmBootHealthy.2.cmd = .nack ∨
    r.confirmBootHealthy.2 = ack ∧ r.confirmBootHealthy.1.update.state = .committed ∧
      r.confirmBootHealthy.1.update.pendingBank = none ∧
      r.confirmBootHealthy.1.update.lastGoodBank = r.confirmBootHealthy.1.update.activeBank := by
  rw [confirmBootHealthy]
  split
  next update hupdate =>
    rw [FirmwareUpdate.confirmPendingUpdate] at hupdate
    split_ifs at hupdate
    split at hupdate
    · cases hupdate
    · obtain rfl := Option.some.inj hupdate
      exact .inr ⟨rfl, rfl, rfl, rfl⟩
  · exact .inl rfl

/-! ### The directories -/

theorem encodable_outputTestDirectory : ∀ entry ∈ outputTestDirectory, entry.Encodable := by
  have hall : ∀ entry ∈ outputTestDirectory,
      entry.group ∈ ["injectors", "coils", "aux", "valves"] ∧ entry.defaultPulseMs ≠ some 0xFFFF ∧
        ShortString entry.function ∧ ShortString entry.label := by decide +kernel
  intro entry hentry
  obtain ⟨hgroup, hpulse, hfunction, hlabel⟩ := hall entry hentry
  exact ⟨hgroup, hpulse, hfunction, hlabel⟩

theorem encodable_headlessProfile : headlessProfile.Encodable :=
  ⟨by decide, by decide⟩

/-- The banks of a consistent record are not the byte that stands for none. -/
theorem UpdateSound.pendingBank_ne (h : r.UpdateSound P) : r.update.pendingBank ≠ some 0xFF := by
  intro hpending
  by_cases hw : r.update.state = .healthWindow
  · rw [(h.consistent.window hw).1] at hpending
    rcases UpdateEffect.otherBank_mem r.update.activeBank with hbank | hbank
    all_goals
      rw [hbank] at hpending
      cases hpending
  · rw [(h.consistent.outside hw).1] at hpending
    cases hpending

/-- **An answer describes the board it comes from.** -/
theorem dispatch_describes (hP : AeadLaw P) (h : r.UpdateSound P) (hrecords : r.Records)
    (htables : r.HasTables) (clock : Clock) (packet : Packet) :
    Describes P r (r.dispatch P (boardCatalogue P) clock packet).1 packet
      (r.dispatch P (boardCatalogue P) clock packet).2 := by
  have he : Effect P clock packet r _ _ := dispatch_effect (boardCatalogue P) h.sound
  rw [Describes]
  cases hcmd : packet.cmd
  case readPage => exact he.describes_readPage hP h.sound hcmd
  case writePage => exact he.describes_ack h.sound (.inl hcmd)
  case burnPage => exact he.describes_ack h.sound (.inr (.inl hcmd))
  case pinAssign =>
    rcases he.describes_ack h.sound (.inr (.inr hcmd)) with hnack | hack
    · exact .inl hnack
    · rw [dispatch, hcmd] at hack ⊢
      exact (pinAssign_describes h.sound packet.payload).imp_right fun hpins => ⟨hack, hpins⟩
  all_goals rw [dispatch, hcmd]
  case getLiveData => exact sampleLiveData_describes
  case getDtc => exact ⟨rfl, encodeDtcEntries_eq_iff r.dtcEntries⟩
  case clearDtc => exact ⟨rfl, rfl⟩
  case runOutputTest => exact runOutputTest_describes _
  case logStart =>
    obtain ⟨_, _, _, _, _, heq⟩ :=
      r.log.start_eq r.live.liveSampleCounter r.live.currentRuntimeMs
    exact ⟨rfl, congrArg DataLog.active heq⟩
  case logStop => exact ⟨rfl, DataLog.active_stop _ _⟩
  case resetLogbook => exact resetLogbookCommand_describes
  case syncRtc => exact syncRtcCommand_describes _
  case writeTable => exact writeTableCommand_describes _
  case writeCell => exact writeCellCommand_describes htables _
  case enterBootloader => exact enterBootloader_describes clock _
  case flashBlock => exact flashBlock_describes _
  case flashVerify => exact flashVerify_describes _
  case flashComplete => exact flashComplete_describes _
  case confirmBootHealthy => exact confirmBootHealthy_describes
  case getVersion => exact Wire.decode_encodeIdentityPayload hrecords.identity hrecords.capabilities
  case getCapabilities => exact Wire.decode_encodeCapabilitiesPayload hrecords.capabilities
  case getFreezeFrames =>
    exact decode_encodeFreezeFramesPayload (by decide) encodable_sampleFreezeFrames
  case getTriggerDecoderDirectory =>
    exact Wire.decodeDirectory_self (by decide) fun entry he _ =>
      Wire.reads_triggerDecoderPreset (encodable_supportedTriggerDecoders entry he)
  case getCanTemplateDirectory =>
    exact Wire.decodeDirectory_self (by decide) fun entry he _ =>
      Wire.reads_canTemplateDirectoryEntry (encodable_canTemplateDirectory entry he)
  case getCanSignalDirectory =>
    exact Wire.decodeDirectory_self (Nat.le_of_ble_eq_true rfl) fun entry he _ =>
      Wire.reads_canSignalDirectoryEntry (encodable_canSignals P.f32Bits entry he)
  case getPinDirectory =>
    exact Wire.decodeDirectory_run (by decide) fun pin hpin _ =>
      Wire.reads_pinDirectoryEntry (Wire.encodable_stEcuV1Pins pin hpin)
  case getSensorRawDirectory =>
    exact Wire.decodeDirectory_self (by decide) fun entry he _ =>
      Wire.reads_sensorRawDirectoryEntry (encodable_sensorRawDirectory entry he)
  case getOutputTestDirectory =>
    exact Wire.decodeDirectory_self (by decide) fun entry he _ =>
      Wire.reads_outputTestDirectoryEntry (encodable_outputTestDirectory entry he)
  case getNetworkProfile => exact Wire.decode_encodeNetworkProfilePayload encodable_headlessProfile
  case getTableMetadata => exact Wire.decode_encodeTableMetadataPayload
  case getSensorRaw => exact Wire.decode_encodeSensorRawPayload _ _
  case getTriggerCapture =>
    have hsync := r.triggerRuntime.shortString_advanceState r.live.liveSampleCounter
    obtain ⟨capture, -, hcapture, -, -⟩ :=
      (r.triggerRuntime.advanceState r.live.liveSampleCounter).1.exists_pictures hsync
    refine ⟨_, capture, rfl, hcapture, ?_⟩
    have hpayload := triggerCapture_boardCatalogue (P := P) hcapture
    exact (congrArg _ hpayload).trans
      (Wire.decode_encodeTriggerCapturePayload (TriggerRuntime.capture_encodable hsync hcapture).1)
  case getTriggerToothLog =>
    have hsync := r.triggerRuntime.shortString_advanceState r.live.liveSampleCounter
    obtain ⟨-, log, -, hlog, -⟩ :=
      (r.triggerRuntime.advanceState r.live.liveSampleCounter).1.exists_pictures hsync
    refine ⟨_, log, rfl, hlog, ?_⟩
    have hpayload := triggerToothLog_boardCatalogue (P := P) hlog
    exact (congrArg _ hpayload).trans
      (Wire.decode_encodeTriggerToothLogPayload (TriggerRuntime.toothLog_encodable hsync hlog).1)
  case getPinAssignments =>
    have hlen := h.sound.validPins.length_le
    exact Wire.decodeDirectory_run (by omega) fun a ha _ =>
      Wire.reads_pinAssignment (encodable_of_validAssignmentSet h.sound.validPins a ha)
  case getPageStatuses =>
    have hlen : (r.store.allPageStatuses P).length ≤ 10 := List.length_filterMap_le _ pageDirectory
    exact Wire.decode_encodePageStatusesPayload (by omega)
  case logStatus => exact Wire.decode_encodeLogStatusPayload _
  case getLogbookSummary => exact Wire.decode_encodeLogbookSummaryPayload _
  case getUpdateStatus => exact Wire.decode_encodeFirmwareUpdateStatusPayload h.pendingBank_ne
  case readTable => exact readTableAnswer_describes htables _
  case readLogBlock => exact hrecords.readLogBlockAnswer_describes _
  case flashResume => exact flashResume_describes _

end FirmwareRuntime

/-! ### Runs -/

/-- **The answers of a run describe the board**, each the state in which it leaves it. -/
theorem answers_describe_board {P : Platform} {identity : FirmwareIdentity} {simulator : Bool}
    {s : ConfigStore} {r₀ r : FirmwareRuntime} {tr : List Step} (hP : AeadLaw P)
    (hidentity : identity.Encodable) (hs : ReachableStore P (boardCatalogue P) s)
    (hboot : FirmwareRuntime.newWithStore P identity simulator s = some r₀)
    (hrun : (firmware P (boardCatalogue P)).Run r₀ tr r) :
    ∀ t ∈ tr, Describes P t.src t.dst t.event.packet t.output := by
  intro t ht
  obtain ⟨pre, post, rfl⟩ := List.append_of_mem ht
  obtain ⟨hpre, hstep, -⟩ := hrun.split_mem
  have hreach : Reachable P (boardCatalogue P) t.src :=
    ⟨identity, simulator, s, r₀, pre, hs, hboot, hpre⟩
  have hupdate := run_updateSound hpre
    (updateSound_of_booted (FirmwareRuntime.booted_of_newWithStore hs.wellFormed hboot))
  have hrecords := records_of_run hs.wellFormed hidentity hboot hpre
  have hticked := FirmwareRuntime.dispatch_describes hP
    (r := t.src.tickUpdateHealthWindow t.event.clock.tick)
    ⟨hreach.sound.tick _, hupdate.consistent.tick _⟩
    ⟨hrecords.identity, hrecords.capabilities, hrecords.dtcEntries, hrecords.blocks⟩
    hreach.hasTables t.event.clock t.event.packet
  have heq : (t.src.tickUpdateHealthWindow t.event.clock.tick).dispatch P (boardCatalogue P)
      t.event.clock t.event.packet = (t.dst, t.output) := step_iff.mp hstep
  rw [heq] at hticked
  -- the tick in between changes the update alone, which is read from the board that is left
  exact hticked

/-- A board that is asked for its pins, a live sample and its trouble codes, which are then cleared,
and for its update. -/
theorem answers_describe_board_ecuV1 : ∃ r₀ tr r,
    FirmwareRuntime.newWithStore referencePlatform .ecuV1 false (.newZeroed referencePlatform) =
      some r₀ ∧
    (firmware referencePlatform (boardCatalogue referencePlatform)).Run r₀ tr r ∧
    tr.map (fun t => t.event.packet) =
      [⟨.getPinAssignments, []⟩, ⟨.getLiveData, []⟩, ⟨.getDtc, []⟩, ⟨.clearDtc, []⟩, ⟨.getDtc, []⟩,
        ⟨.writeCell, [1, 0, 0, 0, 7]⟩, ⟨.getUpdateStatus, []⟩] ∧
    ∀ t ∈ tr, Describes referencePlatform t.src t.dst t.event.packet t.output := by
  obtain ⟨r₀, hboot, -⟩ := exists_reachable_new (P := referencePlatform)
    (A := boardCatalogue referencePlatform) .ecuV1 false
  have hrun := TransitionSystem.run_trace
    (handle referencePlatform (boardCatalogue referencePlatform)) r₀
    [⟨⟨0, 0, none⟩, ⟨.getPinAssignments, []⟩⟩, ⟨⟨0, 0, none⟩, ⟨.getLiveData, []⟩⟩,
      ⟨⟨0, 0, none⟩, ⟨.getDtc, []⟩⟩, ⟨⟨0, 0, none⟩, ⟨.clearDtc, []⟩⟩, ⟨⟨0, 0, none⟩, ⟨.getDtc, []⟩⟩,
      ⟨⟨0, 0, none⟩, ⟨.writeCell, [1, 0, 0, 0, 7]⟩⟩, ⟨⟨0, 0, none⟩, ⟨.getUpdateStatus, []⟩⟩]
  exact ⟨r₀, _, _, hboot, hrun, rfl, answers_describe_board referencePlatform_aead
    ⟨by decide, by decide, by decide, by decide, by decide, by decide⟩ .newZeroed hboot hrun⟩

end StEcu
