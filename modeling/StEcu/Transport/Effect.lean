import StEcu.Transport.Pages

/-!
# What a packet can do

Everything that handling a packet can do to a sound runtime, as one relation: a packet is
rejected, or it is a query that at most moves counters, or it does the one thing its command is for.
Every invariant and every statement about histories is derived from this relation, and not from the
handlers.

## Main definitions

* `Cmd.isCritical`: the commands that touch pages, pins, the update or the authentication.
* `FirmwareRuntime.Effect`: the possible effects of a packet, after the tick.

## Main results

* `FirmwareRuntime.dispatch_effect`: dispatching a packet has one of these effects.
-/

namespace StEcu

/-- The commands that touch pages, pins, the update or the bootloader authentication. -/
def Cmd.isCritical : Cmd → Bool
  | readPage | writePage | burnPage | pinAssign | enterBootloader | flashResume | flashBlock
  | flashVerify | flashComplete | confirmBootHealthy => true
  | _ => false

/-- A verify payload with a signature that is accepted for an image. -/
def SignedBy (P : Platform) (payload image : Bytes) : Prop :=
  ∃ fields signature, FirmwareRuntime.parseVerifyFields payload = some fields ∧
    fields.signature = some signature ∧
    verifyFlashSignature P image (P.crc32 image) signature = true

namespace FirmwareRuntime

/-- The effects of a packet on a runtime whose health window has been ticked. -/
inductive Effect (P : Platform) (clock : Clock) (packet : Packet) (r : FirmwareRuntime) :
    FirmwareRuntime → Packet → Prop
  /-- The packet is rejected and nothing changes. -/
  | rejected (e : Rejection) : Effect P clock packet r r e.packet
  /-- A command that touches nothing but counters, tables, trouble codes and the log. -/
  | observed (live : LiveState) (triggerRuntime : TriggerRuntime) (tables : List RawTablePayload)
      (dtcEntries : List RuntimeDtcEntry) (log : DataLog) (answer : Packet)
      (hcmd : packet.cmd.isCritical = false) (hnack : answer.cmd ≠ .nack)
      (hpage : answer.cmd ≠ .pageData)
      (htrigger : triggerRuntime.config = r.triggerRuntime.config) :
      Effect P clock packet r { r with live, triggerRuntime, tables, dtcEntries, log } answer
  /-- A bootloader request is rejected; only the authentication state may change. -/
  | authRejected (auth : BootloaderAuth) (e : Rejection) (hcmd : packet.cmd = .enterBootloader) :
      Effect P clock packet r { r with auth } e.packet
  | challenged (auth : BootloaderAuth) (challenge : Bytes) (hcmd : packet.cmd = .enterBootloader)
      (hlen : challenge.length = bootloaderChallengeLen) :
      Effect P clock packet r { r with auth } ⟨.ack, challenge⟩
  | sessionStarted (hcmd : packet.cmd = .enterBootloader) :
      Effect P clock packet r r.beginFlashSession ack
  /-- A page is read on a board that does not encrypt pages. -/
  | pageRead (pageId : UInt8) (page : Bytes) (hcmd : packet.cmd = .readPage)
      (hdec : decodePageRequest packet.payload = .ok pageId)
      (hread : r.store.readPage pageId = some page) (hplain : r.pageCryptoEnabled = false) :
      Effect P clock packet r r ⟨.pageData, encodePagePayload P pageId page⟩
  /-- A page is read and encrypted; the counter may be persisted. -/
  | pageEncrypted (pageId : UInt8) (page ciphertext : Bytes) (enc : TuneEncryption)
      (hcmd : packet.cmd = .readPage) (hdec : decodePageRequest packet.payload = .ok pageId)
      (hread : r.store.readPage pageId = some page) (hcrypto : r.pageCryptoEnabled = true)
      (henc : r.tuneEncryption = some enc)
      (hct : P.aesGcmEncrypt enc.key.key enc.nonceBytes page enc.key.ecuId = some ciphertext) :
      Effect P clock packet r
        ({ r with tuneEncryption := some enc.advanceNonce }.maybePersistPageCryptoCounter P
          enc.advanceNonce.state.nonceCounter)
        ⟨.pageData, encodePagePayload P pageId (enc.nonceBytes ++ ciphertext)⟩
  /-- The cipher fails; the nonce is used up all the same. -/
  | encryptionFailed (pageId : UInt8) (page : Bytes) (enc : TuneEncryption) (e : Rejection)
      (hcmd : packet.cmd = .readPage) (hread : r.store.readPage pageId = some page)
      (hcrypto : r.pageCryptoEnabled = true)
      (henc : r.tuneEncryption = some enc)
      (hct : P.aesGcmEncrypt enc.key.key enc.nonceBytes page enc.key.ecuId = none) :
      Effect P clock packet r { r with tuneEncryption := some enc.advanceNonce } e.packet
  /-- A page other than the pin-assignment page and page 0 is written. -/
  | pageWritten (pageId : UInt8) (data : Bytes) (hcmd : packet.cmd = .writePage)
      (hc : r.Carries P packet.payload pageId data)
      (hlen : pageLengthAt pageId.toNat = some data.length)
      (hpin : pageId ≠ pinPageId) (hbase : pageId ≠ basePageId) :
      Effect P clock packet r { r with store := r.store.withRam pageId data }
        ({ r with store := r.store.withRam pageId data }.pageAck pageId)
  | basePageWritten (data : Bytes) (hcmd : packet.cmd = .writePage)
      (hc : r.Carries P packet.payload basePageId data)
      (hlen : pageLengthAt basePageId.toNat = some data.length) :
      Effect P clock packet r
        { r with
          store := r.store.withRam basePageId data
          triggerRuntime := r.triggerRuntime.applyPage0Payload data }
        ({ r with store := r.store.withRam basePageId data }.pageAck basePageId)
  | pinPageWritten (data : Bytes) (pinAssignments : List ResolvedPinAssignment)
      (hcmd : packet.cmd = .writePage) (hc : r.Carries P packet.payload pinPageId data)
      (hlen : data.length = 512)
      (hdes : deserializeAssignmentsFromPage data = .ok pinAssignments) :
      Effect P clock packet r
        { r with store := r.store.withRam pinPageId data, pinAssignments }
        ({ r with store := r.store.withRam pinPageId data }.pageAck pinPageId)
  /-- A pin-assignment page is not accepted and replaced by the assignments in force. -/
  | pinPageReverted (data reverted : Bytes) (e : Rejection) (error : AssignmentError)
      (hcmd : packet.cmd = .writePage) (hc : r.Carries P packet.payload pinPageId data)
      (hlen : data.length = 512) (hdes : deserializeAssignmentsFromPage data = .error error)
      (hser : serializeAssignmentsToPage r.pinAssignments 512 = .ok reverted) :
      Effect P clock packet r { r with store := r.store.withRam pinPageId reverted } e.packet
  | pageBurned (pageId : UInt8) (page : Bytes) (hcmd : packet.cmd = .burnPage)
      (hdec : decodePageRequest packet.payload = .ok pageId)
      (hread : r.store.readPage pageId = some page) :
      Effect P clock packet r { r with store := (r.store.burnPage P pageId).1 }
        ⟨.ack, encodeAckPayload pageId false⟩
  | pinsAssigned (pinAssignments : List ResolvedPinAssignment) (page : Bytes)
      (hcmd : packet.cmd = .pinAssign) (hvalid : ValidAssignmentSet pinAssignments)
      (hser : serializeAssignmentsToPage pinAssignments 512 = .ok page) :
      Effect P clock packet r
        { r with pinAssignments, store := r.store.withRam pinPageId page }
        ({ r with store := r.store.withRam pinPageId page }.pageAck pinPageId)
  /-- A resume request finds no scratch and changes nothing. -/
  | resumeIdle (answer : Packet) (hcmd : packet.cmd = .flashResume) (hack : answer.cmd = .ack)
      (hsession : r.flash.sessionActive = true) (hscratch : r.store.flashResumeScratch = none) :
      Effect P clock packet r r answer
  | resumed (scratch : FlashResumeScratch) (answer : Packet) (hcmd : packet.cmd = .flashResume)
      (hack : answer.cmd = .ack) (hsession : r.flash.sessionActive = true)
      (hscratch : r.store.flashResumeScratch = some scratch)
      (hsize : scratch.image.length ≤ flashBufferMaxBytes) :
      Effect P clock packet r
        { r with
          flash := r.flash.restored scratch
          update := { r.update with state := .receiving } }
        answer
  | blockAppended (block : Bytes) (hcmd : packet.cmd = .flashBlock)
      (hcheck : r.checkFlashBlock packet.payload = .ok block) :
      Effect P clock packet r (r.appendFlashBlock P block) ack
  | imageVerified (crc : UInt32) (hcmd : packet.cmd = .flashVerify)
      (hcheck : r.checkFlashVerify P packet.payload = .ok crc) :
      Effect P clock packet r (r.markFlashVerified crc) ack
  | imageInstalled (crc : UInt32) (hcmd : packet.cmd = .flashComplete)
      (hcheck : r.checkFlashComplete P = .ok crc) :
      Effect P clock packet r (r.installCandidate crc clock.now) ack
  | bootConfirmed (targetBank : UInt8) (hcmd : packet.cmd = .confirmBootHealthy)
      (hstate : r.update.state = .healthWindow)
      (hpending : r.update.pendingBank = some targetBank) :
      Effect P clock packet r { r with update := r.update.committedTo targetBank } ack

/-! ### The handlers, one by one -/

section Handlers

variable {P : Platform} {clock : Clock} {packet : Packet} {r : FirmwareRuntime}

/-- A query answers without changing anything. -/
theorem Effect.query (answer : Packet) (hcmd : packet.cmd.isCritical = false)
    (hnack : answer.cmd ≠ .nack) (hpage : answer.cmd ≠ .pageData) :
    Effect P clock packet r r answer :=
  .observed r.live r.triggerRuntime r.tables r.dtcEntries r.log answer hcmd hnack hpage rfl

theorem Effect.logged (log : DataLog) (hcmd : packet.cmd.isCritical = false) :
    Effect P clock packet r { r with log } ack :=
  .observed r.live r.triggerRuntime r.tables r.dtcEntries log ack hcmd (by decide) (by decide) rfl

theorem Effect.tabled (tables : List RawTablePayload) (hcmd : packet.cmd.isCritical = false) :
    Effect P clock packet r { r with tables } ack :=
  .observed r.live r.triggerRuntime tables r.dtcEntries r.log ack hcmd (by decide) (by decide) rfl

theorem resetLogbookCommand_effect (hcmd : packet.cmd.isCritical = false) :
    Effect P clock packet r r.resetLogbookCommand.1 r.resetLogbookCommand.2 := by
  rw [resetLogbookCommand]
  split
  · exact .rejected (_, _)
  · exact .logged _ hcmd

theorem syncRtcCommand_effect (hcmd : packet.cmd.isCritical = false) :
    Effect P clock packet r (r.syncRtcCommand packet.payload).1
      (r.syncRtcCommand packet.payload).2 := by
  rw [syncRtcCommand]
  split
  · exact .rejected (_, _)
  · split
    · exact .rejected (_, _)
    · exact .logged _ hcmd

theorem readLogBlockAnswer_effect (hcmd : packet.cmd.isCritical = false) :
    Effect P clock packet r r (r.readLogBlockAnswer P packet.payload) := by
  rw [readLogBlockAnswer]
  dsimp only
  split
  · exact .rejected (_, _)
  split
  · exact .rejected (_, _)
  split
  · exact .rejected (_, _)
  · exact .query _ hcmd (by simp) (by simp)

theorem readTableAnswer_effect (hcmd : packet.cmd.isCritical = false) :
    Effect P clock packet r r (r.readTableAnswer packet.payload) := by
  rw [readTableAnswer]
  split
  · exact .rejected (_, _)
  · split
    · exact .query _ hcmd (by simp) (by simp)
    · exact .rejected (_, _)

/-- Writing a table changes the tables only. -/
theorem writeTableFrame_eq_ok {incoming : RawTablePayload} {r' : FirmwareRuntime}
    (h : r.writeTableFrame incoming = .ok r') : ∃ tables, r' = { r with tables } := by
  rw [writeTableFrame] at h
  dsimp only at h
  split at h
  · cases h
  · split at h
    · cases h
    · exact ⟨_, (Except.ok.inj h).symm⟩

theorem writeTableCommand_effect (hcmd : packet.cmd.isCritical = false) :
    Effect P clock packet r (r.writeTableCommand packet.payload).1
      (r.writeTableCommand packet.payload).2 := by
  rw [writeTableCommand]
  split
  · exact .rejected (_, _)
  · split
    · exact .rejected (_, _)
    · next hframe =>
      obtain ⟨tables, rfl⟩ := writeTableFrame_eq_ok hframe
      exact .tabled _ hcmd

/-- A command whose checks change nothing has the effect of what follows them. -/
theorem orReject_effect {α : Type} {result : Except Rejection α}
    {next : α → FirmwareRuntime × Packet}
    (h : ∀ a, result = .ok a → Effect P clock packet r (next a).1 (next a).2) :
    Effect P clock packet r (r.orReject result next).1 (r.orReject result next).2 := by
  cases result with
  | error e => exact .rejected e
  | ok a => exact h a rfl

theorem writeCellCommand_effect (hcmd : packet.cmd.isCritical = false) :
    Effect P clock packet r (r.writeCellCommand packet.payload).1
      (r.writeCellCommand packet.payload).2 :=
  orReject_effect fun _ _ => .tabled _ hcmd

theorem runOutputTest_effect (hcmd : packet.cmd.isCritical = false) :
    Effect P clock packet r (r.runOutputTest packet.payload).1
      (r.runOutputTest packet.payload).2 := by
  refine orReject_effect fun audit _ => ?_
  cases audit with
  | false => exact .query ack hcmd (by decide) (by decide)
  | true => exact .logged _ hcmd

theorem triggerPicture_effect (render : TriggerRuntime → String → Bytes) (cmd : Cmd)
    (hcmd : packet.cmd.isCritical = false) (hnack : cmd ≠ .nack) (hpage : cmd ≠ .pageData) :
    Effect P clock packet r (r.triggerPicture render cmd).1 (r.triggerPicture render cmd).2 :=
  .observed r.live _ r.tables r.dtcEntries r.log _ hcmd hnack hpage
    (TriggerRuntime.config_advanceState _ _)

theorem sampleLiveData_effect (hcmd : packet.cmd.isCritical = false) :
    Effect P clock packet r (r.sampleLiveData P).1
      ⟨.liveData, (r.sampleLiveData P).2.encode⟩ :=
  .observed _ _ r.tables r.dtcEntries _ _ hcmd (by simp) (by simp)
    (TriggerRuntime.config_observeTick _ _)

/-! ### Authentication -/

theorem authFailure_effect (now : ℕ) (code : RuntimeNackCode) (reason : String)
    (auth : BootloaderAuth) (hcmd : packet.cmd = .enterBootloader) :
    Effect P clock packet r ({ r with auth }.authFailure now code reason).1
      ({ r with auth }.authFailure now code reason).2 :=
  .authRejected _ (code, reason) hcmd

/-- Starting a session forgets all authentication state but the counter. -/
theorem beginFlashSession_with_auth (auth : BootloaderAuth) (h : auth.counter = r.auth.counter) :
    { r with auth }.beginFlashSession = r.beginFlashSession := by
  simp only [beginFlashSession, BootloaderAuth.recordSuccess, h]

theorem authenticate_effect {auth : BootloaderAuth} (hcmd : packet.cmd = .enterBootloader)
    (hcounter : auth.counter = r.auth.counter) :
    Effect P clock packet r ({ r with auth }.authenticate P clock packet.payload).1
      ({ r with auth }.authenticate P clock packet.payload).2 := by
  rw [authenticate]
  split
  · exact .authRejected auth (_, _) hcmd
  split
  · exact .challenged _ _ hcmd (BootloaderAuth.length_issueChallenge ..)
  split
  · exact .authRejected auth (_, _) hcmd
  split
  · exact authFailure_effect _ _ _ auth hcmd
  split
  · exact authFailure_effect _ _ _ auth hcmd
  · dsimp only
    split
    · exact authFailure_effect _ _ _ _ hcmd
    · split
      · exact authFailure_effect _ _ _ _ hcmd
      · dsimp only
        rw [beginFlashSession_with_auth _ (by exact hcounter)]
        exact .sessionStarted hcmd

theorem enterBootloader_effect (hcmd : packet.cmd = .enterBootloader) :
    Effect P clock packet r (r.enterBootloader P clock packet.payload).1
      (r.enterBootloader P clock packet.payload).2 := by
  rw [enterBootloader]
  split
  · exact .sessionStarted hcmd
  · exact authenticate_effect hcmd (BootloaderAuth.counter_refreshWindow _ _)

/-! ### Pages -/

theorem readPage_effect (h : r.Sound P) (hcmd : packet.cmd = .readPage) :
    Effect P clock packet r (r.readPage P packet.payload).1 (r.readPage P packet.payload).2 := by
  rw [readPage]
  split
  · exact .rejected (_, _)
  next pageId hdec =>
  split
  · exact .rejected (_, _)
  next page hread =>
  rcases h.encryptPageForTransport_eq page with ⟨hplain, heq⟩ | ⟨hcrypto, enc, henc, -, heq⟩
  · rw [heq]
    exact .pageRead pageId page hcmd hdec hread hplain
  · rw [heq]
    cases hct : P.aesGcmEncrypt enc.key.key enc.nonceBytes page enc.key.ecuId with
    | none => exact .encryptionFailed pageId page enc (_, _) hcmd hread hcrypto henc hct
    | some ciphertext =>
      exact .pageEncrypted pageId page ciphertext enc hcmd hdec hread hcrypto henc hct

/-- A written page of the right length is one of the four outcomes. -/
theorem pageWrite_effect (h : r.Sound P) (hcmd : packet.cmd = .writePage) {pageId : UInt8}
    {data : Bytes} (hc : r.Carries P packet.payload pageId data)
    (hlen : pageLengthAt pageId.toNat = some data.length) :
    Effect P clock packet r (r.writePage P packet.payload).1 (r.writePage P packet.payload).2 := by
  by_cases hpin : pageId = pinPageId
  · subst hpin
    have hlen' : data.length = 512 := Option.some.inj (hlen.symm.trans rfl)
    cases hdes : deserializeAssignmentsFromPage data with
    | ok pinAssignments =>
      rw [h.writePage_pin hc hlen' hdes]
      exact .pinPageWritten data pinAssignments hcmd hc hlen' hdes
    | error error =>
      obtain ⟨reverted, hser, -⟩ := h.exists_serialize
      rw [h.writePage_reverted hc hlen' hdes hser]
      exact .pinPageReverted data reverted (_, _) error hcmd hc hlen' hdes hser
  · by_cases hbase : pageId = basePageId
    · subst hbase
      rw [h.writePage_base hc hlen]
      exact .basePageWritten data hcmd hc hlen
    · rw [h.writePage_of_ne hc hlen hpin hbase]
      exact .pageWritten pageId data hcmd hc hlen hpin hbase

theorem writePage_effect (h : r.Sound P) (hcmd : packet.cmd = .writePage) :
    Effect P clock packet r (r.writePage P packet.payload).1 (r.writePage P packet.payload).2 := by
  cases hdec : decodePagePayload P packet.payload with
  | error error =>
    simp only [writePage, hdec]
    exact .rejected (_, _)
  | ok page =>
    cases hdata : r.decryptPageFromTransport P page.payload with
    | error code =>
      simp only [writePage, hdec, hdata]
      split
      · exact .rejected (_, _)
      · exact .rejected (_, _)
      next hok => cases hok
    | ok data =>
      cases hw : r.store.writePage page.pageId data with
      | error error =>
        simp only [writePage, hdec, hdata, hw]
        exact .rejected (_, _)
      | ok store =>
        obtain ⟨⟨old, hold, hlen⟩, -⟩ := ConfigStore.writePage_eq_ok_iff.mp hw
        exact pageWrite_effect h hcmd ⟨page, hdec, rfl, hdata⟩
          (by rw [h.store.length_readPage hold, hlen])

theorem burnPage_effect (h : r.Sound P) (hcmd : packet.cmd = .burnPage) :
    Effect P clock packet r (r.burnPage P packet.payload).1 (r.burnPage P packet.payload).2 := by
  cases hdec : decodePageRequest packet.payload with
  | error error =>
    simp only [burnPage, hdec]
    exact .rejected (_, _)
  | ok pageId =>
    cases hread : r.store.readPage pageId with
    | none =>
      simp only [burnPage, hdec, ConfigStore.burnPage_of_readPage_eq_none hread]
      exact .rejected (_, _)
    | some page =>
      rw [h.burnPage_eq hdec hread]
      exact .pageBurned pageId page hcmd hdec hread

/-- Writing valid pin assignments to their RAM page succeeds. -/
theorem syncPinAssignmentPage_eq (h : r.store.WellFormed P)
    {pinAssignments : List ResolvedPinAssignment} {page : Bytes}
    (hser : serializeAssignmentsToPage pinAssignments 512 = .ok page) :
    ({ r with pinAssignments } : FirmwareRuntime).syncPinAssignmentPage =
      .ok { r with pinAssignments, store := r.store.withRam pinPageId page } := by
  obtain ⟨old, hold, hlen⟩ := h.exists_readPage pinPageId (n := 512) rfl
  have hw : r.store.writePage pinPageId page = .ok (r.store.withRam pinPageId page) :=
    ConfigStore.writePage_eq_ok_iff.mpr
      ⟨⟨old, hold, by rw [hlen, length_of_serializeAssignmentsToPage hser]⟩, rfl⟩
  have hpageLen : r.store.pageLength pinPageId = some 512 := h.pageLength_eq pinPageId
  simp only [syncPinAssignmentPage, hpageLen, hser, hw]

/-- Overriding pin assignments either fails and changes nothing, or puts a valid list in force. -/
theorem applyPinAssignmentOverrides_cases (h : r.store.WellFormed P)
    (overrides : List PinAssignmentRequest) :
    (∃ error, r.applyPinAssignmentOverrides overrides = (r, .error error)) ∨
      ∃ pinAssignments page, ValidAssignmentSet pinAssignments ∧
        serializeAssignmentsToPage pinAssignments 512 = .ok page ∧
        r.applyPinAssignmentOverrides overrides =
          ({ r with pinAssignments, store := r.store.withRam pinPageId page }, .ok ()) := by
  rw [applyPinAssignmentOverrides]
  cases hover : applyAssignmentOverrides r.pinAssignments overrides with
  | error error => exact .inl ⟨error, rfl⟩
  | ok pinAssignments =>
    have hvalid := (validateAssignmentSet_eq_ok_iff.mp hover).2
    obtain ⟨page, hser⟩ := hvalid.exists_serialize
    refine .inr ⟨pinAssignments, page, hvalid, hser, ?_⟩
    simp only [syncPinAssignmentPage_eq h hser]

theorem pinAssign_effect (h : r.Sound P) (hcmd : packet.cmd = .pinAssign) :
    Effect P clock packet r (r.pinAssign P packet.payload).1
      (r.pinAssign P packet.payload).2 := by
  rw [pinAssign]
  split
  · exact .rejected (_, _)
  · exact .rejected (_, _)
  next assignments _ _ =>
  dsimp only
  rcases applyPinAssignmentOverrides_cases h.store (assignments.map fun assignment =>
      ({ function := assignment.function, pinId := assignment.pinId } : PinAssignmentRequest)) with
    ⟨error, heq⟩ | ⟨pinAssignments, page, hvalid, hser, heq⟩
  · rw [heq]
    exact .rejected (_, _)
  · rw [heq]
    exact .pinsAssigned pinAssignments page hcmd hvalid hser

/-! ### Firmware update -/

theorem flashResume_effect (hcmd : packet.cmd = .flashResume) :
    Effect P clock packet r (r.flashResume P packet.payload).1
      (r.flashResume P packet.payload).2 := by
  rw [flashResume]
  split
  · exact .rejected (_, _)
  next hsession =>
  have hsession : r.flash.sessionActive = true := by simpa using hsession
  split
  · exact .rejected (_, _)
  next request _ =>
  split
  next r' found hok =>
    rw [tryRestoreFlashResumeScratch] at hok
    split at hok
    next hscratch =>
      obtain rfl := congrArg Prod.fst (Except.ok.inj hok)
      exact .resumeIdle _ hcmd rfl hsession hscratch
    next scratch hscratch =>
      split at hok
      · cases hok
      next hsize =>
      split at hok
      · cases hok
      · obtain rfl := congrArg Prod.fst (Except.ok.inj hok)
        exact .resumed scratch _ hcmd rfl hsession hscratch (Nat.le_of_not_lt hsize)
  · exact .rejected (_, _)
  · exact .rejected (_, _)
  · exact .rejected (_, _)

theorem confirmBootHealthy_effect (hcmd : packet.cmd = .confirmBootHealthy) :
    Effect P clock packet r r.confirmBootHealthy.1 r.confirmBootHealthy.2 := by
  rw [confirmBootHealthy]
  split
  next update hupdate =>
    rw [FirmwareUpdate.confirmPendingUpdate] at hupdate
    split at hupdate
    · cases hupdate
    next hstate =>
    split at hupdate
    · cases hupdate
    next targetBank hpending =>
    obtain rfl := Option.some.inj hupdate
    exact .bootConfirmed targetBank hcmd (not_ne_iff.mp hstate) hpending
  · exact .rejected (_, _)

/-! ### What the checks of the update commands establish -/

theorem checkFlashBlock_eq_ok {payload block : Bytes} (h : r.checkFlashBlock payload = .ok block) :
    r.flash.sessionActive = true ∧
      r.flash.buffer.length + block.length ≤ flashBufferMaxBytes := by
  rw [checkFlashBlock] at h
  split at h
  · cases h
  next hsession =>
  split at h
  · cases h
  split at h
  · cases h
  split at h
  · cases h
  dsimp only at h
  split at h
  · cases h
  next hsize =>
  obtain rfl := Except.ok.inj h
  exact ⟨by simpa using hsession, Nat.le_of_not_lt hsize⟩

theorem checkFlashSignature_eq_ok {crc : UInt32} {signature : Option Bytes}
    (h : r.checkFlashSignature P crc signature = .ok ()) :
    (r.flashSignatureRequired = true → signature ≠ none) ∧
      ∀ s, signature = some s → verifyFlashSignature P r.flash.buffer crc s = true := by
  cases signature with
  | none =>
    rw [checkFlashSignature] at h
    split at h
    · cases h
    next hreq => exact ⟨fun hr => absurd hr hreq, fun s hs => by cases hs⟩
  | some signature =>
    rw [checkFlashSignature] at h
    split at h
    · cases h
    next hok =>
    refine ⟨fun _ => by simp, fun s hs => ?_⟩
    obtain rfl := Option.some.inj hs
    simpa using hok

/-- **What passing verification means.** -/
theorem checkFlashVerify_eq_ok {payload : Bytes} {crc : UInt32}
    (h : r.checkFlashVerify P payload = .ok crc) :
    r.flash.sessionActive = true ∧ r.flash.buffer ≠ [] ∧ (∃ byte ∈ r.flash.buffer, byte ≠ 0) ∧
      crc = P.crc32 r.flash.buffer ∧
      (r.flashSignatureRequired = true → SignedBy P payload r.flash.buffer) := by
  rw [checkFlashVerify] at h
  split at h
  · cases h
  next hsession =>
  split at h
  · cases h
  next fields hfields =>
  split at h
  · cases h
  next hblank =>
  dsimp only at h
  split at h
  · cases h
  split at h
  · cases h
  split at h
  · cases h
  next hsig =>
  obtain rfl := Except.ok.inj h
  obtain ⟨hsome, hvalid⟩ := checkFlashSignature_eq_ok hsig
  obtain ⟨hactive, hne⟩ : r.flash.sessionActive = true ∧ r.flash.buffer ≠ [] := by
    simpa using hsession
  refine ⟨hactive, hne, by simpa using hblank, rfl, fun hreq => ?_⟩
  obtain ⟨signature, hsignature⟩ := Option.ne_none_iff_exists'.mp (hsome hreq)
  exact ⟨fields, signature, hfields, hsignature, hvalid signature hsignature⟩

theorem sessionActive_of_checkFlashComplete {crc : UInt32}
    (h : r.checkFlashComplete P = .ok crc) : r.flash.sessionActive = true := by
  rw [checkFlashComplete] at h
  split at h
  · cases h
  next hsession => simpa using hsession

/-- **What a packet can do**: dispatching a packet on a sound runtime has one of the effects. -/
theorem dispatch_effect (A : Catalogue) (h : r.Sound P) :
    Effect P clock packet r (r.dispatch P A clock packet).1 (r.dispatch P A clock packet).2 := by
  rw [dispatch]
  cases hcmd : packet.cmd
  case getLiveData => exact sampleLiveData_effect (by rw [hcmd]; rfl)
  case getTriggerCapture =>
    exact triggerPicture_effect _ _ (by rw [hcmd]; rfl) (by decide) (by decide)
  case getTriggerToothLog =>
    exact triggerPicture_effect _ _ (by rw [hcmd]; rfl) (by decide) (by decide)
  case logStart => exact .logged _ (by rw [hcmd]; rfl)
  case logStop => exact .logged _ (by rw [hcmd]; rfl)
  case resetLogbook => exact resetLogbookCommand_effect (by rw [hcmd]; rfl)
  case syncRtc => exact syncRtcCommand_effect (by rw [hcmd]; rfl)
  case readLogBlock => exact readLogBlockAnswer_effect (by rw [hcmd]; rfl)
  case readTable => exact readTableAnswer_effect (by rw [hcmd]; rfl)
  case writeTable => exact writeTableCommand_effect (by rw [hcmd]; rfl)
  case writeCell => exact writeCellCommand_effect (by rw [hcmd]; rfl)
  case pinAssign => exact pinAssign_effect h hcmd
  case clearDtc =>
    exact .observed _ _ _ [] _ ack (by rw [hcmd]; rfl) (by decide) (by decide) rfl
  case runOutputTest => exact runOutputTest_effect (by rw [hcmd]; rfl)
  case readPage => exact readPage_effect h hcmd
  case writePage => exact writePage_effect h hcmd
  case burnPage => exact burnPage_effect h hcmd
  case enterBootloader => exact enterBootloader_effect hcmd
  case flashResume => exact flashResume_effect hcmd
  case flashBlock => exact orReject_effect fun block hcheck => .blockAppended block hcmd hcheck
  case flashVerify => exact orReject_effect fun crc hcheck => .imageVerified crc hcmd hcheck
  case flashComplete => exact orReject_effect fun crc hcheck => .imageInstalled crc hcmd hcheck
  case confirmBootHealthy => exact confirmBootHealthy_effect hcmd
  -- what is left are the queries and the commands that are not requests
  all_goals
    first
    | exact .rejected (_, _)
    | exact .query _ (by rw [hcmd]; rfl) (by simp) (by simp)

end Handlers

end FirmwareRuntime

end StEcu
