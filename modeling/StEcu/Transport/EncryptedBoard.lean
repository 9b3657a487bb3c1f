import StEcu.Transport.Reference

/-!
# A board that encrypts pages

The H743 board of the tests, booted from a store whose record page holds a given counter and nothing
else: where its nonce counter starts, and what reading a page does to it.

## Main definitions

* `FirmwareIdentity.h743`, `recordPage`, `storeWithRecord`.
* `FirmwareRuntime.StartsAt`: an encrypting board as it boots.

## Main results

* `exists_h743`: the board boots one stride after the counter of the record.
-/

namespace StEcu

/-- `h743_identity` of the tests. -/
def FirmwareIdentity.h743 : FirmwareIdentity :=
  { FirmwareIdentity.ecuV1 with boardId := "st-ecu-h743-v1", signature := "ST-ECU-H743" }

/-- The blank record page. -/
@[irreducible] def blankPage : Bytes := List.replicate 256 0

theorem length_blankPage : blankPage.length = 256 := by
  rw [blankPage, List.length_replicate]

theorem le_length_blankPage : pageCryptoNonceRecordLen ≤ blankPage.length := by
  rw [length_blankPage, pageCryptoNonceRecordLen]
  omega

/-- A blank page with the record of a counter at its end. -/
def recordPage (counter : UInt64) : Bytes := withNonceRecord blankPage counter

theorem length_recordPage_eq (counter : UInt64) : (recordPage counter).length = 256 := by
  rw [recordPage, length_withNonceRecord le_length_blankPage, length_blankPage]

@[simp] theorem withNonceRecord_recordPage (counter counter' : UInt64) :
    withNonceRecord (recordPage counter) counter' = recordPage counter' :=
  withNonceRecord_withNonceRecord le_length_blankPage counter counter'

@[simp] theorem nonceRecordOfPage_recordPage (counter : UInt64) :
    nonceRecordOfPage (recordPage counter) = nonceRecord counter :=
  nonceRecordOfPage_withNonceRecord le_length_blankPage counter

/-- An erased store with a record page written and burned. -/
def storeWithRecord (P : Platform) (counter : UInt64) : ConfigStore :=
  (((ConfigStore.newZeroed P).withRam pageCryptoNoncePageId (recordPage counter)).burnPage P
    pageCryptoNoncePageId).1

variable {P : Platform} {A : Catalogue}

theorem writePage_recordPage (counter : UInt64) :
    (ConfigStore.newZeroed P).writePage pageCryptoNoncePageId (recordPage counter) =
      .ok ((ConfigStore.newZeroed P).withRam pageCryptoNoncePageId (recordPage counter)) := by
  obtain ⟨page, hpage, hlen⟩ := exists_recordPage (ConfigStore.wellFormed_newZeroed (P := P))
  exact ConfigStore.writePage_eq_ok_iff.mpr
    ⟨⟨page, hpage, by rw [hlen, length_recordPage_eq]⟩, rfl⟩

theorem reachable_storeWithRecord (counter : UInt64) :
    ReachableStore P A (storeWithRecord P counter) :=
  .burn (.write .newZeroed (writePage_recordPage counter)) _

/-- The record page of the store, in RAM and in flash, with its generation. -/
theorem storeWithRecord_spec (counter : UInt64) :
    (storeWithRecord P counter).readPage pageCryptoNoncePageId = some (recordPage counter) ∧
      (storeWithRecord P counter).readFlashPage pageCryptoNoncePageId =
        some (recordPage counter) ∧
      (storeWithRecord P counter).flashPageGeneration pageCryptoNoncePageId = some 1 := by
  have hwf := ConfigStore.wellFormed_newZeroed (P := P)
  obtain ⟨page, hpage, -⟩ := exists_recordPage hwf
  have hself := ConfigStore.readPage_withRam_self _ _ (recordPage counter) hpage
  obtain ⟨-, hram, -, -, hflash, hgen⟩ :=
    (hwf.write (writePage_recordPage counter)).burnPage_spec hself
  refine ⟨?_, hflash, hgen.trans ?_⟩
  · rw [storeWithRecord, ConfigStore.readPage, hram]
    exact hself
  · rw [ConfigStore.flashPageGeneration_withRam,
      ConfigStore.flashPageGeneration_newZeroed (n := 256) rfl]
    rfl

theorem readPersisted_storeWithRecord (counter : UInt64) :
    readPersistedPageCryptoCounter (storeWithRecord P counter) = some counter := by
  have hwf := (reachable_storeWithRecord (P := P) (A := referenceCatalogue) counter).wellFormed
  rw [readPersistedPageCryptoCounter_eq hwf (storeWithRecord_spec counter).2.1,
    nonceRecordOfPage_recordPage, recordCounter_nonceRecord]

/-- The counter a board starts from on that store. -/
theorem bootCounter_storeWithRecord (enc : TuneEncryption) (counter : UInt64) :
    bootCounter enc (storeWithRecord P counter) =
      counter.saturatingAdd pageCryptoNoncePersistStride := by
  rw [bootCounter, readPersisted_storeWithRecord]

/-- An encrypting board as it boots, with its counter at a given value. -/
structure FirmwareRuntime.StartsAt (r : FirmwareRuntime) (counter : UInt64) : Prop where
  crypto : r.pageCryptoEnabled = true
  exists_enc : ∃ enc, r.tuneEncryption = some enc ∧ enc.state.nonceCounter = counter
  next_eq : r.pageCryptoNextPersistCounter = counter.saturatingAdd pageCryptoNoncePersistStride
  readPage_eq : r.store.readPage pageCryptoNoncePageId = some (recordPage counter)
  readFlashPage_eq : r.store.readFlashPage pageCryptoNoncePageId = some (recordPage counter)
  generation_eq : r.store.flashPageGeneration pageCryptoNoncePageId = some 2

/-- **The board boots one stride after the counter of its record.** -/
theorem exists_h743 (P : Platform) (A : Catalogue) (counter : UInt64) :
    ∃ r, FirmwareRuntime.newWithStore P .h743 false (storeWithRecord P counter) = some r ∧
      Reachable P A r ∧
      r.StartsAt (counter.saturatingAdd pageCryptoNoncePersistStride) := by
  have hstore := reachable_storeWithRecord (P := P) (A := A) counter
  obtain ⟨r, hr, hbooted⟩ := FirmwareRuntime.exists_newWithStore .h743 false hstore.wellFormed
  have hcrypto : r.pageCryptoEnabled = true := hbooted.enabled_eq.trans (by decide)
  obtain ⟨hread, -, hgen⟩ := storeWithRecord_spec (P := P) counter
  obtain ⟨enc, page, -, hpage, henc, hnext, hram, hflash, hgeneration⟩ := hbooted.encrypted hcrypto
  obtain rfl := Option.some.inj (hread.symm.trans hpage)
  rw [bootCounter_storeWithRecord] at henc hnext hram hflash
  rw [withNonceRecord_recordPage] at hram hflash
  refine ⟨r, hr, .of_boot hstore hr, hcrypto, ⟨_, henc, rfl⟩, hnext, hram, hflash, ?_⟩
  rw [hgeneration, hgen]
  rfl

/-- The packet that reads a page. -/
def readPageInput (pageId : UInt8) : Input := ⟨⟨0, 0, none⟩, ⟨.readPage, [pageId]⟩⟩

/-- The packet that writes a page, on a board that encrypts no pages. -/
def writePageInput (P : Platform) (pageId : UInt8) (data : Bytes) : Input :=
  ⟨⟨0, 0, none⟩, ⟨.writePage, encodePagePayload P pageId data⟩⟩

/-- The packet that burns a page. -/
def burnPageInput (pageId : UInt8) : Input := ⟨⟨0, 0, none⟩, ⟨.burnPage, [pageId]⟩⟩

/-- A plain board stages a page that it does not parse. -/
theorem of_writePage {r : FirmwareRuntime} (h : r.Sound P) (hplain : r.pageCryptoEnabled = false)
    {pageId : UInt8} {data : Bytes} (hlen : pageLengthAt pageId.toNat = some data.length)
    (hpin : pageId ≠ pinPageId) (hbase : pageId ≠ basePageId) :
    (Step.of P A r (writePageInput P pageId data)).dst =
      { r.tickUpdateHealthWindow 0 with store := r.store.withRam pageId data } := by
  have hc : (r.tickUpdateHealthWindow 0).Carries P _ pageId data :=
    FirmwareRuntime.carries_encodePagePayload hplain pageId
      (Nat.le_trans (pageLengthAt_le hlen) (by decide))
  exact congrArg Prod.fst ((h.tick 0).writePage_of_ne hc hlen hpin hbase)

theorem of_burnPage {r : FirmwareRuntime} (h : r.Sound P) {pageId : UInt8} {page : Bytes}
    (hread : r.store.readPage pageId = some page) :
    (Step.of P A r (burnPageInput pageId)).output = ⟨.ack, encodeAckPayload pageId false⟩ ∧
      (Step.of P A r (burnPageInput pageId)).dst =
        { r.tickUpdateHealthWindow 0 with store := (r.store.burnPage P pageId).1 } := by
  have hdec : decodePageRequest [pageId] = .ok pageId := rfl
  have hr := (h.tick 0).burnPage_eq hdec hread
  exact ⟨congrArg Prod.snd hr, congrArg Prod.fst hr⟩

/-- Reading a page on an encrypting board: the answer shows the nonce that was used, and the counter
moves on. -/
theorem of_readPage_encrypted (hP : AeadLaw P) {r : FirmwareRuntime} (h : r.Sound P)
    (hcrypto : r.pageCryptoEnabled = true) {enc : TuneEncryption}
    (henc : r.tuneEncryption = some enc)
    {pageId : UInt8} {page : Bytes} (hread : r.store.readPage pageId = some page) :
    ∃ ciphertext, P.aesGcmEncrypt enc.key.key enc.nonceBytes page enc.key.ecuId = some ciphertext ∧
      (Step.of P A r (readPageInput pageId)).output =
        ⟨.pageData, encodePagePayload P pageId (enc.nonceBytes ++ ciphertext)⟩ ∧
      (Step.of P A r (readPageInput pageId)).dst =
        { r.tickUpdateHealthWindow 0 with
          tuneEncryption := some enc.advanceNonce }.maybePersistPageCryptoCounter P
            (enc.state.nonceCounter + 1) := by
  obtain ⟨ciphertext, hct, -⟩ := h.exists_ciphertext hP hcrypto henc hread
  have hdec : decodePageRequest [pageId] = .ok pageId := rfl
  have hr := (h.tick 0).readPage_encrypted hcrypto henc hdec hread hct
  exact ⟨ciphertext, hct, congrArg Prod.snd hr, congrArg Prod.fst hr⟩

end StEcu
