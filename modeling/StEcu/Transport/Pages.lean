import StEcu.Transport.Handle
import StEcu.Transport.Invariant

/-!
# The page commands

What reading, writing and burning a page does to a sound runtime. Reading a page uses up a nonce on
a board that encrypts pages, and may persist the counter; writing a page replaces it in RAM and
parses it where it is page 0 or the pin-assignment page; burning a page always succeeds.

## Main definitions

* `FirmwareRuntime.Carries`: what a payload of the write command says to a runtime.

## Main results

* `Sound.encryptPageForTransport_eq`, `maybePersistPageCryptoCounter_cases`.
* `Sound.writePage_of_ne`, `Sound.writePage_base`, `Sound.writePage_pin`,
  `Sound.writePage_reverted`: the outcomes of a page write.
* `Sound.burnPage_eq`.
-/

namespace StEcu

namespace FirmwareRuntime

variable {P : Platform} {r : FirmwareRuntime}

/-! ### Reading -/

/-- Encrypting a page on a sound runtime: plain boards pass it on; others use up a nonce. -/
theorem Sound.encryptPageForTransport_eq (h : r.Sound P) (page : Bytes) :
    (r.pageCryptoEnabled = false ∧ r.encryptPageForTransport P page = (r, .ok page)) ∨
      r.pageCryptoEnabled = true ∧ ∃ enc, r.tuneEncryption = some enc ∧ enc.Ready ∧
        r.encryptPageForTransport P page =
          match P.aesGcmEncrypt enc.key.key enc.nonceBytes page enc.key.ecuId with
          | none => ({ r with tuneEncryption := some enc.advanceNonce }, .error .storageFailure)
          | some ciphertext =>
            ({ r with tuneEncryption := some enc.advanceNonce }.maybePersistPageCryptoCounter P
              enc.advanceNonce.state.nonceCounter, .ok (enc.nonceBytes ++ ciphertext)) := by
  cases hcrypto : r.pageCryptoEnabled with
  | false => exact .inl ⟨rfl, by simp [encryptPageForTransport, hcrypto]⟩
  | true =>
    obtain ⟨enc, henc, hbelongs⟩ := h.crypto hcrypto
    refine .inr ⟨rfl, enc, henc, hbelongs.ready, ?_⟩
    simp only [encryptPageForTransport, hcrypto, henc, hbelongs.ready.encryptPage_eq]
    cases P.aesGcmEncrypt enc.key.key enc.nonceBytes page enc.key.ecuId <;> rfl

/-- The cipher does not fail on a staged page. -/
theorem Sound.exists_ciphertext (hP : AeadLaw P) (h : r.Sound P)
    (hcrypto : r.pageCryptoEnabled = true) {enc : TuneEncryption}
    (henc : r.tuneEncryption = some enc) {pageId : UInt8} {page : Bytes}
    (hread : r.store.readPage pageId = some page) :
    ∃ ciphertext, P.aesGcmEncrypt enc.key.key enc.nonceBytes page enc.key.ecuId = some ciphertext ∧
      ciphertext.length = page.length + 16 := by
  obtain ⟨enc', henc', hbelongs⟩ := h.crypto hcrypto
  obtain rfl := Option.some.inj (henc.symm.trans henc')
  obtain ⟨ciphertext, hct, hlen, -⟩ := hbelongs.ready.decrypt_encrypt hP
    (pageLengthAt_le (h.store.length_readPage hread)) enc.length_nonceBytes
  exact ⟨ciphertext, hct, hlen⟩

/-- Persisting the nonce counter, as far as it happens. -/
theorem maybePersistPageCryptoCounter_cases (h : r.store.WellFormed P) (counter : UInt64) :
    (¬ (r.pageCryptoEnabled = true ∧ r.pageCryptoNextPersistCounter ≤ counter) ∧
        r.maybePersistPageCryptoCounter P counter = r) ∨
      (r.pageCryptoEnabled = true ∧ r.pageCryptoNextPersistCounter ≤ counter) ∧
        r.maybePersistPageCryptoCounter P counter =
          { r with
            store := (persistPageCryptoCounter P r.store counter).1
            pageCryptoNextPersistCounter :=
              counter.saturatingAdd pageCryptoNoncePersistStride } := by
  obtain ⟨page, hpage, -⟩ := exists_recordPage h
  have hok := (persistPageCryptoCounter_spec h hpage counter).1
  rw [maybePersistPageCryptoCounter]
  cases hcrypto : r.pageCryptoEnabled with
  | false => exact .inl ⟨by simp, by simp⟩
  | true =>
    simp only [Bool.not_true, Bool.false_eq_true, ↓reduceIte, true_and]
    split
    next hlt => exact .inl ⟨by rwa [UInt64.not_le], rfl⟩
    next hlt =>
    refine .inr ⟨UInt64.not_lt.mp hlt, ?_⟩
    generalize persistPageCryptoCounter P r.store counter = persisted at hok ⊢
    obtain ⟨store, result⟩ := persisted
    obtain rfl : result = .ok () := hok
    rfl

/-- Persisting the nonce counter touches the store and the counter to persist next. -/
theorem maybePersistPageCryptoCounter_eq (counter : UInt64) : ∃ store next,
    r.maybePersistPageCryptoCounter P counter =
      { r with store, pageCryptoNextPersistCounter := next } := by
  rw [maybePersistPageCryptoCounter]
  split
  · exact ⟨r.store, r.pageCryptoNextPersistCounter, rfl⟩
  split
  · exact ⟨r.store, r.pageCryptoNextPersistCounter, rfl⟩
  split
  · exact ⟨_, _, rfl⟩
  · exact ⟨_, r.pageCryptoNextPersistCounter, rfl⟩

/-- Reading a page on a board that does not encrypt pages. -/
theorem readPage_plain {payload page : Bytes} {pageId : UInt8}
    (hplain : r.pageCryptoEnabled = false) (hdec : decodePageRequest payload = .ok pageId)
    (hread : r.store.readPage pageId = some page) :
    r.readPage P payload = (r, ⟨.pageData, encodePagePayload P pageId page⟩) := by
  simp [readPage, hdec, hread, encryptPageForTransport, hplain]

/-- Reading a page on a board that encrypts pages. -/
theorem Sound.readPage_encrypted (h : r.Sound P) {payload page ciphertext : Bytes} {pageId : UInt8}
    {enc : TuneEncryption} (hcrypto : r.pageCryptoEnabled = true)
    (henc : r.tuneEncryption = some enc)
    (hdec : decodePageRequest payload = .ok pageId) (hread : r.store.readPage pageId = some page)
    (hct : P.aesGcmEncrypt enc.key.key enc.nonceBytes page enc.key.ecuId = some ciphertext) :
    r.readPage P payload =
      ({ r with tuneEncryption := some enc.advanceNonce }.maybePersistPageCryptoCounter P
          enc.advanceNonce.state.nonceCounter,
        ⟨.pageData, encodePagePayload P pageId (enc.nonceBytes ++ ciphertext)⟩) := by
  rcases h.encryptPageForTransport_eq page with ⟨hplain, -⟩ | ⟨-, enc', henc', -, heq⟩
  · rw [hcrypto] at hplain
    cases hplain
  · obtain rfl := Option.some.inj (henc.symm.trans henc')
    simp only [readPage, hdec, hread, heq, hct]

/-! ### Writing -/

/-- What a payload of the write command says: the page it names and the data for it, decrypted on a
board that encrypts pages. -/
def Carries (P : Platform) (r : FirmwareRuntime) (payload : Bytes) (pageId : UInt8)
    (data : Bytes) : Prop :=
  ∃ page, decodePagePayload P payload = .ok page ∧ page.pageId = pageId ∧
    r.decryptPageFromTransport P page.payload = .ok data

/-- A plain board takes a page payload as it is. -/
theorem carries_encodePagePayload (hplain : r.pageCryptoEnabled = false) (pageId : UInt8)
    {data : Bytes} (hlen : data.length ≤ 0xFFFF) :
    r.Carries P (encodePagePayload P pageId data) pageId data :=
  ⟨_, decode_encodePagePayload hlen, rfl, by simp [decryptPageFromTransport, hplain]⟩

/-- A board that encrypts pages takes a page payload that was encrypted under its key. -/
theorem Sound.carries_encrypted (hP : AeadLaw P) (h : r.Sound P)
    (hcrypto : r.pageCryptoEnabled = true) {enc : TuneEncryption}
    (henc : r.tuneEncryption = some enc) (pageId : UInt8)
    {nonce data ciphertext : Bytes} (hnonce : nonce.length = 12) (hlen : data.length ≤ 1024)
    (hct : P.aesGcmEncrypt enc.key.key nonce data enc.key.ecuId = some ciphertext) :
    r.Carries P (encodePagePayload P pageId (nonce ++ ciphertext)) pageId data := by
  obtain ⟨enc', henc', hbelongs⟩ := h.crypto hcrypto
  obtain rfl := Option.some.inj (henc.symm.trans henc')
  obtain ⟨ciphertext', hct', hlen', hdec⟩ :=
    hbelongs.ready.decrypt_encrypt hP hlen hnonce
  obtain rfl := Option.some.inj (hct.symm.trans hct')
  have hsize : (nonce ++ ciphertext).length ≤ 0xFFFF := by
    rw [List.length_append, hnonce, hlen']
    omega
  exact ⟨_, decode_encodePagePayload hsize, rfl,
    by simp [decryptPageFromTransport, hcrypto, henc, hdec]⟩

section Write

variable {payload data : Bytes} {pageId : UInt8} (h : r.Sound P)
include h

theorem Sound.writePage_eq (hc : r.Carries P payload pageId data)
    (hlen : pageLengthAt pageId.toNat = some data.length) :
    r.writePage P payload =
      ({ r with store := r.store.withRam pageId data } : FirmwareRuntime).afterPageWrite pageId
        data.length := by
  obtain ⟨page, hdec, rfl, hdata⟩ := hc
  obtain ⟨old, hold, hlenOld⟩ := h.store.exists_readPage _ hlen
  have hw : r.store.writePage page.pageId data = .ok (r.store.withRam page.pageId data) :=
    ConfigStore.writePage_eq_ok_iff.mpr ⟨⟨old, hold, hlenOld⟩, rfl⟩
  simp only [writePage, hdec, hdata, hw]

/-- A page that the firmware does not parse. -/
theorem Sound.writePage_of_ne (hc : r.Carries P payload pageId data)
    (hlen : pageLengthAt pageId.toNat = some data.length) (hpin : pageId ≠ pinPageId)
    (hbase : pageId ≠ basePageId) :
    r.writePage P payload = ({ r with store := r.store.withRam pageId data },
      ({ r with store := r.store.withRam pageId data } : FirmwareRuntime).pageAck pageId) := by
  rw [h.writePage_eq hc hlen, afterPageWrite, if_neg hpin, if_neg hbase]

theorem Sound.writePage_base (hc : r.Carries P payload basePageId data)
    (hlen : pageLengthAt basePageId.toNat = some data.length) :
    r.writePage P payload =
      ({ r with
          store := r.store.withRam basePageId data
          triggerRuntime := r.triggerRuntime.applyPage0Payload data },
        ({ r with store := r.store.withRam basePageId data } : FirmwareRuntime).pageAck
          basePageId) := by
  obtain ⟨old, hold, -⟩ := h.store.exists_readPage _ hlen
  rw [h.writePage_eq hc hlen, afterPageWrite, if_neg (by decide), if_pos rfl,
    syncTriggerRuntimeFromPage0, syncTriggerRuntime]
  simp only [ConfigStore.readPage_withRam_self r.store basePageId data hold]
  rfl

theorem Sound.writePage_pin {pinAssignments : List ResolvedPinAssignment}
    (hc : r.Carries P payload pinPageId data) (hlen : data.length = 512)
    (hdes : deserializeAssignmentsFromPage data = .ok pinAssignments) :
    r.writePage P payload =
      ({ r with store := r.store.withRam pinPageId data, pinAssignments },
        ({ r with store := r.store.withRam pinPageId data } : FirmwareRuntime).pageAck
          pinPageId) := by
  have hlen' : pageLengthAt pinPageId.toNat = some data.length := by rw [hlen]; rfl
  obtain ⟨old, hold, -⟩ := h.store.exists_readPage _ hlen'
  rw [h.writePage_eq hc hlen', afterPageWrite, if_pos rfl, reloadPinAssignmentsFromRamPage]
  simp only [ConfigStore.readPage_withRam_self r.store pinPageId data hold, hdes]
  rfl

/-- A pin-assignment page that is not accepted is replaced by the assignments in force. -/
theorem Sound.writePage_reverted {error : AssignmentError} {reverted : Bytes}
    (hc : r.Carries P payload pinPageId data) (hlen : data.length = 512)
    (hdes : deserializeAssignmentsFromPage data = .error error)
    (hser : serializeAssignmentsToPage r.pinAssignments 512 = .ok reverted) :
    r.writePage P payload = ({ r with store := r.store.withRam pinPageId reverted },
      nack .malformedPayload "invalid pin-assignment page payload") := by
  have hlen' : pageLengthAt pinPageId.toNat = some data.length := by rw [hlen]; rfl
  obtain ⟨old, hold, -⟩ := h.store.exists_readPage _ hlen'
  have hread := ConfigStore.readPage_withRam_self r.store pinPageId data hold
  have hpageLen : (r.store.withRam pinPageId data).pageLength pinPageId = some 512 :=
    (h.store.withRam hlen').pageLength_eq pinPageId
  have hrev : ({ r with store := r.store.withRam pinPageId data } :
      FirmwareRuntime).revertedPinPage data.length = reverted := by
    simp only [revertedPinPage, hpageLen, Option.getD_some, hser]
  have hw : (r.store.withRam pinPageId data).writePage pinPageId reverted =
      .ok ((r.store.withRam pinPageId data).withRam pinPageId reverted) :=
    ConfigStore.writePage_eq_ok_iff.mpr
      ⟨⟨data, hread, by rw [hlen, length_of_serializeAssignmentsToPage hser]⟩, rfl⟩
  rw [h.writePage_eq hc hlen', afterPageWrite, if_pos rfl, reloadPinAssignmentsFromRamPage]
  simp only [hread, hdes, hrev, hw, ConfigStore.withRam_withRam]

end Write

/-! ### Burning -/

theorem Sound.burnPage_eq (h : r.Sound P) {payload page : Bytes} {pageId : UInt8}
    (hdec : decodePageRequest payload = .ok pageId) (hread : r.store.readPage pageId = some page) :
    r.burnPage P payload = ({ r with store := (r.store.burnPage P pageId).1 },
      ⟨.ack, encodeAckPayload pageId false⟩) := by
  obtain ⟨hok, hram, -⟩ := h.store.burnPage_spec hread
  have hsync : syncTriggerRuntime (r.store.burnPage P pageId).1 r.triggerRuntime =
      r.triggerRuntime := by
    rw [← h.syncTriggerRuntime_eq, syncTriggerRuntime, syncTriggerRuntime, ConfigStore.readPage,
      hram, ← ConfigStore.readPage]
    cases r.store.readPage basePageId <;> rfl
  rw [burnPage]
  simp only [hdec]
  generalize r.store.burnPage P pageId = burned at hok hsync ⊢
  obtain ⟨store, result⟩ := burned
  obtain rfl : result = .ok () := hok
  dsimp only at hsync ⊢
  split
  · rw [syncTriggerRuntimeFromPage0]
    simp only [hsync]
  · rfl

end FirmwareRuntime

end StEcu
