import StEcu.Config.Invariant
import StEcu.Protocol.Packet

/-!
# The persisted nonce counter

The last 16 bytes of the page of interface defaults hold a record of the page-encryption nonce
counter (`read_persisted_page_crypto_counter` and `persist_page_crypto_counter` in
`src/transport.rs`). The record is read from flash; it is written by patching the RAM page and
burning the whole page.

## Main definitions

* `nonceRecord`, `recordCounter`: writing and reading the 16 bytes.
* `nonceRecordOfPage`, `outsideNonceRecord`: the two parts of the page.
* `withNonceRecord`: a page with its last 16 bytes replaced.
* `readPersistedPageCryptoCounter`, `persistPageCryptoCounter`.

## Main results

* `persistPageCryptoCounter_spec`: what persisting a counter does to a well-formed store.
* `readPersisted_persist`: the counter read back is the one persisted.
-/

namespace StEcu

/-- `b"STNC"`. -/
def pageCryptoNonceMagic : Bytes := [0x53, 0x54, 0x4E, 0x43]

/-- The version of the record. -/
def pageCryptoNonceVersion : UInt8 := 1

/-- The bytes of the record, at the front of its page. -/
def pageCryptoNonceRecordLen : ℕ := 16

/-- The page that holds the record. -/
def pageCryptoNoncePageId : UInt8 := ConfigPage.uiDefaults.id

/-- How far the counter runs ahead of the record. -/
def pageCryptoNoncePersistStride : UInt64 := 1024

/-- The 16 bytes that record a counter. -/
def nonceRecord (counter : UInt64) : Bytes :=
  pageCryptoNonceMagic ++ [pageCryptoNonceVersion, 0, 0, 0] ++ u64ToBe counter

/-- The counter that a record of 16 bytes holds. -/
def recordCounter (record : Bytes) : Option UInt64 :=
  if record.take 4 ≠ pageCryptoNonceMagic then none
  else if record.getD 4 0 ≠ pageCryptoNonceVersion then none
  else some (u64OfBe (slice record 8 16))

/-- The end of a page, where the record is kept. -/
def nonceRecordOfPage (page : Bytes) : Bytes :=
  page.drop (page.length - pageCryptoNonceRecordLen)

/-- All of a page but the record. -/
def outsideNonceRecord (page : Bytes) : Bytes := page.take (page.length - pageCryptoNonceRecordLen)

/-- A page with the record of a counter at its end. -/
def withNonceRecord (page : Bytes) (counter : UInt64) : Bytes :=
  page.take (page.length - pageCryptoNonceRecordLen) ++ nonceRecord counter

/-- The counter of the record in flash or, where flash holds no image, of the one in RAM. -/
def readPersistedPageCryptoCounter (store : ConfigStore) : Option UInt64 :=
  match (store.readFlashPage pageCryptoNoncePageId).or (store.readPage pageCryptoNoncePageId) with
  | none => none
  | some page =>
    if page.length < pageCryptoNonceRecordLen then none
    else recordCounter (nonceRecordOfPage page)

/-- Patches the RAM page and burns it. -/
def persistPageCryptoCounter (P : Platform) (store : ConfigStore) (counter : UInt64) :
    ConfigStore × Except RuntimeNackCode Unit :=
  match store.readPage pageCryptoNoncePageId with
  | none => (store, .error .storageFailure)
  | some page =>
    if page.length < pageCryptoNonceRecordLen then (store, .error .storageFailure)
    else
      match store.writePage pageCryptoNoncePageId (withNonceRecord page counter) with
      | .error _ => (store, .error .storageFailure)
      | .ok store =>
        match store.burnPage P pageCryptoNoncePageId with
        | (store, .error _) => (store, .error .storageFailure)
        | (store, .ok ()) => (store, .ok ())

/-! ### Records -/

@[simp] theorem length_nonceRecord (counter : UInt64) : (nonceRecord counter).length = 16 := by
  simp [nonceRecord, pageCryptoNonceMagic]

@[simp] theorem recordCounter_nonceRecord (counter : UInt64) :
    recordCounter (nonceRecord counter) = some counter := by
  have hmagic : (nonceRecord counter).take 4 = pageCryptoNonceMagic := rfl
  have hversion : (nonceRecord counter).getD 4 0 = pageCryptoNonceVersion := rfl
  have hslice : slice (nonceRecord counter) 8 16 = u64ToBe counter := rfl
  rw [recordCounter, hmagic, hversion, hslice, u64OfBe_u64ToBe]
  simp

theorem nonceRecord_inj {counter counter' : UInt64} :
    nonceRecord counter = nonceRecord counter' ↔ counter = counter' := by
  refine ⟨fun h => ?_, congrArg nonceRecord⟩
  have hcounter := congrArg recordCounter h
  rwa [recordCounter_nonceRecord, recordCounter_nonceRecord, Option.some.injEq] at hcounter

theorem take_withNonceRecord (page : Bytes) (counter : UInt64) :
    (withNonceRecord page counter).take (page.length - pageCryptoNonceRecordLen) =
      page.take (page.length - pageCryptoNonceRecordLen) :=
  List.take_left' (by simp)

section Page

variable {page : Bytes} (hlen : pageCryptoNonceRecordLen ≤ page.length)
include hlen

theorem length_withNonceRecord (counter : UInt64) :
    (withNonceRecord page counter).length = page.length := by
  simp only [withNonceRecord, List.length_append, List.length_take, length_nonceRecord,
    pageCryptoNonceRecordLen] at hlen ⊢
  omega

@[simp] theorem outsideNonceRecord_withNonceRecord (counter : UInt64) :
    outsideNonceRecord (withNonceRecord page counter) = outsideNonceRecord page := by
  rw [outsideNonceRecord, length_withNonceRecord hlen, take_withNonceRecord, outsideNonceRecord]

@[simp] theorem nonceRecordOfPage_withNonceRecord (counter : UInt64) :
    nonceRecordOfPage (withNonceRecord page counter) = nonceRecord counter := by
  rw [nonceRecordOfPage, length_withNonceRecord hlen]
  exact List.drop_left' (by simp)

@[simp] theorem withNonceRecord_withNonceRecord (counter counter' : UInt64) :
    withNonceRecord (withNonceRecord page counter) counter' = withNonceRecord page counter' := by
  rw [withNonceRecord, length_withNonceRecord hlen, take_withNonceRecord, withNonceRecord]

/-- A page is unchanged by writing the record it already holds. -/
theorem withNonceRecord_eq_self_iff (counter : UInt64) :
    withNonceRecord page counter = page ↔ nonceRecordOfPage page = nonceRecord counter := by
  constructor
  · intro h
    rw [← nonceRecordOfPage_withNonceRecord hlen counter, h]
  · intro h
    rw [withNonceRecord, ← h, nonceRecordOfPage, List.take_append_drop]

end Page

/-! ### The record in a well-formed store -/

section Store

variable {P : Platform} {s : ConfigStore} (h : s.WellFormed P)
include h

/-- The record page of a well-formed store. -/
theorem exists_recordPage : ∃ page, s.readPage pageCryptoNoncePageId = some page ∧
    page.length = 256 :=
  h.exists_readPage pageCryptoNoncePageId rfl

theorem length_recordPage {page : Bytes} (hpage : s.readPage pageCryptoNoncePageId = some page) :
    pageCryptoNonceRecordLen ≤ page.length := by
  obtain ⟨page', hpage', hlen⟩ := exists_recordPage h
  obtain rfl := Option.some.inj (hpage.symm.trans hpage')
  rw [hlen, pageCryptoNonceRecordLen]
  omega

/-- The record page in the flash of a well-formed store. -/
theorem exists_flashRecordPage : ∃ page, s.readFlashPage pageCryptoNoncePageId = some page ∧
    page.length = 256 := by
  obtain ⟨ram, hram, hlen⟩ := exists_recordPage h
  obtain ⟨-, page, hpage, -, hpl⟩ := h.exists_flash hram
  exact ⟨page, hpage, hpl.trans hlen⟩

theorem readPersistedPageCryptoCounter_eq {page : Bytes}
    (hpage : s.readFlashPage pageCryptoNoncePageId = some page) :
    readPersistedPageCryptoCounter s = recordCounter (nonceRecordOfPage page) := by
  obtain ⟨page', hpage', hlen⟩ := exists_flashRecordPage h
  obtain rfl := Option.some.inj (hpage.symm.trans hpage')
  simp only [readPersistedPageCryptoCounter, hpage, Option.some_or]
  rw [if_neg (by rw [hlen, pageCryptoNonceRecordLen]; omega)]

/-- Persisting a counter puts its record into the RAM page and burns that page. -/
theorem persistPageCryptoCounter_eq {page : Bytes}
    (hpage : s.readPage pageCryptoNoncePageId = some page) (counter : UInt64) :
    persistPageCryptoCounter P s counter =
      (((s.withRam pageCryptoNoncePageId (withNonceRecord page counter)).burnPage P
        pageCryptoNoncePageId).1, .ok ()) := by
  have hle := length_recordPage h hpage
  have hw : s.writePage pageCryptoNoncePageId (withNonceRecord page counter) =
      .ok (s.withRam pageCryptoNoncePageId (withNonceRecord page counter)) :=
    ConfigStore.writePage_eq_ok_iff.mpr
      ⟨⟨page, hpage, (length_withNonceRecord hle counter).symm⟩, rfl⟩
  have hok := ((h.write hw).burnPage_spec (ConfigStore.readPage_withRam_self s _ _ hpage)).1
  simp only [persistPageCryptoCounter, hpage, hw]
  rw [if_neg (Nat.not_lt.mpr hle)]
  generalize (s.withRam pageCryptoNoncePageId (withNonceRecord page counter)).burnPage P
    pageCryptoNoncePageId = burned at hok
  obtain ⟨s', result⟩ := burned
  obtain rfl : result = .ok () := hok
  rfl

/-- A store after persisting a counter, where the RAM page was a given one: that page has the new
record in RAM and in flash, its generation is one higher, and no other page changed. -/
structure CounterPersisted (P : Platform) (s : ConfigStore) (page : Bytes) (counter : UInt64)
    (s' : ConfigStore) : Prop where
  wellFormed : s'.WellFormed P
  scratch_eq : s'.flashResumeScratch = s.flashResumeScratch
  readPage_self : s'.readPage pageCryptoNoncePageId = some (withNonceRecord page counter)
  readPage_other : ∀ q ≠ pageCryptoNoncePageId, s'.readPage q = s.readPage q
  readFlashPage_self : s'.readFlashPage pageCryptoNoncePageId = some (withNonceRecord page counter)
  slot_other : ∀ q ≠ pageCryptoNoncePageId, s'.flashSlots[q.toNat]? = s.flashSlots[q.toNat]?
  generation_eq : s'.flashPageGeneration pageCryptoNoncePageId =
    (s.flashPageGeneration pageCryptoNoncePageId).map (UInt32.saturatingAdd · 1)

/-- **Persisting a counter succeeds.** -/
theorem persistPageCryptoCounter_spec {page : Bytes}
    (hpage : s.readPage pageCryptoNoncePageId = some page) (counter : UInt64) :
    (persistPageCryptoCounter P s counter).2 = .ok () ∧
      CounterPersisted P s page counter (persistPageCryptoCounter P s counter).1 := by
  have hlen := length_recordPage h hpage
  have hwf : (s.withRam pageCryptoNoncePageId (withNonceRecord page counter)).WellFormed P :=
    h.withRam (by rw [h.length_readPage hpage, length_withNonceRecord hlen])
  have hself := ConfigStore.readPage_withRam_self s _ (withNonceRecord page counter) hpage
  obtain ⟨-, hram, hscratch, hother, hread, hgen⟩ := hwf.burnPage_spec hself
  rw [persistPageCryptoCounter_eq h hpage]
  refine ⟨rfl, hwf.burn _, hscratch, ?_, fun q hq => ?_, hread, hother, hgen⟩
  · rw [ConfigStore.readPage, hram]
    exact hself
  · rw [ConfigStore.readPage, hram]
    exact ConfigStore.readPage_withRam_of_ne _ _ _ hq

/-- The counter read back after persisting is the one persisted. -/
theorem readPersisted_persist (counter : UInt64) :
    readPersistedPageCryptoCounter (persistPageCryptoCounter P s counter).1 = some counter := by
  obtain ⟨page, hpage, -⟩ := exists_recordPage h
  obtain ⟨-, hpersisted⟩ := persistPageCryptoCounter_spec h hpage counter
  rw [readPersistedPageCryptoCounter_eq hpersisted.wellFormed hpersisted.readFlashPage_self,
    nonceRecordOfPage_withNonceRecord (length_recordPage h hpage),
    recordCounter_nonceRecord]

end Store

end StEcu
