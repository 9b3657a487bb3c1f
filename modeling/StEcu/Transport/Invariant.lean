import StEcu.Transport.Runtime

/-!
# The invariant of a runtime

What ties the parts of a runtime together: its store is well formed, the pin assignments are what
the staged pin-assignment page says, the trigger decoder is the one the staged page 0 selects, and
a board that encrypts pages has a controller with the keys of its own identity.

Building a runtime from a well-formed store always succeeds and establishes this.

## Main definitions

* `FirmwareRuntime.Sound`: the invariant.
* `bootPinPage`: the page of the default assignments.
* `FirmwareRuntime.Booted`: what a runtime built from a store is like.

## Main results

* `FirmwareRuntime.exists_newWithStore`: a well-formed store boots, to a runtime as described.
-/

namespace StEcu

/-- The number of the pin-assignment page. -/
abbrev pinPageId : UInt8 := ConfigPage.pinAssignment.id

/-- The number of the page that selects the trigger decoder. -/
abbrev basePageId : UInt8 := ConfigPage.baseEngineFuelComm.id

variable (P : Platform)

/-- The invariant. -/
structure FirmwareRuntime.Sound (r : FirmwareRuntime) : Prop where
  store : r.store.WellFormed P
  pins : ∃ page, r.store.readPage pinPageId = some page ∧
    deserializeAssignmentsFromPage page = .ok r.pinAssignments
  trigger : ∀ page, r.store.readPage basePageId = some page →
    r.triggerRuntime.config = .ofPage0 page
  crypto : r.pageCryptoEnabled = true →
    ∃ enc, r.tuneEncryption = some enc ∧ enc.BelongsTo P r.identity

namespace FirmwareRuntime.Sound

variable {P} {r : FirmwareRuntime} (h : r.Sound P)
include h

theorem validPins : ValidAssignmentSet r.pinAssignments := by
  obtain ⟨page, -, hpage⟩ := h.pins
  exact (deserializeAssignmentsFromPage_eq_ok_iff.mp hpage).1

/-- The pin assignments always fit their page. -/
theorem exists_serialize : ∃ page, serializeAssignmentsToPage r.pinAssignments 512 = .ok page ∧
    page.length = 512 := by
  obtain ⟨page, hpage⟩ := h.validPins.exists_serialize
  exact ⟨page, hpage, length_of_serializeAssignmentsToPage hpage⟩

/-- The invariant with another store that has the same pin-assignment page and page 0. -/
theorem withStore {store : ConfigStore} (hwf : store.WellFormed P)
    (hpins : store.readPage pinPageId = r.store.readPage pinPageId)
    (hbase : store.readPage basePageId = r.store.readPage basePageId) :
    ({ r with store } : FirmwareRuntime).Sound P where
  store := hwf
  pins := by
    obtain ⟨page, hpage, hdes⟩ := h.pins
    exact ⟨page, hpins.trans hpage, hdes⟩
  trigger page hpage := h.trigger page (hbase.symm.trans hpage)
  crypto := h.crypto

/-- Selecting the decoder of page 0 again changes nothing. -/
theorem syncTriggerRuntime_eq : syncTriggerRuntime r.store r.triggerRuntime = r.triggerRuntime := by
  rw [syncTriggerRuntime]
  split
  · next page hpage =>
    rw [TriggerRuntime.applyPage0Payload, ← h.trigger page hpage]
  · rfl

end FirmwareRuntime.Sound

theorem TuneEncryption.BelongsTo.withNonceCounter {P : Platform} {identity : FirmwareIdentity}
    {enc : TuneEncryption} (h : enc.BelongsTo P identity) (counter : UInt64) :
    (enc.withNonceCounter counter).BelongsTo P identity :=
  ⟨⟨h.ready.supports, h.ready.provisioned, h.ready.bound, h.ready.length_key,
    h.ready.length_ecuId⟩, h.key_eq, h.ecuId_eq, h.generation_eq⟩

/-! ### The default pin assignments -/

/-- The page of the default assignments. -/
def bootPinPage : Bytes :=
  match serializeAssignmentsToPage bootPinAssignments 512 with
  | .ok page => page
  | .error _ => []

theorem serialize_boot : serializeAssignmentsToPage bootPinAssignments 512 = .ok bootPinPage := by
  obtain ⟨page, hpage⟩ := validAssignmentSet_boot.exists_serialize
  rw [bootPinPage, hpage]

theorem length_bootPinPage : bootPinPage.length = 512 :=
  length_of_serializeAssignmentsToPage serialize_boot

/-- Seeding the pin-assignment page of a well-formed store succeeds. -/
theorem seedPinPage_eq {s : ConfigStore} (h : s.WellFormed P) :
    seedPinPage P s =
      some (((s.withRam pinPageId bootPinPage).burnPage P pinPageId).1, bootPinAssignments) := by
  obtain ⟨page, hpage, hlen⟩ := h.exists_readPage pinPageId (n := 512) rfl
  have hw : s.writePage pinPageId bootPinPage = .ok (s.withRam pinPageId bootPinPage) :=
    ConfigStore.writePage_eq_ok_iff.mpr ⟨⟨page, hpage, by rw [hlen, length_bootPinPage]⟩, rfl⟩
  have hok := ((h.write hw).burnPage_spec (ConfigStore.readPage_withRam_self s _ _ hpage)).1
  have hpl : s.pageLength pinPageId = some 512 := h.pageLength_eq pinPageId
  simp only [seedPinPage, validate_default, hpl, serialize_boot, hw]
  generalize (s.withRam pinPageId bootPinPage).burnPage P pinPageId = burned at hok ⊢
  obtain ⟨s', result⟩ := burned
  obtain rfl : result = .ok () := hok
  rfl

/-- What seeding the pin-assignment page does: the page is the default one in RAM and in flash, and
no other page changes. -/
theorem seeded_spec {s : ConfigStore} (h : s.WellFormed P) :
    let s' := ((s.withRam pinPageId bootPinPage).burnPage P pinPageId).1
    s'.WellFormed P ∧ s'.flashResumeScratch = s.flashResumeScratch ∧
      s'.readPage pinPageId = some bootPinPage ∧ s'.readFlashPage pinPageId = some bootPinPage ∧
      ∀ q ≠ pinPageId, s'.readPage q = s.readPage q ∧ s'.readFlashPage q = s.readFlashPage q ∧
        s'.flashPageGeneration q = s.flashPageGeneration q := by
  obtain ⟨page, hpage, hlen⟩ := h.exists_readPage pinPageId (n := 512) rfl
  have hself := ConfigStore.readPage_withRam_self s pinPageId bootPinPage hpage
  have hwf : (s.withRam pinPageId bootPinPage).WellFormed P :=
    h.withRam (by rw [h.length_readPage hpage, hlen, length_bootPinPage])
  obtain ⟨-, hram, hscratch, hother, hflash, -⟩ := hwf.burnPage_spec hself
  refine ⟨hwf.burn _, hscratch, ?_, hflash, fun q hq => ⟨?_, ?_⟩⟩
  · rw [ConfigStore.readPage, hram]
    exact hself
  · rw [ConfigStore.readPage, hram]
    exact ConfigStore.readPage_withRam_of_ne s _ _ hq
  · exact ConfigStore.flash_congr (hother q hq)

/-! ### Building a runtime -/

namespace FirmwareRuntime

/-- A runtime built from a store: everything transient is at its start, the pin assignments are the
default ones and burned, and a board that encrypts pages has persisted its start counter. All
other pages are those of the store. -/
structure Booted (identity : FirmwareIdentity) (simulator : Bool) (s : ConfigStore)
    (r : FirmwareRuntime) : Prop where
  sound : r.Sound P
  identity_eq : r.identity = identity
  enabled_eq : r.pageCryptoEnabled = (!simulator && pageCryptoEnabledForIdentity identity)
  signature_eq : r.flashSignatureRequired =
    (!simulator && flashSignatureRequiredForIdentity identity)
  auth_eq : r.bootloaderAuthRequired = (!simulator && pageCryptoEnabledForIdentity identity)
  pins_eq : r.pinAssignments = bootPinAssignments
  flash_eq : ∃ counter, r.flash = { sessionCounter := counter }
  update_eq : r.update = {}
  scratch_eq : r.store.flashResumeScratch = s.flashResumeScratch
  readPage_pin : r.store.readPage pinPageId = some bootPinPage
  readFlashPage_pin : r.store.readFlashPage pinPageId = some bootPinPage
  readPage_other : ∀ q ≠ pinPageId, q ≠ pageCryptoNoncePageId →
    r.store.readPage q = s.readPage q
  readFlashPage_other : ∀ q ≠ pinPageId, q ≠ pageCryptoNoncePageId →
    r.store.readFlashPage q = s.readFlashPage q
  plain : r.pageCryptoEnabled = false →
    r.store.readPage pageCryptoNoncePageId = s.readPage pageCryptoNoncePageId ∧
      r.store.readFlashPage pageCryptoNoncePageId = s.readFlashPage pageCryptoNoncePageId
  encrypted : r.pageCryptoEnabled = true → ∃ enc page,
    initializePageCrypto P identity = some enc ∧
      s.readPage pageCryptoNoncePageId = some page ∧
      r.tuneEncryption = some (enc.withNonceCounter (bootCounter enc s)) ∧
      r.pageCryptoNextPersistCounter =
        (bootCounter enc s).saturatingAdd pageCryptoNoncePersistStride ∧
      r.store.readPage pageCryptoNoncePageId = some (withNonceRecord page (bootCounter enc s)) ∧
      r.store.readFlashPage pageCryptoNoncePageId =
        some (withNonceRecord page (bootCounter enc s)) ∧
      r.store.flashPageGeneration pageCryptoNoncePageId =
        (s.flashPageGeneration pageCryptoNoncePageId).map (UInt32.saturatingAdd · 1)

variable {P}

/-- Setting up page encryption touches no page but the one with the record. -/
theorem bootPageCrypto_spec {s : ConfigStore} (h : s.WellFormed P)
    (controller : Option TuneEncryption) :
    let s' := (bootPageCrypto P s controller).1
    s'.WellFormed P ∧ s'.flashResumeScratch = s.flashResumeScratch ∧
      ∀ q ≠ pageCryptoNoncePageId,
        s'.readPage q = s.readPage q ∧ s'.readFlashPage q = s.readFlashPage q := by
  cases controller with
  | none => exact ⟨h, rfl, fun _ _ => ⟨rfl, rfl⟩⟩
  | some enc =>
    obtain ⟨page, hpage, -⟩ := exists_recordPage h
    obtain ⟨-, hpersisted⟩ := persistPageCryptoCounter_spec h hpage (bootCounter enc s)
    exact ⟨hpersisted.wellFormed, hpersisted.scratch_eq, fun q hq =>
      ⟨hpersisted.readPage_other q hq, (ConfigStore.flash_congr (hpersisted.slot_other q hq)).1⟩⟩

/-- **A well-formed store boots.** -/
theorem exists_newWithStore (identity : FirmwareIdentity) (simulator : Bool) {s : ConfigStore}
    (hs : s.WellFormed P) :
    ∃ r, newWithStore P identity simulator s = some r ∧ Booted P identity simulator s r := by
  generalize hcontroller : (if !simulator && pageCryptoEnabledForIdentity identity then
    initializePageCrypto P identity else none) = controller
  obtain ⟨hwf, hscratch, hother⟩ := bootPageCrypto_spec hs controller
  obtain ⟨hseedWf, hseedScratch, hread, hreadFlash, hrest⟩ := seeded_spec P hwf
  have hne : pageCryptoNoncePageId ≠ pinPageId := by decide
  simp only [newWithStore, hcontroller, seedPinPage_eq P hwf]
  -- only the pages of the store that was set up matter from here on
  generalize hbooted : bootPageCrypto P s controller = booted at *
  obtain ⟨s₁, enc, next⟩ := booted
  refine ⟨_, rfl, ?_⟩
  exact
    { sound :=
        { store := hseedWf
          pins := ⟨bootPinPage, hread, deserialize_serialize validAssignmentSet_boot serialize_boot⟩
          trigger := fun p hp => by
            dsimp only
            rw [syncTriggerRuntime, hp]
            rfl
          crypto := fun hen => by
            obtain ⟨controller', hinit, hbelongs, -⟩ :=
              exists_initializePageCrypto (P := P) (Bool.and_eq_true_iff.mp hen).2
            rw [if_pos hen, hinit] at hcontroller
            subst hcontroller
            obtain ⟨-, rfl, -⟩ := Prod.mk.inj hbooted
            exact ⟨_, rfl, hbelongs.withNonceCounter _⟩ }
      identity_eq := rfl
      enabled_eq := rfl
      signature_eq := rfl
      auth_eq := rfl
      pins_eq := rfl
      flash_eq := ⟨_, rfl⟩
      update_eq := rfl
      scratch_eq := hseedScratch.trans hscratch
      readPage_pin := hread
      readFlashPage_pin := hreadFlash
      readPage_other := fun q hq hq9 => (hrest q hq).1.trans (hother q hq9).1
      readFlashPage_other := fun q hq hq9 => (hrest q hq).2.1.trans (hother q hq9).2
      plain := fun hplain => by
        rw [if_neg (by simpa using hplain)] at hcontroller
        subst hcontroller
        obtain ⟨rfl, -⟩ := Prod.mk.inj hbooted
        exact ⟨(hrest _ hne).1, (hrest _ hne).2.1⟩
      encrypted := fun hen => by
        obtain ⟨controller', hinit, -⟩ :=
          exists_initializePageCrypto (P := P) (Bool.and_eq_true_iff.mp hen).2
        rw [if_pos hen, hinit] at hcontroller
        subst hcontroller
        obtain ⟨page, hpage, -⟩ := exists_recordPage hs
        obtain ⟨-, hpersisted⟩ := persistPageCryptoCounter_spec hs hpage (bootCounter controller' s)
        obtain ⟨rfl, rfl, rfl⟩ := Prod.mk.inj hbooted
        exact ⟨controller', page, hinit, hpage, rfl, rfl,
          (hrest _ hne).1.trans hpersisted.readPage_self,
          (hrest _ hne).2.1.trans hpersisted.readFlashPage_self,
          (hrest _ hne).2.2.trans hpersisted.generation_eq⟩ }

/-- What boots is as described. -/
theorem booted_of_newWithStore {identity : FirmwareIdentity} {simulator : Bool} {s : ConfigStore}
    {r : FirmwareRuntime} (hs : s.WellFormed P)
    (hr : newWithStore P identity simulator s = some r) : Booted P identity simulator s r := by
  obtain ⟨r', hr', hbooted⟩ := exists_newWithStore identity simulator hs
  obtain rfl := Option.some.inj (hr.symm.trans hr')
  exact hbooted

/-- A board starts without challenge, attempts and lockout, with an empty log, and without a flash
session; sessions are counted on from the scratch. -/
theorem fresh_of_newWithStore {identity : FirmwareIdentity} {simulator : Bool} {s : ConfigStore}
    {r : FirmwareRuntime} (h : newWithStore P identity simulator s = some r) :
    r.auth = {} ∧ r.log = {} ∧ r.flash =
      { sessionCounter :=
          (r.store.flashResumeScratch.map FlashResumeScratch.sessionId).getD 0 } := by
  rw [newWithStore] at h
  dsimp only at h
  split at h
  · cases h
  · rw [← Option.some.inj h]
    exact ⟨rfl, rfl, rfl⟩

end FirmwareRuntime

end StEcu
