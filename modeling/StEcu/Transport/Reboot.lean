import StEcu.Transport.FlashFrame

/-!
# What a reboot does to the configuration

Building a runtime from a store writes to the store: it seeds the pin-assignment page with the
default assignments and burns it, and on a board that encrypts pages it patches the record page as
it is staged and burns that. So the committed configuration outlives a reboot exactly if the
pin-assignment page was the default one already and nothing was staged in the record page.

## Main definitions

* `FirmwareRuntime.PreservesFlash`: a runtime has the committed payloads of a store.

## Main results

* `reboot_preserves_iff`: when a reboot preserves the committed payloads, and when the assignments.
* `reboot_resets_pins`: a board that loses its burned pin assignments.
-/

namespace StEcu

variable {P : Platform} {A : Catalogue}

/-- The committed payload of every page is that of the store, but for the record at the end of the
record page on a board that encrypts pages. -/
def FirmwareRuntime.PreservesFlash (r : FirmwareRuntime) (s : ConfigStore) : Prop :=
  ∀ pageId page, s.readFlashPage pageId = some page →
    ∃ page', r.store.readFlashPage pageId = some page' ∧
      (page' = page ∨ pageId = pageCryptoNoncePageId ∧ r.pageCryptoEnabled = true ∧
        page'.length = page.length ∧ outsideNonceRecord page' = outsideNonceRecord page)

open FirmwareRuntime

/-- What a runtime built from a store preserves of it. -/
theorem FirmwareRuntime.Booted.preservesFlash_iff {identity : FirmwareIdentity} {simulator : Bool}
    {s : ConfigStore} {r : FirmwareRuntime} (h : Booted P identity simulator s r)
    (hs : s.WellFormed P) {ram flash : Bytes} (hram : s.readPage pageCryptoNoncePageId = some ram)
    (hflash : s.readFlashPage pageCryptoNoncePageId = some flash) :
    r.PreservesFlash s ↔ s.readFlashPage pinPageId = some bootPinPage ∧
      (r.pageCryptoEnabled = true → outsideNonceRecord ram = outsideNonceRecord flash) := by
  have hle := length_recordPage hs hram
  constructor
  · intro hpreserves
    constructor
    · obtain ⟨pinRam, hpinRam, -⟩ := hs.exists_readPage pinPageId (n := 512) rfl
      obtain ⟨-, pinFlash, hpinFlash, -⟩ := hs.exists_flash hpinRam
      rcases hpreserves pinPageId pinFlash hpinFlash with ⟨page', hpage', rfl | ⟨hid, -⟩⟩
      · rw [hpinFlash, ← hpage', h.readFlashPage_pin]
      · exact absurd hid (by decide)
    · intro hcrypto
      obtain ⟨enc, page, -, hpage, -, -, -, hrecord, -⟩ := h.encrypted hcrypto
      obtain rfl := Option.some.inj (hram.symm.trans hpage)
      obtain ⟨page', hpage', hsame⟩ := hpreserves _ _ hflash
      obtain rfl := Option.some.inj (hrecord.symm.trans hpage')
      rw [← outsideNonceRecord_withNonceRecord hle (bootCounter enc s)]
      rcases hsame with heq | ⟨-, -, -, heq⟩
      · rw [heq]
      · exact heq
  · rintro ⟨hpin, hsame⟩ pageId page hpage
    by_cases hid : pageId = pinPageId
    · subst hid
      exact ⟨bootPinPage, h.readFlashPage_pin, .inl (Option.some.inj (hpin.symm.trans hpage))⟩
    by_cases hrecordId : pageId = pageCryptoNoncePageId
    · subst hrecordId
      obtain rfl := Option.some.inj (hflash.symm.trans hpage)
      cases hcrypto : r.pageCryptoEnabled with
      | false => exact ⟨flash, ((h.plain hcrypto).2.trans hflash), .inl rfl⟩
      | true =>
        obtain ⟨enc, page, -, hpage', -, -, -, hrecord, -⟩ := h.encrypted hcrypto
        obtain rfl := Option.some.inj (hram.symm.trans hpage')
        obtain ⟨_, flash', hflash', -, hlen⟩ := hs.exists_flash hram
        obtain rfl := Option.some.inj (hflash.symm.trans hflash')
        refine ⟨_, hrecord, .inr ⟨rfl, rfl, ?_, ?_⟩⟩
        · rw [length_withNonceRecord hle, hlen]
        · rw [outsideNonceRecord_withNonceRecord hle, hsame hcrypto]
    · exact ⟨page, (h.readFlashPage_other pageId hid hrecordId).trans hpage, .inl rfl⟩

/-- Burned pin assignments whose page in flash is the default one are the default ones. -/
theorem FirmwareRuntime.Sound.pinAssignments_eq_boot {r : FirmwareRuntime} (h : r.Sound P)
    (hburned : r.store.needsBurn pinPageId = some false)
    (hflash : r.store.readFlashPage pinPageId = some bootPinPage) :
    r.pinAssignments = bootPinAssignments := by
  obtain ⟨page, hpage, hdes⟩ := h.pins
  rw [ConfigStore.needsBurn_eq hpage hflash, Option.some.injEq, bne_eq_false_iff_eq] at hburned
  rw [← hburned, deserialize_serialize validAssignmentSet_boot serialize_boot] at hdes
  exact (Except.ok.inj hdes).symm

/-- **What a reboot preserves**: all committed payloads, and with them the pin assignments that were
in force and burned, exactly if the pin-assignment page held the default assignments and, on a board
that encrypts pages, nothing was staged in the record page besides the record. -/
theorem reboot_preserves_iff {s : ConfigStore} (hs : ReachableStore P A s)
    (identity : FirmwareIdentity) (simulator : Bool) : ∃ r ram flash,
    newWithStore P identity simulator s = some r ∧
      s.readPage pageCryptoNoncePageId = some ram ∧
      s.readFlashPage pageCryptoNoncePageId = some flash ∧
      ((r.PreservesFlash s ∧ ∀ before, Reachable P A before → before.store = s →
          s.needsBurn pinPageId = some false → r.pinAssignments = before.pinAssignments) ↔
        s.readFlashPage pinPageId = some bootPinPage ∧
          ((!simulator && pageCryptoEnabledForIdentity identity) = true →
            outsideNonceRecord ram = outsideNonceRecord flash)) := by
  obtain ⟨r, hr, hbooted⟩ := exists_newWithStore identity simulator hs.wellFormed
  obtain ⟨ram, hram, -⟩ := exists_recordPage hs.wellFormed
  obtain ⟨flash, hflash, -⟩ := exists_flashRecordPage hs.wellFormed
  refine ⟨r, ram, flash, hr, hram, hflash, ?_⟩
  rw [← hbooted.enabled_eq, ← hbooted.preservesFlash_iff hs.wellFormed hram hflash]
  refine and_iff_left_of_imp fun hpreserves before hbefore hstore hburned => ?_
  subst hstore
  obtain ⟨hpin, -⟩ := (hbooted.preservesFlash_iff hs.wellFormed hram hflash).mp hpreserves
  rw [hbooted.pins_eq, hbefore.sound.pinAssignments_eq_boot hburned hpin]

theorem bootPinAssignments_ne_nil : bootPinAssignments ≠ [] := by decide

/-- The first board with the empty list of pin assignments burned. -/
theorem exists_burned_legacy_ecuV1 (P : Platform) (A : Catalogue) : ∃ before, Reachable P A before ∧
    before.store.readPage pinPageId = some legacyEmptyPinPage ∧
    before.store.readFlashPage pinPageId = some legacyEmptyPinPage ∧
    before.pinAssignments = [] := by
  obtain ⟨r, hreach, -, hpage⟩ := exists_legacy_ecuV1 P A
  obtain ⟨-, hdst⟩ := of_burnPage (A := A) hreach.sound hpage
  have hreach' := hreach.step (step_of r (burnPageInput pinPageId))
  rw [hdst] at hreach'
  obtain ⟨-, hram, -, -, hflash, -⟩ := hreach.sound.store.burnPage_spec hpage
  have hpage' : (r.store.burnPage P pinPageId).1.readPage pinPageId = some legacyEmptyPinPage := by
    rw [ConfigStore.readPage, hram]
    exact hpage
  obtain ⟨page, hread, hdes⟩ := hreach'.sound.pins
  obtain rfl := Option.some.inj (hpage'.symm.trans hread)
  exact ⟨_, hreach', hpage', hflash, Except.ok.inj (hdes.symm.trans deserialize_legacyEmptyPinPage)⟩

/-- The first board, with the empty list of pin assignments burned: a reboot puts the default
assignments in force, and into flash. -/
theorem reboot_resets_pins :
    ∃ before r, Reachable referencePlatform referenceCatalogue before ∧
      before.store.needsBurn pinPageId = some false ∧
      newWithStore referencePlatform .ecuV1 false before.store = some r ∧
      r.pinAssignments ≠ before.pinAssignments ∧
      r.store.readFlashPage pinPageId ≠ before.store.readFlashPage pinPageId := by
  obtain ⟨before, hreach, hpage, hflash, hempty⟩ :=
    exists_burned_legacy_ecuV1 referencePlatform referenceCatalogue
  obtain ⟨r, hr, hbooted⟩ := exists_newWithStore .ecuV1 false hreach.sound.store
  refine ⟨before, r, hreach, ?_, hr, ?_, ?_⟩
  · rw [ConfigStore.needsBurn_eq hpage hflash, bne_self_eq_false]
  · rw [hbooted.pins_eq, hempty]
    exact bootPinAssignments_ne_nil
  · rw [hbooted.readFlashPage_pin, hflash, ne_eq, Option.some.injEq]
    intro heq
    have hdes := deserialize_serialize validAssignmentSet_boot serialize_boot
    rw [heq, deserialize_legacyEmptyPinPage] at hdes
    exact bootPinAssignments_ne_nil (Except.ok.inj hdes).symm

/-- The first board has a page that it does not parse written and burned: the data is in flash, and
the pin-assignment page is as it booted. -/
theorem exists_burned_page_ecuV1 (P : Platform) (A : Catalogue) (pageId : UInt8) (data : Bytes)
    (hlen : pageLengthAt pageId.toNat = some data.length) (hpin : pageId ≠ pinPageId)
    (hbase : pageId ≠ basePageId) : ∃ before, Reachable P A before ∧
      before.store.readFlashPage pageId = some data ∧
      before.store.readFlashPage pinPageId = some bootPinPage ∧
      before.store.needsBurn pinPageId = some false := by
  obtain ⟨r, hr, hplain, -⟩ := exists_new_ecuV1 P
  have hbooted := booted_of_newWithStore ConfigStore.wellFormed_newZeroed hr
  have hreach : Reachable P A r := .of_boot .newZeroed hr
  have hwritten := hreach.step (step_of r (writePageInput P pageId data))
  rw [of_writePage hreach.sound hplain hlen hpin hbase] at hwritten
  obtain ⟨old, hold, -⟩ := hreach.sound.store.exists_readPage pageId hlen
  have hpage : (r.store.withRam pageId data).readPage pageId = some data :=
    ConfigStore.readPage_withRam_self _ _ _ hold
  have hburned := hwritten.step (step_of _ (burnPageInput pageId))
  rw [(of_burnPage hwritten.sound hpage).2] at hburned
  obtain ⟨-, hram, -, hother, hflash, -⟩ := hwritten.sound.store.burnPage_spec hpage
  have hpinFlash : ((r.store.withRam pageId data).burnPage P pageId).1.readFlashPage pinPageId =
      some bootPinPage := by
    rw [ConfigStore.readFlashPage, hother pinPageId hpin.symm]
    exact hbooted.readFlashPage_pin
  have hpinRam : ((r.store.withRam pageId data).burnPage P pageId).1.readPage pinPageId =
      some bootPinPage := by
    rw [ConfigStore.readPage, hram]
    exact (ConfigStore.readPage_withRam_of_ne _ _ _ hpin.symm).trans hbooted.readPage_pin
  refine ⟨_, hburned, hflash, hpinFlash, ?_⟩
  rw [ConfigStore.needsBurn_eq hpinRam hpinFlash, bne_self_eq_false]

/-- The first board has another page written and burned and is switched off: nothing is lost. -/
theorem reboot_preserves_ecuV1 :
    ∃ before r, Reachable referencePlatform referenceCatalogue before ∧
      before.store.readFlashPage 5 = some (List.replicate 512 7) ∧
      newWithStore referencePlatform .ecuV1 false before.store = some r ∧
      r.PreservesFlash before.store ∧ r.pinAssignments = before.pinAssignments := by
  obtain ⟨before, hreach, hflash, hpin, hburned⟩ :=
    exists_burned_page_ecuV1 referencePlatform referenceCatalogue 5 (List.replicate 512 7)
      (by rw [List.length_replicate]; rfl) (by decide) (by decide)
  obtain ⟨r, ram, flash, hr, -, -, hiff⟩ := reboot_preserves_iff hreach.store .ecuV1 false
  obtain ⟨hpreserves, hpins⟩ := hiff.mpr ⟨hpin, fun hcrypto => absurd hcrypto (by decide)⟩
  exact ⟨before, r, hreach, hflash, hr, hpreserves, hpins before hreach rfl hburned⟩

end StEcu
