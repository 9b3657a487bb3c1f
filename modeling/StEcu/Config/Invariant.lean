import StEcu.Config.Store

/-!
# The representation invariant of the configuration store

Every RAM page has the length of its directory entry, and every flash slot holds the encoding of a
committed image of its own page, in the current versions and of the page's length. All operations
of the store keep this.

For a store in this state an operation has a plain meaning: writing replaces a RAM page, burning
copies a RAM page to flash and counts the generation up, and neither touches any other page.

## Main definitions

* `FlashPageSlot.Holds`, `ConfigStore.WellFormed`.

## Main results

* `ConfigStore.wellFormed_newZeroed` and the preservation lemmas `ConfigStore.WellFormed.write`, ….
* `ConfigStore.WellFormed.burnPage_eq`: burning always succeeds on a page of the directory.
-/

namespace StEcu

/-- The length of the page with a given number. -/
def pageLengthAt (i : ℕ) : Option ℕ := (pageDirectory[i]?).map fun entry => entry.byteLength.toNat

theorem pageLengthAt_eq_none_iff {i : ℕ} : pageLengthAt i = none ↔ 10 ≤ i := by
  rw [pageLengthAt, Option.map_eq_none_iff, List.getElem?_eq_none_iff]
  rfl

theorem exists_pageLengthAt {i : ℕ} (h : i < pageDirectory.length) :
    ∃ n, pageLengthAt i = some n := by
  rw [← Option.ne_none_iff_exists', ne_eq, pageLengthAt_eq_none_iff]
  exact Nat.not_le_of_lt h

theorem pageLengthAt_le {i n : ℕ} (h : pageLengthAt i = some n) : n ≤ 1024 := by
  have hi : i < 10 := by
    by_contra hi
    rw [pageLengthAt_eq_none_iff.mpr (by omega)] at h
    cases h
  have hall : ∀ i < 10, ∀ n ∈ pageLengthAt i, n ≤ 1024 := by decide
  exact hall i hi n (Option.mem_def.mpr h)

variable (P : Platform)

/-- A slot that holds a committed image of a page, encoded in the current versions. -/
def FlashPageSlot.Holds (slot : FlashPageSlot) (pageId : UInt8) (generation : UInt32)
    (payload : Bytes) : Prop :=
  slot.rawImage = encodeStoredPageImage P pageId generation payload ∧
    slot.committed = some ⟨buildPageHeader P pageId generation payload, payload⟩

/-- The generation that burning gives to the image of a slot. -/
def FlashPageSlot.nextGeneration (slot : FlashPageSlot) : UInt32 :=
  match slot.committed with
  | none => 0
  | some image => image.header.generation.saturatingAdd 1

/-- The slot after its page was burned with the given contents. -/
def FlashPageSlot.rewritten (slot : FlashPageSlot) (pageId : UInt8) (ram : Bytes) :
    FlashPageSlot where
  rawImage := encodeStoredPageImage P pageId slot.nextGeneration ram
  committed := some ⟨buildPageHeader P pageId slot.nextGeneration ram, ram⟩
  eraseCycles := slot.eraseCycles.saturatingAdd 1

/-- The slot after its page was burned, where its image was of the given generation. -/
def FlashPageSlot.burned (slot : FlashPageSlot) (pageId : UInt8) (generation : UInt32)
    (ram : Bytes) : FlashPageSlot where
  rawImage := encodeStoredPageImage P pageId (generation.saturatingAdd 1) ram
  committed := some ⟨buildPageHeader P pageId (generation.saturatingAdd 1) ram, ram⟩
  eraseCycles := slot.eraseCycles.saturatingAdd 1

theorem FlashPageSlot.burned_holds (slot : FlashPageSlot) (pageId : UInt8) (generation : UInt32)
    (ram : Bytes) : (slot.burned P pageId generation ram).Holds P pageId
      (generation.saturatingAdd 1) ram :=
  ⟨rfl, rfl⟩

theorem FlashPageSlot.Holds.rewritten_eq {P : Platform} {slot : FlashPageSlot} {pageId : UInt8}
    {generation : UInt32} {payload : Bytes} (h : slot.Holds P pageId generation payload)
    (ram : Bytes) : slot.rewritten P pageId ram = slot.burned P pageId generation ram := by
  have hnext : slot.nextGeneration = generation.saturatingAdd 1 := by
    rw [FlashPageSlot.nextGeneration, h.2]
    rfl
  rw [FlashPageSlot.rewritten, hnext, FlashPageSlot.burned]

/-- The slot after an image with the given contents was imported. -/
def FlashPageSlot.imported (slot : FlashPageSlot) (pageId : UInt8) (generation : UInt32)
    (payload : Bytes) : FlashPageSlot where
  rawImage := encodeStoredPageImage P pageId generation payload
  committed := some ⟨buildPageHeader P pageId generation payload, payload⟩
  eraseCycles := slot.eraseCycles

theorem FlashPageSlot.imported_holds (slot : FlashPageSlot) (pageId : UInt8) (generation : UInt32)
    (payload : Bytes) :
    (slot.imported P pageId generation payload).Holds P pageId generation payload :=
  ⟨rfl, rfl⟩

/-- The report of an import, from the header of its image and the steps of its migration. -/
def ConfigMigrationReport.ofMigration (pageId : UInt8) (header : ConfigPageHeader)
    (schemaSteps : UInt16) (formatSteps : UInt8) : ConfigMigrationReport where
  pageId
  fromSchemaVersion := header.schemaVersion
  toSchemaVersion := schemaVersion
  fromFormatVersion := header.formatVersion
  toFormatVersion := configFormatVersion
  schemaSteps
  formatSteps
  migrated := schemaSteps > 0 || formatSteps > 0 || header.schemaVersion != schemaVersion ||
    header.formatVersion != configFormatVersion

namespace ConfigStore

/-- The representation invariant. -/
structure WellFormed (s : ConfigStore) : Prop where
  ram : ∀ i : ℕ, (s.ramPages[i]?).map List.length = pageLengthAt i
  size : s.flashSlots.length = pageDirectory.length
  slot : ∀ (i : ℕ) (n : ℕ), pageLengthAt i = some n → ∃ slot generation payload,
    s.flashSlots[i]? = some slot ∧ slot.Holds P (UInt8.ofNat i) generation payload ∧
      payload.length = n

variable {P}

theorem decodedImage_encode {pageId : UInt8} {generation : UInt32} {payload : Bytes}
    (h : payload.length ≤ 0xFFFF) :
    decodedImage P (encodeStoredPageImage P pageId generation payload) =
      some ⟨buildPageHeader P pageId generation payload, payload⟩ := by
  rw [decodedImage, encodeStoredPageImage, decode_encodeStoredPageImageWithVersions (by decide) h]
  rfl

theorem zeroed_holds (pageId : UInt8) {n : ℕ} (hn : n ≤ 0xFFFF) :
    (FlashPageSlot.zeroed P pageId n).Holds P pageId 0 (List.replicate n 0) := by
  refine ⟨rfl, ?_⟩
  simp only [FlashPageSlot.zeroed]
  exact decodedImage_encode (by simpa using hn)

theorem slot_newZeroed {i n : ℕ} (h : pageLengthAt i = some n) :
    (newZeroed P).flashSlots[i]? = some (FlashPageSlot.zeroed P (UInt8.ofNat i) n) := by
  obtain ⟨entry, hentry, rfl⟩ := Option.map_eq_some_iff.mp h
  have hi : i < 10 := by
    by_contra hi
    rw [List.getElem?_eq_none (by simpa [pageDirectory] using hi)] at hentry
    cases hentry
  have hall : ∀ i < 10, ∀ entry ∈ pageDirectory[i]?, entry.id = UInt8.ofNat i := by decide
  simp [newZeroed, hentry, hall i hi entry (Option.mem_def.mpr hentry)]

theorem wellFormed_newZeroed : (newZeroed P).WellFormed P where
  ram i := by
    simp only [newZeroed, List.getElem?_map, Option.map_map, pageLengthAt]
    congr 1
    funext entry
    simp
  size := by simp [newZeroed]
  slot i n h := ⟨_, 0, List.replicate n 0, slot_newZeroed h,
    zeroed_holds _ (Nat.le_trans (pageLengthAt_le h) (by decide)), by simp⟩

section Ram

variable {s : ConfigStore} (hram : ∀ i : ℕ, (s.ramPages[i]?).map List.length = pageLengthAt i)
include hram

theorem length_readPage_of_ram {pageId : UInt8} {page : Bytes}
    (hp : s.readPage pageId = some page) : pageLengthAt pageId.toNat = some page.length := by
  have hlen := hram pageId.toNat
  rw [show s.ramPages[pageId.toNat]? = some page from hp] at hlen
  exact hlen.symm

theorem exists_readPage_of_ram (pageId : UInt8) {n : ℕ} (hn : pageLengthAt pageId.toNat = some n) :
    ∃ page, s.readPage pageId = some page ∧ page.length = n := by
  have hlen := hram pageId.toNat
  rw [hn] at hlen
  exact Option.map_eq_some_iff.mp hlen

end Ram

namespace WellFormed

variable {s : ConfigStore} (h : s.WellFormed P)
include h

theorem pageLength_eq (pageId : UInt8) : s.pageLength pageId = pageLengthAt pageId.toNat :=
  h.ram pageId.toNat

theorem length_readPage {pageId : UInt8} {page : Bytes} (hp : s.readPage pageId = some page) :
    pageLengthAt pageId.toNat = some page.length :=
  length_readPage_of_ram h.ram hp

theorem exists_readPage (pageId : UInt8) {n : ℕ} (hn : pageLengthAt pageId.toNat = some n) :
    ∃ page, s.readPage pageId = some page ∧ page.length = n :=
  exists_readPage_of_ram h.ram pageId hn

theorem exists_slot {pageId : UInt8} {n : ℕ} (hn : pageLengthAt pageId.toNat = some n) :
    ∃ slot generation payload, s.flashSlots[pageId.toNat]? = some slot ∧
      slot.Holds P pageId generation payload ∧ payload.length = n := by
  have hslot := h.slot pageId.toNat n hn
  rwa [UInt8.ofNat_toNat] at hslot

end WellFormed

/-! ### Replacing one page or one slot -/

/-- The store with one RAM page replaced. -/
def withRam (s : ConfigStore) (pageId : UInt8) (data : Bytes) : ConfigStore :=
  { s with ramPages := s.ramPages.set pageId.toNat data }

/-- The store with one flash slot replaced. -/
def withSlot (s : ConfigStore) (pageId : UInt8) (slot : FlashPageSlot) : ConfigStore :=
  { s with flashSlots := s.flashSlots.set pageId.toNat slot }

section Views

variable (s : ConfigStore) (pageId : UInt8) (data : Bytes) (slot : FlashPageSlot)

@[simp] theorem flashPageGeneration_withRam (q : UInt8) :
    (s.withRam pageId data).flashPageGeneration q = s.flashPageGeneration q := rfl

theorem getElem?_withRam (q : UInt8) :
    (s.withRam pageId data).ramPages[q.toNat]? =
      if pageId = q then (s.readPage q).map fun _ => data else s.readPage q := by
  by_cases hpq : pageId = q
  · subst hpq
    rw [withRam, List.getElem?_set_self', if_pos rfl, readPage]
    cases s.ramPages[pageId.toNat]? <;> rfl
  · rw [withRam, List.getElem?_set_ne fun h => hpq (UInt8.toNat_inj.mp h), if_neg hpq, readPage]

theorem readPage_withRam_of_ne {q : UInt8} (hq : q ≠ pageId) :
    (s.withRam pageId data).readPage q = s.readPage q := by
  rw [readPage, getElem?_withRam, if_neg hq.symm]

theorem readPage_withRam_self {page : Bytes} (hp : s.readPage pageId = some page) :
    (s.withRam pageId data).readPage pageId = some data := by
  rw [readPage, getElem?_withRam, if_pos rfl, hp]
  rfl

@[simp] theorem withRam_withRam (data' : Bytes) :
    (s.withRam pageId data).withRam pageId data' = s.withRam pageId data' := by
  simp only [withRam, List.set_set]

theorem withRam_eq_self (hp : s.readPage pageId = some data) : s.withRam pageId data = s := by
  have hset : s.ramPages.set pageId.toNat data = s.ramPages := by
    refine List.ext_getElem? fun i => ?_
    by_cases hi : pageId.toNat = i
    · subst hi
      rw [List.getElem?_set_self', show s.ramPages[pageId.toNat]? = some data from hp]
      rfl
    · rw [List.getElem?_set_ne hi]
  rw [withRam, hset]

theorem getElem?_withSlot_of_ne {q : UInt8} (hq : q ≠ pageId) :
    (s.withSlot pageId slot).flashSlots[q.toNat]? = s.flashSlots[q.toNat]? :=
  List.getElem?_set_ne fun h => hq (UInt8.toNat_inj.mp h).symm

theorem getElem?_withSlot_self {old : FlashPageSlot} (hp : s.flashSlots[pageId.toNat]? = some old) :
    (s.withSlot pageId slot).flashSlots[pageId.toNat]? = some slot := by
  rw [withSlot, List.getElem?_set_self', hp]
  rfl

end Views

/-- Replacing a RAM page by one of the right length. -/
theorem ram_withRam {s : ConfigStore} (hram : ∀ i : ℕ, (s.ramPages[i]?).map List.length =
    pageLengthAt i) {pageId : UInt8} {data : Bytes}
    (hdata : pageLengthAt pageId.toNat = some data.length) (i : ℕ) :
    ((s.withRam pageId data).ramPages[i]?).map List.length = pageLengthAt i := by
  by_cases hi : pageId.toNat = i
  · subst hi
    obtain ⟨page, hp, -⟩ := exists_readPage_of_ram hram pageId hdata
    rw [withRam, List.getElem?_set_self',
      show s.ramPages[pageId.toNat]? = some page from hp, hdata]
    rfl
  · rw [withRam, List.getElem?_set_ne hi, hram i]

/-! ### The operations on well-formed stores -/

theorem writePage_eq_ok_iff {s s' : ConfigStore} {pageId : UInt8} {data : Bytes} :
    s.writePage pageId data = .ok s' ↔
      (∃ page, s.readPage pageId = some page ∧ page.length = data.length) ∧
        s' = s.withRam pageId data := by
  rw [writePage, readPage]
  cases s.ramPages[pageId.toNat]? with
  | none => simp
  | some page =>
    by_cases hlen : page.length = data.length
    · simp [hlen, withRam, eq_comm]
    · simp [hlen]

theorem burnPage_of_readPage_eq_none {s : ConfigStore} {pageId : UInt8}
    (hnone : s.readPage pageId = none) : s.burnPage P pageId = (s, .error .invalidPageId) := by
  rw [burnPage, show s.ramPages[pageId.toNat]? = none from hnone]

/-- A page of the directory that has a slot is burned into it; nothing else changes. -/
theorem burnPage_of_slot {s : ConfigStore} {pageId : UInt8} {ram : Bytes} {slot : FlashPageSlot}
    (hn : pageLengthAt pageId.toNat = some ram.length) (hram : s.readPage pageId = some ram)
    (hslot : s.flashSlots[pageId.toNat]? = some slot) :
    s.burnPage P pageId = (s.withSlot pageId (slot.rewritten P pageId ram), .ok ()) := by
  have hdec (generation : UInt32) : decodedImage P (encodeStoredPageImage P pageId generation ram) =
      some ⟨buildPageHeader P pageId generation ram, ram⟩ :=
    decodedImage_encode (Nat.le_trans (pageLengthAt_le hn) (by decide))
  rw [burnPage, show s.ramPages[pageId.toNat]? = some ram from hram, hslot]
  simp only [FlashPageSlot.replaceRawImage, hdec, FlashPageSlot.rewritten, ConfigStore.withSlot,
    FlashPageSlot.nextGeneration]
  rfl

/-- What burning a page keeps is kept by burning one page after the other. -/
theorem burnPages_invariant {I : ConfigStore → Prop}
    (hI : ∀ s pageId, I s → I (s.burnPage P pageId).1) {s : ConfigStore} (h : I s)
    (pageIds : List UInt8) (n : ℕ) :
    I (pageIds.foldl (fun (p : ConfigStore × ℕ) pageId =>
      match p.1.burnPage P pageId with
      | (s, .ok ()) => (s, p.2 + 1)
      | (s, .error _) => (s, p.2)) (s, n)).1 := by
  induction pageIds generalizing s n with
  | nil => exact h
  | cons pageId pageIds ih =>
    rw [List.foldl_cons]
    have hburn := hI s pageId h
    split
    · next s' hs => exact ih (by rwa [hs] at hburn) (n + 1)
    · next s' e hs => exact ih (by rwa [hs] at hburn) n

/-- What a reader of flash sees in a slot that holds an image. -/
theorem flash_of_holds {s : ConfigStore} {pageId : UInt8} {slot : FlashPageSlot}
    {generation : UInt32} {payload : Bytes} (hslot : s.flashSlots[pageId.toNat]? = some slot)
    (hholds : slot.Holds P pageId generation payload) :
    s.readFlashPage pageId = some payload ∧ s.flashPageGeneration pageId = some generation := by
  rw [readFlashPage, flashPageGeneration, flashPageHeader, hslot]
  simp [hholds.2, buildPageHeader, buildPageHeaderWithVersions]

/-- The pages of an erased store are in their first generation. -/
theorem flashPageGeneration_newZeroed {pageId : UInt8} {n : ℕ}
    (h : pageLengthAt pageId.toNat = some n) :
    (newZeroed P).flashPageGeneration pageId = some 0 := by
  have hslot := slot_newZeroed (P := P) h
  rw [UInt8.ofNat_toNat] at hslot
  exact (flash_of_holds hslot
    (zeroed_holds pageId (Nat.le_trans (pageLengthAt_le h) (by decide)))).2

/-- A reader of flash sees nothing but the slot. -/
theorem flash_congr {s s' : ConfigStore} {pageId : UInt8}
    (h : s'.flashSlots[pageId.toNat]? = s.flashSlots[pageId.toNat]?) :
    s'.readFlashPage pageId = s.readFlashPage pageId ∧
      s'.flashPageGeneration pageId = s.flashPageGeneration pageId := by
  simp only [readFlashPage, flashPageGeneration, flashPageHeader, h, and_self]

/-- A page needs burning where RAM and flash differ. -/
theorem needsBurn_eq {s : ConfigStore} {pageId : UInt8} {ram flash : Bytes}
    (hram : s.readPage pageId = some ram) (hflash : s.readFlashPage pageId = some flash) :
    s.needsBurn pageId = some (flash != ram) := by
  obtain ⟨slot, hslot, hpayload⟩ := Option.bind_eq_some_iff.mp hflash
  obtain ⟨image, himage, rfl⟩ := Option.map_eq_some_iff.mp hpayload
  rw [needsBurn, show s.ramPages[pageId.toNat]? = some ram from hram, hslot]
  simp only [himage]

/-! ### Importing an image -/

section Import

variable {s : ConfigStore} (hram : ∀ i : ℕ, (s.ramPages[i]?).map List.length = pageLengthAt i)
include hram

/-- An image of the page that can be migrated is imported. -/
theorem importPersistedPageImage_of_ok {pageId : UInt8} {rawImage payload : Bytes}
    {image : StoredPageImage} {schemaSteps : UInt16} {formatSteps : UInt8} {slot : FlashPageSlot}
    (hn : pageLengthAt pageId.toNat = some payload.length)
    (hdecode : decodeStoredPageImage P rawImage = .ok image) (hid : image.header.pageId = pageId)
    (hmigrate : migratePayloadToCurrentVersions pageId image payload.length =
      .ok (payload, schemaSteps, formatSteps))
    (hslot : s.flashSlots[pageId.toNat]? = some slot) :
    s.importPersistedPageImage P pageId rawImage =
      ((s.withSlot pageId (slot.imported P pageId image.header.generation payload)).withRam pageId
          payload,
        .ok (ConfigMigrationReport.ofMigration pageId image.header schemaSteps formatSteps)) := by
  have hdec : decodedImage P (encodeStoredPageImage P pageId image.header.generation payload) =
      some ⟨buildPageHeader P pageId image.header.generation payload, payload⟩ :=
    decodedImage_encode (Nat.le_trans (pageLengthAt_le hn) (by decide))
  rw [encodeStoredPageImage] at hdec
  rw [importPersistedPageImage, show s.pageLength pageId = pageLengthAt pageId.toNat from hram _,
    hn]
  simp only [hdecode, if_neg (not_not.mpr hid), hmigrate, hslot, FlashPageSlot.replaceRawImage,
    hdec, Option.isNone_some, Bool.false_eq_true, ↓reduceIte]
  rfl

/-- **What importing an image does**: it fails and leaves the store as it was, or it succeeds and
puts the migrated payload into the RAM page and, encoded in the current versions, into the slot. -/
theorem importPersistedPageImage_cases (pageId : UInt8) (rawImage : Bytes) :
    (∃ error, s.importPersistedPageImage P pageId rawImage = (s, .error error)) ∨
      ∃ image payload schemaSteps formatSteps slot,
        decodeStoredPageImage P rawImage = .ok image ∧
        pageLengthAt pageId.toNat = some payload.length ∧
        migratePayloadToCurrentVersions pageId image payload.length =
          .ok (payload, schemaSteps, formatSteps) ∧
        s.flashSlots[pageId.toNat]? = some slot ∧
        s.importPersistedPageImage P pageId rawImage =
          ((s.withSlot pageId (slot.imported P pageId image.header.generation payload)).withRam
              pageId payload,
            .ok (ConfigMigrationReport.ofMigration pageId image.header schemaSteps
              formatSteps)) := by
  cases hn : s.pageLength pageId with
  | none =>
    rw [importPersistedPageImage, hn]
    exact .inl ⟨_, rfl⟩
  | some n =>
    cases hdecode : decodeStoredPageImage P rawImage with
    | error error =>
      rw [importPersistedPageImage, hn]
      simp only [hdecode]
      exact .inl ⟨_, rfl⟩
    | ok image =>
      by_cases hid : image.header.pageId = pageId
      · cases hmigrate : migratePayloadToCurrentVersions pageId image n with
        | error error =>
          rw [importPersistedPageImage, hn]
          simp only [hdecode, if_neg (not_not.mpr hid), hmigrate]
          exact .inl ⟨_, rfl⟩
        | ok result =>
          obtain ⟨payload, schemaSteps, formatSteps⟩ := result
          have hlen := length_of_migratePayload hmigrate
          subst hlen
          cases hslot : s.flashSlots[pageId.toNat]? with
          | none =>
            rw [importPersistedPageImage, hn]
            simp only [hdecode, if_neg (not_not.mpr hid), hmigrate, hslot]
            exact .inl ⟨_, rfl⟩
          | some slot =>
            have hn' : pageLengthAt pageId.toNat = some payload.length := (hram _).symm.trans hn
            exact .inr ⟨image, payload, schemaSteps, formatSteps, slot, rfl, hn', hmigrate, rfl,
              importPersistedPageImage_of_ok hram hn' hdecode hid hmigrate hslot⟩
      · rw [importPersistedPageImage, hn]
        simp only [hdecode, if_pos hid]
        exact .inl ⟨_, rfl⟩

end Import

namespace WellFormed

variable {s : ConfigStore} (h : s.WellFormed P)
include h

theorem exists_flash {pageId : UInt8} {page : Bytes} (hp : s.readPage pageId = some page) :
    ∃ generation payload, s.readFlashPage pageId = some payload ∧
      s.flashPageGeneration pageId = some generation ∧ payload.length = page.length := by
  obtain ⟨slot, generation, payload, hslot, hholds, hlen⟩ := h.exists_slot (h.length_readPage hp)
  obtain ⟨hread, hgen⟩ := flash_of_holds hslot hholds
  exact ⟨generation, payload, hread, hgen, hlen⟩

theorem withRam {pageId : UInt8} {data : Bytes}
    (hdata : pageLengthAt pageId.toNat = some data.length) :
    (s.withRam pageId data).WellFormed P where
  ram := ram_withRam h.ram hdata
  size := h.size
  slot := h.slot

theorem withSlot {pageId : UInt8} {slot : FlashPageSlot} {generation : UInt32} {payload : Bytes}
    (hslot : slot.Holds P pageId generation payload)
    (hlen : pageLengthAt pageId.toNat = some payload.length) :
    (s.withSlot pageId slot).WellFormed P where
  ram := h.ram
  size := by rw [ConfigStore.withSlot, List.length_set, h.size]
  slot i n hn := by
    by_cases hi : pageId.toNat = i
    · subst hi
      obtain ⟨old, -, -, hold, -⟩ := h.exists_slot hn
      rw [hlen, Option.some.injEq] at hn
      refine ⟨slot, generation, payload, getElem?_withSlot_self s pageId slot hold, ?_, hn⟩
      rwa [UInt8.ofNat_toNat]
    · rw [ConfigStore.withSlot, List.getElem?_set_ne hi]
      exact h.slot i n hn

theorem withScratch (scratch : Option FlashResumeScratch) :
    ({ s with flashResumeScratch := scratch } : ConfigStore).WellFormed P :=
  ⟨h.ram, h.size, h.slot⟩

theorem write {s' : ConfigStore} {pageId : UInt8} {data : Bytes}
    (hw : s.writePage pageId data = .ok s') : s'.WellFormed P := by
  obtain ⟨⟨page, hp, hlen⟩, rfl⟩ := writePage_eq_ok_iff.mp hw
  exact h.withRam (by rw [h.length_readPage hp, hlen])

/-- Burning a page of the directory always succeeds; only its slot changes. -/
theorem burnPage_eq {pageId : UInt8} {ram : Bytes} (hram : s.readPage pageId = some ram) :
    ∃ slot generation payload, s.flashSlots[pageId.toNat]? = some slot ∧
      slot.Holds P pageId generation payload ∧ payload.length = ram.length ∧
      s.burnPage P pageId = (s.withSlot pageId (slot.burned P pageId generation ram), .ok ()) := by
  have hn := h.length_readPage hram
  obtain ⟨slot, generation, payload, hslot, hholds, hlen⟩ := h.exists_slot hn
  refine ⟨slot, generation, payload, hslot, hholds, hlen, ?_⟩
  rw [burnPage_of_slot hn hram hslot, hholds.rewritten_eq]

/-- **What burning a page does**: it succeeds, copies the RAM page to flash, counts its generation
up, and changes nothing else. -/
theorem burnPage_spec {pageId : UInt8} {ram : Bytes} (hram : s.readPage pageId = some ram) :
    (s.burnPage P pageId).2 = .ok () ∧
      (s.burnPage P pageId).1.ramPages = s.ramPages ∧
      (s.burnPage P pageId).1.flashResumeScratch = s.flashResumeScratch ∧
      (∀ q ≠ pageId, (s.burnPage P pageId).1.flashSlots[q.toNat]? = s.flashSlots[q.toNat]?) ∧
      (s.burnPage P pageId).1.readFlashPage pageId = some ram ∧
      (s.burnPage P pageId).1.flashPageGeneration pageId =
        (s.flashPageGeneration pageId).map (UInt32.saturatingAdd · 1) := by
  obtain ⟨slot, generation, payload, hslot, hholds, -, heq⟩ := h.burnPage_eq hram
  obtain ⟨hread, hgen⟩ := flash_of_holds
    (getElem?_withSlot_self s pageId (slot.burned P pageId generation ram) hslot)
    (slot.burned_holds P pageId generation ram)
  rw [heq, (flash_of_holds hslot hholds).2]
  exact ⟨rfl, rfl, rfl, fun q hq => getElem?_withSlot_of_ne s pageId _ hq, hread, hgen⟩

theorem burn (pageId : UInt8) : (s.burnPage P pageId).1.WellFormed P := by
  cases hram : s.readPage pageId with
  | none => rwa [burnPage_of_readPage_eq_none hram]
  | some ram =>
    obtain ⟨slot, generation, payload, -, -, -, heq⟩ := h.burnPage_eq hram
    rw [heq]
    exact h.withSlot (slot.burned_holds P pageId generation ram) (h.length_readPage hram)

theorem burnAll : (s.burnAllDirty P).1.WellFormed P :=
  burnPages_invariant (fun _ pageId hs => hs.burn pageId) h _ _

theorem restore {s' : ConfigStore} {pageId : UInt8}
    (hr : s.restorePageFromFlash pageId = .ok s') : s'.WellFormed P := by
  cases hram : s.readPage pageId with
  | none =>
    have hnone : s.ramPages[pageId.toNat]? = none := hram
    rw [restorePageFromFlash] at hr
    split at hr
    · cases hr
    · split at hr
      · cases hr
      · rw [hnone] at hr
        cases hr
  | some ram =>
    have hsome : s.ramPages[pageId.toNat]? = some ram := hram
    have hn := h.length_readPage hram
    obtain ⟨slot, generation, payload, hslot, hholds, hlen⟩ := h.exists_slot hn
    rw [restorePageFromFlash, hslot] at hr
    simp only [hholds.2, hsome, Except.ok.injEq] at hr
    subst hr
    exact h.withRam (by rw [hn, hlen])

theorem importImage (pageId : UInt8) (rawImage : Bytes) :
    (s.importPersistedPageImage P pageId rawImage).1.WellFormed P := by
  obtain ⟨error, heq⟩ | ⟨image, payload, _, _, slot, -, hn, -, -, heq⟩ :=
    importPersistedPageImage_cases h.ram pageId rawImage
  · rwa [heq]
  · rw [heq]
    exact (h.withSlot (slot.imported_holds P pageId _ payload) hn).withRam hn

end WellFormed

end ConfigStore

end StEcu
