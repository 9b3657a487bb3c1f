import StEcu.Config.Invariant

/-!
# Sequences of store operations

Restoring a page and importing an image copy into a RAM page with `copy_from_slice`, which stops the
program when the two lengths differ. The operations that do so are stated once more with that case,
`none` standing for a program that stopped. No sequence of operations on an erased store gets there:
the representation invariant holds after every operation, whether it succeeds or fails.

## Main definitions

* `copyFromSlice`, `ConfigStore.restorePageFromFlashOrPanic`,
  `ConfigStore.importPersistedPageImageOrPanic`.
* `StoreOp`, `StoreOp.apply`, `ConfigStore.Reached`.
* `ConfigStore.Represented`: the representation invariant, field by field.

## Main results

* `ConfigStore.store_represented`: the invariant after every sequence of operations, and what
  follows from it.
-/

namespace StEcu

/-- `copy_from_slice`: the new contents of the destination, or `none` where the lengths differ. -/
def copyFromSlice (destination source : Bytes) : Option Bytes :=
  if destination.length = source.length then some source else none

namespace ConfigStore

variable (P : Platform) (s : ConfigStore)

/-- Restoring a page, with the panic of `copy_from_slice` on a page of another length. -/
def restorePageFromFlashOrPanic (pageId : UInt8) :
    Option (Except ConfigStoreError ConfigStore) :=
  match s.flashSlots[pageId.toNat]? with
  | none => some (.error .invalidPageId)
  | some slot =>
    match slot.committed with
    | none => some (.error .noValidFlashImage)
    | some image =>
      match s.ramPages[pageId.toNat]? with
      | none => some (.error .invalidPageId)
      | some ram => (copyFromSlice ram image.payload).map fun ram =>
        .ok { s with ramPages := s.ramPages.set pageId.toNat ram }

/-- Importing an image, with the panic of `copy_from_slice` on a page of another length. -/
def importPersistedPageImageOrPanic (pageId : UInt8) (rawImage : Bytes) :
    Option (ConfigStore × Except ConfigStoreError ConfigMigrationReport) :=
  match s.pageLength pageId with
  | none => some (s, .error .invalidPageId)
  | some expectedLength =>
    match decodeStoredPageImage P rawImage with
    | .error error => some (s, .error (.flashImageInvalid error))
    | .ok decoded =>
      if decoded.header.pageId ≠ pageId then
        some (s, .error (.pageIdMismatch pageId decoded.header.pageId))
      else
        match migratePayloadToCurrentVersions pageId decoded expectedLength with
        | .error error => some (s, .error (.migrationFailed error))
        | .ok (migratedPayload, schemaSteps, formatSteps) =>
          match s.flashSlots[pageId.toNat]? with
          | none => some (s, .error .invalidPageId)
          | some slot =>
            let slot := slot.replaceRawImage P (encodeStoredPageImageWithVersions P pageId
              decoded.header.generation schemaVersion configFormatVersion migratedPayload)
            let s := { s with flashSlots := s.flashSlots.set pageId.toNat slot }
            if slot.committed.isNone then some (s, .error .noValidFlashImage)
            else
              match s.ramPages[pageId.toNat]? with
              | none => some (s, .error .invalidPageId)
              | some ram => (copyFromSlice ram migratedPayload).map fun ram =>
                ({ s with ramPages := s.ramPages.set pageId.toNat ram },
                  .ok
                    { pageId
                      fromSchemaVersion := decoded.header.schemaVersion
                      toSchemaVersion := schemaVersion
                      fromFormatVersion := decoded.header.formatVersion
                      toFormatVersion := configFormatVersion
                      schemaSteps, formatSteps
                      migrated := schemaSteps > 0 || formatSteps > 0 ||
                        decoded.header.schemaVersion != schemaVersion ||
                        decoded.header.formatVersion != configFormatVersion })

variable {P s}

/-- Where the invariant holds, restoring a page does not stop the program. -/
theorem WellFormed.restorePageFromFlashOrPanic_eq (h : s.WellFormed P) (pageId : UInt8) :
    s.restorePageFromFlashOrPanic pageId = some (s.restorePageFromFlash pageId) := by
  rw [restorePageFromFlashOrPanic, restorePageFromFlash]
  cases hram : s.readPage pageId with
  | none =>
    have hnone : s.ramPages[pageId.toNat]? = none := hram
    cases s.flashSlots[pageId.toNat]? with
    | none => rfl
    | some slot => cases hcommitted : slot.committed <;> simp only [hcommitted, hnone]
  | some ram =>
    have hsome : s.ramPages[pageId.toNat]? = some ram := hram
    obtain ⟨slot, generation, payload, hslot, hholds, hlen⟩ :=
      h.exists_slot (h.length_readPage hram)
    simp only [hslot, hholds.2, hsome, copyFromSlice, hlen, if_pos, Option.map_some]

/-- Importing an image does not stop the program: the migration has checked the length. -/
theorem importPersistedPageImageOrPanic_eq (pageId : UInt8) (rawImage : Bytes) :
    s.importPersistedPageImageOrPanic P pageId rawImage =
      some (s.importPersistedPageImage P pageId rawImage) := by
  rw [importPersistedPageImageOrPanic, importPersistedPageImage]
  cases hram : s.readPage pageId with
  | none =>
    have hnone : s.pageLength pageId = none := by
      rw [pageLength, show s.ramPages[pageId.toNat]? = none from hram]
      rfl
    rw [hnone]
  | some ram =>
    have hsome : s.ramPages[pageId.toNat]? = some ram := hram
    have hlength : s.pageLength pageId = some ram.length := by
      rw [pageLength, hsome]
      rfl
    rw [hlength]
    simp only [hsome]
    cases hdecode : decodeStoredPageImage P rawImage with
    | error e => rfl
    | ok decoded =>
      by_cases hid : decoded.header.pageId ≠ pageId
      · simp only [if_pos hid]
      · simp only [if_neg hid]
        cases hmigrate : migratePayloadToCurrentVersions pageId decoded ram.length with
        | error e => rfl
        | ok r =>
          obtain ⟨payload, schemaSteps, formatSteps⟩ := r
          have hcopy : copyFromSlice ram payload = some payload :=
            if_pos (length_of_migratePayload hmigrate).symm
          cases s.flashSlots[pageId.toNat]? with
          | none => rfl
          | some slot =>
            simp only [hcopy, Option.map_some]
            split_ifs <;> rfl

end ConfigStore

/-- The operations of the store that change it. -/
inductive StoreOp
  | writePage (pageId : UInt8) (data : Bytes)
  | burnPage (pageId : UInt8)
  | burnAllDirty
  | restorePageFromFlash (pageId : UInt8)
  | importPersistedPageImage (pageId : UInt8) (rawImage : Bytes)
  | writeFlashResumeScratch (scratch : FlashResumeScratch)
  | clearFlashResumeScratch
  deriving DecidableEq, Repr

/-- The store that an operation leaves behind, whether it succeeds or fails; `none` where it stops
the program. -/
def StoreOp.apply (P : Platform) (s : ConfigStore) : StoreOp → Option ConfigStore
  | writePage pageId data => some ((s.writePage pageId data).toOption.getD s)
  | burnPage pageId => some (s.burnPage P pageId).1
  | burnAllDirty => some (s.burnAllDirty P).1
  | restorePageFromFlash pageId =>
    (s.restorePageFromFlashOrPanic pageId).map fun result => result.toOption.getD s
  | importPersistedPageImage pageId rawImage =>
    (s.importPersistedPageImageOrPanic P pageId rawImage).map Prod.fst
  | writeFlashResumeScratch scratch => some (s.writeFlashResumeScratch scratch)
  | clearFlashResumeScratch => some s.clearFlashResumeScratch

namespace ConfigStore

variable (P : Platform) (s : ConfigStore)

/-- The store comes about from an erased one by some sequence of operations. -/
def Reached : Prop := ∃ ops : List StoreOp, ops.foldlM (StoreOp.apply P) (newZeroed P) = some s

/-- The representation invariant, field by field. -/
structure Represented : Prop where
  ram : s.ramPages.map List.length = pageDirectory.map fun entry => entry.byteLength.toNat
  size : s.flashSlots.length = pageDirectory.length
  slot : ∀ (i : ℕ) (entry : PageDirectoryEntry), pageDirectory[i]? = some entry →
    ∃ slot image, s.flashSlots[i]? = some slot ∧ slot.committed = some image ∧
      slot.committed = (decodeStoredPageImage P slot.rawImage).toOption ∧
      image.header.pageId.toNat = i ∧ image.header.schemaVersion = schemaVersion ∧
      image.header.formatVersion = configFormatVersion ∧
      image.payload.length = entry.byteLength.toNat

variable {P s}

theorem WellFormed.represented (h : s.WellFormed P) : s.Represented P where
  ram := by
    refine List.ext_getElem? fun i => ?_
    rw [List.getElem?_map, List.getElem?_map, h.ram i]
    rfl
  size := h.size
  slot i entry hentry := by
    have hn : pageLengthAt i = some entry.byteLength.toNat := by
      rw [pageLengthAt, hentry]
      rfl
    have hi : i < 10 := by
      by_contra hi
      rw [pageLengthAt_eq_none_iff.mpr (by omega)] at hn
      cases hn
    obtain ⟨slot, generation, payload, hslot, ⟨hraw, hcommitted⟩, hlen⟩ := h.slot i _ hn
    refine ⟨slot, _, hslot, hcommitted, ?_, ?_, rfl, rfl, hlen⟩
    · rw [hcommitted, hraw]
      refine (decodedImage_encode ?_).symm
      rw [hlen]
      exact Nat.le_trans (pageLengthAt_le hn) (by decide)
    · change (UInt8.ofNat i).toNat = i
      rw [UInt8.toNat_ofNat']
      omega

/-- An operation keeps the invariant and does not stop the program. -/
theorem WellFormed.apply (h : s.WellFormed P) (op : StoreOp) :
    ∃ s', op.apply P s = some s' ∧ s'.WellFormed P := by
  cases op with
  | writePage pageId data =>
    refine ⟨_, rfl, ?_⟩
    cases hw : s.writePage pageId data with
    | error e => exact h
    | ok s' => exact h.write hw
  | burnPage pageId => exact ⟨_, rfl, h.burn pageId⟩
  | burnAllDirty => exact ⟨_, rfl, h.burnAll⟩
  | restorePageFromFlash pageId =>
    rw [StoreOp.apply, h.restorePageFromFlashOrPanic_eq]
    refine ⟨_, rfl, ?_⟩
    cases hr : s.restorePageFromFlash pageId with
    | error e => exact h
    | ok s' => exact h.restore hr
  | importPersistedPageImage pageId rawImage =>
    rw [StoreOp.apply, importPersistedPageImageOrPanic_eq]
    exact ⟨_, rfl, h.importImage pageId rawImage⟩
  | writeFlashResumeScratch scratch => exact ⟨_, rfl, h.withScratch _⟩
  | clearFlashResumeScratch => exact ⟨_, rfl, h.withScratch _⟩

theorem WellFormed.foldlM (h : s.WellFormed P) (ops : List StoreOp) :
    ∃ s', ops.foldlM (StoreOp.apply P) s = some s' ∧ s'.WellFormed P := by
  induction ops generalizing s with
  | nil => exact ⟨s, rfl, h⟩
  | cons op ops ih =>
    obtain ⟨s₁, hs₁, h₁⟩ := h.apply op
    obtain ⟨s', hs', h'⟩ := ih h₁
    exact ⟨s', by rw [List.foldlM_cons, hs₁]; exact hs', h'⟩

theorem Reached.wellFormed (h : s.Reached P) : s.WellFormed P := by
  obtain ⟨ops, hops⟩ := h
  obtain ⟨s', hs', h'⟩ := (wellFormed_newZeroed (P := P)).foldlM ops
  rw [hops] at hs'
  cases hs'
  exact h'

/-- Restoring a page that has just been burned changes nothing. -/
theorem WellFormed.restore_burnPage (h : s.WellFormed P) {pageId : UInt8} {ram : Bytes}
    (hram : s.readPage pageId = some ram) :
    (s.burnPage P pageId).1.restorePageFromFlash pageId = .ok (s.burnPage P pageId).1 := by
  obtain ⟨slot, generation, payload, hslot, -, -, heq⟩ := h.burnPage_eq hram
  rw [heq]
  have hslot' := getElem?_withSlot_self s pageId (slot.burned P pageId generation ram) hslot
  have hram' : (s.withSlot pageId (slot.burned P pageId generation ram)).ramPages[pageId.toNat]? =
      some ram := hram
  rw [restorePageFromFlash, hslot']
  simp only [(slot.burned_holds P pageId generation ram).2, hram']
  exact congrArg Except.ok (withRam_eq_self _ pageId ram hram')

/-- **The representation invariant.** Every sequence of operations on an erased store runs to its
end, and then the invariant holds, no restore and no import stops the program, and burning a page
of the directory succeeds and leaves RAM as a restore would. -/
theorem store_represented (P : Platform) (ops : List StoreOp) :
    ∃ s, ops.foldlM (StoreOp.apply P) (newZeroed P) = some s ∧ s.Represented P ∧
      (∀ pageId, s.restorePageFromFlashOrPanic pageId ≠ none) ∧
      (∀ pageId rawImage, s.importPersistedPageImageOrPanic P pageId rawImage ≠ none) ∧
      ∀ pageId, pageId.toNat < pageDirectory.length →
        (s.burnPage P pageId).2 = .ok () ∧ (s.burnPage P pageId).1.ramPages = s.ramPages ∧
          ∃ s', (s.burnPage P pageId).1.restorePageFromFlash pageId = .ok s' ∧
            s'.ramPages = s.ramPages := by
  obtain ⟨s, hs, h⟩ := (wellFormed_newZeroed (P := P)).foldlM ops
  refine ⟨s, hs, h.represented, fun pageId => ?_, fun pageId rawImage => ?_, fun pageId hid => ?_⟩
  · rw [h.restorePageFromFlashOrPanic_eq]
    exact Option.some_ne_none _
  · rw [importPersistedPageImageOrPanic_eq]
    exact Option.some_ne_none _
  · obtain ⟨n, hn⟩ := exists_pageLengthAt hid
    obtain ⟨ram, hram, -⟩ := h.exists_readPage pageId hn
    obtain ⟨hok, hpages, -⟩ := h.burnPage_spec hram
    exact ⟨hok, hpages, _, h.restore_burnPage hram, hpages⟩

end ConfigStore

end StEcu
