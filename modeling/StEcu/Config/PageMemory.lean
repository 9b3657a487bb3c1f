import StEcu.Config.Burning
import StEcu.Config.Operations
import StEcu.Foundation.StagedMemory

/-!
# The store as a memory of pages

What the operations of the store mean, without images, headers and slots: a store is a memory whose
cells are the pages, staged in RAM and committed in flash. A write that is accepted stages, a burn
commits, a restore reverts, an import that is accepted does both a stage and a commit. Whether an
operation is accepted, and what it stages, can be told from the operation alone.

## Main definitions

* `ConfigStore.memory`, `erasedMemory`.
* `importedPayload`: the payload that an image puts into a page.
* `StoreOp.memoryOps`: what an operation of the store means.

## Main results

* `ConfigStore.WellFormed.memory_apply`: every operation means what it should.
* `ConfigStore.store_follows_memory`: so does every sequence of operations.
-/

namespace StEcu

/-- The pages of a store, in RAM and in flash. -/
def ConfigStore.memory (s : ConfigStore) : StagedMemory UInt8 (Option Bytes) where
  staged := s.readPage
  committed := s.readFlashPage

/-- The pages of an erased store. -/
def erasedMemory : StagedMemory UInt8 (Option Bytes) where
  staged pageId := (pageLengthAt pageId.toNat).map fun n => List.replicate n 0
  committed pageId := (pageLengthAt pageId.toNat).map fun n => List.replicate n 0

variable (P : Platform)

/-- The payload that an image puts into a page, migrated to the current versions. -/
def importedPayload (pageId : UInt8) (rawImage : Bytes) : Option Bytes := do
  let expectedLength ← pageLengthAt pageId.toNat
  let image ← decodedImage P rawImage
  if image.header.pageId ≠ pageId then none
  else ((migratePayloadToCurrentVersions pageId image expectedLength).toOption).map Prod.fst

open StagedMemory in
/-- What an operation of the store does to the pages. -/
def StoreOp.memoryOps : StoreOp → List (Op UInt8 (Option Bytes))
  | writePage pageId data =>
    if pageLengthAt pageId.toNat = some data.length then [.stage pageId (some data)] else []
  | burnPage pageId => [.commit pageId]
  | burnAllDirty => (pageDirectory.map PageDirectoryEntry.id).map Op.commit
  | restorePageFromFlash pageId => [.revert pageId]
  | importPersistedPageImage pageId rawImage =>
    match importedPayload P pageId rawImage with
    | some payload => [.stage pageId (some payload), .commit pageId]
    | none => []
  | writeFlashResumeScratch _ | clearFlashResumeScratch => []

variable {P}

theorem Except.toOption_eq_some_iff {ε α : Type} {result : Except ε α} {a : α} :
    result.toOption = some a ↔ result = .ok a := by
  cases result <;> simp [Except.toOption]

theorem importedPayload_eq_some_iff {pageId : UInt8} {rawImage payload : Bytes} :
    importedPayload P pageId rawImage = some payload ↔
      ∃ image schemaSteps formatSteps, decodeStoredPageImage P rawImage = .ok image ∧
        image.header.pageId = pageId ∧ pageLengthAt pageId.toNat = some payload.length ∧
        migratePayloadToCurrentVersions pageId image payload.length =
          .ok (payload, schemaSteps, formatSteps) := by
  constructor
  · intro h
    obtain ⟨n, hn, h⟩ := Option.bind_eq_some_iff.mp h
    obtain ⟨image, himage, h⟩ := Option.bind_eq_some_iff.mp h
    by_cases hid : image.header.pageId ≠ pageId
    · rw [if_pos hid] at h
      cases h
    rw [if_neg hid] at h
    obtain ⟨⟨payload', schemaSteps, formatSteps⟩, hmigrate, rfl⟩ := Option.map_eq_some_iff.mp h
    rw [decodedImage, Except.toOption_eq_some_iff] at himage
    rw [Except.toOption_eq_some_iff] at hmigrate
    obtain rfl := length_of_migratePayload hmigrate
    exact ⟨image, schemaSteps, formatSteps, himage, not_not.mp hid, hn, hmigrate⟩
  · rintro ⟨image, schemaSteps, formatSteps, hdecode, hid, hn, hmigrate⟩
    simp [importedPayload, decodedImage, hn, hdecode, hid, hmigrate, Except.toOption]

namespace ConfigStore

variable {s : ConfigStore} {pageId : UInt8}

theorem memory_newZeroed : (newZeroed P).memory = erasedMemory := by
  have hslot (pageId : UInt8) : (newZeroed P).readFlashPage pageId =
      (pageLengthAt pageId.toNat).map fun n => List.replicate n 0 := by
    cases hn : pageLengthAt pageId.toNat with
    | none =>
      have hnone : (newZeroed P).flashSlots[pageId.toNat]? = none := by
        rw [List.getElem?_eq_none_iff, wellFormed_newZeroed.size]
        exact pageLengthAt_eq_none_iff.mp hn
      rw [readFlashPage, hnone]
      rfl
    | some n =>
      have hslot := slot_newZeroed (P := P) hn
      rw [UInt8.ofNat_toNat] at hslot
      exact (flash_of_holds hslot
        (zeroed_holds pageId (Nat.le_trans (pageLengthAt_le hn) (by decide)))).1
  refine StagedMemory.ext (funext fun pageId => ?_) (funext hslot)
  simp only [memory, erasedMemory, readPage, newZeroed, pageLengthAt, List.getElem?_map,
    Option.map_map]
  rfl

/-- A page is staged. -/
theorem memory_withRam {page : Bytes} (hpage : s.readPage pageId = some page) (data : Bytes) :
    (s.withRam pageId data).memory = s.memory.apply (.stage pageId (some data)) := by
  refine StagedMemory.ext (funext fun q => ?_) rfl
  by_cases hq : q = pageId
  · subst hq
    simpa [memory, StagedMemory.apply] using readPage_withRam_self s q data hpage
  · simpa [memory, StagedMemory.apply, Function.update_of_ne hq] using
      readPage_withRam_of_ne s pageId data hq

namespace WellFormed

variable (h : s.WellFormed P)
include h

/-- A page outside the directory is not in flash either. -/
theorem readFlashPage_eq_none (hram : s.readPage pageId = none) :
    s.flashSlots[pageId.toNat]? = none ∧ s.readFlashPage pageId = none := by
  have hn : pageLengthAt pageId.toNat = none := by
    rw [← h.pageLength_eq, pageLength, show s.ramPages[pageId.toNat]? = none from hram]
    rfl
  have hslot : s.flashSlots[pageId.toNat]? = none :=
    List.getElem?_eq_none (h.size ▸ pageLengthAt_eq_none_iff.mp hn)
  rw [readFlashPage, hslot]
  exact ⟨rfl, rfl⟩

/-- A page is committed. -/
theorem memory_burnPage (pageId : UInt8) :
    (s.burnPage P pageId).1.memory = s.memory.apply (.commit pageId) := by
  cases hram : s.readPage pageId with
  | none =>
    obtain ⟨-, hflash⟩ := h.readFlashPage_eq_none hram
    rw [burnPage_of_readPage_eq_none hram]
    refine StagedMemory.ext rfl ?_
    change s.readFlashPage = Function.update s.readFlashPage pageId (s.readPage pageId)
    rw [hram, ← hflash, Function.update_eq_self]
  | some ram =>
    obtain ⟨-, hpages, -, hother, hself, -⟩ := h.burnPage_spec hram
    refine StagedMemory.ext (funext fun q => ?_) (funext fun q => ?_)
    · simp only [memory, readPage, hpages, StagedMemory.apply]
    · by_cases hq : q = pageId
      · subst hq
        simpa [memory, StagedMemory.apply, hram] using hself
      · simpa [memory, StagedMemory.apply, Function.update_of_ne hq] using
          (flash_congr (hother q hq)).1

theorem memory_burnPages (pageIds : List UInt8) :
    (s.burnPages P pageIds).1.memory = s.memory.run (pageIds.map StagedMemory.Op.commit) := by
  induction pageIds generalizing s with
  | nil => rfl
  | cons pageId pageIds ih =>
    have hcons : (s.burnPages P (pageId :: pageIds)).1 =
        ((s.burnPage P pageId).1.burnPages P pageIds).1 := by
      rw [burnPages_eq, List.foldl_cons]
      obtain ⟨s', result⟩ := s.burnPage P pageId
      cases result <;> simp only [foldl_burnPage_count]
    rw [hcons, ih (h.burn pageId), h.memory_burnPage, List.map_cons, StagedMemory.run_cons]

/-- Burning the pages that differ from flash is as good as burning all. -/
theorem memory_burnAllDirty : (s.burnAllDirty P).1.memory =
    s.memory.run ((pageDirectory.map PageDirectoryEntry.id).map StagedMemory.Op.commit) := by
  rw [burnAllDirty, h.memory_burnPages]
  refine StagedMemory.run_commits_congr (fun q hq => (List.mem_filter.mp hq).1)
    fun q hq hclean => ?_
  obtain ⟨entry, hentry, rfl⟩ := List.mem_map.mp hq
  have hall : ∀ entry ∈ pageDirectory, entry.id.toNat < 10 := by decide
  obtain ⟨n, hn⟩ := exists_pageLengthAt (hall entry hentry)
  obtain ⟨ram, hram, -⟩ := h.exists_readPage entry.id hn
  obtain ⟨-, flash, hflash, -⟩ := h.exists_flash hram
  have hburn := needsBurn_eq hram hflash
  have hsame : (flash != ram) = false := by
    by_contra hdiff
    refine hclean (List.mem_filter.mpr ⟨hq, ?_⟩)
    rw [hburn]
    simpa using hdiff
  obtain rfl := bne_eq_false_iff_eq.mp hsame
  exact hram.trans hflash.symm

/-- A page is reverted. -/
theorem memory_restore (pageId : UInt8) :
    ((s.restorePageFromFlash pageId).toOption.getD s).memory =
      s.memory.apply (.revert pageId) := by
  cases hram : s.readPage pageId with
  | none =>
    obtain ⟨hslot, hflash⟩ := h.readFlashPage_eq_none hram
    rw [restorePageFromFlash, hslot]
    refine StagedMemory.ext ?_ rfl
    change s.readPage = Function.update s.readPage pageId (s.readFlashPage pageId)
    rw [hflash, ← hram, Function.update_eq_self]
  | some ram =>
    obtain ⟨slot, generation, payload, hslot, hholds, -⟩ := h.exists_slot (h.length_readPage hram)
    have hrestore : s.restorePageFromFlash pageId = .ok (s.withRam pageId payload) := by
      have hsome : s.ramPages[pageId.toNat]? = some ram := hram
      rw [restorePageFromFlash, hslot]
      simp only [hholds.2, hsome]
      rfl
    have hflash : s.memory.committed pageId = some payload := (flash_of_holds hslot hholds).1
    rw [hrestore]
    change (s.withRam pageId payload).memory = _
    rw [memory_withRam hram, ← hflash]
    rfl

/-- An import that is accepted stages and commits the payload of its image, any other does
nothing. -/
theorem memory_import (pageId : UInt8) (rawImage : Bytes) :
    (s.importPersistedPageImage P pageId rawImage).1.memory =
      s.memory.run (StoreOp.memoryOps P (.importPersistedPageImage pageId rawImage)) := by
  rw [StoreOp.memoryOps]
  cases hpayload : importedPayload P pageId rawImage with
  | none =>
    obtain ⟨e, heq⟩ | ⟨image, payload, schemaSteps, formatSteps, slot, hdecode, hn, hmigrate, -,
      heq⟩ := importPersistedPageImage_cases h.ram pageId rawImage
    · rw [heq]
      rfl
    · by_cases hid : image.header.pageId = pageId
      · rw [importedPayload_eq_some_iff.mpr
          ⟨image, schemaSteps, formatSteps, hdecode, hid, hn, hmigrate⟩] at hpayload
        cases hpayload
      · rw [importPersistedPageImage, h.pageLength_eq, hn]
        simp only [hdecode, if_pos hid]
        rfl
  | some payload =>
    obtain ⟨image, schemaSteps, formatSteps, hdecode, hid, hn, hmigrate⟩ :=
      importedPayload_eq_some_iff.mp hpayload
    obtain ⟨slot, generation, old, hslot, hholds, -⟩ := h.exists_slot hn
    obtain ⟨ram, hram, -⟩ := h.exists_readPage pageId hn
    rw [importPersistedPageImage_of_ok h.ram hn hdecode hid hmigrate hslot]
    have himported := getElem?_withSlot_self s pageId
      (slot.imported P pageId image.header.generation payload) hslot
    rw [memory_withRam (s := s.withSlot pageId _) hram]
    refine StagedMemory.ext rfl (funext fun q => ?_)
    by_cases hq : q = pageId
    · subst hq
      simpa [memory, StagedMemory.apply] using
        (flash_of_holds himported (slot.imported_holds P q _ payload)).1
    · simpa [memory, StagedMemory.apply, Function.update_of_ne hq] using
        (flash_congr (getElem?_withSlot_of_ne s pageId _ hq)).1

theorem memory_write (pageId : UInt8) (data : Bytes) :
    ((s.writePage pageId data).toOption.getD s).memory =
      s.memory.run (StoreOp.memoryOps P (.writePage pageId data)) := by
  rw [StoreOp.memoryOps]
  by_cases hn : pageLengthAt pageId.toNat = some data.length
  · obtain ⟨page, hpage, hlen⟩ := h.exists_readPage pageId hn
    rw [if_pos hn, writePage_eq_ok_iff.mpr ⟨⟨page, hpage, hlen⟩, rfl⟩]
    exact memory_withRam hpage data
  · rw [if_neg hn]
    cases hw : s.writePage pageId data with
    | error e => rfl
    | ok s' =>
      obtain ⟨⟨page, hpage, hlen⟩, -⟩ := writePage_eq_ok_iff.mp hw
      exact absurd (hlen ▸ h.length_readPage hpage) hn

/-- A page needs burning exactly if what is staged is not what is committed. -/
theorem needsBurn_eq_memory (pageId : UInt8) :
    s.needsBurn pageId = (pageLengthAt pageId.toNat).map fun _ =>
      decide (s.memory.committed pageId ≠ s.memory.staged pageId) := by
  cases hn : pageLengthAt pageId.toNat with
  | none =>
    have hram : s.ramPages[pageId.toNat]? = none := by
      simpa [hn] using h.ram pageId.toNat
    rw [needsBurn, hram]
    rfl
  | some n =>
    obtain ⟨ram, hram, -⟩ := h.exists_readPage pageId hn
    obtain ⟨-, flash, hflash, -⟩ := h.exists_flash hram
    rw [ConfigStore.needsBurn_eq hram hflash]
    by_cases heq : flash = ram <;> simp [memory, hram, hflash, heq]

/-- **Every operation means what it should**, whether it succeeds or fails. -/
theorem memory_apply (op : StoreOp) : ∃ s', op.apply P s = some s' ∧ s'.WellFormed P ∧
    s'.memory = s.memory.run (op.memoryOps P) := by
  obtain ⟨s', hs', hwf⟩ := h.apply op
  refine ⟨s', hs', hwf, ?_⟩
  cases op with
  | writePage pageId data =>
    cases hs'
    exact h.memory_write pageId data
  | burnPage pageId =>
    cases hs'
    exact h.memory_burnPage pageId
  | burnAllDirty =>
    cases hs'
    exact h.memory_burnAllDirty
  | restorePageFromFlash pageId =>
    rw [StoreOp.apply, h.restorePageFromFlashOrPanic_eq] at hs'
    cases hs'
    exact h.memory_restore pageId
  | importPersistedPageImage pageId rawImage =>
    rw [StoreOp.apply, importPersistedPageImageOrPanic_eq] at hs'
    cases hs'
    exact h.memory_import pageId rawImage
  | writeFlashResumeScratch scratch | clearFlashResumeScratch =>
    cases hs'
    rfl

theorem memory_foldlM (ops : List StoreOp) : ∃ s', ops.foldlM (StoreOp.apply P) s = some s' ∧
    s'.WellFormed P ∧ s'.memory = s.memory.run (ops.flatMap (StoreOp.memoryOps P)) := by
  induction ops generalizing s with
  | nil => exact ⟨s, rfl, h, rfl⟩
  | cons op ops ih =>
    obtain ⟨s₁, hs₁, h₁, heq₁⟩ := h.memory_apply op
    obtain ⟨s', hs', h', heq'⟩ := ih h₁
    refine ⟨s', by rw [List.foldlM_cons, hs₁]; exact hs', h', ?_⟩
    rw [heq', heq₁, List.flatMap_cons, StagedMemory.run_append]

end WellFormed

/-- **The store is a memory of pages.** Every sequence of operations on an erased store ends with
the pages that its meaning says, and a page needs burning exactly if what is staged is not what is
committed; so two sequences that mean the same on each page end with the same pages, however their
operations on different pages are interleaved. -/
theorem store_follows_memory (P : Platform) (ops : List StoreOp) :
    ∃ s, ops.foldlM (StoreOp.apply P) (newZeroed P) = some s ∧
      s.memory = erasedMemory.run (ops.flatMap (StoreOp.memoryOps P)) ∧
      (∀ pageId, s.needsBurn pageId = (pageLengthAt pageId.toNat).map fun _ =>
        decide (s.memory.committed pageId ≠ s.memory.staged pageId)) ∧
      ∀ (ops' : List StoreOp) (s' : ConfigStore),
        ops'.foldlM (StoreOp.apply P) (newZeroed P) = some s' →
        (∀ pageId, (ops'.flatMap (StoreOp.memoryOps P)).filter (fun op => op.cell = pageId) =
          (ops.flatMap (StoreOp.memoryOps P)).filter fun op => op.cell = pageId) →
        s'.memory = s.memory ∧ ∀ pageId, s'.needsBurn pageId = s.needsBurn pageId := by
  have hzeroed := wellFormed_newZeroed (P := P)
  obtain ⟨s, hs, h, heq⟩ := hzeroed.memory_foldlM ops
  rw [memory_newZeroed] at heq
  refine ⟨s, hs, heq, h.needsBurn_eq_memory, fun ops' s' hs' hsame => ?_⟩
  obtain ⟨s'', hs'', h', heq'⟩ := hzeroed.memory_foldlM ops'
  obtain rfl := Option.some.inj (hs'.symm.trans hs'')
  rw [memory_newZeroed, StagedMemory.run_congr hsame, ← heq] at heq'
  exact ⟨heq', fun pageId => by rw [h'.needsBurn_eq_memory, h.needsBurn_eq_memory, heq']⟩

end ConfigStore

end StEcu
