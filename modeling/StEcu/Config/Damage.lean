import StEcu.Config.Operations

/-!
# Stores with damaged slots

The raw image of a flash slot may be lost: it is replaced by bytes that do not decode, and the slot
has no committed image any more. This file is about the stores that come about by the operations of
the store and by such damage, in any order. Of the representation invariant the lengths of the RAM
pages remain, and that a committed image is one that the store built for that page.

On such a store burning a page still succeeds, and starts with the first generation again where the
slot was damaged.

## Main definitions

* `replaceFlashRawImage`, `ConfigStore.MayBeDamaged`.
* `ConfigStore.Serviceable`: what remains of the representation invariant.

## Main results

* `ConfigStore.MayBeDamaged.serviceable`.
* `ConfigStore.Serviceable.burnPage_eq`: burning a page of the directory always succeeds.
-/

namespace StEcu

namespace FlashPageSlot

variable (P : Platform) (slot : FlashPageSlot)

/-- A slot without an image, or with one that was built for the given page. -/
structure Usable (pageId : UInt8) (n : ℕ) : Prop where
  header : ∀ image ∈ slot.committed, ∃ generation,
    image.header = buildPageHeader P pageId generation image.payload
  length : ∀ image ∈ slot.committed, image.payload.length = n

end FlashPageSlot

namespace ConfigStore

/-- `replace_flash_raw_image`, by which the tests damage a slot. -/
def replaceFlashRawImage (P : Platform) (s : ConfigStore) (pageId : UInt8) (rawImage : Bytes) :
    Except ConfigStoreError ConfigStore :=
  match s.flashSlots[pageId.toNat]? with
  | none => .error .invalidPageId
  | some slot =>
    .ok { s with flashSlots := s.flashSlots.set pageId.toNat (slot.replaceRawImage P rawImage) }

/-- The store comes about from an erased one by operations and by damage to its slots. -/
inductive MayBeDamaged (P : Platform) : ConfigStore → Prop
  | newZeroed : MayBeDamaged P (newZeroed P)
  | operation {s s' op} (h : MayBeDamaged P s) (hop : StoreOp.apply P s op = some s') :
      MayBeDamaged P s'
  | damage {s s' pageId rawImage error} (h : MayBeDamaged P s)
      (hraw : decodeStoredPageImage P rawImage = .error error)
      (hreplace : s.replaceFlashRawImage P pageId rawImage = .ok s') : MayBeDamaged P s'

/-- What remains of the representation invariant. -/
structure Serviceable (P : Platform) (s : ConfigStore) : Prop where
  ram : ∀ i : ℕ, (s.ramPages[i]?).map List.length = pageLengthAt i
  slot : ∀ (pageId : UInt8) (n : ℕ), pageLengthAt pageId.toNat = some n →
    ∃ slot, s.flashSlots[pageId.toNat]? = some slot ∧ slot.Usable P pageId n

variable {P : Platform} {s s' : ConfigStore} {pageId : UInt8}

theorem WellFormed.serviceable (h : s.WellFormed P) : s.Serviceable P where
  ram := h.ram
  slot pageId n hn := by
    obtain ⟨slot, generation, payload, hslot, ⟨-, hcommitted⟩, hlen⟩ := h.exists_slot hn
    refine ⟨slot, hslot, fun image himage => ?_, fun image himage => ?_⟩
    all_goals
      obtain rfl := Option.some.inj (hcommitted.symm.trans himage)
    · exact ⟨generation, rfl⟩
    · exact hlen

/-! ### Operations on serviceable stores -/

namespace Serviceable

variable (h : s.Serviceable P)
include h

theorem length_readPage {page : Bytes} (hp : s.readPage pageId = some page) :
    pageLengthAt pageId.toNat = some page.length :=
  length_readPage_of_ram h.ram hp

theorem withRam {data : Bytes} (hdata : pageLengthAt pageId.toNat = some data.length) :
    (s.withRam pageId data).Serviceable P where
  ram := ram_withRam h.ram hdata
  slot := h.slot

theorem withSlot {slot : FlashPageSlot}
    (hslot : ∀ n, pageLengthAt pageId.toNat = some n → slot.Usable P pageId n) :
    (s.withSlot pageId slot).Serviceable P where
  ram := h.ram
  slot q n hn := by
    obtain ⟨old, hold, husable⟩ := h.slot q n hn
    by_cases hq : q = pageId
    · subst hq
      exact ⟨slot, getElem?_withSlot_self s q slot hold, hslot n hn⟩
    · exact ⟨old, (getElem?_withSlot_of_ne s pageId slot hq).trans hold, husable⟩

/-- Burning a page of the directory always succeeds; only its slot changes. -/
theorem burnPage_eq {ram : Bytes} (hram : s.readPage pageId = some ram) :
    ∃ slot, s.flashSlots[pageId.toNat]? = some slot ∧ slot.Usable P pageId ram.length ∧
      s.burnPage P pageId = (s.withSlot pageId (slot.rewritten P pageId ram), .ok ()) := by
  have hn := h.length_readPage hram
  obtain ⟨slot, hslot, husable⟩ := h.slot pageId ram.length hn
  exact ⟨slot, hslot, husable, burnPage_of_slot hn hram hslot⟩

theorem burn (pageId : UInt8) : (s.burnPage P pageId).1.Serviceable P := by
  cases hram : s.readPage pageId with
  | none => rwa [burnPage_of_readPage_eq_none hram]
  | some ram =>
    obtain ⟨slot, -, -, heq⟩ := h.burnPage_eq hram
    rw [heq]
    refine h.withSlot fun n hn => ⟨fun image himage => ?_, fun image himage => ?_⟩
    all_goals obtain rfl := Option.some.inj himage
    · exact ⟨_, rfl⟩
    · exact Option.some.inj ((h.length_readPage hram).symm.trans hn)

theorem restore {result : Except ConfigStoreError ConfigStore}
    (hr : s.restorePageFromFlashOrPanic pageId = some result) :
    (result.toOption.getD s).Serviceable P := by
  rw [restorePageFromFlashOrPanic] at hr
  split at hr
  · cases hr
    exact h
  next slot hslot =>
    split at hr
    · cases hr
      exact h
    next image himage =>
      split at hr
      · cases hr
        exact h
      next ram hram =>
        obtain ⟨ram', hcopy, rfl⟩ := Option.map_eq_some_iff.mp hr
        rw [copyFromSlice] at hcopy
        split at hcopy
        next hlen =>
          obtain rfl := Option.some.inj hcopy
          have hn : pageLengthAt pageId.toNat = some image.payload.length := by
            rw [h.length_readPage hram, hlen]
          exact h.withRam hn
        next => cases hcopy

/-- The operations of the store keep what remains of the invariant. -/
theorem apply {op : StoreOp} (hop : op.apply P s = some s') : s'.Serviceable P := by
  cases op with
  | writePage pageId data =>
    obtain rfl := Option.some.inj hop
    cases hw : s.writePage pageId data with
    | error e => exact h
    | ok s' =>
      obtain ⟨⟨page, hp, hlen⟩, rfl⟩ := writePage_eq_ok_iff.mp hw
      exact h.withRam (by rw [h.length_readPage hp, hlen])
  | burnPage pageId =>
    obtain rfl := Option.some.inj hop
    exact h.burn pageId
  | burnAllDirty =>
    obtain rfl := Option.some.inj hop
    exact burnPages_invariant (fun _ pageId hs => hs.burn pageId) h _ _
  | restorePageFromFlash pageId =>
    obtain ⟨result, hresult, rfl⟩ := Option.map_eq_some_iff.mp hop
    exact h.restore hresult
  | importPersistedPageImage pageId rawImage =>
    rw [StoreOp.apply, importPersistedPageImageOrPanic_eq] at hop
    obtain rfl := Option.some.inj hop
    obtain ⟨error, heq⟩ | ⟨image, payload, _, _, slot, -, hn, -, -, heq⟩ :=
      importPersistedPageImage_cases h.ram pageId rawImage
    · rwa [heq]
    · rw [heq]
      refine (h.withSlot fun n hn' => ⟨fun _ himage => ?_, fun _ himage => ?_⟩).withRam hn
      all_goals obtain rfl := Option.some.inj himage
      · exact ⟨_, rfl⟩
      · exact Option.some.inj (hn.symm.trans hn')
  | writeFlashResumeScratch scratch =>
    obtain rfl := Option.some.inj hop
    exact ⟨h.ram, h.slot⟩
  | clearFlashResumeScratch =>
    obtain rfl := Option.some.inj hop
    exact ⟨h.ram, h.slot⟩

theorem damage {rawImage : Bytes} {error : ConfigImageError}
    (hraw : decodeStoredPageImage P rawImage = .error error)
    (hreplace : s.replaceFlashRawImage P pageId rawImage = .ok s') : s'.Serviceable P := by
  rw [replaceFlashRawImage] at hreplace
  split at hreplace
  next => cases hreplace
  next slot hslot =>
    obtain rfl := Except.ok.inj hreplace
    have hnone : (slot.replaceRawImage P rawImage).committed = none := by
      simp only [FlashPageSlot.replaceRawImage, decodedImage, hraw]
      rfl
    exact h.withSlot fun n hn => ⟨fun image himage => by simp [hnone] at himage,
      fun image himage => by simp [hnone] at himage⟩

end Serviceable

/-- **Operations and damage** leave every RAM page of its length and every slot usable. -/
theorem MayBeDamaged.serviceable (h : MayBeDamaged P s) : s.Serviceable P := by
  induction h with
  | newZeroed => exact wellFormed_newZeroed.serviceable
  | operation _ hop ih => exact ih.apply hop
  | damage _ hraw hreplace ih => exact ih.damage hraw hreplace

end ConfigStore

end StEcu
