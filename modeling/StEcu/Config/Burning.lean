import StEcu.Config.Damage
import StEcu.Reference

/-!
# What burning does

Burning copies a RAM page to flash under the next generation. Before that, the header of the staged
page already says what the burned image will look like: the generation is computed a second time for
it, from what a reader of flash sees. Burning all dirty pages first collects them and then burns one
after the other, none of which touches another.

## Main definitions

* `ConfigStore.flashPageValid`, `ConfigStore.flashEraseCycles`, `ConfigStore.pageHeader`.

## Main results

* `ConfigStore.page_header_predicts_burn`: the staged header is the header after the burn.
* `ConfigStore.Serviceable.burnPages_spec`: what burning several pages leaves behind.
* `ConfigStore.burn_all_dirty_spec`.
-/

namespace StEcu.ConfigStore

section Readers

variable (P : Platform) (s : ConfigStore) (pageId : UInt8)

/-- Whether the slot of a page holds an image that decodes. -/
def flashPageValid : Option Bool :=
  (s.flashSlots[pageId.toNat]?).map fun slot => slot.committed.isSome

/-- How often the slot of a page has been erased. -/
def flashEraseCycles : Option UInt32 :=
  (s.flashSlots[pageId.toNat]?).map FlashPageSlot.eraseCycles

/-- The header of the staged page: in the generation of flash where nothing is to be burned, and in
the next one otherwise. -/
def pageHeader : Option ConfigPageHeader := do
  let payload ← s.readPage pageId
  let flashGeneration := (s.flashPageGeneration pageId).getD 0
  let valid := (s.flashPageValid pageId).getD false
  let burned ← if valid then (s.needsBurn pageId).map (!·) else some false
  let nextGeneration :=
    if burned then flashGeneration
    else flashGeneration.saturatingAdd (if valid then 1 else 0)
  return buildPageHeader P pageId nextGeneration payload

end Readers

variable {P : Platform} {s : ConfigStore} {pageId : UInt8}

/-! ### One page -/

/-- What the readers of flash see in a slot. -/
structure Sees (s : ConfigStore) (pageId : UInt8) (slot : FlashPageSlot) : Prop where
  payload : s.readFlashPage pageId = slot.committed.map StoredPageImage.payload
  header : s.flashPageHeader pageId = slot.committed.map StoredPageImage.header
  generation : s.flashPageGeneration pageId =
    slot.committed.map fun image => image.header.generation
  valid : s.flashPageValid pageId = some slot.committed.isSome
  cycles : s.flashEraseCycles pageId = some slot.eraseCycles

theorem sees_of_getElem? {slot : FlashPageSlot} (h : s.flashSlots[pageId.toNat]? = some slot) :
    s.Sees pageId slot := by
  constructor
  · rw [readFlashPage, h, Option.bind_some]
  · rw [flashPageHeader, h, Option.bind_some]
  · rw [flashPageGeneration, flashPageHeader, h, Option.bind_some, Option.map_map]
    rfl
  · rw [flashPageValid, h, Option.map_some]
  · rw [flashEraseCycles, h, Option.map_some]

theorem needsBurn_of_slot {ram : Bytes} {slot : FlashPageSlot} (hram : s.readPage pageId = some ram)
    (hslot : s.flashSlots[pageId.toNat]? = some slot) :
    s.needsBurn pageId = some (slot.committed.elim true fun image => image.payload != ram) := by
  rw [needsBurn, show s.ramPages[pageId.toNat]? = some ram from hram, hslot]
  cases hcommitted : slot.committed with
  | none => simp only [hcommitted, Option.elim_none]
  | some image => simp only [hcommitted, Option.elim_some]

/-- The generation of the staged page is the one that burning gives to it. -/
theorem pageHeader_eq {ram : Bytes} {slot : FlashPageSlot} (hram : s.readPage pageId = some ram)
    (hslot : s.flashSlots[pageId.toNat]? = some slot) :
    s.pageHeader P pageId = some (buildPageHeader P pageId
      (if s.needsBurn pageId = some true then slot.nextGeneration
        else (s.flashPageGeneration pageId).getD 0) ram) := by
  have hsees := sees_of_getElem? hslot
  rw [pageHeader, hram, hsees.generation, hsees.valid, needsBurn_of_slot hram hslot,
    FlashPageSlot.nextGeneration]
  cases slot.committed with
  | none => rfl
  | some image =>
    cases hburn : image.payload != ram <;> simp [hburn]

theorem exists_readPage_of_lt (h : s.Serviceable P) (hid : pageId.toNat < pageDirectory.length) :
    ∃ ram, s.readPage pageId = some ram := by
  obtain ⟨n, hn⟩ := exists_pageLengthAt hid
  obtain ⟨ram, hread, -⟩ := exists_readPage_of_ram h.ram pageId hn
  exact ⟨ram, hread⟩

/-- **The staged header predicts the burn**, on every store that comes about by operations and by
damage to its slots: the header of a staged page is that of the image which burning leaves, and
where nothing is to be burned that of the image in flash. -/
theorem page_header_predicts_burn (P : Platform) (s : ConfigStore) (h : s.MayBeDamaged P)
    (pageId : UInt8) (hid : pageId.toNat < pageDirectory.length) :
    ∃ needsBurn header, s.needsBurn pageId = some needsBurn ∧
      s.pageHeader P pageId = some header ∧
      (needsBurn = true → (s.burnPage P pageId).1.flashPageHeader pageId = some header) ∧
      (needsBurn = false → s.flashPageHeader pageId = some header) := by
  have hs := h.serviceable
  obtain ⟨ram, hram⟩ := exists_readPage_of_lt hs hid
  obtain ⟨slot, hslot, husable, heq⟩ := hs.burnPage_eq hram
  refine ⟨_, _, needsBurn_of_slot hram hslot, pageHeader_eq hram hslot, fun hburn => ?_,
    fun hclean => ?_⟩
  · have hrewritten := getElem?_withSlot_self s pageId (slot.rewritten P pageId ram) hslot
    rw [heq, (sees_of_getElem? hrewritten).header, needsBurn_of_slot hram hslot, hburn, if_pos rfl]
    rfl
  · rw [needsBurn_of_slot hram hslot, hclean, if_neg (by decide),
      (sees_of_getElem? hslot).header, (sees_of_getElem? hslot).generation]
    cases hcommitted : slot.committed with
    | none =>
      rw [hcommitted] at hclean
      cases hclean
    | some image =>
      -- the committed image was built for this page, and its payload is the RAM page
      rw [hcommitted, Option.elim_some, bne_eq_false_iff_eq] at hclean
      obtain ⟨generation, hheader⟩ := husable.header image hcommitted
      rw [Option.map_some, Option.map_some, Option.getD_some, hheader, hclean]
      rfl

/-- On an erased store whose first slot was damaged. -/
theorem page_header_predicts_burn_damaged : ∃ s,
    (newZeroed referencePlatform).replaceFlashRawImage referencePlatform 0 [] = .ok s ∧
    ∃ needsBurn header, s.needsBurn 0 = some needsBurn ∧
      s.pageHeader referencePlatform 0 = some header ∧
      (needsBurn = true → (s.burnPage referencePlatform 0).1.flashPageHeader 0 = some header) ∧
      (needsBurn = false → s.flashPageHeader 0 = some header) := by
  have hraw : decodeStoredPageImage referencePlatform [] = .error .malformedImage := rfl
  have hreplace :
      (newZeroed referencePlatform).replaceFlashRawImage referencePlatform 0 [] = .ok _ := rfl
  exact ⟨_, hreplace, page_header_predicts_burn referencePlatform _
    (.damage .newZeroed hraw hreplace) 0 (by decide)⟩

/-! ### Several pages -/

theorem burnPages_eq (s : ConfigStore) (pageIds : List UInt8) :
    s.burnPages P pageIds = pageIds.foldl (fun (p : ConfigStore × ℕ) pageId =>
      match p.1.burnPage P pageId with
      | (s, .ok ()) => (s, p.2 + 1)
      | (s, .error _) => (s, p.2)) (s, 0) := rfl

/-- The count of a burn only adds up. -/
theorem foldl_burnPage_count (pageIds : List UInt8) (s : ConfigStore) (n : ℕ) :
    pageIds.foldl (fun (p : ConfigStore × ℕ) pageId =>
        match p.1.burnPage P pageId with
        | (s, .ok ()) => (s, p.2 + 1)
        | (s, .error _) => (s, p.2)) (s, n) =
      ((s.burnPages P pageIds).1, n + (s.burnPages P pageIds).2) := by
  rw [burnPages_eq]
  induction pageIds generalizing s n with
  | nil => rfl
  | cons pageId pageIds ih =>
    rw [List.foldl_cons, List.foldl_cons]
    obtain ⟨s', result⟩ := s.burnPage P pageId
    cases result with
    | ok u =>
      rw [ih s' (n + 1), ih s' (0 + 1)]
      simp only [Prod.mk.injEq, true_and]
      omega
    | error e => rw [ih s' n, ih s' 0, Nat.zero_add]

theorem burnPages_cons_of_ok {s' : ConfigStore} {pageIds : List UInt8}
    (h : s.burnPage P pageId = (s', .ok ())) :
    s.burnPages P (pageId :: pageIds) =
      ((s'.burnPages P pageIds).1, 1 + (s'.burnPages P pageIds).2) := by
  rw [← foldl_burnPage_count pageIds s' 1, burnPages_eq, List.foldl_cons]
  simp only [h]

/-- **What burning several pages does**: every page counts, its slot is rewritten with its RAM page,
and nothing else changes. -/
theorem Serviceable.burnPages_spec (h : s.Serviceable P) {pageIds : List UInt8}
    (hnodup : pageIds.Nodup) (hdir : ∀ pageId ∈ pageIds, ∃ ram, s.readPage pageId = some ram) :
    let s' := (s.burnPages P pageIds).1
    s'.Serviceable P ∧ (s.burnPages P pageIds).2 = pageIds.length ∧ s'.ramPages = s.ramPages ∧
      (∀ pageId ∉ pageIds, s'.flashSlots[pageId.toNat]? = s.flashSlots[pageId.toNat]?) ∧
      ∀ pageId ∈ pageIds, ∃ ram slot, s.readPage pageId = some ram ∧
        s.flashSlots[pageId.toNat]? = some slot ∧
        s'.flashSlots[pageId.toNat]? = some (slot.rewritten P pageId ram) := by
  induction pageIds generalizing s with
  | nil => exact ⟨h, rfl, rfl, fun _ _ => rfl, fun _ hmem => nomatch hmem⟩
  | cons pageId pageIds ih =>
    obtain ⟨hnotin, hnodup⟩ := List.nodup_cons.mp hnodup
    obtain ⟨ram, hram⟩ := hdir pageId (List.mem_cons_self ..)
    obtain ⟨slot, hslot, -, heq⟩ := h.burnPage_eq hram
    -- the first burn leaves all RAM pages and all other slots as they were
    have hburn := h.burn pageId
    rw [heq] at hburn
    obtain ⟨hs', hcount, hpages, hclean, hdirty⟩ :=
      ih hburn hnodup fun q hq => hdir q (List.mem_cons_of_mem _ hq)
    rw [burnPages_cons_of_ok heq]
    refine ⟨hs', by rw [hcount, List.length_cons, Nat.add_comm], hpages, fun q hq => ?_,
      fun q hq => ?_⟩
    · obtain ⟨hne, hq⟩ := not_or.mp fun hor => hq (List.mem_cons.mpr hor)
      rw [hclean q hq, getElem?_withSlot_of_ne s pageId _ hne]
    · rcases List.mem_cons.mp hq with rfl | hq
      · exact ⟨ram, slot, hram, hslot,
          (hclean q hnotin).trans (getElem?_withSlot_self s q _ hslot)⟩
      · obtain ⟨ram', slot', hram', hslot', hrewritten⟩ := hdirty q hq
        have hne : q ≠ pageId := fun heq => hnotin (heq ▸ hq)
        rw [getElem?_withSlot_of_ne s pageId _ hne] at hslot'
        exact ⟨ram', slot', hram', hslot', hrewritten⟩

/-! ### All dirty pages -/

theorem exists_readPage_of_needsBurn (h : s.needsBurn pageId = some true) :
    ∃ ram, s.readPage pageId = some ram := by
  cases hram : s.readPage pageId with
  | some ram => exact ⟨ram, rfl⟩
  | none =>
    rw [needsBurn, show s.ramPages[pageId.toNat]? = none from hram] at h
    cases h

theorem mem_dirtyPages_iff (h : s.Serviceable P) :
    pageId ∈ s.dirtyPages ↔ s.needsBurn pageId = some true := by
  have hids : ∀ i < 10, UInt8.ofNat i ∈ pageDirectory.map PageDirectoryEntry.id := by decide
  have hgetD : (s.needsBurn pageId).getD false = true ↔ s.needsBurn pageId = some true := by
    cases s.needsBurn pageId <;> simp
  rw [dirtyPages, List.mem_filter, hgetD, and_iff_right_iff_imp]
  intro hburn
  obtain ⟨ram, hram⟩ := exists_readPage_of_needsBurn hburn
  have hlt : pageId.toNat < 10 := by
    by_contra hlt
    have hlen := h.length_readPage hram
    rw [pageLengthAt_eq_none_iff.mpr (Nat.not_lt.mp hlt)] at hlen
    cases hlen
  have hmem := hids pageId.toNat hlt
  rwa [UInt8.ofNat_toNat] at hmem

theorem nodup_dirtyPages : s.dirtyPages.Nodup :=
  List.Pairwise.filter _ (by decide)

/-- A page whose slot was rewritten needs no burn. -/
theorem needsBurn_rewritten {ram : Bytes} {slot : FlashPageSlot}
    (hram : s.readPage pageId = some ram)
    (hslot : s.flashSlots[pageId.toNat]? = some (slot.rewritten P pageId ram)) :
    s.needsBurn pageId = some false := by
  rw [needsBurn_of_slot hram hslot]
  simp [FlashPageSlot.rewritten]

/-- Nothing is burned where no page is dirty. -/
theorem burnAllDirty_of_clean (h : s.Serviceable P)
    (hclean : ∀ pageId, s.needsBurn pageId ≠ some true) : s.burnAllDirty P = (s, 0) := by
  have hnil : s.dirtyPages = [] := List.eq_nil_iff_forall_not_mem.mpr fun pageId hmem =>
    hclean pageId ((mem_dirtyPages_iff h).mp hmem)
  rw [burnAllDirty, hnil]
  rfl

/-- All dirty pages are burned, and they only. -/
theorem Serviceable.burnAllDirty_eq (h : s.Serviceable P) : ∃ s',
    s.burnAllDirty P = (s', s.dirtyPages.length) ∧ s'.Serviceable P ∧ s'.ramPages = s.ramPages ∧
      (∀ pageId, s.needsBurn pageId ≠ some true →
        s'.flashSlots[pageId.toNat]? = s.flashSlots[pageId.toNat]?) ∧
      ∀ pageId, s.needsBurn pageId = some true → ∃ ram slot, s.readPage pageId = some ram ∧
        s.flashSlots[pageId.toNat]? = some slot ∧
        s'.flashSlots[pageId.toNat]? = some (slot.rewritten P pageId ram) := by
  obtain ⟨hs', hcount, hpages, hclean, hdirty⟩ := h.burnPages_spec (nodup_dirtyPages (s := s))
    fun pageId hmem => exists_readPage_of_needsBurn ((mem_dirtyPages_iff h).mp hmem)
  exact ⟨_, Prod.ext rfl hcount, hs', hpages,
    fun pageId hburn => hclean pageId (mt (mem_dirtyPages_iff h).mp hburn),
    fun pageId hburn => hdirty pageId ((mem_dirtyPages_iff h).mpr hburn)⟩

/-- **Burning all dirty pages** counts the dirty pages, leaves none, copies each of them to flash
under the next generation and counts its erase cycle, and changes nothing else; a second time it
changes nothing at all. -/
theorem burn_all_dirty_spec (P : Platform) (s : ConfigStore) (h : s.Reached P) :
    let s' := (s.burnAllDirty P).1
    (s.burnAllDirty P).2 = (pageDirectory.map PageDirectoryEntry.id).countP
        (fun pageId => s.needsBurn pageId == some true) ∧
      (∀ pageId, s'.needsBurn pageId ≠ some true) ∧
      (∀ pageId, s.needsBurn pageId = some true → ∃ ram generation cycles,
        s.readPage pageId = some ram ∧ s.flashPageGeneration pageId = some generation ∧
        s.flashEraseCycles pageId = some cycles ∧ s'.readFlashPage pageId = some ram ∧
        s'.flashPageGeneration pageId = some (generation.saturatingAdd 1) ∧
        s'.flashEraseCycles pageId = some (cycles.saturatingAdd 1)) ∧
      (∀ pageId, s.needsBurn pageId ≠ some true →
        s'.flashSlots[pageId.toNat]? = s.flashSlots[pageId.toNat]?) ∧
      s'.ramPages = s.ramPages ∧ s'.burnAllDirty P = (s', 0) := by
  have hwf := h.wellFormed
  obtain ⟨s', heq, hs', hpages, hclean, hdirty⟩ := hwf.serviceable.burnAllDirty_eq
  have hread (pageId : UInt8) : s'.readPage pageId = s.readPage pageId := by
    rw [readPage, hpages]
    rfl
  have hnone (pageId : UInt8) : s'.needsBurn pageId ≠ some true := by
    by_cases hburn : s.needsBurn pageId = some true
    · obtain ⟨ram, slot, hram, -, hslot⟩ := hdirty pageId hburn
      rw [needsBurn_rewritten ((hread pageId).trans hram) hslot]
      decide
    · rw [needsBurn, hclean pageId hburn, hpages, ← needsBurn]
      exact hburn
  rw [heq]
  refine ⟨?_, hnone, fun pageId hburn => ?_, hclean, hpages, burnAllDirty_of_clean hs' hnone⟩
  · rw [dirtyPages, ← List.countP_eq_length_filter]
    refine List.countP_congr fun pageId _ => ?_
    cases s.needsBurn pageId <;> simp
  · obtain ⟨ram, slot, hram, hslot, hrewritten⟩ := hdirty pageId hburn
    obtain ⟨slot', generation, payload, hslot', ⟨-, hcommitted⟩, -⟩ :=
      hwf.exists_slot (hwf.length_readPage hram)
    obtain rfl := Option.some.inj (hslot.symm.trans hslot')
    have hbefore := sees_of_getElem? hslot
    have hafter := sees_of_getElem? hrewritten
    have hnext : slot.nextGeneration = generation.saturatingAdd 1 := by
      rw [FlashPageSlot.nextGeneration, hcommitted]
      rfl
    refine ⟨ram, generation, slot.eraseCycles, hram, ?_, hbefore.cycles, hafter.payload, ?_,
      hafter.cycles⟩
    · rw [hbefore.generation, hcommitted]
      rfl
    · rw [hafter.generation, ← hnext]
      rfl

/-- On an erased store whose last page was written: that page is burned. -/
theorem burn_all_dirty_spec_written : ∃ s,
    (newZeroed referencePlatform).writePage 9 (List.replicate 256 1) = .ok s ∧
    (s.burnAllDirty referencePlatform).2 = (pageDirectory.map PageDirectoryEntry.id).countP
      (fun pageId => s.needsBurn pageId == some true) ∧
    (s.burnAllDirty referencePlatform).1.burnAllDirty referencePlatform =
      ((s.burnAllDirty referencePlatform).1, 0) := by
  obtain ⟨page, hpage, hlen⟩ :=
    (wellFormed_newZeroed (P := referencePlatform)).exists_readPage 9 (n := 256) rfl
  have hw := writePage_eq_ok_iff.mpr
    ⟨⟨page, hpage, hlen.trans (List.length_replicate (n := 256) (a := (1 : UInt8))).symm⟩, rfl⟩
  have hreached : ((newZeroed referencePlatform).withRam 9 (List.replicate 256 1)).Reached
      referencePlatform := by
    refine ⟨[.writePage 9 (List.replicate 256 1)], ?_⟩
    rw [List.foldlM_cons, StoreOp.apply, hw]
    rfl
  obtain ⟨hcount, -, -, -, -, hagain⟩ := burn_all_dirty_spec referencePlatform _ hreached
  exact ⟨_, hw, hcount, hagain⟩

end StEcu.ConfigStore
