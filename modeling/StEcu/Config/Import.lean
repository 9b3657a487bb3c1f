import StEcu.Config.Operations
import StEcu.Io.PageCodec
import StEcu.Reference

/-!
# Importing a persisted page image

An import either fails and leaves the store as it was, or it replaces RAM page and flash slot of its
page together. Importing what it wrote once more changes nothing.

## Main definitions

* `ConfigStore.Imported`: what a successful import did to the store.

## Main results

* `ConfigStore.import_all_or_nothing`: every import on a store that can be reached, and the import
  of a pin assignment in the legacy layout.
-/

namespace StEcu

theorem ConfigMigrationReport.migrated_ofMigration {pageId : UInt8} {header : ConfigPageHeader}
    {schemaSteps : UInt16} {formatSteps : UInt8}
    (hs : header.schemaVersion = schemaVersion → schemaSteps = 0)
    (hf : header.formatVersion = configFormatVersion → formatSteps = 0) :
    (ofMigration pageId header schemaSteps formatSteps).migrated = true ↔
      header.schemaVersion ≠ schemaVersion ∨ header.formatVersion ≠ configFormatVersion := by
  rw [ofMigration]
  by_cases hschema : header.schemaVersion = schemaVersion
  · by_cases hformat : header.formatVersion = configFormatVersion
    · simp [hschema, hformat, hs hschema, hf hformat]
    · simp [hformat]
  · simp [hschema]

namespace ConfigStore

variable (P : Platform)

/-- What the import of an image into a page did: the new store, and the report. -/
structure Imported (s : ConfigStore) (pageId : UInt8) (image : StoredPageImage) (payload : Bytes)
    (s' : ConfigStore) (report : ConfigMigrationReport) : Prop where
  sameBody : SameBody pageId image.payload payload
  ram : s'.readPage pageId = some payload
  flash : s'.readFlashPage pageId = some payload
  generation : s'.flashPageGeneration pageId = some image.header.generation
  eraseCycles : (s'.flashSlots[pageId.toNat]?).map FlashPageSlot.eraseCycles =
    (s.flashSlots[pageId.toNat]?).map FlashPageSlot.eraseCycles
  otherPages : ∀ q ≠ pageId, s'.readPage q = s.readPage q ∧
    s'.flashSlots[q.toNat]? = s.flashSlots[q.toNat]?
  scratch : s'.flashResumeScratch = s.flashResumeScratch
  migrated : report.migrated = true ↔
    image.header.schemaVersion ≠ schemaVersion ∨ image.header.formatVersion ≠ configFormatVersion
  again : ∃ slot report', s'.flashSlots[pageId.toNat]? = some slot ∧
    s'.importPersistedPageImage P pageId slot.rawImage = (s', .ok report') ∧
    report'.migrated = false

variable {P} {s : ConfigStore}

theorem withSlot_eq_self {pageId : UInt8} {slot : FlashPageSlot}
    (hslot : s.flashSlots[pageId.toNat]? = some slot) : s.withSlot pageId slot = s := by
  have hset : s.flashSlots.set pageId.toNat slot = s.flashSlots := by
    refine List.ext_getElem? fun i => ?_
    by_cases hi : pageId.toNat = i
    · subst hi
      rw [List.getElem?_set_self', hslot]
      rfl
    · rw [List.getElem?_set_ne hi]
  rw [withSlot, hset]

theorem getElem?_flashSlots_withRam (s : ConfigStore) (pageId : UInt8) (data : Bytes) (i : ℕ) :
    (s.withRam pageId data).flashSlots[i]? = s.flashSlots[i]? := rfl

/-- Importing the image of a slot whose payload is also in RAM changes nothing. -/
theorem WellFormed.import_committed (h : s.WellFormed P) {pageId : UInt8} {slot : FlashPageSlot}
    {generation : UInt32} {payload : Bytes} (hslot : s.flashSlots[pageId.toNat]? = some slot)
    (hholds : slot.Holds P pageId generation payload) (hram : s.readPage pageId = some payload) :
    s.importPersistedPageImage P pageId slot.rawImage =
      (s, .ok (.ofMigration pageId (buildPageHeader P pageId generation payload) 0 0)) := by
  have hlen := h.length_readPage hram
  have hdecode : decodeStoredPageImage P slot.rawImage =
      .ok ⟨buildPageHeader P pageId generation payload, payload⟩ := by
    rw [hholds.1, encodeStoredPageImage]
    exact decode_encodeStoredPageImageWithVersions (by decide)
      (Nat.le_trans (pageLengthAt_le hlen) (by decide))
  have hself : slot.imported P pageId generation payload = slot := by
    rw [FlashPageSlot.imported, ← hholds.1, ← hholds.2]
  rw [importPersistedPageImage_of_ok h.ram hlen hdecode rfl (migratePayload_of_current rfl rfl rfl)
    hslot]
  change ((s.withSlot pageId (slot.imported P pageId generation payload)).withRam pageId payload,
    _) = _
  rw [hself, withSlot_eq_self hslot, withRam_eq_self _ _ _ hram]

/-- The store after a successful import. -/
theorem WellFormed.imported (h : s.WellFormed P) {pageId : UInt8} {image : StoredPageImage}
    {payload : Bytes} {schemaSteps : UInt16} {formatSteps : UInt8} {slot : FlashPageSlot}
    (hn : pageLengthAt pageId.toNat = some payload.length)
    (hmigrate : migratePayloadToCurrentVersions pageId image payload.length =
      .ok (payload, schemaSteps, formatSteps))
    (hslot : s.flashSlots[pageId.toNat]? = some slot) :
    Imported P s pageId image payload
      ((s.withSlot pageId (slot.imported P pageId image.header.generation payload)).withRam pageId
        payload)
      (.ofMigration pageId image.header schemaSteps formatSteps) := by
  obtain ⟨hbody, hschema, hformat⟩ := sameBody_of_migratePayload hmigrate
  obtain ⟨page, hpage, -⟩ := h.exists_readPage pageId hn
  have hholds := slot.imported_holds P pageId image.header.generation payload
  have hself := getElem?_withSlot_self s pageId
    (slot.imported P pageId image.header.generation payload) hslot
  have hwf := (h.withSlot hholds hn).withRam hn
  have hram : ((s.withSlot pageId (slot.imported P pageId image.header.generation payload)).withRam
      pageId payload).readPage pageId = some payload :=
    readPage_withRam_self _ _ _ hpage
  refine
    { sameBody := hbody
      ram := hram
      flash := (flash_of_holds hself hholds).1
      generation := (flash_of_holds hself hholds).2
      eraseCycles := ?_
      otherPages := fun q hq =>
        ⟨readPage_withRam_of_ne _ _ _ hq, getElem?_withSlot_of_ne s pageId _ hq⟩
      scratch := rfl
      migrated := ConfigMigrationReport.migrated_ofMigration hschema hformat
      again := ⟨_, _, hself, hwf.import_committed hself hholds hram, ?_⟩ }
  · rw [getElem?_flashSlots_withRam, hself, hslot]
    rfl
  · exact Bool.eq_false_iff.mpr fun hmigrated =>
      ((ConfigMigrationReport.migrated_ofMigration (fun _ => rfl) fun _ => rfl).mp hmigrated).elim
        (fun hne => hne rfl) fun hne => hne rfl

/-! ### Pin assignments in the legacy layout -/

/-- A serialised page in the layout of format 0: the legacy magic and version 0 in front of the
same body. -/
def legacyAssignmentPage (page : Bytes) : Bytes := pinAssignmentMagicLegacy ++ [0] ++ page.drop 5

/-- The format migration turns the legacy layout into the current one. -/
theorem migrate_legacyAssignmentPage {assignments : List ResolvedPinAssignment} {page : Bytes}
    {n : ℕ} (h : serializeAssignmentsToPage assignments n = .ok page) :
    formatMigrateV0ToV1 ConfigPage.pinAssignment.id (legacyAssignmentPage page) = .ok page := by
  obtain ⟨-, rfl⟩ := serializeAssignmentsToPage_eq_ok_iff.mp h
  rfl

theorem length_serializeAssignments {assignments : List ResolvedPinAssignment} {page : Bytes}
    {n : ℕ} (h : serializeAssignmentsToPage assignments n = .ok page) : page.length = n := by
  obtain ⟨hle, rfl⟩ := serializeAssignmentsToPage_eq_ok_iff.mp h
  rw [List.length_append, List.length_replicate]
  omega

theorem length_legacyAssignmentPage {page : Bytes} (h : 5 ≤ page.length) :
    (legacyAssignmentPage page).length = page.length := by
  simp only [legacyAssignmentPage, pinAssignmentMagicLegacy, List.length_append, List.length_cons,
    List.length_nil, List.length_drop]
  omega

/-- The schema migration of a supported version leaves every page but page 0 as it is. -/
theorem migrateSchema_of_ne {pageId : UInt8} {version : UInt16} {payload : Bytes}
    (hpage : pageId ≠ ConfigPage.baseEngineFuelComm.id) (hversion : version ≤ schemaVersion) :
    ∃ steps, migrateSchema pageId payload.length (schemaVersion.toNat - version.toNat) version
      payload 0 = .ok (payload, steps) := by
  have hkeep : schemaMigrateV0ToV1 pageId payload = .ok payload :=
    if_neg fun h => hpage h.1
  have hcases : version = 0 ∨ version = 1 := by
    rw [UInt16.le_iff_toNat_le] at hversion
    change version.toNat ≤ 1 at hversion
    simp only [← UInt16.toNat_inj]
    change version.toNat = 0 ∨ version.toNat = 1
    omega
  rcases hcases with rfl | rfl
  · refine ⟨1, ?_⟩
    change migrateSchema pageId payload.length 1 0 payload 0 = _
    rw [migrateSchema, migrateLoop, schemaMigratorFor]
    simp only [if_pos, hkeep, ne_eq, not_true_eq_false, if_false, migrateLoop]
    rfl
  · exact ⟨0, rfl⟩

/-- An image of a serialised assignment set in format 0 is imported as the serialised page. -/
theorem migratePayload_legacy (image : StoredPageImage)
    {assignments : List ResolvedPinAssignment} {page : Bytes}
    (h : serializeAssignmentsToPage assignments 512 = .ok page)
    (hpayload : image.payload = legacyAssignmentPage page)
    (hschema : image.header.schemaVersion ≤ schemaVersion)
    (hformat : image.header.formatVersion = 0) :
    ∃ schemaSteps, migratePayloadToCurrentVersions ConfigPage.pinAssignment.id image page.length =
      .ok (page, schemaSteps, 1) := by
  have hpage := length_serializeAssignments h
  have hlen : (legacyAssignmentPage page).length = page.length :=
    length_legacyAssignmentPage (by omega)
  obtain ⟨schemaSteps, hloop⟩ : ∃ steps, migrateSchema ConfigPage.pinAssignment.id
      (legacyAssignmentPage page).length
      (schemaVersion.toNat - image.header.schemaVersion.toNat) image.header.schemaVersion
      (legacyAssignmentPage page) 0 = .ok (legacyAssignmentPage page, steps) :=
    migrateSchema_of_ne (by decide) hschema
  have hone : configFormatVersion.toNat - (0 : UInt8).toNat = 1 := rfl
  have hmigrator : formatMigratorFor 0 = some formatMigrateV0ToV1 := rfl
  have hstep : migrateFormat ConfigPage.pinAssignment.id page.length 1 0 (legacyAssignmentPage page)
      0 = .ok (page, 1) := by
    rw [migrateFormat, migrateLoop, hmigrator]
    simp only [migrate_legacyAssignmentPage h, ne_eq, not_true_eq_false, if_false, migrateLoop]
    rfl
  rw [hlen] at hloop
  refine ⟨schemaSteps, ?_⟩
  rw [migratePayloadToCurrentVersions, hpayload, if_neg (not_not.mpr hlen),
    if_neg (UInt16.not_lt.mpr hschema)]
  simp only [hloop, hformat]
  rw [if_neg (by decide), hone, hstep]

/-- A valid assignment set comes through the import of its legacy image. -/
theorem WellFormed.import_legacy (h : s.WellFormed P) {assignments : List ResolvedPinAssignment}
    (hvalid : ValidAssignmentSet assignments) : ∃ page,
      serializeAssignmentsToPage assignments 512 = .ok page ∧
      ∀ (generation : UInt32), ∀ schema ≤ schemaVersion, ∃ s' report,
        s.importPersistedPageImage P ConfigPage.pinAssignment.id
          (encodeStoredPageImageWithVersions P ConfigPage.pinAssignment.id generation schema 0
            (legacyAssignmentPage page)) = (s', .ok report) ∧
        s'.readPage ConfigPage.pinAssignment.id = some page ∧
        deserializeAssignmentsFromPage page = .ok assignments := by
  obtain ⟨page, hpage⟩ := hvalid.exists_serialize
  have hlen := length_serializeAssignments hpage
  have hn : pageLengthAt ConfigPage.pinAssignment.id.toNat = some page.length := by
    rw [hlen]
    rfl
  refine ⟨page, hpage, fun generation schema hschema => ?_⟩
  have hsmall : (legacyAssignmentPage page).length ≤ 0xFFFF := by
    rw [length_legacyAssignmentPage (by omega)]
    omega
  have hdecode : decodeStoredPageImage P (encodeStoredPageImageWithVersions P
      ConfigPage.pinAssignment.id generation schema 0 (legacyAssignmentPage page)) =
      .ok ⟨buildPageHeaderWithVersions P ConfigPage.pinAssignment.id generation schema 0
        (legacyAssignmentPage page), legacyAssignmentPage page⟩ :=
    decode_encodeStoredPageImageWithVersions (by decide) hsmall
  obtain ⟨schemaSteps, hmigrate⟩ := migratePayload_legacy
    ⟨buildPageHeaderWithVersions P ConfigPage.pinAssignment.id generation schema 0
      (legacyAssignmentPage page), legacyAssignmentPage page⟩ hpage rfl hschema rfl
  obtain ⟨slot, -, -, hslot, -, -⟩ := h.exists_slot hn
  have himport := importPersistedPageImage_of_ok h.ram hn hdecode rfl hmigrate hslot
  exact ⟨_, _, himport, (h.imported hn hmigrate hslot).ram, deserialize_serialize hvalid hpage⟩

/-- **Importing is all or nothing, and keeps the meaning.** In every store that can be reached, it
leaves the whole store as it was where it fails, and did what `Imported` says where it succeeds. A
valid assignment set in the layout of format 0 is imported to a page that is read as that set. -/
theorem import_all_or_nothing (h : s.Reached P) :
    (∀ pageId rawImage,
      (∀ error, (s.importPersistedPageImage P pageId rawImage).2 = .error error →
        (s.importPersistedPageImage P pageId rawImage).1 = s) ∧
      ∀ report, (s.importPersistedPageImage P pageId rawImage).2 = .ok report →
        ∃ image payload, decodeStoredPageImage P rawImage = .ok image ∧
          Imported P s pageId image payload (s.importPersistedPageImage P pageId rawImage).1
            report) ∧
    ∀ assignments, ValidAssignmentSet assignments → ∃ page,
      serializeAssignmentsToPage assignments 512 = .ok page ∧
      ∀ (generation : UInt32), ∀ schema ≤ schemaVersion, ∃ s' report page3,
        s.importPersistedPageImage P ConfigPage.pinAssignment.id
          (encodeStoredPageImageWithVersions P ConfigPage.pinAssignment.id generation schema 0
            (legacyAssignmentPage page)) = (s', .ok report) ∧
        s'.readPage ConfigPage.pinAssignment.id = some page3 ∧
        deserializeAssignmentsFromPage page3 = .ok assignments := by
  refine ⟨fun pageId rawImage => ?_, fun assignments hvalid => ?_⟩
  · obtain ⟨error, heq⟩ | ⟨image, payload, _, _, slot, hdecode, hn, hmigrate, hslot, heq⟩ :=
      importPersistedPageImage_cases h.wellFormed.ram pageId rawImage
    · rw [heq]
      exact ⟨fun _ _ => rfl, fun _ hok => nomatch hok⟩
    · rw [heq]
      refine ⟨fun _ herror => (nomatch herror), fun report hok => ?_⟩
      cases hok
      exact ⟨image, payload, hdecode, h.wellFormed.imported hn hmigrate hslot⟩
  · obtain ⟨page, hpage, himport⟩ := h.wellFormed.import_legacy hvalid
    refine ⟨page, hpage, fun generation schema hschema => ?_⟩
    obtain ⟨s', report, heq, hread, hdeserialize⟩ := himport generation schema hschema
    exact ⟨s', report, page, heq, hread, hdeserialize⟩

/-- A store with one page written imports the default assignment set from an image of format 0: the
page is migrated, and read as that set. An image that is no image changes nothing. -/
theorem written_store_imports : ∃ s page s' report image payload,
    (newZeroed referencePlatform).writePage 9 (List.replicate 256 1) = .ok s ∧
    serializeAssignmentsToPage bootPinAssignments 512 = .ok page ∧
    s.importPersistedPageImage referencePlatform ConfigPage.pinAssignment.id
      (encodeStoredPageImageWithVersions referencePlatform ConfigPage.pinAssignment.id 7 0 0
        (legacyAssignmentPage page)) = (s', .ok report) ∧
    Imported referencePlatform s ConfigPage.pinAssignment.id image payload s' report ∧
    deserializeAssignmentsFromPage payload = .ok bootPinAssignments ∧
    (s.importPersistedPageImage referencePlatform 0 []).1 = s := by
  obtain ⟨old, hold, hlen⟩ :=
    (wellFormed_newZeroed (P := referencePlatform)).exists_readPage 9 (n := 256) rfl
  have hw := writePage_eq_ok_iff.mpr
    ⟨⟨old, hold, hlen.trans (List.length_replicate (n := 256) (a := (1 : UInt8))).symm⟩, rfl⟩
  have hreached : ((newZeroed referencePlatform).withRam 9 (List.replicate 256 1)).Reached
      referencePlatform := by
    refine ⟨[.writePage 9 (List.replicate 256 1)], ?_⟩
    rw [List.foldlM_cons, StoreOp.apply, hw]
    rfl
  obtain ⟨himport, hlegacy⟩ := import_all_or_nothing hreached
  obtain ⟨page, hpage, himages⟩ := hlegacy bootPinAssignments validAssignmentSet_boot
  obtain ⟨s', report, page3, heq, hread, hdes⟩ := himages 7 0 (by decide)
  obtain ⟨image, payload, -, himported⟩ := (himport _ _).2 report (congrArg Prod.snd heq)
  rw [heq] at himported
  obtain rfl := Option.some.inj (himported.ram.symm.trans hread)
  exact ⟨_, page, s', report, image, _, hw, hpage, heq, himported, hdes,
    (himport 0 []).1 (.flashImageInvalid .malformedImage) rfl⟩

end ConfigStore

end StEcu
