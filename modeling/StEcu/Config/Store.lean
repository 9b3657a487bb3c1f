import StEcu.Config.Migration

/-!
# The configuration store

The RAM pages the host edits, the flash slots they are burned to, and the scratch in which an
interrupted flash transfer is kept (`ConfigStore` in `src/config.rs`).

An operation that can fail halfway returns the store it leaves behind beside its result.

## Main definitions

* `FlashPageSlot`, `FlashResumeScratch`, `ConfigStore`.
* `writePage`, `burnPage`, `burnAllDirty`, `restorePageFromFlash`, `importPersistedPageImage`.
* `needsBurn`, `pageStatus`, `allPageStatuses`.
-/

namespace StEcu

/-- Why an operation of the store fails. -/
inductive ConfigStoreError
  | invalidPageId
  | pageIdMismatch (expected actual : UInt8)
  | pageLengthMismatch
  | noValidFlashImage
  | flashImageInvalid (error : ConfigImageError)
  | migrationFailed (error : ConfigMigrationError)
  deriving DecidableEq, Repr

/-- The position of an interrupted firmware transfer and the image as far as it was received. -/
structure FlashResumeScratch where
  sessionId : UInt32
  nextBlock : UInt32
  rollingCrc : UInt32
  image : Bytes
  deriving DecidableEq, Repr

/-- The place of a page in flash: the raw bytes, the image that they decode to, and how often the
place was erased. -/
structure FlashPageSlot where
  rawImage : Bytes
  committed : Option StoredPageImage
  eraseCycles : UInt32
  deriving DecidableEq, Repr

/-- The pages in RAM, their places in flash, and the scratch of a firmware transfer. -/
structure ConfigStore where
  ramPages : List Bytes
  flashSlots : List FlashPageSlot
  flashResumeScratch : Option FlashResumeScratch
  deriving DecidableEq, Repr

/-- What an import did: the versions of the image and the steps that were taken from there. -/
structure ConfigMigrationReport where
  pageId : UInt8
  fromSchemaVersion : UInt16
  toSchemaVersion : UInt16
  fromFormatVersion : UInt8
  toFormatVersion : UInt8
  schemaSteps : UInt16
  formatSteps : UInt8
  migrated : Bool
  deriving DecidableEq, Repr

/-- What the store reports of a page: its checksums in RAM and in flash, and whether they differ. -/
structure ConfigPageStatus where
  pageId : UInt8
  ramCrc : UInt32
  flashCrc : UInt32
  needsBurn : Bool
  flashGeneration : UInt32
  flashValid : Bool
  deriving DecidableEq, Repr

variable (P : Platform)

/-- `decode_stored_page_image(raw_image).ok()`. -/
def decodedImage (rawImage : Bytes) : Option StoredPageImage :=
  (decodeStoredPageImage P rawImage).toOption

namespace FlashPageSlot

/-- The slot of a page of zeros. -/
def zeroed (pageId : UInt8) (pageLength : ℕ) : FlashPageSlot :=
  let rawImage := encodeStoredPageImage P pageId 0 (List.replicate pageLength 0)
  { rawImage, committed := decodedImage P rawImage, eraseCycles := 0 }

/-- The raw bytes of a slot replaced, whether they decode or not. -/
def replaceRawImage (slot : FlashPageSlot) (rawImage : Bytes) : FlashPageSlot :=
  { slot with committed := decodedImage P rawImage, rawImage }

end FlashPageSlot

namespace ConfigStore

/-- The store whose pages are all zero, in RAM and in flash. -/
def newZeroed : ConfigStore where
  ramPages := pageDirectory.map fun entry => List.replicate entry.byteLength.toNat 0
  flashSlots := pageDirectory.map fun entry =>
    FlashPageSlot.zeroed P entry.id entry.byteLength.toNat
  flashResumeScratch := none

variable (s : ConfigStore)

/-- The RAM copy of a page. -/
def readPage (pageId : UInt8) : Option Bytes := s.ramPages[pageId.toNat]?

/-- The page that its slot in flash holds. -/
def readFlashPage (pageId : UInt8) : Option Bytes :=
  (s.flashSlots[pageId.toNat]?).bind fun slot => slot.committed.map StoredPageImage.payload

/-- The length of a page. -/
def pageLength (pageId : UInt8) : Option ℕ := (s.ramPages[pageId.toNat]?).map List.length

/-- The header of the image in flash. -/
def flashPageHeader (pageId : UInt8) : Option ConfigPageHeader :=
  (s.flashSlots[pageId.toNat]?).bind fun slot => slot.committed.map StoredPageImage.header

/-- The generation of the image in flash, which counts the burns. -/
def flashPageGeneration (pageId : UInt8) : Option UInt32 :=
  (s.flashPageHeader pageId).map ConfigPageHeader.generation

/-- The RAM copy of a page replaced by data of the same length. -/
def writePage (pageId : UInt8) (data : Bytes) : Except ConfigStoreError ConfigStore :=
  match s.ramPages[pageId.toNat]? with
  | none => .error .invalidPageId
  | some page =>
    if page.length ≠ data.length then .error .pageLengthMismatch
    else .ok { s with ramPages := s.ramPages.set pageId.toNat data }

/-- The RAM copy of a page stored in flash, in the next generation. -/
def burnPage (pageId : UInt8) : ConfigStore × Except ConfigStoreError Unit :=
  match s.ramPages[pageId.toNat]?, s.flashSlots[pageId.toNat]? with
  | some ram, some slot =>
    let nextGeneration := match slot.committed with
      | none => 0
      | some image => image.header.generation.saturatingAdd 1
    let replaced := slot.replaceRawImage P (encodeStoredPageImage P pageId nextGeneration ram)
    let slot := { replaced with eraseCycles := slot.eraseCycles.saturatingAdd 1 }
    ({ s with flashSlots := s.flashSlots.set pageId.toNat slot },
      if slot.committed.isNone then .error .noValidFlashImage else .ok ())
  | _, _ => (s, .error .invalidPageId)

/-- Whether the RAM copy of a page differs from flash. -/
def needsBurn (pageId : UInt8) : Option Bool :=
  match s.ramPages[pageId.toNat]?, s.flashSlots[pageId.toNat]? with
  | some ram, some slot =>
    match slot.committed with
    | some image => some (image.payload != ram)
    | none => some true
  | _, _ => none

/-- The page identifiers of the directory whose RAM page differs from flash. -/
def dirtyPages : List UInt8 :=
  (pageDirectory.map PageDirectoryEntry.id).filter fun pageId =>
    (s.needsBurn pageId).getD false

/-- Burns the pages of a list one after the other, counting the successes. -/
def burnPages (pageIds : List UInt8) : ConfigStore × ℕ :=
  pageIds.foldl (fun (s, burned) pageId =>
    match s.burnPage P pageId with
    | (s, .ok ()) => (s, burned + 1)
    | (s, .error _) => (s, burned)) (s, 0)

/-- All pages that differ from flash are burned; the number of them is returned. -/
def burnAllDirty : ConfigStore × ℕ := s.burnPages P s.dirtyPages

/-- The RAM copy of a page replaced by what flash holds. -/
def restorePageFromFlash (pageId : UInt8) : Except ConfigStoreError ConfigStore :=
  match s.flashSlots[pageId.toNat]? with
  | none => .error .invalidPageId
  | some slot =>
    match slot.committed with
    | none => .error .noValidFlashImage
    | some image =>
      match s.ramPages[pageId.toNat]? with
      | none => .error .invalidPageId
      | some _ => .ok { s with ramPages := s.ramPages.set pageId.toNat image.payload }

/-- An image taken in as the flash image of its page: migrated to the current versions, and restored
to RAM. -/
def importPersistedPageImage (pageId : UInt8) (rawImage : Bytes) :
    ConfigStore × Except ConfigStoreError ConfigMigrationReport :=
  match s.pageLength pageId with
  | none => (s, .error .invalidPageId)
  | some expectedLength =>
    match decodeStoredPageImage P rawImage with
    | .error error => (s, .error (.flashImageInvalid error))
    | .ok decoded =>
      if decoded.header.pageId ≠ pageId then
        (s, .error (.pageIdMismatch pageId decoded.header.pageId))
      else
        match migratePayloadToCurrentVersions pageId decoded expectedLength with
        | .error error => (s, .error (.migrationFailed error))
        | .ok (migratedPayload, schemaSteps, formatSteps) =>
          match s.flashSlots[pageId.toNat]? with
          | none => (s, .error .invalidPageId)
          | some slot =>
            let slot := slot.replaceRawImage P (encodeStoredPageImageWithVersions P pageId
              decoded.header.generation schemaVersion configFormatVersion migratedPayload)
            let s := { s with flashSlots := s.flashSlots.set pageId.toNat slot }
            if slot.committed.isNone then (s, .error .noValidFlashImage)
            else
              ({ s with ramPages := s.ramPages.set pageId.toNat migratedPayload },
                .ok
                  { pageId
                    fromSchemaVersion := decoded.header.schemaVersion
                    toSchemaVersion := schemaVersion
                    fromFormatVersion := decoded.header.formatVersion
                    toFormatVersion := configFormatVersion
                    schemaSteps, formatSteps
                    migrated := schemaSteps > 0 || formatSteps > 0 ||
                      decoded.header.schemaVersion != schemaVersion ||
                      decoded.header.formatVersion != configFormatVersion })

/-- The status of a page. -/
def pageStatus (pageId : UInt8) : Option ConfigPageStatus :=
  match s.ramPages[pageId.toNat]?, s.flashSlots[pageId.toNat]? with
  | some ram, some slot =>
    match slot.committed with
    | some image =>
      some
        { pageId, ramCrc := P.crc32 ram, flashCrc := image.header.payloadCrc
          needsBurn := image.payload != ram, flashGeneration := image.header.generation
          flashValid := true }
    | none =>
      some
        { pageId, ramCrc := P.crc32 ram, flashCrc := 0, needsBurn := true, flashGeneration := 0
          flashValid := false }
  | _, _ => none

/-- The statuses of all pages, in the order of the directory. -/
def allPageStatuses : List ConfigPageStatus :=
  pageDirectory.filterMap fun page => s.pageStatus P page.id

/-- The scratch of a firmware transfer replaced. -/
def writeFlashResumeScratch (scratch : FlashResumeScratch) : ConfigStore :=
  { s with flashResumeScratch := some scratch }

/-- The scratch of a firmware transfer removed. -/
def clearFlashResumeScratch : ConfigStore := { s with flashResumeScratch := none }

end ConfigStore

end StEcu
