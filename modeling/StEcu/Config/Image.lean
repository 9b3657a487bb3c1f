import StEcu.Contract
import StEcu.Foundation.BigEndian
import StEcu.Platform

/-!
# Stored page images

The image in which a configuration page is kept in flash (`src/config.rs`): a header of 22 bytes
(magic, format version, page, schema version, generation, length and two checksums) and the
payload.

## Main definitions

* `ConfigPage`, `pageDirectory`: the pages and their lengths.
* `ConfigPageHeader`, `StoredPageImage`.
* `encodeStoredPageImageWithVersions`, `decodeStoredPageImage`.

## Main results

* `decode_encodeStoredPageImageWithVersions`: an encoded image decodes to its header and payload.
-/

namespace StEcu

/-- The pages of the configuration. -/
inductive ConfigPage
  | baseEngineFuelComm
  | triggerIgnition
  | sensors
  | pinAssignment
  | idleBoostVvt
  | limitsKnock
  | advancedAirTorque
  | protectionsThermal
  | vehicleIntegration
  | uiDefaults
  deriving DecidableEq, Repr

/-- The number of a page, as in `ConfigPage as u8`. -/
@[simp] def ConfigPage.id : ConfigPage → UInt8
  | baseEngineFuelComm => 0
  | triggerIgnition => 1
  | sensors => 2
  | pinAssignment => 3
  | idleBoostVvt => 4
  | limitsKnock => 5
  | advancedAirTorque => 6
  | protectionsThermal => 7
  | vehicleIntegration => 8
  | uiDefaults => 9

/-- The identifier, the name and the size of a page. -/
structure PageDirectoryEntry where
  id : UInt8
  key : String
  byteLength : UInt16
  deriving DecidableEq, Repr

/-- The pages of the store, in the order of their identifiers. -/
def pageDirectory : List PageDirectoryEntry :=
  [⟨ConfigPage.baseEngineFuelComm.id, "base_engine_fuel_comm", 512⟩,
    ⟨ConfigPage.triggerIgnition.id, "trigger_ignition", 512⟩,
    ⟨ConfigPage.sensors.id, "sensors", 1024⟩,
    ⟨ConfigPage.pinAssignment.id, "pin_assignment", 512⟩,
    ⟨ConfigPage.idleBoostVvt.id, "idle_boost_vvt", 512⟩,
    ⟨ConfigPage.limitsKnock.id, "limits_knock", 512⟩,
    ⟨ConfigPage.advancedAirTorque.id, "advanced_air_torque", 512⟩,
    ⟨ConfigPage.protectionsThermal.id, "protections_thermal", 512⟩,
    ⟨ConfigPage.vehicleIntegration.id, "vehicle_integration", 512⟩,
    ⟨ConfigPage.uiDefaults.id, "ui_defaults", 256⟩]

/-- What a stored image says of the page in it. -/
structure ConfigPageHeader where
  pageId : UInt8
  schemaVersion : UInt16
  formatVersion : UInt8
  generation : UInt32
  payloadLength : UInt16
  payloadCrc : UInt32
  imageCrc : UInt32
  deriving DecidableEq, Repr

/-- A page as it is stored in flash: its header and its bytes. -/
structure StoredPageImage where
  header : ConfigPageHeader
  payload : Bytes
  deriving DecidableEq, Repr

/-- Why an image is not accepted. -/
inductive ConfigImageError
  | malformedImage
  | invalidMagic
  | unsupportedFormat (version : UInt8)
  | imageCrcMismatch
  | payloadCrcMismatch
  deriving DecidableEq, Repr

/-- `b"STCF"`. -/
def configImageMagic : Bytes := [0x53, 0x54, 0x43, 0x46]

/-- The oldest image format that is still read. -/
def minSupportedConfigFormatVersion : UInt8 := 0

/-- The bytes of an image in front of its page. -/
def storedPageHeaderLen : ℕ := 22

section Codec

variable (P : Platform)

/-- The bytes in front of the image checksum. -/
def encodeImagePrefix (header : ConfigPageHeader) : Bytes :=
  configImageMagic ++ [header.formatVersion, header.pageId] ++ u16ToBe header.schemaVersion ++
    u32ToBe header.generation ++ u16ToBe header.payloadLength ++ u32ToBe header.payloadCrc

/-- The checksum of an image, over its header and its page. -/
def calculateImageCrc (formatVersion : UInt8) (schemaVersion : UInt16) (pageId : UInt8)
    (generation : UInt32) (payloadLength : UInt16) (payloadCrc : UInt32) (payload : Bytes) :
    UInt32 :=
  P.crc32 (configImageMagic ++ [formatVersion, pageId] ++ u16ToBe schemaVersion ++
    u32ToBe generation ++ u16ToBe payloadLength ++ u32ToBe payloadCrc ++ payload)

/-- The header of a page in the given versions of schema and format. -/
def buildPageHeaderWithVersions (pageId : UInt8) (generation : UInt32) (schemaVersion : UInt16)
    (formatVersion : UInt8) (payload : Bytes) : ConfigPageHeader :=
  let payloadLength := UInt16.ofNat payload.length
  let payloadCrc := P.crc32 payload
  { pageId, schemaVersion, formatVersion, generation, payloadLength, payloadCrc
    imageCrc := calculateImageCrc P formatVersion schemaVersion pageId generation payloadLength
      payloadCrc payload }

/-- The header of a page in the current versions. -/
def buildPageHeader (pageId : UInt8) (generation : UInt32) (payload : Bytes) : ConfigPageHeader :=
  buildPageHeaderWithVersions P pageId generation schemaVersion configFormatVersion payload

/-- The image of a page in the given versions of schema and format. -/
def encodeStoredPageImageWithVersions (pageId : UInt8) (generation : UInt32)
    (schemaVersion : UInt16) (formatVersion : UInt8) (payload : Bytes) : Bytes :=
  let payload := payload.take 0xFFFF
  let header := buildPageHeaderWithVersions P pageId generation schemaVersion formatVersion payload
  encodeImagePrefix header ++ u32ToBe header.imageCrc ++ payload

/-- The image of a page in the current versions. -/
def encodeStoredPageImage (pageId : UInt8) (generation : UInt32) (payload : Bytes) : Bytes :=
  encodeStoredPageImageWithVersions P pageId generation schemaVersion configFormatVersion payload

/-- The page of an image, after its magic, its format, its length and its two checksums were
checked. -/
def decodeStoredPageImage (raw : Bytes) : Except ConfigImageError StoredPageImage :=
  if raw.length < storedPageHeaderLen then .error .malformedImage
  else if raw.take 4 ≠ configImageMagic then .error .invalidMagic
  else
    let formatVersion := raw.getD 4 0
    if formatVersion < minSupportedConfigFormatVersion ∨ configFormatVersion < formatVersion then
      .error (.unsupportedFormat formatVersion)
    else
      let pageId := raw.getD 5 0
      let schemaVersion := u16OfBe (slice raw 6 8)
      let generation := u32OfBe (slice raw 8 12)
      let payloadLength := u16OfBe (slice raw 12 14)
      let payloadCrc := u32OfBe (slice raw 14 18)
      let imageCrc := u32OfBe (slice raw 18 22)
      if raw.length ≠ storedPageHeaderLen + payloadLength.toNat then .error .malformedImage
      else
        let payload := raw.drop storedPageHeaderLen
        if P.crc32 payload ≠ payloadCrc then .error .payloadCrcMismatch
        else if calculateImageCrc P formatVersion schemaVersion pageId generation payloadLength
            payloadCrc payload ≠ imageCrc then .error .imageCrcMismatch
        else
          .ok
            { header :=
                { pageId, schemaVersion, formatVersion, generation, payloadLength, payloadCrc,
                  imageCrc }
              payload }

variable {P}

/-- Where the decoder finds the fields of a header, and the payload behind them. -/
theorem fields_of_encodeImagePrefix (h : ConfigPageHeader) (payload : Bytes) :
    let raw := encodeImagePrefix h ++ u32ToBe h.imageCrc ++ payload
    raw.length = storedPageHeaderLen + payload.length ∧ raw.take 4 = configImageMagic ∧
      raw.getD 4 0 = h.formatVersion ∧ raw.getD 5 0 = h.pageId ∧
      slice raw 6 8 = u16ToBe h.schemaVersion ∧ slice raw 8 12 = u32ToBe h.generation ∧
      slice raw 12 14 = u16ToBe h.payloadLength ∧ slice raw 14 18 = u32ToBe h.payloadCrc ∧
      slice raw 18 22 = u32ToBe h.imageCrc ∧ raw.drop storedPageHeaderLen = payload := by
  refine ⟨?_, rfl, rfl, rfl, rfl, rfl, rfl, rfl, rfl, rfl⟩
  simp [encodeImagePrefix, configImageMagic, storedPageHeaderLen]
  omega

/-- An encoded image decodes to the header it was built with and the payload. -/
theorem decode_encodeStoredPageImageWithVersions {pageId : UInt8} {generation : UInt32}
    {schemaVersion : UInt16} {formatVersion : UInt8} {payload : Bytes}
    (hf : formatVersion ≤ configFormatVersion) (hlen : payload.length ≤ 0xFFFF) :
    decodeStoredPageImage P (encodeStoredPageImageWithVersions P pageId generation schemaVersion
      formatVersion payload) =
      .ok ⟨buildPageHeaderWithVersions P pageId generation schemaVersion formatVersion payload,
        payload⟩ := by
  have htake : payload.take 0xFFFF = payload := List.take_of_length_le hlen
  have hversion : ¬ (formatVersion < minSupportedConfigFormatVersion ∨
      configFormatVersion < formatVersion) := by
    rintro (h | h)
    · exact absurd h (UInt8.not_lt.mpr (UInt8.le_iff_toNat_le.mpr (Nat.zero_le _)))
    · exact absurd h (UInt8.not_lt.mpr hf)
  have hpl : (UInt16.ofNat payload.length).toNat = payload.length := by
    rw [UInt16.toNat_ofNat']
    omega
  rw [encodeStoredPageImageWithVersions, htake]
  obtain ⟨hl, hm, h4, h5, hs, hg, hp, hpc, hic, hd⟩ := fields_of_encodeImagePrefix
    (buildPageHeaderWithVersions P pageId generation schemaVersion formatVersion payload) payload
  rw [decodeStoredPageImage]
  simp only [hl, hm, h4, h5, hs, hg, hp, hpc, hic, hd, u16OfBe_u16ToBe, u32OfBe_u32ToBe]
  simp [buildPageHeaderWithVersions, hversion, hpl]

end Codec

end StEcu
