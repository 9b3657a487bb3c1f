import StEcu.Contract
import StEcu.Foundation.BigEndian
import StEcu.Foundation.Utf8
import StEcu.Platform

/-!
# Key material

Keys, ECU identifiers and challenges are all made the same way (`src/transport.rs`): a domain and
the identity of the board form a byte string, and each group of four bytes is the checksum of that
string with the number of the group behind it.

Which boards encrypt pages, ask for bootloader authentication and require signed images is decided
by the board identifier.
-/

namespace StEcu

/-- `b"ST-FLASH-AUTH-V1"`. -/
def flashAuthDomain : Bytes := utf8 "ST-FLASH-AUTH-V1"

/-- `b"ST-FLASH-SIGN-V1"`. -/
def flashSignatureDomain : Bytes := utf8 "ST-FLASH-SIGN-V1"

/-- `b"ST-BOOT-AUTH-V1"`. -/
def bootloaderAuthDomain : Bytes := utf8 "ST-BOOT-AUTH-V1"

/-- `b"ST-PAGE-CRYPTO-V1"`. -/
def pageCryptoKeyDomain : Bytes := utf8 "ST-PAGE-CRYPTO-V1"

/-- `b"ST-PAGE-ECU-ID-V1"`. -/
def pageCryptoEcuDomain : Bytes := utf8 "ST-PAGE-ECU-ID-V1"

/-- `append_flash_auth_field` and `append_page_crypto_field`: a length and the bytes of a string. -/
def authField (value : String) : Bytes :=
  u16ToBe (UInt16.ofNat (utf8 value).length) ++ utf8 value

/-- A domain followed by the fields of an identity. -/
def identityMaterial (domain : Bytes) (identity : FirmwareIdentity) : Bytes :=
  domain ++ authField identity.firmwareId ++ authField identity.firmwareSemver ++
    authField identity.boardId ++ authField identity.serial ++ authField identity.signature

/-- Groups of four bytes, each the checksum of the material with the group's number behind it. -/
def checksumGroups (P : Platform) (groups : ℕ) (material : Bytes) : Bytes :=
  (List.range groups).flatMap fun index => u32ToBe (P.crc32 (material ++ [UInt8.ofNat index]))

@[simp] theorem length_checksumGroups (P : Platform) (groups : ℕ) (material : Bytes) :
    (checksumGroups P groups material).length = 4 * groups := by
  simp [checksumGroups, Nat.mul_comm]

/-- The key, or the identifier, of the page encryption of a board. -/
def derivePageCryptoBytes (P : Platform) (identity : FirmwareIdentity) (domain : Bytes) : Bytes :=
  checksumGroups P 8 (identityMaterial domain identity)

/-- The key of the tags of firmware images. -/
def deriveFlashAuthKey (P : Platform) (identity : FirmwareIdentity) : Bytes :=
  checksumGroups P 8 (identityMaterial flashAuthDomain identity)

/-- The key of the responses to challenges. -/
def deriveBootloaderAuthKey (P : Platform) (identity : FirmwareIdentity) : Bytes :=
  checksumGroups P 8 (identityMaterial bootloaderAuthDomain identity)

/-! ### The H743 boards -/

/-- The lower case of an ASCII letter. -/
def asciiLower (b : UInt8) : UInt8 := if 0x41 ≤ b ∧ b ≤ 0x5A then b + 0x20 else b

/-- `board_id.to_ascii_lowercase().contains("h743")`. -/
def FirmwareIdentity.isH743 (identity : FirmwareIdentity) : Bool :=
  ((utf8 identity.boardId).map asciiLower).tails.any fun rest => (utf8 "h743").isPrefixOf rest

/-- Only the H743 boards encrypt pages. -/
def pageCryptoEnabledForIdentity (identity : FirmwareIdentity) : Bool := identity.isH743

/-- Only the H743 boards ask for signed images. -/
def flashSignatureRequiredForIdentity (identity : FirmwareIdentity) : Bool := identity.isH743

end StEcu
