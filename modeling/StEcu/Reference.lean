import StEcu.Foundation.AesGcm
import StEcu.Foundation.Crc
import StEcu.Platform

/-!
# A reference platform

One concrete platform, on which statements about all platforms are tried out: the real checksums
and the real cipher, in a build without a verification key.

## Main definitions

* `crc16IbmSdlc`, `crc32IsoHdlc`: CRC-16/IBM-SDLC and CRC-32/ISO-HDLC, bit by bit.
* `referencePlatform`.

## Main results

* `crc32IsoHdlc_ne_of_agreeOutside`: the checksum of a message changes with any four consecutive
  bytes of it.
-/

namespace StEcu

/-- One bit of the checksum register, least significant bit first. -/
def crc32Bit (crc : UInt32) : UInt32 :=
  if crc &&& 1 = 1 then (crc >>> 1) ^^^ 0xEDB88320 else crc >>> 1

/-- One byte of the checksum, bit by bit. -/
def crc32Byte (crc : UInt32) (byte : UInt8) : UInt32 :=
  crc32Bit (crc32Bit (crc32Bit (crc32Bit (crc32Bit (crc32Bit (crc32Bit (crc32Bit
    (crc ^^^ byte.toUInt32))))))))

/-- CRC-32/ISO-HDLC, the checksum of zip files. -/
def crc32IsoHdlc (bytes : Bytes) : UInt32 := bytes.foldl crc32Byte 0xFFFFFFFF ^^^ 0xFFFFFFFF

/-- The checksum of `123456789`. -/
example : crc32IsoHdlc [0x31, 0x32, 0x33, 0x34, 0x35, 0x36, 0x37, 0x38, 0x39] = 0xCBF43926 := by
  decide +kernel

theorem toBitVec_crc32Bit (crc : UInt32) :
    (crc32Bit crc).toBitVec = crcShift 0xEDB88320#32 crc.toBitVec := by
  have hlow : crc &&& 1 = 1 ↔ crc.toBitVec.getLsbD 0 = true := by
    rw [← UInt32.toBitVec_inj, UInt32.toBitVec_and, UInt32.toBitVec_one,
      BitVec.and_one_eq_setWidth_ofBool_getLsbD]
    cases crc.toBitVec.getLsbD 0 <;> decide
  rw [crc32Bit, crcShift]
  by_cases h : crc &&& 1 = 1
  · rw [if_pos h, if_pos (hlow.mp h)]
    rfl
  · rw [if_neg h, if_neg fun hbit => h (hlow.mpr hbit)]
    rfl

theorem toBitVec_crc32Byte (crc : UInt32) (byte : UInt8) :
    (crc32Byte crc byte).toBitVec = crcByte 0xEDB88320#32 crc.toBitVec byte := by
  have hbyte : byte.toUInt32.toBitVec = BitVec.ofNat 32 byte.toNat :=
    BitVec.eq_of_toNat_eq (by simp)
  simp only [crc32Byte, toBitVec_crc32Bit, UInt32.toBitVec_xor, hbyte]
  rfl

/-- The register of the checksum is that of the cyclic redundancy check with its polynomial. -/
theorem toBitVec_foldl_crc32Byte (crc : UInt32) (bytes : Bytes) :
    (bytes.foldl crc32Byte crc).toBitVec = crcRegister 0xEDB88320#32 crc.toBitVec bytes := by
  induction bytes generalizing crc with
  | nil => rfl
  | cons b bs ih => rw [List.foldl_cons, ih, toBitVec_crc32Byte, crcRegister_cons]

/-- The checksum changes with any change within four consecutive bytes. -/
theorem crc32IsoHdlc_ne_of_agreeOutside {i k : ℕ} {bs cs : Bytes} (h : AgreeOutside i k bs cs)
    (hk : k ≤ 4) (hne : bs ≠ cs) : crc32IsoHdlc bs ≠ crc32IsoHdlc cs := by
  intro heq
  have hregister := congrArg UInt32.toBitVec ((UInt32.xor_left_inj _).mp heq)
  rw [toBitVec_foldl_crc32Byte, toBitVec_foldl_crc32Byte] at hregister
  exact crcRegister_ne_of_agreeOutside (by decide) h (by omega) hne hregister

/-- One bit of the 16-bit checksum, reflected. -/
def crc16Bit (crc : UInt16) : UInt16 :=
  if crc &&& 1 = 1 then (crc >>> 1) ^^^ 0x8408 else crc >>> 1

/-- One byte of the 16-bit checksum, bit by bit. -/
def crc16Byte (crc : UInt16) (byte : UInt8) : UInt16 :=
  crc16Bit (crc16Bit (crc16Bit (crc16Bit (crc16Bit (crc16Bit (crc16Bit (crc16Bit
    (crc ^^^ byte.toUInt16))))))))

/-- CRC-16/IBM-SDLC. -/
def crc16IbmSdlc (bytes : Bytes) : UInt16 := bytes.foldl crc16Byte 0xFFFF ^^^ 0xFFFF

/-- The checksum of `123456789`. -/
example : crc16IbmSdlc [0x31, 0x32, 0x33, 0x34, 0x35, 0x36, 0x37, 0x38, 0x39] = 0x906E := by
  decide +kernel

/-- A platform whose checksums are those of the `crc` package and whose cipher is AES-256 in
Galois/counter mode; its texts are the simplest that will do. -/
def referencePlatform : Platform where
  crc16 := crc16IbmSdlc
  crc32 := crc32IsoHdlc
  aesGcmEncrypt key nonce message aad :=
    if key.length = 32 ∧ nonce.length = 12 ∧ message.length ≤ 2 ^ 36 ∧ aad.length ≤ 2 ^ 36 then
      some (AesGcm.encrypt key nonce message aad)
    else none
  aesGcmDecrypt key nonce ciphertext aad :=
    if key.length = 32 ∧ nonce.length = 12 ∧ ciphertext.length ≤ 2 ^ 36 + 16 ∧
        aad.length ≤ 2 ^ 36 then
      AesGcm.decrypt key nonce ciphertext aad
    else none
  ed25519Verify _ _ _ := false
  otaVerifyPubkeyHex := none
  debugAssertions := true
  powf x _ := x
  f32Bits _ := 0
  formatFixed _ x := toString x
  debugStr s := "\"" ++ s ++ "\""
  jsonStr s := "\"" ++ s ++ "\""

theorem referencePlatform_aead : AeadLaw referencePlatform where
  encrypt key nonce message aad hkey hnonce hmessage haad := by
    refine ⟨AesGcm.encrypt key nonce message aad, if_pos ⟨hkey, hnonce, hmessage, haad⟩,
      AesGcm.length_encrypt key nonce message aad, ?_⟩
    refine (if_pos ⟨hkey, hnonce, ?_, haad⟩).trans (AesGcm.decrypt_encrypt key nonce message aad)
    rw [AesGcm.length_encrypt]
    omega

theorem referencePlatform_debug : DebugLaw referencePlatform where
  debugStr_eq _ _ := rfl

end StEcu
