import StEcu.Crypto.KeyDerivation

/-!
# Authentication of flash images and of the bootloader

The tags and signatures that the update commands check (`src/transport.rs`). A tag is an encryption
of the empty message with the image or the challenge as associated data; a signature is over a
domain, the length and checksum of the image, and the image.

The public key is a setting of the build; a release build refuses the development key.
-/

namespace StEcu

/-- The bytes of a signature. -/
def flashVerifySignatureLen : ℕ := 64

/-- The bytes of the authentication tag of an image. -/
def flashVerifyAuthTagLen : ℕ := 16

/-- The bytes of a challenge. -/
def bootloaderChallengeLen : ℕ := 16

/-- The bytes of the response to a challenge. -/
def bootloaderResponseLen : ℕ := 16

/-- The public key that development builds accept. -/
def flashDevSigningPubkey : Bytes :=
  [0xD7, 0x5A, 0x98, 0x01, 0x82, 0xB1, 0x0A, 0xB7, 0xD5, 0x4B, 0xFE, 0xD3, 0xC9, 0x64, 0x07, 0x3A,
    0x0E, 0xE1, 0x72, 0xF3, 0xDA, 0xA6, 0x23, 0x25, 0xAF, 0x02, 0x1A, 0x68, 0xF7, 0x07, 0x51, 0x1A]

variable (P : Platform)

/-- The nonce of the tag of an image, which depends on the image and the key only. -/
def flashAuthNonce (imageLen : ℕ) (imageCrc : UInt32) (key : Bytes) : Bytes :=
  u32ToBe (UInt32.ofNat imageLen) ++ u32ToBe imageCrc ++ u32ToBe (P.crc32 key)

/-- A tag over associated data alone; `none` where the cipher fails or answers with another
length. -/
def authTag (key : Bytes) (aad : Bytes) (aadCrc : UInt32) (tagLen : ℕ) : Option Bytes :=
  (P.aesGcmEncrypt key (flashAuthNonce P aad.length aadCrc key) [] aad).filter
    fun encrypted => encrypted.length = tagLen

/-- The response that a board expects to its challenge. -/
def computeBootloaderAuthTag (identity : FirmwareIdentity) (challenge : Bytes) : Option Bytes :=
  authTag P (deriveBootloaderAuthKey P identity) challenge (P.crc32 challenge)
    bootloaderResponseLen

/-- The tag that a board expects for an image. -/
def computeFlashAuthTag (identity : FirmwareIdentity) (image : Bytes) (imageCrc : UInt32) :
    Option Bytes :=
  authTag P (deriveFlashAuthKey P identity) image imageCrc flashVerifyAuthTagLen

/-- The message that the signature of an image signs. -/
def buildFlashSignatureMessage (image : Bytes) (imageCrc : UInt32) : Bytes :=
  flashSignatureDomain ++ u32ToBe (UInt32.ofNat image.length) ++ u32ToBe imageCrc ++ image

/-! ### The public key of the build -/

/-- The characters that `str::trim` removes. -/
def isTrimmed (c : Char) : Bool :=
  let n := c.toNat
  0x09 ≤ n && n ≤ 0x0D || n == 0x20 || n == 0x85 || n == 0xA0 || n == 0x1680 ||
    0x2000 ≤ n && n ≤ 0x200A || n == 0x2028 || n == 0x2029 || n == 0x202F || n == 0x205F ||
    n == 0x3000

/-- The string without white space at its ends. -/
def trimmed (s : String) : String :=
  String.ofList (((s.toList.dropWhile isTrimmed).reverse.dropWhile isTrimmed).reverse)

/-- The value of a hexadecimal digit. -/
def hexDigit (b : UInt8) : Option UInt8 :=
  if 0x30 ≤ b ∧ b ≤ 0x39 then some (b - 0x30)
  else if 0x61 ≤ b ∧ b ≤ 0x66 then some (b - 0x57)
  else if 0x41 ≤ b ∧ b ≤ 0x46 then some (b - 0x37)
  else none

/-- `u8::from_str_radix(chunk, 16)` on a chunk of two bytes: two digits, or a sign and a digit.
A chunk that is not ASCII is no number, whether or not it is valid UTF-8. -/
def hexPair (b₁ b₂ : UInt8) : Option UInt8 :=
  if b₁ = 0x2B then hexDigit b₂
  else
    match hexDigit b₁, hexDigit b₂ with
    | some d₁, some d₂ => some (d₁ * 16 + d₂)
    | _, _ => none

/-- The numbers that the chunks of two bytes stand for. -/
def hexPairs : Bytes → Option Bytes
  | b₁ :: b₂ :: rest =>
    match hexPair b₁ b₂, hexPairs rest with
    | some b, some bs => some (b :: bs)
    | _, _ => none
  | _ => some []

/-- The 32 bytes of a string of hexadecimal digits. -/
def parseHex32Bytes (hex : String) : Option Bytes :=
  let bytes := utf8 (trimmed hex)
  if bytes.length ≠ 64 then none else hexPairs bytes

/-- The public key of the build; the development key counts in development builds only. -/
def flashSigningPubkey : Option Bytes :=
  match P.otaVerifyPubkeyHex with
  | some raw =>
    match parseHex32Bytes raw with
    | none => none
    | some parsed =>
      if !P.debugAssertions && parsed = flashDevSigningPubkey then none else some parsed
  | none => if P.debugAssertions then some flashDevSigningPubkey else none

/-- Whether a signature of an image verifies under the key of the build. -/
def verifyFlashSignature (image : Bytes) (imageCrc : UInt32) (signatureBytes : Bytes) : Bool :=
  if signatureBytes.length ≠ flashVerifySignatureLen then false
  else
    match flashSigningPubkey P with
    | none => false
    | some pubkey =>
      P.ed25519Verify pubkey (buildFlashSignatureMessage image imageCrc) signatureBytes

end StEcu
