import Mathlib.Algebra.Order.Field.Rat
import Mathlib.Data.List.Basic

/-!
# What the firmware stands on

The code outside the repository that the firmware calls, and the settings of its build. Checksums
and ciphers come from third-party packages; the text of a formatted value and the power function
come from the language's library. The development is about the firmware for any such platform; where
a result relies on one of them, its documented behaviour is a named hypothesis.

Floating-point numbers are modelled by exact rationals, except where the pictures of the trigger are
rendered, and the clock by a number of nanoseconds.

## Main definitions

* `Platform`: the checksums, the ciphers, formatting, and the build settings.
* `AeadLaw`: what the firmware relies on of the authenticated cipher.
* `DebugLaw`: the debug format of plain strings.
* `Clock`: the clock readings that the firmware takes while it handles one packet.
-/

namespace StEcu

/-- Byte strings. -/
abbrev Bytes := List UInt8

/-- The code outside the repository that the firmware calls. -/
structure Platform where
  /-- CRC-16/IBM-SDLC. -/
  crc16 : Bytes → UInt16
  /-- CRC-32/ISO-HDLC. -/
  crc32 : Bytes → UInt32
  /-- AES-256-GCM, from a key, a nonce, a message and associated data to the ciphertext with its
  16-byte tag. -/
  aesGcmEncrypt : Bytes → Bytes → Bytes → Bytes → Option Bytes
  aesGcmDecrypt : Bytes → Bytes → Bytes → Bytes → Option Bytes
  /-- Ed25519, from a public key, a message and a signature; also false for bytes that are no key
  or no signature. -/
  ed25519Verify : Bytes → Bytes → Bytes → Bool
  /-- The build's `ST_ECU_OTA_VERIFY_PUBKEY_HEX`. -/
  otaVerifyPubkeyHex : Option String
  debugAssertions : Bool
  powf : ℚ → ℚ → ℚ
  /-- The bit pattern of the nearest 32-bit float. -/
  f32Bits : ℚ → UInt32
  /-- `format!("{:.n}")` of a float, for a number of decimals. -/
  formatFixed : ℕ → ℚ → String
  /-- `format!("{:?}")` of a string. -/
  debugStr : String → String
  /-- A string as a JSON literal, quotes included. -/
  jsonStr : String → String

/-- What the firmware relies on of the authenticated cipher, for keys of 32 and nonces of 12 bytes
and within the lengths that the cipher takes: encryption succeeds, adds a 16-byte tag, and is undone
by decryption. -/
structure AeadLaw (P : Platform) : Prop where
  encrypt : ∀ key nonce msg aad, key.length = 32 → nonce.length = 12 → msg.length ≤ 2 ^ 36 →
    aad.length ≤ 2 ^ 36 → ∃ ciphertext, P.aesGcmEncrypt key nonce msg aad = some ciphertext ∧
      ciphertext.length = msg.length + 16 ∧
      P.aesGcmDecrypt key nonce ciphertext aad = some msg

/-- A character that the debug format of a string leaves as it is. -/
def plainChar (c : Char) : Bool := c.isAlphanum || c == ':' || c == '_'

/-- The debug format of a string without special characters is the string in quotes. -/
structure DebugLaw (P : Platform) : Prop where
  debugStr_eq : ∀ s : String, s.toList.all plainChar → P.debugStr s = "\"" ++ s ++ "\""

/-- The clock readings while one packet is handled: one before the command is looked at, one
inside the command, and the wall clock, which may be set before its epoch. -/
structure Clock where
  tick : ℕ
  now : ℕ
  unixNanos : Option ℕ
  deriving DecidableEq, Repr

/-- The nanoseconds of a millisecond. -/
def nanosPerMilli : ℕ := 1000000

end StEcu
