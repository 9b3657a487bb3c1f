import StEcu.Crypto.KeyDerivation

/-!
# Tune encryption

The encryption of configuration pages on the wire (`src/crypto.rs`). An encrypted page is a nonce
of 12 bytes, the generation of the key and a counter, followed by the ciphertext and its tag.

## Main definitions

* `TuneEncryption`, with `encryptPage` and `decryptPage`.
* `TuneEncryption.Ready`: a controller that can encrypt and decrypt.
* `initializePageCrypto`: the controller a board starts with.

## Main results

* `TuneEncryption.Ready.encryptPage_eq`, `TuneEncryption.Ready.decrypt_encrypt`.
-/

namespace StEcu

/-- Why a page is not encrypted or decrypted. -/
inductive CryptoError
  | notSupported
  | keyNotLoaded
  | authFailed
  | invalidInput
  | rngFailure
  deriving DecidableEq, Repr

/-- The key of a board, and the board that it belongs to. -/
structure TuneKey where
  key : Bytes
  ecuId : Bytes
  generation : UInt32
  provisioned : Bool
  deriving DecidableEq, Repr

/-- Whether the tune is bound to a board, and the counter of the nonces. -/
structure TuneEncryptionState where
  locked : Bool
  keyPending : Bool
  tuneBoundEcuId : Bytes
  nonceCounter : UInt64
  deriving DecidableEq, Repr

/-- The page encryption of a board. -/
structure TuneEncryption where
  key : TuneKey
  state : TuneEncryptionState
  targetSupportsCrypto : Bool
  deriving DecidableEq, Repr

/-- The bytes of a nonce. -/
def gcmNonceLen : ℕ := 12

/-- The bytes of a tag. -/
def gcmTagLen : ℕ := 16

namespace TuneEncryption

/-- The encryption of an H743 board without a key. -/
def newH743 (ecuId : Bytes) : TuneEncryption where
  key := { key := List.replicate 32 0, ecuId, generation := 0, provisioned := false }
  state :=
    { locked := false, keyPending := false, tuneBoundEcuId := List.replicate 32 0
      nonceCounter := 0 }
  targetSupportsCrypto := true

variable (enc : TuneEncryption)

/-- Installs a key; the nonce counter starts at the first eight bytes of the key. -/
def generateKey (rngBytes : Bytes) : Except CryptoError TuneEncryption :=
  if !enc.targetSupportsCrypto then .error .notSupported
  else
    .ok
      { enc with
        key := { enc.key with
          key := rngBytes, provisioned := true, generation := enc.key.generation + 1 }
        state := { enc.state with
          keyPending := false, nonceCounter := u64OfBe (rngBytes.take 8) } }

/-- The tune is bound to the board of the key. -/
def lockTune : Except CryptoError TuneEncryption :=
  if !enc.targetSupportsCrypto || !enc.key.provisioned then .error .notSupported
  else .ok { enc with state := { enc.state with locked := true, tuneBoundEcuId := enc.key.ecuId } }

/-- A bound tune belongs to the board of the key. -/
def verifyEcuBinding : Except CryptoError Unit :=
  if !enc.state.locked then .ok ()
  else if enc.state.tuneBoundEcuId = enc.key.ecuId then .ok ()
  else .error .authFailed

/-- The nonce that the next encryption uses. -/
def nonceBytes : Bytes := u32ToBe enc.key.generation ++ u64ToBe enc.state.nonceCounter

/-- The controller after `next_nonce_bytes`, whose counter wraps around. -/
def advanceNonce : TuneEncryption :=
  { enc with state := { enc.state with nonceCounter := enc.state.nonceCounter + 1 } }

variable (P : Platform)

/-- A page encrypted under the next nonce, which goes in front of it. The nonce is used up as soon
as the cipher is called. -/
def encryptPage (page : Bytes) : TuneEncryption × Except CryptoError Bytes :=
  if !enc.targetSupportsCrypto then (enc, .error .notSupported)
  else if !enc.key.provisioned then (enc, .error .keyNotLoaded)
  else
    match enc.verifyEcuBinding with
    | .error error => (enc, .error error)
    | .ok () =>
      if enc.key.key.length ≠ 32 then (enc, .error .invalidInput)
      else
        match P.aesGcmEncrypt enc.key.key enc.nonceBytes page enc.key.ecuId with
        | none => (enc.advanceNonce, .error .authFailed)
        | some ciphertext => (enc.advanceNonce, .ok (enc.nonceBytes ++ ciphertext))

/-- The page of a ciphertext with its nonce in front. -/
def decryptPage (ciphertext : Bytes) : Except CryptoError Bytes :=
  if !enc.targetSupportsCrypto then .error .notSupported
  else if !enc.key.provisioned then .error .keyNotLoaded
  else
    match enc.verifyEcuBinding with
    | .error error => .error error
    | .ok () =>
      if ciphertext.length < gcmNonceLen + gcmTagLen then .error .invalidInput
      else if enc.key.key.length ≠ 32 then .error .invalidInput
      else
        match P.aesGcmDecrypt enc.key.key (ciphertext.take gcmNonceLen)
            (ciphertext.drop gcmNonceLen) enc.key.ecuId with
        | none => .error .authFailed
        | some page => .ok page

/-! ### Controllers that are ready -/

/-- A controller that supports encryption, has a key, and is locked to its own board. -/
structure Ready : Prop where
  supports : enc.targetSupportsCrypto = true
  provisioned : enc.key.provisioned = true
  bound : enc.state.tuneBoundEcuId = enc.key.ecuId
  length_key : enc.key.key.length = 32
  length_ecuId : enc.key.ecuId.length = 32

@[simp] theorem length_nonceBytes : enc.nonceBytes.length = 12 := by simp [nonceBytes]

@[simp] theorem nonceCounter_advanceNonce :
    enc.advanceNonce.state.nonceCounter = enc.state.nonceCounter + 1 := rfl

namespace Ready

variable {enc} {P} (h : enc.Ready)
include h

theorem advanceNonce : enc.advanceNonce.Ready :=
  ⟨h.supports, h.provisioned, h.bound, h.length_key, h.length_ecuId⟩

theorem verifyEcuBinding_eq : enc.verifyEcuBinding = .ok () := by
  rw [verifyEcuBinding, if_pos h.bound]
  split <;> rfl

/-- A ready controller always uses up a nonce, and answers with it in front of the ciphertext. -/
theorem encryptPage_eq (page : Bytes) :
    enc.encryptPage P page = (enc.advanceNonce,
      match P.aesGcmEncrypt enc.key.key enc.nonceBytes page enc.key.ecuId with
      | none => .error .authFailed
      | some ciphertext => .ok (enc.nonceBytes ++ ciphertext)) := by
  simp only [encryptPage, h.supports, h.provisioned, h.verifyEcuBinding_eq, h.length_key]
  cases P.aesGcmEncrypt enc.key.key enc.nonceBytes page enc.key.ecuId <;> rfl

/-- Decryption undoes an encryption that a controller with the same key made. -/
theorem decrypt_encrypt (hP : AeadLaw P) {page nonce : Bytes} (hpage : page.length ≤ 1024)
    (hn : nonce.length = 12) :
    ∃ ciphertext, P.aesGcmEncrypt enc.key.key nonce page enc.key.ecuId = some ciphertext ∧
      ciphertext.length = page.length + 16 ∧
      enc.decryptPage P (nonce ++ ciphertext) = .ok page := by
  obtain ⟨ciphertext, henc, hlen, hdec⟩ :=
    hP.encrypt enc.key.key nonce page enc.key.ecuId h.length_key hn (by omega)
      (by rw [h.length_ecuId]; omega)
  refine ⟨ciphertext, henc, hlen, ?_⟩
  have hlong : gcmNonceLen + gcmTagLen ≤ nonce.length + ciphertext.length := by
    rw [hn, hlen, gcmNonceLen, gcmTagLen]
    omega
  have htake : (nonce ++ ciphertext).take gcmNonceLen = nonce := List.take_left' hn
  have hdrop : (nonce ++ ciphertext).drop gcmNonceLen = ciphertext := List.drop_left' hn
  simp [decryptPage, h.supports, h.provisioned, h.verifyEcuBinding_eq, hlong, h.length_key,
    htake, hdrop, hdec]

end Ready

end TuneEncryption

/-! ### The controller of a board -/

variable (P : Platform) (identity : FirmwareIdentity)

/-- The page encryption that a board starts with, bound to its identity. -/
def initializePageCrypto : Option TuneEncryption :=
  if !pageCryptoEnabledForIdentity identity then none
  else
    let ecuId := derivePageCryptoBytes P identity pageCryptoEcuDomain
    let key := derivePageCryptoBytes P identity pageCryptoKeyDomain
    match (TuneEncryption.newH743 ecuId).generateKey key with
    | .error _ => none
    | .ok encryption =>
      -- the result of locking is ignored
      match encryption.lockTune with
      | .error _ => some encryption
      | .ok locked => some locked

/-- What the controller of a board always has, whatever its counter. -/
structure TuneEncryption.BelongsTo (enc : TuneEncryption) : Prop where
  ready : enc.Ready
  key_eq : enc.key.key = derivePageCryptoBytes P identity pageCryptoKeyDomain
  ecuId_eq : enc.key.ecuId = derivePageCryptoBytes P identity pageCryptoEcuDomain
  generation_eq : enc.key.generation = 1

variable {P identity}

theorem TuneEncryption.BelongsTo.advanceNonce {enc : TuneEncryption}
    (h : enc.BelongsTo P identity) : enc.advanceNonce.BelongsTo P identity :=
  ⟨h.ready.advanceNonce, h.key_eq, h.ecuId_eq, h.generation_eq⟩

/-- A board with page encryption starts with a controller of its own. -/
theorem exists_initializePageCrypto (h : pageCryptoEnabledForIdentity identity = true) :
    ∃ enc, initializePageCrypto P identity = some enc ∧ enc.BelongsTo P identity ∧
      enc.state.nonceCounter =
        u64OfBe ((derivePageCryptoBytes P identity pageCryptoKeyDomain).take 8) := by
  simp only [initializePageCrypto, h, Bool.not_true, Bool.false_eq_true, ↓reduceIte]
  exact ⟨_, rfl, ⟨⟨rfl, rfl, rfl, by simp [derivePageCryptoBytes],
    by simp [TuneEncryption.newH743, derivePageCryptoBytes]⟩, rfl, rfl, rfl⟩, rfl⟩

end StEcu
