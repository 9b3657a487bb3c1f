import StEcu.Crypto.NonceRecord
import StEcu.Crypto.TuneEncryption
import StEcu.Io.PageCodec
import StEcu.Live.Build
import StEcu.Transport.DataLog
import StEcu.Transport.Defaults
import StEcu.Transport.Update

/-!
# The firmware runtime

The state of a running board (`FirmwareRuntime` in `src/transport.rs`), how it is built from a
configuration store, and the operations that its commands are made of. The fields of the source
whose names share a prefix are records of their own here; the transport capabilities and the
network profile, which no command changes, are left out.

Building a runtime fails where the source would panic.

## Main definitions

* `FirmwareRuntime`, `FirmwareRuntime.newWithStore`.
* `encryptPageForTransport`, `decryptPageFromTransport`: page encryption and the persisted nonce.
* `applyPinAssignmentOverrides`, `reloadPinAssignmentsFromRamPage`: the pin-assignment page.
* `beginFlashSession`, `tryRestoreFlashResumeScratch`: flash sessions.
-/

namespace StEcu

/-- The state of the firmware between two packets. -/
structure FirmwareRuntime where
  identity : FirmwareIdentity
  store : ConfigStore
  capabilities : List Capability
  pinAssignments : List ResolvedPinAssignment
  tables : List RawTablePayload
  pageCryptoEnabled : Bool
  tuneEncryption : Option TuneEncryption
  pageCryptoNextPersistCounter : UInt64
  dtcEntries : List RuntimeDtcEntry
  live : LiveState
  triggerRuntime : TriggerRuntime
  bootloaderAuthRequired : Bool
  flashSignatureRequired : Bool
  auth : BootloaderAuth
  flash : FlashTransfer
  update : FirmwareUpdate
  log : DataLog

/-! ### Building a runtime -/

/-- The controller with its counter set. -/
def TuneEncryption.withNonceCounter (enc : TuneEncryption) (counter : UInt64) : TuneEncryption :=
  { enc with state := { enc.state with nonceCounter := counter } }

/-- The counter from which a controller starts on a store: past everything that the persisted
record covers. -/
def bootCounter (enc : TuneEncryption) (store : ConfigStore) : UInt64 :=
  match readPersistedPageCryptoCounter store with
  | some persisted => persisted.saturatingAdd pageCryptoNoncePersistStride
  | none => enc.state.nonceCounter

/-- Page encryption at the start: the store with the start counter persisted, the controller at
that counter, and the counter at which to persist next. -/
def bootPageCrypto (P : Platform) (store : ConfigStore) :
    Option TuneEncryption → ConfigStore × Option TuneEncryption × UInt64
  | none => (store, none, 0xFFFFFFFFFFFFFFFF)
  | some enc =>
    let counter := bootCounter enc store
    -- the result of persisting is ignored
    ((persistPageCryptoCounter P store counter).1, some (enc.withNonceCounter counter),
      counter.saturatingAdd pageCryptoNoncePersistStride)

/-- Writes the default pin assignments to their page and burns it. -/
def seedPinPage (P : Platform) (store : ConfigStore) :
    Option (ConfigStore × List ResolvedPinAssignment) :=
  match validateAssignmentSet defaultPinAssignments with
  | .error _ => none
  | .ok pinAssignments =>
    match store.pageLength ConfigPage.pinAssignment.id with
    | none => none
    | some pageLen =>
      match serializeAssignmentsToPage pinAssignments pageLen with
      | .error _ => none
      | .ok pinPage =>
        match store.writePage ConfigPage.pinAssignment.id pinPage with
        | .error _ => none
        | .ok store =>
          match store.burnPage P ConfigPage.pinAssignment.id with
          | (_, .error _) => none
          | (store, .ok ()) => some (store, pinAssignments)

/-- The trigger runtime with the decoder that page 0 selects, where there is one. -/
def syncTriggerRuntime (store : ConfigStore) (trigger : TriggerRuntime) : TriggerRuntime :=
  match store.readPage ConfigPage.baseEngineFuelComm.id with
  | some payload => trigger.applyPage0Payload payload
  | none => trigger

namespace FirmwareRuntime

/-- The firmware as it starts on a store. The default pins are written to their page and burned, and
the counter of the nonces goes on ahead of its record. -/
def newWithStore (P : Platform) (identity : FirmwareIdentity) (simulator : Bool)
    (store : ConfigStore) : Option FirmwareRuntime :=
  let pageCryptoEnabled := !simulator && pageCryptoEnabledForIdentity identity
  let (store, tuneEncryption, nextPersistCounter) :=
    bootPageCrypto P store (if pageCryptoEnabled then initializePageCrypto P identity else none)
  match seedPinPage P store with
  | none => none
  | some (store, pinAssignments) =>
    some
      { identity
        store
        capabilities := baseCapabilities simulator
        pinAssignments
        tables := defaultTables
        pageCryptoEnabled
        tuneEncryption
        pageCryptoNextPersistCounter := nextPersistCounter
        dtcEntries := defaultDtcEntries
        live := {}
        triggerRuntime := syncTriggerRuntime store {}
        bootloaderAuthRequired := !simulator && pageCryptoEnabledForIdentity identity
        flashSignatureRequired := !simulator && flashSignatureRequiredForIdentity identity
        auth := {}
        flash :=
          { sessionCounter :=
              (store.flashResumeScratch.map FlashResumeScratch.sessionId).getD 0 }
        update := {}
        log := {} }

/-- The firmware as it starts on an erased store. -/
def new (P : Platform) (identity : FirmwareIdentity) (simulator : Bool) : Option FirmwareRuntime :=
  newWithStore P identity simulator (.newZeroed P)

variable (P : Platform) (r : FirmwareRuntime)

/-! ### The pin-assignment page -/

/-- Writes the pin assignments to their RAM page. -/
def syncPinAssignmentPage : Except AssignmentError FirmwareRuntime :=
  match r.store.pageLength ConfigPage.pinAssignment.id with
  | none => .error .invalidPayload
  | some pageLen =>
    match serializeAssignmentsToPage r.pinAssignments pageLen with
    | .error error => .error error
    | .ok payload =>
      match r.store.writePage ConfigPage.pinAssignment.id payload with
      | .error _ => .error .invalidPayload
      | .ok store => .ok { r with store }

/-- The assignments are replaced before the page is written, and stay replaced should writing the
page fail. -/
def applyPinAssignmentOverrides (overrides : List PinAssignmentRequest) :
    FirmwareRuntime × Except AssignmentError Unit :=
  match applyAssignmentOverrides r.pinAssignments overrides with
  | .error error => (r, .error error)
  | .ok pinAssignments =>
    let r := { r with pinAssignments }
    match r.syncPinAssignmentPage with
    | .error error => (r, .error error)
    | .ok r => (r, .ok ())

/-- The pins taken over from their page. -/
def reloadPinAssignmentsFromRamPage : Except AssignmentError FirmwareRuntime :=
  match r.store.readPage ConfigPage.pinAssignment.id with
  | none => .error .invalidPayload
  | some payload =>
    match deserializeAssignmentsFromPage payload with
    | .error error => .error error
    | .ok pinAssignments => .ok { r with pinAssignments }

/-- The page that a rejected pin-assignment page is replaced by, for a payload of a given length:
the assignments in force, serialised anew. -/
def revertedPinPage (payloadLen : ℕ) : Bytes :=
  match serializeAssignmentsToPage r.pinAssignments
      ((r.store.pageLength ConfigPage.pinAssignment.id).getD payloadLen) with
  | .ok page => page
  | .error _ => List.replicate payloadLen 0

/-- The trigger settings taken over from page 0. -/
def syncTriggerRuntimeFromPage0 : FirmwareRuntime :=
  { r with triggerRuntime := syncTriggerRuntime r.store r.triggerRuntime }

/-! ### Page encryption -/

/-- The record of the counter renewed, once the counter has come up to its threshold. -/
def maybePersistPageCryptoCounter (currentCounter : UInt64) : FirmwareRuntime :=
  if !r.pageCryptoEnabled then r
  else if currentCounter < r.pageCryptoNextPersistCounter then r
  else
    match persistPageCryptoCounter P r.store currentCounter with
    | (store, .ok ()) =>
      { r with
        store
        pageCryptoNextPersistCounter :=
          currentCounter.saturatingAdd pageCryptoNoncePersistStride }
    | (store, .error _) => { r with store }

/-- A page as it is sent to the host. -/
def encryptPageForTransport (page : Bytes) : FirmwareRuntime × Except RuntimeNackCode Bytes :=
  if !r.pageCryptoEnabled then (r, .ok page)
  else
    match r.tuneEncryption with
    | none => (r, .error .storageFailure)
    | some encryption =>
      match encryption.encryptPage P page with
      | (encryption, .error _) =>
        ({ r with tuneEncryption := some encryption }, .error .storageFailure)
      | (encryption, .ok encrypted) =>
        ({ r with tuneEncryption := some encryption }.maybePersistPageCryptoCounter P
          encryption.state.nonceCounter, .ok encrypted)

/-- A page as it was sent by the host. -/
def decryptPageFromTransport (payload : Bytes) : Except RuntimeNackCode Bytes :=
  if !r.pageCryptoEnabled then .ok payload
  else
    match r.tuneEncryption with
    | none => .error .storageFailure
    | some encryption =>
      match encryption.decryptPage P payload with
      | .error _ => .error .malformedPayload
      | .ok page => .ok page

/-! ### Flash sessions -/

/-- The position of the transfer put into the scratch. -/
def persistFlashResumeScratch : FirmwareRuntime :=
  if !r.flash.sessionActive then r
  else { r with store := r.store.writeFlashResumeScratch (r.flash.resumeScratch P) }

/-- The position of the transfer put into the scratch after the first block and after every
eighth. -/
def maybePersistFlashResumeScratch : FirmwareRuntime :=
  if r.flash.nextBlock = 1 ∨ r.flash.nextBlock % flashResumePersistStrideBlocks = 0 then
    r.persistFlashResumeScratch P
  else r

/-- The runtime resumed from the scratch, and whether there was a scratch. -/
def tryRestoreFlashResumeScratch (request : FlashResumeRequestPayload) :
    Except RuntimeNackCode (FirmwareRuntime × Bool) :=
  match r.store.flashResumeScratch with
  | none => .ok (r, false)
  | some scratch =>
    if scratch.image.length > flashBufferMaxBytes then .error .storageFailure
    else if request.rejects scratch.sessionId then .error .malformedPayload
    else
      .ok
        ({ r with
            flash := r.flash.restored scratch
            update := { r.update with state := .receiving } },
          true)

/-- A new session, which drops an image on trial. -/
def beginFlashSession : FirmwareRuntime :=
  { r with
    auth := { r.auth.recordSuccess with pendingChallenge := none }
    flash := r.flash.beginSession
    update := r.update.beginReceiving }

/-- `reset_flash_transfer_state`. -/
def resetFlashTransferState : FirmwareRuntime :=
  { r with flash := r.flash.reset, auth := { r.auth with pendingChallenge := none } }

/-! ### Tables and live data -/

/-- The place of a table. -/
def tableIndex (tableId : UInt8) : Option ℕ :=
  r.tables.findIdx? fun table => table.tableId == tableId

/-- A table replaced by one of the same size. -/
def writeTableFrame (incoming : RawTablePayload) : Except RuntimeNackCode FirmwareRuntime :=
  match r.tableIndex incoming.tableId with
  | none => .error .malformedPayload
  | some index =>
    let current := r.tables.getD index incoming
    if incoming.xCount ≠ current.xCount ∨ incoming.yCount ≠ current.yCount ∨
        incoming.xBins.length ≠ current.xBins.length ∨
        incoming.yBins.length ≠ current.yBins.length ∨
        incoming.data.length ≠ current.data.length then
      .error .malformedPayload
    else .ok { r with tables := r.tables.set index incoming }

/-- `build_live_data_frame`: one live sample, which also advances the trigger and goes to the
log. -/
def sampleLiveData : FirmwareRuntime × LiveDataFrame :=
  let (live, frame) :=
    buildLiveDataFrame P r.live (r.store.readPage ConfigPage.baseEngineFuelComm.id)
  ({ r with
      live
      triggerRuntime := r.triggerRuntime.observeTick live.liveSampleCounter
      log := r.log.appendLogSample P live.currentRuntimeMs frame },
    frame)

/-- The health window checked against the clock. -/
def tickUpdateHealthWindow (now : ℕ) : FirmwareRuntime :=
  { r with update := r.update.tickUpdateHealthWindow now }

end FirmwareRuntime

end StEcu
