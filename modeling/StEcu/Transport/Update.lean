import StEcu.Crypto.FlashAuth
import StEcu.Config.Store
import StEcu.Foundation.Saturating
import StEcu.Protocol.Payloads

/-!
# Firmware update

The three pieces of state behind the update commands (`src/transport.rs`): the bootloader
authentication with its retry interval and lockout, the flash transfer in progress, and the A/B
bank lifecycle of an installed candidate with its health window.

Instants are nanoseconds; differences saturate at zero as `saturating_duration_since` does.

## Main definitions

* `BootloaderAuth`: `refreshWindow`, `recordFailure`, `recordSuccess`, `issueChallenge`.
* `FlashTransfer`: `reset`, `appendBlock`, `resumeScratch`, `restored`.
* `FirmwareUpdate`: `beginUpdateHealthWindow`, `rollbackPendingUpdate`, `confirmPendingUpdate`,
  `tickUpdateHealthWindow`, `beginReceiving`.
-/

namespace StEcu

/-! ### Bootloader authentication -/

/-- The time that must pass between two attempts. -/
def bootloaderAuthRetryIntervalMs : ℕ := 5000

/-- The failures after which the board locks itself. -/
def bootloaderAuthLockoutAfterFailures : UInt8 := 3

/-- How long the board stays locked. -/
def bootloaderAuthLockoutMs : ℕ := 60000

/-- The challenge that waits for its response, and the record of the attempts. -/
structure BootloaderAuth where
  pendingChallenge : Option Bytes := none
  counter : UInt64 := 0
  lastAttemptAt : Option ℕ := none
  failedAttempts : UInt8 := 0
  lockoutUntil : Option ℕ := none
  deriving DecidableEq, Repr

namespace BootloaderAuth

variable (auth : BootloaderAuth)

/-- `refresh_bootloader_auth_window`: a lockout that is over is forgotten. -/
def refreshWindow (now : ℕ) : BootloaderAuth :=
  match auth.lockoutUntil with
  | some deadline =>
    if deadline ≤ now then
      { auth with lockoutUntil := none, failedAttempts := 0, lastAttemptAt := none }
    else auth
  | none => auth

/-- The board is locked. -/
def isLocked (now : ℕ) : Bool :=
  match auth.lockoutUntil with
  | some deadline => now < deadline
  | none => false

/-- The last attempt was too short ago. -/
def isRateLimited (now : ℕ) : Bool :=
  match auth.lastAttemptAt with
  | some last => now - last < bootloaderAuthRetryIntervalMs * nanosPerMilli
  | none => false

/-- How long the board stays locked from now on. -/
def lockoutRemainingMs (now : ℕ) : UInt64 :=
  match auth.lockoutUntil with
  | some deadline => UInt64.ofNat ((deadline - now) / nanosPerMilli)
  | none => 0

/-- A failed attempt, which may lock the board. -/
def recordFailure (now : ℕ) : BootloaderAuth :=
  let failedAttempts := auth.failedAttempts.saturatingAdd 1
  let auth := { auth with lastAttemptAt := some now, failedAttempts }
  if bootloaderAuthLockoutAfterFailures ≤ failedAttempts then
    { auth with
      lockoutUntil := some (now + bootloaderAuthLockoutMs * nanosPerMilli)
      pendingChallenge := none }
  else auth

/-- A successful attempt. -/
def recordSuccess : BootloaderAuth :=
  { auth with
    lastAttemptAt := none, failedAttempts := 0, lockoutUntil := none, pendingChallenge := none }

/-- `u64::rotate_left`. -/
def rotateLeft (n : UInt64) (k : ℕ) : UInt64 := UInt64.ofBitVec (n.toBitVec.rotateLeft k)

/-- `issue_bootloader_challenge`, from the wall clock and two counters of the runtime. -/
def issueChallenge (P : Platform) (identity : FirmwareIdentity) (unixNanos : Option ℕ)
    (liveSampleCounter flashNextBlock : UInt32) : BootloaderAuth × Bytes :=
  let counter := auth.counter + 1
  let timestamp := match unixNanos with
    | some nanos => UInt64.ofNat nanos
    | none => rotateLeft counter 17
  let challenge := checksumGroups P 4
    (identityMaterial bootloaderAuthDomain identity ++ u64ToBe counter ++ u64ToBe timestamp ++
      u32ToBe liveSampleCounter ++ u32ToBe flashNextBlock)
  ({ auth with counter, pendingChallenge := some challenge }, challenge)

@[simp] theorem counter_refreshWindow (now : ℕ) :
    (auth.refreshWindow now).counter = auth.counter := by
  unfold refreshWindow
  split
  · split <;> rfl
  · rfl

theorem length_issueChallenge (P : Platform) (identity : FirmwareIdentity)
    (unixNanos : Option ℕ) (liveSampleCounter flashNextBlock : UInt32) :
    (auth.issueChallenge P identity unixNanos liveSampleCounter flashNextBlock).2.length =
      bootloaderChallengeLen := by
  simp [issueChallenge, bootloaderChallengeLen]

end BootloaderAuth

/-! ### Flash transfer -/

/-- The bytes of a block in front of its data. -/
def flashBlockHeaderLen : ℕ := 4

/-- The most data that a block may have. -/
def flashBlockMaxBytes : ℕ := 1024

/-- The largest image. -/
def flashBufferMaxBytes : ℕ := 2 * 1024 * 1024

/-- The number of blocks after which the scratch is renewed. -/
def flashResumePersistStrideBlocks : UInt32 := 8

/-- The session of a transfer, the image as far as it was received, and whether it was verified. -/
structure FlashTransfer where
  sessionActive : Bool := false
  sessionId : UInt32 := 0
  sessionCounter : UInt32 := 0
  nextBlock : UInt32 := 0
  buffer : Bytes := []
  verified : Bool := false
  verifiedCrc : Option UInt32 := none
  verifiedLen : ℕ := 0
  deriving DecidableEq, Repr

/-- A resume request that names a session other than the given one; zero names none. -/
def FlashResumeRequestPayload.rejects (request : FlashResumeRequestPayload)
    (sessionId : UInt32) : Bool :=
  match request.sessionId with
  | some requested => requested != 0 && requested != sessionId
  | none => false

namespace FlashTransfer

variable (flash : FlashTransfer)

/-- `reset_flash_transfer_state`, as far as the transfer goes. -/
def reset : FlashTransfer := { sessionCounter := flash.sessionCounter }

/-- The number after a session number; zero is skipped. -/
def nextSessionNumber : UInt32 :=
  if flash.sessionCounter + 1 = 0 then 1 else flash.sessionCounter + 1

/-- The transfer at the start of a new session. -/
def beginSession : FlashTransfer :=
  { sessionActive := true
    sessionId := flash.nextSessionNumber
    sessionCounter := flash.nextSessionNumber }

/-- The checksum of the image as far as it was received. -/
def resumeRollingCrc (P : Platform) : UInt32 := P.crc32 flash.buffer

/-- The transfer after one more block, which is no longer verified. -/
def appendBlock (payload : Bytes) : FlashTransfer :=
  { flash with
    buffer := flash.buffer ++ payload
    nextBlock := flash.nextBlock.saturatingAdd 1
    verified := false
    verifiedCrc := none
    verifiedLen := 0 }

/-- What is kept of the transfer to resume it. -/
def resumeScratch (P : Platform) : FlashResumeScratch where
  sessionId := flash.sessionId
  nextBlock := flash.nextBlock
  rollingCrc := flash.resumeRollingCrc P
  image := flash.buffer

/-- The transfer with the state of a scratch in place of its own. -/
def restored (scratch : FlashResumeScratch) : FlashTransfer :=
  { flash with
    sessionActive := true
    sessionId := scratch.sessionId
    nextBlock := scratch.nextBlock
    buffer := scratch.image
    verified := false
    verifiedCrc := none
    verifiedLen := 0 }

/-- The transfer after its image passed verification. -/
def markVerified (crc : UInt32) : FlashTransfer :=
  { flash with verified := true, verifiedCrc := some crc, verifiedLen := flash.buffer.length }

end FlashTransfer

/-! ### Banks and the health window -/

/-- The states of an update. -/
inductive FirmwareUpdateState
  | idle
  | receiving
  | verified
  | pendingCommit
  | healthWindow
  | committed
  | rolledBack
  deriving DecidableEq, Repr

/-- The code of a state on the wire. -/
def FirmwareUpdateState.code : FirmwareUpdateState → UInt8
  | idle => 0
  | receiving => 1
  | verified => 2
  | pendingCommit => 3
  | healthWindow => 4
  | committed => 5
  | rolledBack => 6

/-- The first bank of the flash. -/
def updateBankA : UInt8 := 1

/-- The second bank of the flash. -/
def updateBankB : UInt8 := 2

/-- How long an image is on trial. -/
def updateHealthWindowMs : UInt32 := 30000

/-- The state of the update, the banks, the image on trial, and the counter of the rollbacks. -/
structure FirmwareUpdate where
  state : FirmwareUpdateState := .idle
  activeBank : UInt8 := updateBankA
  lastGoodBank : UInt8 := updateBankA
  pendingBank : Option UInt8 := none
  candidateCrc : Option UInt32 := none
  candidateSize : ℕ := 0
  bootAttempts : UInt8 := 0
  healthWindowRemainingMs : UInt32 := 0
  lastTick : Option ℕ := none
  rollbackCounter : UInt16 := 0
  deriving DecidableEq, Repr

namespace FirmwareUpdate

variable (u : FirmwareUpdate)

/-- The bank for the next image. -/
def nextUpdateBank : UInt8 := if u.activeBank = updateBankA then updateBankB else updateBankA

/-- What `begin_flash_session` does to the update: any candidate is dropped. -/
def beginReceiving : FirmwareUpdate :=
  { u with
    state := .receiving
    pendingBank := none
    candidateCrc := none
    candidateSize := 0
    bootAttempts := 0
    healthWindowRemainingMs := 0
    lastTick := none }

/-- An image installed for trial. -/
def beginUpdateHealthWindow (crc : UInt32) (imageSize now : ℕ) : FirmwareUpdate :=
  { u with
    state := .healthWindow
    pendingBank := some u.nextUpdateBank
    candidateCrc := some crc
    candidateSize := imageSize
    bootAttempts := 1
    healthWindowRemainingMs := updateHealthWindowMs
    lastTick := some now }

/-- The image on trial given up for the last good one. -/
def rollbackPendingUpdate : FirmwareUpdate :=
  { u with
    state := .rolledBack
    activeBank := u.lastGoodBank
    pendingBank := none
    healthWindowRemainingMs := 0
    lastTick := none
    rollbackCounter := u.rollbackCounter.saturatingAdd 1 }

/-- The update after its candidate in a bank was confirmed. -/
def committedTo (targetBank : UInt8) : FirmwareUpdate :=
  { u with
    activeBank := targetBank
    lastGoodBank := targetBank
    pendingBank := none
    state := .committed
    healthWindowRemainingMs := 0
    lastTick := none }

/-- `confirm_pending_update`; `none` where it answers false and changes nothing. -/
def confirmPendingUpdate : Option FirmwareUpdate :=
  if u.state ≠ .healthWindow then none
  else
    match u.pendingBank with
    | none => none
    | some targetBank => some (u.committedTo targetBank)

/-- Whole milliseconds since the last tick, as a 32-bit number. -/
def elapsedMs (now : ℕ) : UInt32 :=
  UInt32.ofNat (min ((now - u.lastTick.getD now) / nanosPerMilli) 0xFFFFFFFF)

/-- The time that passed since the last call taken off the window, in whole milliseconds; when none
is left, the image is given up. -/
def tickUpdateHealthWindow (now : ℕ) : FirmwareUpdate :=
  if u.state ≠ .healthWindow then u
  else
    let elapsed := u.elapsedMs now
    let u := { u with lastTick := some now }
    if elapsed = 0 then u
    else if u.healthWindowRemainingMs ≤ elapsed then u.rollbackPendingUpdate
    else { u with healthWindowRemainingMs := u.healthWindowRemainingMs - elapsed }

/-- What the host is told of the update. -/
def firmwareUpdateStatusPayload : FirmwareUpdateStatusPayload where
  state := u.state.code
  activeBank := u.activeBank
  lastGoodBank := u.lastGoodBank
  pendingBank := u.pendingBank
  bootAttempts := u.bootAttempts
  rollbackCounter := u.rollbackCounter
  candidateSize := UInt32.ofNat u.candidateSize
  candidateCrc := u.candidateCrc.getD 0
  healthWindowRemainingMs := u.healthWindowRemainingMs

end FirmwareUpdate

end StEcu
