import StEcu.Transport.Reference

/-!
# An installation, packet by packet

What the four commands of an update do when their checks pass, and the whole of an update of one
block on a board that asks for no authentication and no signature: it ends in the health window of
the image that was sent.

## Main results

* `verified_of_block`: three packets verify a block that is neither empty nor blank.
* `exists_installed_ecuV1`: a fourth one installs it.
-/

namespace StEcu

namespace FirmwareRuntime

variable {P : Platform} {A : Catalogue} {r : FirmwareRuntime} {clock : Clock} {payload : Bytes}

theorem handlePacket_enterBootloader (h : r.bootloaderAuthRequired = false) :
    r.handlePacket P A clock ⟨.enterBootloader, payload⟩ =
      ((r.tickUpdateHealthWindow clock.tick).beginFlashSession, ack) := by
  rw [handlePacket, dispatch]
  dsimp only
  rw [enterBootloader, if_pos (by simpa [tickUpdateHealthWindow] using h)]

theorem handlePacket_flashBlock {block : Bytes} (h : r.checkFlashBlock payload = .ok block) :
    r.handlePacket P A clock ⟨.flashBlock, payload⟩ =
      ((r.tickUpdateHealthWindow clock.tick).appendFlashBlock P block, ack) := by
  have htick : (r.tickUpdateHealthWindow clock.tick).checkFlashBlock payload = .ok block := h
  rw [handlePacket, dispatch]
  dsimp only
  rw [flashBlock, htick, orReject]

theorem handlePacket_flashVerify {crc : UInt32} (h : r.checkFlashVerify P payload = .ok crc) :
    r.handlePacket P A clock ⟨.flashVerify, payload⟩ =
      ((r.tickUpdateHealthWindow clock.tick).markFlashVerified crc, ack) := by
  have htick : (r.tickUpdateHealthWindow clock.tick).checkFlashVerify P payload = .ok crc := h
  rw [handlePacket, dispatch]
  dsimp only
  rw [flashVerify, htick, orReject]

theorem handlePacket_flashComplete {crc : UInt32} (h : r.checkFlashComplete P = .ok crc) :
    r.handlePacket P A clock ⟨.flashComplete, payload⟩ =
      ((r.tickUpdateHealthWindow clock.tick).installCandidate crc clock.now, ack) := by
  have htick : (r.tickUpdateHealthWindow clock.tick).checkFlashComplete P = .ok crc := h
  rw [handlePacket, dispatch]
  dsimp only
  rw [flashComplete, htick, orReject]

/-! ### One block -/

/-- The payload of the first block of an image. -/
def firstBlock (block : Bytes) : Bytes := [0, 0, 0, 0] ++ block

variable {block : Bytes}

theorem checkFlashBlock_firstBlock (hsession : r.flash.sessionActive = true)
    (hnext : r.flash.nextBlock = 0) (hbuffer : r.flash.buffer = []) (hne : block ≠ [])
    (hlen : block.length ≤ flashBlockMaxBytes) :
    r.checkFlashBlock (firstBlock block) = .ok block := by
  have hpos := List.length_pos_iff.mpr hne
  rw [flashBlockMaxBytes] at hlen
  have h₁ : ¬ (firstBlock block).length ≤ flashBlockHeaderLen := by
    simp [firstBlock, flashBlockHeaderLen]
    omega
  have h₂ : ¬ flashBlockHeaderLen + flashBlockMaxBytes < (firstBlock block).length := by
    simp [firstBlock, flashBlockHeaderLen, flashBlockMaxBytes]
    omega
  have h₃ : u32OfBe ((firstBlock block).take flashBlockHeaderLen) = 0 := rfl
  have h₄ : (firstBlock block).drop flashBlockHeaderLen = block := rfl
  have h₅ : ¬ flashBufferMaxBytes < block.length := by
    rw [flashBufferMaxBytes]
    omega
  simp [checkFlashBlock, hsession, hnext, hbuffer, h₁, h₂, h₃, h₄, h₅]

theorem checkFlashVerify_empty (hsession : r.flash.sessionActive = true)
    (hblank : ∃ byte ∈ r.flash.buffer, byte ≠ 0) (hsig : r.flashSignatureRequired = false) :
    r.checkFlashVerify P [] = .ok (P.crc32 r.flash.buffer) := by
  obtain ⟨byte, hmem, hne⟩ := hblank
  have hbuffer : r.flash.buffer.isEmpty = false := by
    simpa using List.ne_nil_of_mem hmem
  have hall : (r.flash.buffer.all fun byte => byte == 0) = false := by
    rw [List.all_eq_false]
    exact ⟨byte, hmem, by simpa using hne⟩
  simp [checkFlashVerify, hsession, hbuffer, parseVerifyFields, hall, checkFlashAuthTag,
    checkFlashSignature, hsig]

theorem checkFlashComplete_markFlashVerified (hsession : r.flash.sessionActive = true) :
    (r.markFlashVerified (P.crc32 r.flash.buffer)).checkFlashComplete P =
      .ok (P.crc32 r.flash.buffer) := by
  simp [checkFlashComplete, markFlashVerified, FlashTransfer.markVerified, hsession]

end FirmwareRuntime

open FirmwareRuntime

variable {P : Platform} {A : Catalogue} {r : FirmwareRuntime}

/-- The first three packets of an update of one block. -/
def verifyInputs (clock : Clock) (block : Bytes) : List Input :=
  [⟨clock, ⟨.enterBootloader, []⟩⟩, ⟨clock, ⟨.flashBlock, firstBlock block⟩⟩,
    ⟨clock, ⟨.flashVerify, []⟩⟩]

/-- What a board looks like that has verified a block, sent on its own. -/
structure HoldsBlock (P : Platform) (block : Bytes) (r r' : FirmwareRuntime) : Prop where
  sessionActive : r'.flash.sessionActive = true
  buffer_eq : r'.flash.buffer = block
  verified : r'.flash.verified = true
  complete_eq : r'.checkFlashComplete P = .ok (P.crc32 block)
  update_eq : r'.update = { r.update.beginReceiving with state := .verified }
  auth_eq : r'.bootloaderAuthRequired = r.bootloaderAuthRequired

/-- **Three packets verify a block** that is neither empty nor blank. -/
theorem verified_of_block (block : Bytes) (hauth : r.bootloaderAuthRequired = false)
    (hsig : r.flashSignatureRequired = false) (hidle : r.update.state = .idle)
    (hblank : ∃ byte ∈ block, byte ≠ 0) (hlen : block.length ≤ flashBlockMaxBytes) (clock : Clock) :
    (TransitionSystem.trace (handle P A) r (verifyInputs clock block)).map Transition.output =
        [ack, ack, ack] ∧
      HoldsBlock P block r (TransitionSystem.after (handle P A) r (verifyInputs clock block)) := by
  let r₁ := r.beginFlashSession
  let r₂ := r₁.appendFlashBlock P block
  let r₃ := r₂.markFlashVerified (P.crc32 block)
  obtain ⟨scratch, hr₂⟩ := appendFlashBlock_eq (P := P) (r := r₁) block
  have hbuffer : r₂.flash.buffer = block := by
    rw [show r₂.flash = r₁.flash.appendBlock block from flash_appendFlashBlock block]
    exact List.nil_append block
  have hsession : r₂.flash.sessionActive = true := by
    rw [show r₂.flash = r₁.flash.appendBlock block from flash_appendFlashBlock block]
    rfl
  have hne : block ≠ [] := by
    rintro rfl
    obtain ⟨byte, hmem, -⟩ := hblank
    cases hmem
  have hstate₁ : r₁.update.state = .receiving := rfl
  have hupdate : r₂.update = { r₁.update with state := .receiving } := congrArg update hr₂
  have hstate₂ : r₂.update.state = .receiving := congrArg FirmwareUpdate.state hupdate
  have hsig₂ : r₂.flashSignatureRequired = false := (congrArg flashSignatureRequired hr₂).trans hsig
  have hauth₂ : r₂.bootloaderAuthRequired = r.bootloaderAuthRequired :=
    (congrArg bootloaderAuthRequired hr₂).trans rfl
  -- outside the health window, the ticks do nothing
  have h₁ : handle P A r ⟨clock, ⟨.enterBootloader, []⟩⟩ = (r₁, ack) := by
    rw [handle, handlePacket_enterBootloader hauth,
      tickUpdateHealthWindow_of_ne (by rw [hidle]; decide)]
  have h₂ : handle P A r₁ ⟨clock, ⟨.flashBlock, firstBlock block⟩⟩ = (r₂, ack) := by
    rw [handle, handlePacket_flashBlock (checkFlashBlock_firstBlock rfl rfl rfl hne hlen),
      tickUpdateHealthWindow_of_ne (by rw [hstate₁]; decide)]
  have h₃ : handle P A r₂ ⟨clock, ⟨.flashVerify, []⟩⟩ = (r₃, ack) := by
    rw [handle, handlePacket_flashVerify (checkFlashVerify_empty hsession (hbuffer ▸ hblank) hsig₂),
      hbuffer, tickUpdateHealthWindow_of_ne (by rw [hstate₂]; decide)]
  have hcomplete := checkFlashComplete_markFlashVerified (P := P) hsession
  rw [hbuffer] at hcomplete
  simp only [verifyInputs, TransitionSystem.trace, TransitionSystem.after, List.foldl_cons,
    List.foldl_nil, h₁, h₂, h₃]
  refine ⟨rfl, hsession, hbuffer, rfl, hcomplete, ?_, hauth₂⟩
  rw [show r₃.update = { r₂.update with state := .verified } from rfl, hupdate]
  rfl

/-- The first board encrypts no pages, asks for no authentication and no signature, and starts
idle. -/
theorem exists_new_ecuV1 (P : Platform) : ∃ r, FirmwareRuntime.new P .ecuV1 false = some r ∧
    r.pageCryptoEnabled = false ∧ r.bootloaderAuthRequired = false ∧
    r.flashSignatureRequired = false ∧ r.update = {} := by
  obtain ⟨r, hr, hbooted⟩ := exists_newWithStore .ecuV1 false (ConfigStore.wellFormed_newZeroed
    (P := P))
  exact ⟨r, hr, hbooted.enabled_eq.trans (by decide), hbooted.auth_eq.trans (by decide),
    hbooted.signature_eq.trans (by decide), hbooted.update_eq⟩

/-- The first board with one block installed: its candidate is on trial in the other bank, and it
still asks for no authentication. -/
theorem exists_installed_ecuV1 (P : Platform) (A : Catalogue) (clock : Clock) :
    ∃ (r₀ : FirmwareRuntime) (pre : List Step) (c : Step),
      FirmwareRuntime.new P .ecuV1 false = some r₀ ∧ (firmware P A).Run r₀ pre c.src ∧
      (firmware P A).Step c ∧ c.event = ⟨clock, ⟨.flashComplete, []⟩⟩ ∧ c.output = ack ∧
      c.dst.bootloaderAuthRequired = false ∧
      c.dst.update =
        ({} : FirmwareUpdate).beginUpdateHealthWindow (P.crc32 [1]) 1 clock.now := by
  obtain ⟨r₀, hr₀, -, hauth, hsig, hupdate⟩ := exists_new_ecuV1 P
  obtain ⟨-, hblock⟩ := verified_of_block (P := P) (A := A) [1] hauth hsig
    (by rw [hupdate]) ⟨1, by simp, by decide⟩ (by decide) clock
  have hrun : (firmware P A).Run r₀ _ _ :=
    TransitionSystem.run_trace (handle P A) r₀ (verifyInputs clock [1])
  generalize TransitionSystem.after (handle P A) r₀ (verifyInputs clock [1]) = r₁ at hblock hrun
  have hstate : r₁.update.state ≠ .healthWindow := by
    rw [hblock.update_eq]
    simp
  have hstep : (firmware P A).Step ⟨r₁, ⟨clock, ⟨.flashComplete, []⟩⟩, ack,
      r₁.installCandidate (P.crc32 [1]) clock.now⟩ := by
    rw [step_iff]
    dsimp only
    rw [handlePacket_flashComplete hblock.complete_eq, tickUpdateHealthWindow_of_ne hstate]
  refine ⟨r₀, _, _, hr₀, hrun, hstep, rfl, rfl, hblock.auth_eq.trans hauth, ?_⟩
  rw [show (r₁.installCandidate (P.crc32 [1]) clock.now).update =
      r₁.update.beginUpdateHealthWindow (P.crc32 [1]) r₁.flash.buffer.length clock.now from rfl,
    hblock.update_eq, hblock.buffer_eq, hupdate]
  rfl

end StEcu
