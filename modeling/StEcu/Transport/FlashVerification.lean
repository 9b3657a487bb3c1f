import StEcu.Transport.Installation

/-!
# Verification of the flash image

Six commands touch the transfer of an image in any order: a session starts, blocks arrive, a scratch
replaces the buffer, the image is verified, and it is completed. Whenever the transfer counts as
verified, the buffer is an image that passed verification in the current session and that nothing
has changed since; so an image that is installed is one that was verified.

## Main definitions

* `FlashTransfer.HoldsVerified`: the transfer holds an image with the checksum and length recorded.
* `VerifiedSince`: a history in which the image was verified and not touched since.

## Main results

* `flash_image_verified_before_install`.
-/

namespace StEcu

variable {P : Platform} {A : Catalogue}

/-- The transfer holds an image that is neither empty, blank nor too large, with its checksum and
length on record. -/
structure FlashTransfer.HoldsVerified (P : Platform) (flash : FlashTransfer) : Prop where
  sessionActive : flash.sessionActive = true
  nonempty : flash.buffer ≠ []
  notBlank : ∃ byte ∈ flash.buffer, byte ≠ 0
  size : flash.buffer.length ≤ flashBufferMaxBytes
  verifiedLen_eq : flash.verifiedLen = flash.buffer.length
  verifiedCrc_eq : flash.verifiedCrc = some (P.crc32 flash.buffer)

/-- A step of a session that leaves the image and the session alone: it is no acknowledged block, no
resume that replaces the buffer, and no start of another session. -/
structure KeepsImage (t : Step) : Prop where
  buffer_eq : t.dst.flash.buffer = t.src.flash.buffer
  sessionId_eq : t.dst.flash.sessionId = t.src.flash.sessionId
  sessionActive : t.dst.flash.sessionActive = true
  no_block : t.event.packet.cmd = .flashBlock → t.output.cmd ≠ .ack
  no_resume : t.event.packet.cmd = .flashResume → t.output.cmd = .ack →
    t.src.store.flashResumeScratch = none
  no_session : t.event.packet.cmd = .enterBootloader → t.output ≠ ack

/-- The history contains an acknowledged verify of the image held at its end, with an accepted
signature where one is required, and every later step left the image and the session alone. -/
def VerifiedSince (P : Platform) (tr : List Step) (r : FirmwareRuntime) : Prop :=
  ∃ pre t post, tr = pre ++ t :: post ∧ t.event.packet.cmd = .flashVerify ∧ t.output = ack ∧
    t.src.flash.buffer = r.flash.buffer ∧ t.src.flash.sessionId = r.flash.sessionId ∧
    (r.flashSignatureRequired = true → SignedBy P t.event.packet.payload r.flash.buffer) ∧
    ∀ u ∈ post, KeepsImage u

namespace FirmwareRuntime

variable {r : FirmwareRuntime}

/-- The part of the invariant that is about the image. -/
structure ImageInv (P : Platform) (r : FirmwareRuntime) : Prop where
  size : r.flash.buffer.length ≤ flashBufferMaxBytes
  verified : r.flash.verified = true → r.flash.HoldsVerified P

/-! ### What the effects do to the transfer -/

variable {clock : Clock} {packet : Packet} {r' : FirmwareRuntime} {answer : Packet}

theorem flash_maybePersistPageCryptoCounter (counter : UInt64) :
    (r.maybePersistPageCryptoCounter P counter).flash = r.flash := by
  obtain ⟨store, next, heq⟩ := maybePersistPageCryptoCounter_eq (P := P) (r := r) counter
  rw [heq]

/-- A packet leaves the transfer alone, or leaves it unverified, or verifies its image. -/
theorem Effect.flash_cases (he : Effect P clock packet r r' answer) :
    r'.flash = r.flash ∨
      (r'.flash.verified = false ∧ (r.flash.buffer.length ≤ flashBufferMaxBytes →
        r'.flash.buffer.length ≤ flashBufferMaxBytes)) ∨
      (packet.cmd = .flashVerify ∧ answer = ack ∧ ∃ crc,
        r.checkFlashVerify P packet.payload = .ok crc ∧ r' = r.markFlashVerified crc) := by
  cases he with
  | sessionStarted => exact .inr (.inl ⟨rfl, fun _ => Nat.zero_le _⟩)
  | pageEncrypted => exact .inl (flash_maybePersistPageCryptoCounter _)
  | resumed scratch answer hcmd hack hsession hscratch hsize =>
    exact .inr (.inl ⟨rfl, fun _ => hsize⟩)
  | blockAppended block hcmd hcheck =>
    rw [flash_appendFlashBlock]
    obtain ⟨-, hsize⟩ := checkFlashBlock_eq_ok hcheck
    refine .inr (.inl ⟨rfl, fun _ => ?_⟩)
    rwa [FlashTransfer.appendBlock, List.length_append]
  | imageVerified crc hcmd hcheck => exact .inr (.inr ⟨hcmd, rfl, crc, hcheck, rfl⟩)
  | imageInstalled => exact .inr (.inl ⟨rfl, fun _ => Nat.zero_le _⟩)
  | _ => exact .inl rfl

theorem Effect.imageInv (he : Effect P clock packet r r' answer) (h : r.ImageInv P) :
    r'.ImageInv P := by
  rcases he.flash_cases with heq | ⟨hverified, hsize⟩ | ⟨-, -, crc, hcheck, rfl⟩
  · exact ⟨by rw [heq]; exact h.size, fun hv => by rw [heq] at hv ⊢; exact h.verified hv⟩
  · exact ⟨hsize h.size, fun hv => by rw [hverified] at hv; cases hv⟩
  · obtain ⟨hactive, hne, hblank, hcrc, -⟩ := checkFlashVerify_eq_ok hcheck
    exact ⟨h.size, fun _ => ⟨hactive, hne, hblank, h.size, rfl, congrArg some hcrc⟩⟩

/-- A packet after which the transfer is verified kept the image. -/
theorem Effect.keepsImage (he : Effect P clock packet r r' answer)
    (hr' : r'.flash.verified = true) :
    r'.flash.buffer = r.flash.buffer ∧ r'.flash.sessionId = r.flash.sessionId ∧
      (packet.cmd = .flashBlock → answer.cmd ≠ .ack) ∧
      (packet.cmd = .flashResume → answer.cmd = .ack → r.store.flashResumeScratch = none) ∧
      (packet.cmd = .enterBootloader → answer ≠ ack) := by
  cases he with
  | rejected e =>
    exact ⟨rfl, rfl, by simp, by simp, fun _ h => by simpa using congrArg Packet.cmd h⟩
  | observed live triggerRuntime tables dtcEntries log answer hcmd =>
    refine ⟨rfl, rfl, ?_, ?_, ?_⟩ <;> intro h <;> rw [h] at hcmd <;> cases hcmd
  | authRejected auth e hcmd =>
    exact ⟨rfl, rfl, by simp, by simp, fun _ h => by simpa using congrArg Packet.cmd h⟩
  | challenged auth challenge hcmd hlen =>
    refine ⟨rfl, rfl, by simp [hcmd], by simp [hcmd], fun _ h => ?_⟩
    obtain rfl : challenge = [] := congrArg Packet.payload h
    cases hlen
  | sessionStarted | imageInstalled => cases hr'
  | pageEncrypted pageId page ciphertext enc hcmd =>
    rw [flash_maybePersistPageCryptoCounter]
    exact ⟨rfl, rfl, by simp [hcmd], by simp [hcmd], by simp [hcmd]⟩
  | resumeIdle answer hcmd hack hsession hscratch =>
    exact ⟨rfl, rfl, by simp [hcmd], fun _ _ => hscratch, by simp [hcmd]⟩
  | resumed => cases hr'
  | blockAppended block hcmd hcheck =>
    rw [flash_appendFlashBlock] at hr'
    cases hr'
  | imageVerified crc hcmd => exact ⟨rfl, rfl, by simp [hcmd], by simp [hcmd], by simp [hcmd]⟩
  -- the other effects are of other commands
  | _ => simp_all

/-- With the invariant, completing fails only without a session or without a verified image. -/
theorem ImageInv.checkFlashComplete_eq (h : r.ImageInv P) :
    r.checkFlashComplete P =
      if !r.flash.sessionActive then .error (.badSequence, "flash session not started")
      else if !r.flash.verified then
        .error (.malformedPayload, "flash image must be verified before complete")
      else .ok (P.crc32 r.flash.buffer) := by
  rw [checkFlashComplete]
  cases hverified : r.flash.verified with
  | false => simp
  | true =>
    have hholds := h.verified hverified
    simp [hholds.verifiedLen_eq, hholds.verifiedCrc_eq]

end FirmwareRuntime

/-! ### Histories -/

section Histories

variable {r₀ r : FirmwareRuntime} {tr : List Step}

theorem step_imageInv {t : Step} (ht : (firmware P A).Step t) (hs : t.src.Sound P)
    (h : t.src.ImageInv P) : t.dst.ImageInv P :=
  (step_effect ht hs).imageInv ⟨h.size, h.verified⟩

theorem run_imageInv (hrun : (firmware P A).Run r₀ tr r) (hs : r₀.Sound P) (h : r₀.ImageInv P) :
    r.ImageInv P :=
  (hrun.invariant (I := fun r => r.Sound P ∧ r.ImageInv P) ⟨hs, h⟩ fun _ ht hi =>
    ⟨step_sound ht hi.1, step_imageInv ht hi.1 hi.2⟩).2

/-- **A verified transfer was verified in its session**, and its image was not touched since. -/
theorem verifiedSince_of_run (hrun : (firmware P A).Run r₀ tr r) (hs : r₀.Sound P)
    (h : r₀.ImageInv P) (h₀ : r₀.flash.verified = false) (hr : r.flash.verified = true) :
    VerifiedSince P tr r := by
  obtain ⟨pre, t, post, rfl, hsrc, hdst, hpost⟩ :=
    hrun.exists_onset (φ := fun r => r.flash.verified = true) (by simp [h₀]) hr
  obtain ⟨hpre, ht, hrest⟩ := hrun.split_mem
  have hsSrc := run_sound hpre hs
  have hsDst := step_sound ht hsSrc
  have hiDst := step_imageInv ht hsSrc (run_imageInv hpre hs h)
  -- the step that switched `verified` on is a verify
  rcases (step_effect ht hsSrc).flash_cases with heq | ⟨hoff, -⟩ | ⟨hcmd, hack, crc, hcheck, heq⟩
  · exact absurd (by rw [heq] at hdst; exact hdst) hsrc
  · rw [hoff] at hdst
    cases hdst
  obtain ⟨-, -, -, -, hsigned⟩ := FirmwareRuntime.checkFlashVerify_eq_ok hcheck
  have hbuffer : t.dst.flash.buffer = t.src.flash.buffer := by
    rw [heq]
    rfl
  have hsession : t.dst.flash.sessionId = t.src.flash.sessionId := by
    rw [heq]
    rfl
  -- the steps after it keep the image
  have hkeep : ∀ u ∈ post, KeepsImage u := by
    intro u hu
    obtain ⟨hsu, heu⟩ := run_effect hrest hsDst hu
    obtain ⟨hb, hid, hblock, hresume, hstart⟩ := heu.keepsImage (hpost u hu).2
    have hactive : u.dst.flash.sessionActive = true := by
      obtain ⟨before, after, rfl⟩ := List.append_of_mem hu
      obtain ⟨hrunU, htU, -⟩ := hrest.split_mem
      exact ((step_imageInv htU hsu (run_imageInv hrunU hsDst hiDst)).verified
        (hpost u hu).2).sessionActive
    exact ⟨hb, hid, hactive, hblock, hresume, hstart⟩
  have hbufferEnd := hrest.observe_eq (fun r => r.flash.buffer) fun u hu _ => (hkeep u hu).buffer_eq
  have hsessionEnd := hrest.observe_eq (fun r => r.flash.sessionId)
    fun u hu _ => (hkeep u hu).sessionId_eq
  have hrequired := (run_sameBoard (hpre.append (TransitionSystem.Run.cons ht hrest)) hs)
  have hrequiredSrc := run_sameBoard hpre hs
  refine ⟨pre, t, post, rfl, hcmd, hack, ?_, ?_, fun hreq => ?_, hkeep⟩
  · exact (hbufferEnd.trans hbuffer).symm
  · exact (hsessionEnd.trans hsession).symm
  · rw [hbufferEnd, hbuffer]
    refine hsigned ?_
    show t.src.flashSignatureRequired = true
    rw [hrequiredSrc.flashSignatureRequired_eq, ← hrequired.flashSignatureRequired_eq]
    exact hreq

/-- A complete command either lacks a session or a verified image, or installs the image held. -/
theorem flashComplete_cases {t : Step} (ht : (firmware P A).Step t) (h : t.src.ImageInv P)
    (hcmd : t.event.packet.cmd = .flashComplete) :
    t.output = nack .badSequence "flash session not started" ∨
      t.output = nack .malformedPayload "flash image must be verified before complete" ∨
      t.output = ack ∧ t.src.flash.verified = true ∧ t.dst.update.state = .healthWindow ∧
        t.dst.update.candidateCrc = some (P.crc32 t.src.flash.buffer) ∧
        t.dst.update.candidateSize = t.src.flash.buffer.length := by
  have hcheck := FirmwareRuntime.ImageInv.checkFlashComplete_eq (P := P)
    (r := t.src.tickUpdateHealthWindow t.event.clock.tick) ⟨h.size, h.verified⟩
  have heq := step_iff.mp ht
  rw [FirmwareRuntime.handlePacket, FirmwareRuntime.dispatch, hcmd] at heq
  dsimp only at heq
  rw [FirmwareRuntime.flashComplete, hcheck] at heq
  simp only [FirmwareRuntime.tickUpdateHealthWindow] at heq
  cases hsession : t.src.flash.sessionActive with
  | false =>
    simp only [hsession, Bool.not_false, ↓reduceIte] at heq
    exact .inl (Prod.mk.inj heq).2.symm
  | true =>
    cases hverified : t.src.flash.verified with
    | false =>
      simp only [hsession, hverified, Bool.not_false, Bool.not_true, Bool.false_eq_true,
        ↓reduceIte] at heq
      exact .inr (.inl (Prod.mk.inj heq).2.symm)
    | true =>
      simp only [hsession, hverified, Bool.not_true, Bool.false_eq_true, ↓reduceIte] at heq
      obtain ⟨hdst, hout⟩ := Prod.mk.inj heq
      rw [← hdst]
      exact .inr (.inr ⟨hout.symm, rfl, rfl, rfl, rfl⟩)

/-- A runtime that was just built holds no image. -/
theorem imageInv_of_booted {identity : FirmwareIdentity} {simulator : Bool} {s : ConfigStore}
    (h : FirmwareRuntime.Booted P identity simulator s r) :
    r.ImageInv P ∧ r.flash.verified = false := by
  obtain ⟨counter, hflash⟩ := h.flash_eq
  refine ⟨⟨?_, fun hv => ?_⟩, by rw [hflash]⟩
  · rw [hflash]
    exact Nat.zero_le _
  · rw [hflash] at hv
    cases hv

/-- **Only a verified image is installed.** Whatever packets a runtime was given: a transfer that
counts as verified holds an image that passed verification in its session and was not touched
since. An acknowledged complete command opens the health window with the checksum and the size of
such an image, and never finds the image changed. -/
theorem flash_image_verified_before_install {identity : FirmwareIdentity} {simulator : Bool}
    {s : ConfigStore} (hs : ReachableStore P A s)
    (hboot : FirmwareRuntime.newWithStore P identity simulator s = some r₀)
    (hrun : (firmware P A).Run r₀ tr r) :
    (r.flash.verified = true → r.flash.HoldsVerified P ∧ VerifiedSince P tr r) ∧
      ∀ pre t post, tr = pre ++ t :: post → t.event.packet.cmd = .flashComplete →
        t.output ≠ nack .malformedPayload "flash image changed after verify" ∧
        (t.output.cmd = .ack →
          t.src.flash.HoldsVerified P ∧ VerifiedSince P pre t.src ∧
            t.dst.update.state = .healthWindow ∧
            t.dst.update.candidateCrc = some (P.crc32 t.src.flash.buffer) ∧
            t.dst.update.candidateSize = t.src.flash.buffer.length) := by
  have hbooted := FirmwareRuntime.booted_of_newWithStore hs.wellFormed hboot
  obtain ⟨hinv, hoff⟩ := imageInv_of_booted hbooted
  constructor
  · intro hr
    exact ⟨(run_imageInv hrun hbooted.sound hinv).verified hr,
      verifiedSince_of_run hrun hbooted.sound hinv hoff hr⟩
  · rintro pre t post rfl hcmd
    obtain ⟨hpre, ht, -⟩ := hrun.split_mem
    have hsrc := run_imageInv hpre hbooted.sound hinv
    rcases flashComplete_cases ht hsrc hcmd with
      hout | hout | ⟨hout, hverified, hstate, hcrc, hsize⟩
    · rw [hout]
      exact ⟨by decide, by simp⟩
    · rw [hout]
      exact ⟨by decide, by simp⟩
    · rw [hout]
      exact ⟨by decide, fun _ => ⟨hsrc.verified hverified,
        verifiedSince_of_run hpre hbooted.sound hinv hoff hverified, hstate, hcrc, hsize⟩⟩

end Histories

/-- A board that was sent one block and verified it. -/
theorem flash_image_verified_before_install_ecuV1 :
    ∃ tr r, VerifiedSince referencePlatform tr r ∧ r.flash.HoldsVerified referencePlatform ∧
      r.flash.buffer = [1] := by
  obtain ⟨r₀, hr₀, -, hauth, hsig, hupdate⟩ := exists_new_ecuV1 referencePlatform
  have hrun := TransitionSystem.run_trace (handle referencePlatform referenceCatalogue) r₀
    (verifyInputs ⟨0, 0, none⟩ [1])
  obtain ⟨-, hblock⟩ := verified_of_block (P := referencePlatform) (A := referenceCatalogue)
    [1] hauth hsig (by rw [hupdate]) ⟨1, by simp, by decide⟩ (by decide) ⟨0, 0, none⟩
  have h := (flash_image_verified_before_install .newZeroed hr₀ hrun).1 hblock.verified
  exact ⟨_, _, h.2, h.1, hblock.buffer_eq⟩

end StEcu
