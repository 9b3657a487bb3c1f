import StEcu.Foundation.Resumable
import StEcu.Protocol.Wire
import StEcu.Transport.FlashVerification
import StEcu.Transport.PoweredBoard
import StEcu.Transport.Reference

/-!
# Flash sessions

The transfer of an image over packets and reboots, seen as a resumable transfer: a session is
started by an acknowledged bootloader request, receives its blocks one after the other, and is
stored in the resume scratch after its first block and after every eighth. Session numbers are
counted on from the scratch at each start of the board, and so they are used again; as long as there
are fewer than 2^32 sessions, no number is used again while a scratch has it.

## Main definitions

* `poweredBoard`: the transition system of packets and reboots.
* `BoardStep.startedSession`, `BoardStep.ackedBlock`, `receivedBlocks`: what was received.
* `FirmwareRuntime.transfer`: the runtime as a resumable transfer.
* `FirmwareRuntime.Resumable`: the invariant.

## Main results

* `FirmwareRuntime.Effect.transfer_cases`: the runtime refines the transfer.
* `flash_sessions_aligned`: what is in memory and what is stored, after every run.
-/

namespace StEcu

open FirmwareRuntime

/-- The steps of a board that is switched off and on; what it is may change when it is off. -/
inductive BoardStep.Powered (P : Platform) (A : Catalogue) : BoardStep → Prop
  | packet {r r' : FirmwareRuntime} {input : Input} {answer : Packet}
      (h : (firmware P A).Step ⟨r, input, answer, r'⟩) :
      Powered P A ⟨r, .packet input, some answer, r'⟩
  | reboot {r r' : FirmwareRuntime} {identity : FirmwareIdentity} {simulator : Bool}
      (h : newWithStore P identity simulator r.store = some r') :
      Powered P A ⟨r, .reboot, none, r'⟩

/-- A board that handles packets, and that may start anew on its store with any identity. -/
def poweredBoard (P : Platform) (A : Catalogue) :
    TransitionSystem FirmwareRuntime BoardEvent (Option Packet) where
  Step := BoardStep.Powered P A

variable {P : Platform} {A : Catalogue}

/-! ### What was received -/

/-- The number of the session that a step starts. -/
def BoardStep.startedSession (t : BoardStep) : Option ℕ :=
  match t.event, t.output with
  | .packet input, some answer =>
    if input.packet.cmd = .enterBootloader ∧ answer = ack then some t.dst.flash.sessionId.toNat
    else none
  | _, _ => none

/-- The session, the number and the data of the block that a step acknowledges. -/
def BoardStep.ackedBlock (t : BoardStep) : Option (ℕ × ℕ × Bytes) :=
  match t.event, t.output with
  | .packet input, some answer =>
    if input.packet.cmd = .flashBlock ∧ answer.cmd = .ack then
      some (t.src.flash.sessionId.toNat,
        (u32OfBe (input.packet.payload.take flashBlockHeaderLen)).toNat,
        input.packet.payload.drop flashBlockHeaderLen)
    else none
  | _, _ => none

/-- The data received after one more step. -/
def BoardStep.receive (received : Received UInt8) (t : BoardStep) : Received UInt8 :=
  match t.startedSession, t.ackedBlock with
  | some session, _ => received.start session
  | none, some (session, index, block) => received.add session index block
  | none, none => received

/-- The latest data of each block of each session, acknowledged since the start of the session. -/
def receivedBlocks (tr : List BoardStep) : Received UInt8 :=
  tr.foldl BoardStep.receive fun _ _ => none

/-- How many sessions were started. -/
def sessionsStarted (tr : List BoardStep) : ℕ := tr.countP fun t => t.startedSession.isSome

/-! ### The runtime as a resumable transfer -/

/-- Progress is due to be stored after the first block and after every eighth. -/
def ResumeDue (n : ℕ) : Prop := n = 1 ∨ 8 ∣ n

instance : DecidablePred ResumeDue := fun n => by
  unfold ResumeDue
  infer_instance

/-- How far a transfer has come. -/
def FlashTransfer.progress (flash : FlashTransfer) : Progress UInt8 :=
  ⟨flash.sessionId.toNat, flash.nextBlock.toNat, flash.buffer⟩

/-- How far the transfer of a scratch had come. -/
def FlashResumeScratch.progress (scratch : FlashResumeScratch) : Progress UInt8 :=
  ⟨scratch.sessionId.toNat, scratch.nextBlock.toNat, scratch.image⟩

/-- The transfers of a board, as the discipline of resumable transfers sees them. -/
def FirmwareRuntime.transfer (r : FirmwareRuntime) : Transfer UInt8 where
  counter := r.flash.sessionCounter.toNat
  active := if r.flash.sessionActive then some r.flash.progress else none
  stored := r.store.flashResumeScratch.map FlashResumeScratch.progress

/-- The invariant: the transfer is aligned with what was received, blocks are not empty, an image is
not too large, the checksum in the scratch is that of its image, and the number of the latest
session is at most the number of sessions. -/
structure FirmwareRuntime.Resumable (P : Platform) (received : Received UInt8) (sessions : ℕ)
    (r : FirmwareRuntime) : Prop where
  aligned : r.transfer.Aligned ResumeDue received
  counter : r.flash.sessionCounter.toNat ≤ sessions
  next : r.flash.nextBlock.toNat ≤ r.flash.buffer.length
  size : r.flash.buffer.length ≤ flashBufferMaxBytes
  scratch : ∀ scratch, r.store.flashResumeScratch = some scratch →
    scratch.rollingCrc = P.crc32 scratch.image ∧
      scratch.nextBlock.toNat ≤ scratch.image.length ∧ scratch.image.length ≤ flashBufferMaxBytes

namespace FirmwareRuntime

variable {clock : Clock} {packet answer : Packet} {r r' : FirmwareRuntime}

theorem scratch_maybePersistPageCryptoCounter (h : r.store.WellFormed P) (counter : UInt64) :
    (r.maybePersistPageCryptoCounter P counter).store.flashResumeScratch =
      r.store.flashResumeScratch := by
  rcases maybePersistPageCryptoCounter_cases h counter with ⟨-, heq⟩ | ⟨-, heq⟩
  · rw [heq]
  · obtain ⟨page, hpage, -⟩ := exists_recordPage h
    rw [heq]
    exact (persistPageCryptoCounter_spec h hpage counter).2.scratch_eq

/-- A runtime with the transfer and the scratch of another one. -/
structure SameTransfer (r r' : FirmwareRuntime) : Prop where
  counter_eq : r'.flash.sessionCounter = r.flash.sessionCounter
  active_eq : r'.flash.sessionActive = r.flash.sessionActive
  id_eq : r'.flash.sessionId = r.flash.sessionId
  next_eq : r'.flash.nextBlock = r.flash.nextBlock
  buffer_eq : r'.flash.buffer = r.flash.buffer
  scratch_eq : r'.store.flashResumeScratch = r.store.flashResumeScratch

/-- **The runtime refines the transfer**: what a packet does to it. -/
theorem Effect.transfer_cases (he : Effect P clock packet r r' answer) (h : r.Sound P) :
    (SameTransfer r r' ∧ (packet.cmd = .enterBootloader → answer ≠ ack) ∧
        (packet.cmd = .flashBlock → answer.cmd ≠ .ack)) ∨
      (packet.cmd = .enterBootloader ∧ answer = ack ∧ r' = r.beginFlashSession) ∨
      (packet.cmd = .flashResume ∧ r.flash.sessionActive = true ∧ ∃ scratch,
        r.store.flashResumeScratch = some scratch ∧
        r' = { r with
          flash := r.flash.restored scratch, update := { r.update with state := .receiving } }) ∨
      (packet.cmd = .flashBlock ∧ answer = ack ∧ ∃ block,
        r.checkFlashBlock packet.payload = .ok block ∧ r' = r.appendFlashBlock P block) ∨
      (packet.cmd = .flashComplete ∧ ∃ crc, r' = r.installCandidate crc clock.now) := by
  cases he with
  | rejected e =>
    exact .inl ⟨⟨rfl, rfl, rfl, rfl, rfl, rfl⟩, fun _ h => by simpa using congrArg Packet.cmd h,
      by simp⟩
  | observed live triggerRuntime tables dtcEntries log answer hcmd =>
    refine .inl ⟨⟨rfl, rfl, rfl, rfl, rfl, rfl⟩, fun h => ?_, fun h => ?_⟩ <;> rw [h] at hcmd <;>
      cases hcmd
  | authRejected auth e hcmd =>
    exact .inl ⟨⟨rfl, rfl, rfl, rfl, rfl, rfl⟩, fun _ h => by simpa using congrArg Packet.cmd h,
      by simp⟩
  | challenged auth challenge hcmd hlen =>
    refine .inl ⟨⟨rfl, rfl, rfl, rfl, rfl, rfl⟩, fun _ h => ?_, by simp [hcmd]⟩
    obtain rfl : challenge = [] := congrArg Packet.payload h
    cases hlen
  | sessionStarted hcmd => exact .inr (.inl ⟨hcmd, rfl, rfl⟩)
  | pageEncrypted pageId page ciphertext enc hcmd =>
    have hscratch := scratch_maybePersistPageCryptoCounter (P := P)
      (r := { r with tuneEncryption := some enc.advanceNonce }) h.store
      enc.advanceNonce.state.nonceCounter
    have hflash := flash_maybePersistPageCryptoCounter (P := P)
      (r := { r with tuneEncryption := some enc.advanceNonce }) enc.advanceNonce.state.nonceCounter
    refine .inl ⟨?_, by simp [hcmd], by simp [hcmd]⟩
    constructor <;> first | exact hscratch | rw [hflash]
  | pageBurned pageId page hcmd hdec hread =>
    exact .inl ⟨⟨rfl, rfl, rfl, rfl, rfl, (h.store.burnPage_spec hread).2.2.1⟩, by simp [hcmd],
      by simp [hcmd]⟩
  | resumed scratch answer hcmd hack hsession hscratch =>
    exact .inr (.inr (.inl ⟨hcmd, hsession, scratch, hscratch, rfl⟩))
  | blockAppended block hcmd hcheck =>
    exact .inr (.inr (.inr (.inl ⟨hcmd, rfl, block, hcheck, rfl⟩)))
  | imageInstalled crc hcmd => exact .inr (.inr (.inr (.inr ⟨hcmd, crc, rfl⟩)))
  -- the other effects are of other commands
  | pageRead | encryptionFailed | pageWritten | basePageWritten | pinPageWritten | pinPageReverted |
      pinsAssigned | resumeIdle | imageVerified | bootConfirmed =>
    exact .inl ⟨⟨rfl, rfl, rfl, rfl, rfl, rfl⟩, by simp_all, by simp_all⟩

theorem SameTransfer.transfer_eq (h : SameTransfer r r') : r'.transfer = r.transfer := by
  simp only [transfer, FlashTransfer.progress, h.counter_eq, h.active_eq, h.id_eq, h.next_eq,
    h.buffer_eq, h.scratch_eq]

variable {received : Received UInt8} {sessions : ℕ}

theorem Resumable.congr (h : r.Resumable P received sessions) (hs : SameTransfer r r') :
    r'.Resumable P received sessions where
  aligned := by
    rw [hs.transfer_eq]
    exact h.aligned
  counter := by
    rw [hs.counter_eq]
    exact h.counter
  next := by
    rw [hs.next_eq, hs.buffer_eq]
    exact h.next
  size := by
    rw [hs.buffer_eq]
    exact h.size
  scratch := by
    rw [hs.scratch_eq]
    exact h.scratch

/-! ### The operations, one by one -/

/-- The number of the next session, if there are fewer than 2^32. -/
theorem toNat_nextSessionNumber {flash : FlashTransfer}
    (h : flash.sessionCounter.toNat + 1 < 2 ^ 32) :
    flash.nextSessionNumber.toNat = flash.sessionCounter.toNat + 1 := by
  have hsum : (flash.sessionCounter + 1).toNat = flash.sessionCounter.toNat + 1 := by
    rw [UInt32.toNat_add]
    exact Nat.mod_eq_of_lt h
  have hne : flash.sessionCounter + 1 ≠ 0 := by
    intro hzero
    rw [hzero] at hsum
    cases hsum
  rw [FlashTransfer.nextSessionNumber, if_neg hne, hsum]

theorem Resumable.beginFlashSession (h : r.Resumable P received sessions)
    (hroom : sessions + 1 < 2 ^ 32) :
    r.beginFlashSession.Resumable P
      (received.start r.beginFlashSession.flash.sessionId.toNat) (sessions + 1) := by
  have hcounter := h.counter
  have hid : r.beginFlashSession.flash.sessionId.toNat = r.flash.sessionCounter.toNat + 1 :=
    toNat_nextSessionNumber (by omega)
  refine ⟨?_, ?_, Nat.le_refl _, Nat.zero_le _, h.scratch⟩
  · have htransfer : r.beginFlashSession.transfer = r.transfer.start := by
      have hactive : (FirmwareRuntime.beginFlashSession r).transfer.active =
          some ⟨r.beginFlashSession.flash.sessionId.toNat, 0, []⟩ := rfl
      rw [hid] at hactive
      exact congrArg₂ (fun counter active => (⟨counter, active, r.transfer.stored⟩ :
        Transfer UInt8)) hid hactive
    rw [htransfer, hid]
    exact h.aligned.start
  · change r.beginFlashSession.flash.sessionId.toNat ≤ _
    omega

theorem Resumable.restored (h : r.Resumable P received sessions) {scratch : FlashResumeScratch}
    (hscratch : r.store.flashResumeScratch = some scratch) :
    ({ r with
      flash := r.flash.restored scratch
      update := { r.update with state := .receiving } } : FirmwareRuntime).Resumable P received
      sessions := by
  obtain ⟨-, hnext, hsize⟩ := h.scratch scratch hscratch
  refine ⟨?_, h.counter, hnext, hsize, h.scratch⟩
  have htransfer : ({ r with
      flash := r.flash.restored scratch
      update := { r.update with state := .receiving } } : FirmwareRuntime).transfer =
      r.transfer.resume := by
    simp only [transfer, Transfer.resume, hscratch]
    rfl
  rw [htransfer]
  exact h.aligned.resume

theorem resumable_installCandidate (h : r.Resumable P received sessions) (crc : UInt32) (now : ℕ) :
    (r.installCandidate crc now).Resumable P received sessions where
  aligned := Transfer.aligned_halt (t := r.transfer)
  counter := h.counter
  next := Nat.le_refl _
  size := Nat.zero_le _
  scratch _ hscratch := nomatch hscratch

/-- What an accepted block is, and that it is not empty. -/
theorem block_of_checkFlashBlock {payload block : Bytes}
    (h : r.checkFlashBlock payload = .ok block) : block = payload.drop flashBlockHeaderLen ∧
      u32OfBe (payload.take flashBlockHeaderLen) = r.flash.nextBlock ∧ 0 < block.length := by
  rw [checkFlashBlock] at h
  split at h
  · cases h
  split at h
  · cases h
  next hlen =>
  split at h
  · cases h
  split at h
  · cases h
  next hindex =>
  dsimp only at h
  split at h
  · cases h
  obtain rfl := Except.ok.inj h
  refine ⟨rfl, not_ne_iff.mp hindex, ?_⟩
  rw [List.length_drop]
  omega

theorem dvd_iff_mod_stride (n : UInt32) : n % flashResumePersistStrideBlocks = 0 ↔ 8 ∣ n.toNat := by
  rw [← UInt32.toNat_inj, UInt32.toNat_mod, Nat.dvd_iff_mod_eq_zero]
  rfl

/-- The scratch after a block. -/
theorem scratch_appendFlashBlock (hactive : r.flash.sessionActive = true) (block : Bytes) :
    (r.appendFlashBlock P block).store.flashResumeScratch =
      if ResumeDue (r.flash.nextBlock.saturatingAdd 1).toNat then
        some ((r.flash.appendBlock block).resumeScratch P)
      else r.store.flashResumeScratch := by
  have hdue : ResumeDue (r.flash.nextBlock.saturatingAdd 1).toNat ↔
      (r.flash.appendBlock block).nextBlock = 1 ∨
        (r.flash.appendBlock block).nextBlock % flashResumePersistStrideBlocks = 0 := by
    rw [dvd_iff_mod_stride, ← UInt32.toNat_inj]
    exact Iff.rfl
  simp only [hdue]
  rw [appendFlashBlock, maybePersistFlashResumeScratch]
  split_ifs with hcond
  · rw [persistFlashResumeScratch, if_neg (by simp [FlashTransfer.appendBlock, hactive])]
    rfl
  · rfl

theorem Resumable.appendFlashBlock (h : r.Resumable P received sessions) {payload block : Bytes}
    (hcheck : r.checkFlashBlock payload = .ok block) :
    (r.appendFlashBlock P block).Resumable P
      (received.add r.flash.sessionId.toNat (u32OfBe (payload.take flashBlockHeaderLen)).toNat
        (payload.drop flashBlockHeaderLen)) sessions := by
  obtain ⟨hactive, hsize⟩ := checkFlashBlock_eq_ok hcheck
  obtain ⟨rfl, hindex, hpos⟩ := block_of_checkFlashBlock hcheck
  have hmax : flashBufferMaxBytes = 2097152 := rfl
  have hnext := h.next
  have hadd : (r.flash.nextBlock.saturatingAdd 1).toNat = r.flash.nextBlock.toNat + 1 := by
    rw [UInt32.toNat_saturatingAdd]
    change min (_ + 1) 4294967295 = _
    omega
  have hscratch := scratch_appendFlashBlock (P := P) hactive (payload.drop flashBlockHeaderLen)
  rw [hadd] at hscratch
  have hprogress : (r.flash.appendBlock (payload.drop flashBlockHeaderLen)).progress =
      r.flash.progress.append (payload.drop flashBlockHeaderLen) := by
    simp only [FlashTransfer.progress, FlashTransfer.appendBlock, Progress.append, hadd]
  have hflash := flash_appendFlashBlock (P := P) (r := r) (payload.drop flashBlockHeaderLen)
  refine ⟨?_, ?_, ?_, ?_, fun scratch hs => ?_⟩
  · have htransfer : (r.appendFlashBlock P (payload.drop flashBlockHeaderLen)).transfer =
        r.transfer.append ResumeDue r.flash.progress (payload.drop flashBlockHeaderLen) := by
      have hon : (r.flash.appendBlock (payload.drop flashBlockHeaderLen)).sessionActive = true :=
        hactive
      simp only [transfer, hflash, hscratch, hprogress, hon, if_true, Transfer.append]
      congr 1
      by_cases hdue : ResumeDue (r.flash.nextBlock.toNat + 1)
      · rw [if_pos hdue, if_pos (show ResumeDue (r.flash.progress.next + 1) from hdue)]
        exact congrArg some hprogress
      · rw [if_neg hdue, if_neg (show ¬ ResumeDue (r.flash.progress.next + 1) from hdue)]
    rw [htransfer, hindex]
    exact h.aligned.append (.inl rfl) (by rw [transfer, hactive]; rfl) _
  · rw [hflash]
    exact h.counter
  · rw [hflash, FlashTransfer.appendBlock, hadd, List.length_append]
    omega
  · rw [hflash, FlashTransfer.appendBlock, List.length_append]
    exact hsize
  · rw [hscratch] at hs
    split_ifs at hs
    · obtain rfl := Option.some.inj hs
      refine ⟨rfl, ?_, ?_⟩
      · change (r.flash.nextBlock.saturatingAdd 1).toNat ≤ (r.flash.buffer ++ _).length
        rw [hadd, List.length_append]
        omega
      · change (r.flash.buffer ++ _).length ≤ _
        rwa [List.length_append]
    · exact h.scratch scratch hs

/-- A board that is switched on again. -/
theorem Resumable.reboot (h : r.Resumable P received sessions) (hs : r.store.WellFormed P)
    {identity : FirmwareIdentity} {simulator : Bool}
    (hboot : newWithStore P identity simulator r.store = some r') :
    r'.Resumable P received sessions := by
  have hscratch := (booted_of_newWithStore hs hboot).scratch_eq
  obtain ⟨-, -, hflash⟩ := fresh_of_newWithStore hboot
  rw [hscratch] at hflash
  have htransfer : r'.transfer = r.transfer.powerCycle := by
    simp only [transfer, Transfer.powerCycle, hflash, hscratch]
    cases r.store.flashResumeScratch <;> rfl
  have haligned := h.aligned.powerCycle
  refine ⟨by rwa [htransfer], ?_, ?_, ?_, by rw [hscratch]; exact h.scratch⟩
  · rw [hflash]
    cases hstored : r.store.flashResumeScratch with
    | none => exact Nat.zero_le _
    | some scratch =>
      have hstored' : scratch.progress ∈ r.transfer.stored := by
        rw [transfer, hstored]
        rfl
      exact (h.aligned.stored _ hstored').2.2.1.trans h.counter
  · rw [hflash]
    exact Nat.zero_le _
  · rw [hflash]
    exact Nat.zero_le _

end FirmwareRuntime

/-! ### Steps and runs -/

theorem sameTransfer_tick (r : FirmwareRuntime) (now : ℕ) :
    SameTransfer r (r.tickUpdateHealthWindow now) := ⟨rfl, rfl, rfl, rfl, rfl, rfl⟩

/-- A packet that starts no session and brings no block leaves what was received as it is. -/
theorem receive_packet (r r' : FirmwareRuntime) (input : Input) (answer : Packet)
    (received : Received UInt8) (hstart : input.packet.cmd = .enterBootloader → answer ≠ ack)
    (hblock : input.packet.cmd = .flashBlock → answer.cmd ≠ .ack) :
    BoardStep.startedSession ⟨r, .packet input, some answer, r'⟩ = none ∧
      BoardStep.receive received ⟨r, .packet input, some answer, r'⟩ = received := by
  have hnone : BoardStep.startedSession ⟨r, .packet input, some answer, r'⟩ = none :=
    if_neg fun h => hstart h.1 h.2
  have hnone' : BoardStep.ackedBlock ⟨r, .packet input, some answer, r'⟩ = none :=
    if_neg fun h => hblock h.1 h.2
  rw [BoardStep.receive, hnone, hnone']
  exact ⟨rfl, rfl⟩

/-- **A step of a board keeps the invariant**, if there are not too many sessions. -/
theorem step_resumable {t : BoardStep} (ht : (poweredBoard P A).Step t) (hs : t.src.Sound P)
    {received : Received UInt8} {sessions : ℕ} (h : t.src.Resumable P received sessions)
    (hroom : sessions + t.startedSession.isSome.toNat < 2 ^ 32) :
    t.dst.Resumable P (t.receive received) (sessions + t.startedSession.isSome.toNat) := by
  cases ht with
  | reboot hboot => exact h.reboot hs.store hboot
  | @packet r r' input answer hstep =>
    have htick := h.congr (sameTransfer_tick r input.clock.tick)
    have heffect := (step_effect hstep hs).transfer_cases (hs.tick input.clock.tick)
    dsimp only at heffect ⊢
    rcases heffect with ⟨hsame, hstart, hblock⟩ | ⟨hcmd, hack, hr'⟩ |
      ⟨hcmd, -, scratch, hscratch, hr'⟩ | ⟨hcmd, hack, block, hcheck, hr'⟩ | ⟨hcmd, crc, hr'⟩
    · obtain ⟨hnone, heq⟩ := receive_packet r r' input answer received hstart hblock
      rw [hnone, heq]
      exact htick.congr hsame
    · have hsome : BoardStep.startedSession ⟨r, .packet input, some answer, r'⟩ =
          some r'.flash.sessionId.toNat := if_pos ⟨hcmd, hack⟩
      rw [hsome] at hroom
      rw [BoardStep.receive, hsome, hr']
      exact htick.beginFlashSession hroom
    · obtain ⟨hnone, heq⟩ := receive_packet r r' input answer received
        (by simp [hcmd]) (by simp [hcmd])
      rw [hnone, heq, hr']
      exact htick.restored hscratch
    · have hnone : BoardStep.startedSession ⟨r, .packet input, some answer, r'⟩ = none :=
        if_neg fun h => by simp [hcmd] at h
      have hsome : BoardStep.ackedBlock ⟨r, .packet input, some answer, r'⟩ =
          some (r.flash.sessionId.toNat,
            (u32OfBe (input.packet.payload.take flashBlockHeaderLen)).toNat,
            input.packet.payload.drop flashBlockHeaderLen) := if_pos ⟨hcmd, by rw [hack]; rfl⟩
      rw [BoardStep.receive, hnone, hsome, hr']
      exact htick.appendFlashBlock hcheck
    · obtain ⟨hnone, heq⟩ := receive_packet r r' input answer received
        (by simp [hcmd]) (by simp [hcmd])
      rw [hnone, heq, hr']
      exact resumable_installCandidate htick crc input.clock.now

theorem step_sound_powered {t : BoardStep} (ht : (poweredBoard P A).Step t) (hs : t.src.Sound P) :
    t.dst.Sound P := by
  cases ht with
  | packet hstep => exact step_sound hstep hs
  | reboot hboot => exact (booted_of_newWithStore hs.store hboot).sound

/-- **Every run of a board keeps the invariant.** -/
theorem run_resumable {r₀ r : FirmwareRuntime} {tr : List BoardStep}
    (hrun : (poweredBoard P A).Run r₀ tr r) (hs : r₀.Sound P)
    (h : r₀.Resumable P (fun _ _ => none) 0) (hroom : sessionsStarted tr < 2 ^ 32) :
    r.Sound P ∧ r.Resumable P (receivedBlocks tr) (sessionsStarted tr) := by
  induction hrun with
  | nil => exact ⟨hs, h⟩
  | @snoc tr r e o r' hprefix hstep ih =>
    have hcount : sessionsStarted (tr ++ [⟨r, e, o, r'⟩]) = sessionsStarted tr +
        (BoardStep.startedSession ⟨r, e, o, r'⟩).isSome.toNat := by
      rw [sessionsStarted, List.countP_append, List.countP_singleton]
      cases (BoardStep.startedSession ⟨r, e, o, r'⟩).isSome <;> rfl
    rw [hcount] at hroom ⊢
    obtain ⟨hsound, hresumable⟩ := ih (by omega)
    rw [receivedBlocks, List.foldl_append]
    exact ⟨step_sound_powered hstep hsound, step_resumable hstep hsound hresumable hroom⟩

/-- A board without a scratch. -/
theorem resumable_of_newWithStore {identity : FirmwareIdentity} {simulator : Bool}
    {s : ConfigStore} {r : FirmwareRuntime} (hs : s.WellFormed P)
    (hscratch : s.flashResumeScratch = none)
    (hboot : newWithStore P identity simulator s = some r) :
    r.Resumable P (fun _ _ => none) 0 := by
  have hnone := (booted_of_newWithStore hs hboot).scratch_eq.trans hscratch
  obtain ⟨-, -, hflash⟩ := fresh_of_newWithStore hboot
  rw [hnone] at hflash
  refine ⟨⟨?_, ?_, ?_⟩, ?_, ?_, ?_, ?_⟩
  · intro p hp
    rw [transfer, hflash] at hp
    cases hp
  · intro p hp
    rw [transfer, hnone] at hp
    cases hp
  · intro p hp
    rw [transfer, hflash] at hp
    cases hp
  · rw [hflash]
    exact Nat.le_refl _
  · rw [hflash]
    exact Nat.le_refl _
  · rw [hflash]
    exact Nat.zero_le _
  · rw [hnone]
    exact fun scratch h => (nomatch h)

/-! ### The answer to a resume request -/

theorem Wire.decode_encodeFlashResumePayload (sessionId nextBlock rollingCrc : UInt32) :
    Wire.decodeFlashResumePayload.run (encodeFlashResumePayload sessionId nextBlock rollingCrc) =
      .ok (sessionId, nextBlock, rollingCrc) := by
  have hlen : ¬ (encodeFlashResumePayload sessionId nextBlock rollingCrc).length ≠ 12 :=
    not_not.mpr rfl
  have hrest : (do
      let sessionId ← ByteReader.u32
      let nextBlock ← ByteReader.u32
      let rollingCrc ← ByteReader.u32
      return (sessionId, nextBlock, rollingCrc) : Wire.Reader (UInt32 × UInt32 × UInt32)).run
      (encodeFlashResumePayload sessionId nextBlock rollingCrc) =
        .ok (sessionId, nextBlock, rollingCrc) := by
    refine ByteReader.Reads.run <| .of_append_nil ?_
    rw [encodeFlashResumePayload]
    simp only [List.append_assoc]
    exact .u32 <| .u32 <| .u32 <| .pure rfl
  rw [ByteReader.run] at hrest ⊢
  rw [Wire.decodeFlashResumePayload,
    ByteReader.read_bind_ok (ByteReader.read_lengthIs.trans (if_neg hlen))]
  exact hrest

theorem answer_flashResume {r r' : FirmwareRuntime} {payload : Bytes} {answer : Packet}
    (h : r.flashResume P payload = (r', answer)) (hack : answer.cmd = .ack) :
    answer = ⟨.ack, encodeFlashResumePayload r'.flash.sessionId r'.flash.nextBlock
      (P.crc32 r'.flash.buffer)⟩ := by
  rw [flashResume] at h
  split at h
  · cases (Prod.mk.inj h).2 ▸ hack
  split at h
  · cases (Prod.mk.inj h).2 ▸ hack
  split at h
  · obtain ⟨rfl, rfl⟩ := Prod.mk.inj h
    rfl
  · cases (Prod.mk.inj h).2 ▸ hack
  · cases (Prod.mk.inj h).2 ▸ hack
  · cases (Prod.mk.inj h).2 ▸ hack

theorem step_flashResume {t : Step} (ht : (firmware P A).Step t)
    (hcmd : t.event.packet.cmd = .flashResume) (hack : t.output.cmd = .ack) :
    Wire.decodeFlashResumePayload.run t.output.payload =
      .ok (t.dst.flash.sessionId, t.dst.flash.nextBlock, P.crc32 t.dst.flash.buffer) := by
  have hstep := step_iff.mp ht
  rw [handlePacket, dispatch, hcmd] at hstep
  rw [answer_flashResume hstep hack]
  exact Wire.decode_encodeFlashResumePayload _ _ _

/-! ### The result -/

/-- The last multiple of eight is at most seven blocks back. -/
theorem le_add_seven {n m : ℕ} (h : IsGreatest {k | k ≤ n ∧ ResumeDue k} m) : n ≤ m + 7 := by
  have hdue : n / 8 * 8 ∈ {k | k ≤ n ∧ ResumeDue k} :=
    ⟨Nat.div_mul_le_self n 8, .inr (Nat.dvd_mul_left 8 (n / 8))⟩
  have hle := h.2 hdue
  omega

/-- **Resuming never mixes or loses data.** After every run of packets and reboots of a board that
had no scratch, with fewer than 2^32 sessions:
* an active session holds the latest data of its blocks, in order, and once it has a block it is the
  session of the scratch;
* a scratch holds the latest data of the blocks of its own session, with the checksum, and if its
  session is the active one it is as far as the last progress that was due, at most seven blocks
  back;
* an acknowledged resume request reports the session, the next block and the checksum of the image
  that are then in memory. -/
theorem flash_sessions_aligned {identity : FirmwareIdentity} {simulator : Bool} {s : ConfigStore}
    {r₀ r : FirmwareRuntime} {tr : List BoardStep} (hs : ReachableStore P A s)
    (hscratch : s.flashResumeScratch = none)
    (hboot : newWithStore P identity simulator s = some r₀)
    (hrun : (poweredBoard P A).Run r₀ tr r) (hfew : sessionsStarted tr < 2 ^ 32) :
    (r.flash.sessionActive = true → r.flash.progress.Holds (receivedBlocks tr) ∧
      (r.flash.nextBlock ≠ 0 → ∃ scratch, r.store.flashResumeScratch = some scratch ∧
        scratch.sessionId = r.flash.sessionId)) ∧
    (∀ scratch, r.store.flashResumeScratch = some scratch →
      scratch.progress.Holds (receivedBlocks tr) ∧ scratch.rollingCrc = P.crc32 scratch.image ∧
      scratch.sessionId ≠ 0 ∧
      (r.flash.sessionActive = true → r.flash.sessionId = scratch.sessionId →
        IsGreatest {n | n ≤ r.flash.nextBlock.toNat ∧ (n = 1 ∨ 8 ∣ n)} scratch.nextBlock.toNat ∧
        r.flash.nextBlock.toNat ≤ scratch.nextBlock.toNat + 7)) ∧
    ∀ t : Step, (firmware P A).Step t → t.src = r → t.event.packet.cmd = .flashResume →
      t.output.cmd = .ack → Wire.decodeFlashResumePayload.run t.output.payload =
        .ok (t.dst.flash.sessionId, t.dst.flash.nextBlock, P.crc32 t.dst.flash.buffer) := by
  have hbooted := booted_of_newWithStore hs.wellFormed hboot
  obtain ⟨-, h⟩ := run_resumable hrun hbooted.sound
    (resumable_of_newWithStore hs.wellFormed hscratch hboot) hfew
  have hactive (hon : r.flash.sessionActive = true) : r.flash.progress ∈ r.transfer.active := by
    rw [transfer, hon]
    rfl
  have hstored {scratch : FlashResumeScratch} (hsome : r.store.flashResumeScratch = some scratch) :
      scratch.progress ∈ r.transfer.stored := by
    rw [transfer, hsome]
    rfl
  refine ⟨fun hon => ⟨(h.aligned.active _ (hactive hon)).1, fun hne => ?_⟩, fun scratch hsome => ?_,
    fun t ht _ hcmd hack => step_flashResume ht hcmd hack⟩
  · rcases h.aligned.both _ (hactive hon) with ⟨hzero, -⟩ | ⟨q, hq, hsession, -⟩
    · have hzero' : r.flash.nextBlock.toNat = (0 : UInt32).toNat := hzero
      exact absurd (UInt32.toNat_inj.mp hzero') hne
    · obtain ⟨scratch, hsome, rfl⟩ := Option.map_eq_some_iff.mp hq
      exact ⟨scratch, hsome, UInt32.toNat_inj.mp hsession⟩
  · obtain ⟨hholds, hpos, -⟩ := h.aligned.stored _ (hstored hsome)
    refine ⟨hholds, (h.scratch scratch hsome).1, fun hzero => ?_, fun hon heq => ?_⟩
    · have hzero' : scratch.progress.session = 0 := congrArg UInt32.toNat hzero
      omega
    · have hgreatest := h.aligned.isGreatest (hactive hon) (hstored hsome)
        (congrArg UInt32.toNat heq)
      exact ⟨hgreatest, le_add_seven hgreatest⟩

/-- The first board receives one block and is switched off and on: the block is in the scratch. -/
theorem flash_sessions_aligned_ecuV1 : ∃ r₀ tr r scratch,
    newWithStore referencePlatform .ecuV1 false (.newZeroed referencePlatform) = some r₀ ∧
    (poweredBoard referencePlatform referenceCatalogue).Run r₀ tr r ∧
    tr.map Transition.event = [.packet ⟨⟨0, 0, none⟩, ⟨.enterBootloader, []⟩⟩,
      .packet ⟨⟨0, 0, none⟩, ⟨.flashBlock, firstBlock [1]⟩⟩, .reboot] ∧
    r.store.flashResumeScratch = some scratch ∧ scratch.image = [1] ∧
    scratch.progress.Holds (receivedBlocks tr) := by
  obtain ⟨r₀, hboot, -, hauth, -, -⟩ := exists_new_ecuV1 referencePlatform
  have hs := (booted_of_newWithStore (ConfigStore.wellFormed_newZeroed (P := referencePlatform))
    hboot).sound
  have hstart : (firmware referencePlatform referenceCatalogue).Step
      ⟨r₀, ⟨⟨0, 0, none⟩, ⟨.enterBootloader, []⟩⟩, ack,
        (r₀.tickUpdateHealthWindow 0).beginFlashSession⟩ :=
    step_iff.mpr (handlePacket_enterBootloader hauth)
  generalize hr₁ : (r₀.tickUpdateHealthWindow 0).beginFlashSession = r₁ at hstart
  obtain ⟨hon, hnext, hbuffer⟩ : r₁.flash.sessionActive = true ∧ r₁.flash.nextBlock = 0 ∧
      r₁.flash.buffer = [] := by
    rw [← hr₁]
    exact ⟨rfl, rfl, rfl⟩
  have hblock : (firmware referencePlatform referenceCatalogue).Step
      ⟨r₁, ⟨⟨0, 0, none⟩, ⟨.flashBlock, firstBlock [1]⟩⟩, ack,
        (r₁.tickUpdateHealthWindow 0).appendFlashBlock referencePlatform [1]⟩ :=
    step_iff.mpr (handlePacket_flashBlock
      (checkFlashBlock_firstBlock hon hnext hbuffer (by decide) (by decide)))
  have hscratch := scratch_appendFlashBlock (P := referencePlatform)
    (r := r₁.tickUpdateHealthWindow 0) hon [1]
  rw [if_pos (by rw [show (r₁.tickUpdateHealthWindow 0).flash.nextBlock = 0 from hnext]; decide)]
    at hscratch
  have hs₂ := step_sound hblock (step_sound hstart hs)
  generalize (r₁.tickUpdateHealthWindow 0).appendFlashBlock referencePlatform [1] = r₂
    at hblock hscratch hs₂
  obtain ⟨r₃, hreboot, hbooted⟩ := exists_newWithStore .ecuV1 false hs₂.store
  have hnil : (poweredBoard referencePlatform referenceCatalogue).Run r₀ [] r₀ := .nil
  have hrun := ((hnil.snoc (.packet hstart)).snoc (.packet hblock)).snoc (.reboot hreboot)
  have hstored := hbooted.scratch_eq.trans hscratch
  obtain ⟨-, hall, -⟩ := flash_sessions_aligned .newZeroed rfl hboot hrun
    (List.countP_le_length.trans_lt (show 3 < 2 ^ 32 by decide))
  refine ⟨r₀, _, r₃, _, hboot, hrun, rfl, hstored, ?_, (hall _ hstored).1⟩
  change r₁.flash.buffer ++ [1] = [1]
  rw [hbuffer]
  rfl

end StEcu
