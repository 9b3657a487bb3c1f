import StEcu.Transport.Installation
import StEcu.Transport.Reference

/-!
# Resuming from a scratch that was damaged

A resume scratch keeps the image of a transfer together with its checksum. A resume request takes
over the image whatever the checksum: it looks at the session and at the size only. A scratch that
the board wrote itself has the checksum of its image; one that was damaged in storage need not.

## Main definitions

* `ResumeRefused`: the requests that are rejected, given the scratch.
* `Step.ChecksScratch`: a step that uses the image of a scratch only if it has its checksum.

## Main results

* `resume_checks_scratch_iff`: a resume request does so if and only if the scratch is intact or the
  request is refused on other grounds.
-/

namespace StEcu

/-- A resume request of another length than zero or four, for an image that is too large, or of
another session than the one of the scratch; the number zero stands for any session. -/
def ResumeRefused (payload : Bytes) (scratch : FlashResumeScratch) : Prop :=
  (payload.length ≠ 0 ∧ payload.length ≠ 4) ∨ flashBufferMaxBytes < scratch.image.length ∨
    payload.length = 4 ∧ u32OfBe payload ≠ 0 ∧ u32OfBe payload ≠ scratch.sessionId

instance (payload : Bytes) (scratch : FlashResumeScratch) :
    Decidable (ResumeRefused payload scratch) :=
  inferInstanceAs (Decidable (_ ∨ _))

/-- A resume request is either malformed, or asks for any session, or for a certain one. -/
theorem decodeFlashResumeRequestPayload_cases (payload : Bytes) (scratch : FlashResumeScratch) :
    (∃ e, decodeFlashResumeRequestPayload payload = .error e ∧
      payload.length ≠ 0 ∧ payload.length ≠ 4) ∨
    ∃ request, decodeFlashResumeRequestPayload payload = .ok request ∧
      ¬ (payload.length ≠ 0 ∧ payload.length ≠ 4) ∧
      (request.rejects scratch.sessionId = true ↔
        payload.length = 4 ∧ u32OfBe payload ≠ 0 ∧ u32OfBe payload ≠ scratch.sessionId) := by
  rw [decodeFlashResumeRequestPayload]
  by_cases hzero : payload.length = 0
  · rw [if_pos hzero]
    refine .inr ⟨_, rfl, fun h => h.1 hzero, ?_⟩
    simp [FlashResumeRequestPayload.rejects, hzero]
  · by_cases hfour : payload.length = 4
    · rw [if_neg hzero, if_pos hfour]
      refine .inr ⟨_, rfl, fun h => h.2 hfour, ?_⟩
      simp [FlashResumeRequestPayload.rejects, hfour]
    · rw [if_neg hzero, if_neg hfour]
      exact .inl ⟨_, rfl, hzero, hfour⟩

namespace FirmwareRuntime

variable {P : Platform} {r : FirmwareRuntime} {scratch : FlashResumeScratch}

/-- The runtime resumed from a scratch. -/
def resumedFrom (r : FirmwareRuntime) (scratch : FlashResumeScratch) : FirmwareRuntime :=
  { r with
    flash := r.flash.restored scratch
    update := { r.update with state := .receiving } }

/-- **What a resume request does** in a session with a scratch: it is rejected, or the runtime is
resumed and the answer has the checksum of the image that was restored. -/
theorem flashResume_cases (hactive : r.flash.sessionActive = true)
    (hscratch : r.store.flashResumeScratch = some scratch) (payload : Bytes) :
    (ResumeRefused payload scratch ∧ ∃ e : Rejection, r.flashResume P payload = (r, e.packet)) ∨
    (¬ ResumeRefused payload scratch ∧
      r.flashResume P payload = (r.resumedFrom scratch,
        ⟨.ack, encodeFlashResumePayload scratch.sessionId scratch.nextBlock
          (P.crc32 scratch.image)⟩)) := by
  have hsession : ¬ (!r.flash.sessionActive) = true := by rw [hactive]; decide
  rw [flashResume, if_neg hsession, ResumeRefused]
  obtain ⟨e, hdec, hlen⟩ | ⟨request, hdec, hlen, hrejects⟩ :=
    decodeFlashResumeRequestPayload_cases payload scratch
  · rw [hdec]
    exact .inl ⟨.inl hlen, (_, _), rfl⟩
  · rw [hdec, or_iff_right hlen, ← hrejects]
    dsimp only
    rw [tryRestoreFlashResumeScratch, hscratch]
    dsimp only
    by_cases hsize : flashBufferMaxBytes < scratch.image.length
    · rw [if_pos hsize]
      exact .inl ⟨.inl hsize, (_, _), rfl⟩
    · rw [if_neg hsize, or_iff_right hsize]
      by_cases hother : request.rejects scratch.sessionId = true
      · rw [if_pos hother]
        exact .inl ⟨hother, (_, _), rfl⟩
      · rw [if_neg hother]
        exact .inr ⟨hother, rfl⟩

end FirmwareRuntime

/-- The image of a scratch is used only if it has the checksum of the scratch; otherwise the request
is rejected, and neither the transfer nor the update changes but for the tick. -/
def Step.ChecksScratch (P : Platform) (t : Step) (scratch : FlashResumeScratch) : Prop :=
  t.dst.flash.buffer = scratch.image ∧ P.crc32 scratch.image = scratch.rollingCrc ∨
  t.output.cmd = .nack ∧ t.dst.flash = t.src.flash ∧
    t.dst.update = (t.src.tickUpdateHealthWindow t.event.clock.tick).update

variable {P : Platform} {A : Catalogue} {t : Step} {scratch : FlashResumeScratch}

theorem step_resume_cases (ht : (firmware P A).Step t) (hcmd : t.event.packet.cmd = .flashResume)
    (hactive : t.src.flash.sessionActive = true)
    (hscratch : t.src.store.flashResumeScratch = some scratch) :
    (ResumeRefused t.event.packet.payload scratch ∧ t.output.cmd = .nack ∧
      t.dst = t.src.tickUpdateHealthWindow t.event.clock.tick) ∨
    (¬ ResumeRefused t.event.packet.payload scratch ∧ t.output.cmd = .ack ∧
      t.dst = (t.src.tickUpdateHealthWindow t.event.clock.tick).resumedFrom scratch) := by
  have hstep := step_iff.mp ht
  rw [FirmwareRuntime.handlePacket, FirmwareRuntime.dispatch, hcmd] at hstep
  obtain ⟨hrefused, e, heq⟩ | ⟨hrefused, heq⟩ := FirmwareRuntime.flashResume_cases (P := P)
    (r := t.src.tickUpdateHealthWindow t.event.clock.tick) hactive hscratch t.event.packet.payload
  · obtain ⟨hdst, houtput⟩ := Prod.mk.inj (heq.symm.trans hstep)
    exact .inl ⟨hrefused, houtput ▸ rfl, hdst.symm⟩
  · obtain ⟨hdst, houtput⟩ := Prod.mk.inj (heq.symm.trans hstep)
    exact .inr ⟨hrefused, houtput ▸ rfl, hdst.symm⟩

/-- **A resume request checks the scratch** if and only if there is nothing to find, or if the
request is refused for another reason. -/
theorem resume_checks_scratch_iff (ht : (firmware P A).Step t)
    (hcmd : t.event.packet.cmd = .flashResume) (hactive : t.src.flash.sessionActive = true)
    (hscratch : t.src.store.flashResumeScratch = some scratch) :
    t.ChecksScratch P scratch ↔
      P.crc32 scratch.image = scratch.rollingCrc ∨
        ResumeRefused t.event.packet.payload scratch := by
  rw [Step.ChecksScratch]
  obtain ⟨hrefused, hnack, hdst⟩ | ⟨hrefused, hack, hdst⟩ :=
    step_resume_cases ht hcmd hactive hscratch
  · rw [hdst]
    exact iff_of_true (.inr ⟨hnack, rfl, rfl⟩) (.inr hrefused)
  · rw [or_iff_left hrefused, hdst, hack]
    exact ⟨fun h => (h.resolve_right fun h => (nomatch h.1)).2, fun hcrc => .inl ⟨rfl, hcrc⟩⟩

/-- The first board, started with any scratch in its storage: a session is open, and the host asks
to resume. -/
theorem exists_resume_step (scratch : FlashResumeScratch) : ∃ t : Step,
    Reachable referencePlatform referenceCatalogue t.src ∧
    (firmware referencePlatform referenceCatalogue).Step t ∧
    t.event.packet = ⟨.flashResume, []⟩ ∧ t.src.flash.sessionActive = true ∧
    t.src.flash.buffer = [] ∧ t.src.store.flashResumeScratch = some scratch := by
  have hs : ReachableStore referencePlatform referenceCatalogue
      ((ConfigStore.newZeroed referencePlatform).writeFlashResumeScratch scratch) :=
    .writeScratch .newZeroed scratch
  obtain ⟨r, hboot, hbooted⟩ := FirmwareRuntime.exists_newWithStore .ecuV1 false hs.wellFormed
  have hauth : r.bootloaderAuthRequired = false := hbooted.auth_eq.trans (by decide)
  have hstart : (firmware referencePlatform referenceCatalogue).Step
      ⟨r, ⟨⟨0, 0, none⟩, ⟨.enterBootloader, []⟩⟩, ack,
        (r.tickUpdateHealthWindow 0).beginFlashSession⟩ :=
    step_iff.mpr (FirmwareRuntime.handlePacket_enterBootloader hauth)
  exact ⟨Step.of _ _ _ ⟨⟨0, 0, none⟩, ⟨.flashResume, []⟩⟩, (Reachable.of_boot hs hboot).step hstart,
    step_of _ _, rfl, rfl, rfl, hbooted.scratch_eq⟩

/-- A scratch with one byte of an image and a checksum of zero is used. -/
theorem damaged_scratch_resumed : ∃ t : Step,
    Reachable referencePlatform referenceCatalogue t.src ∧
    (firmware referencePlatform referenceCatalogue).Step t ∧
    t.event.packet = ⟨.flashResume, []⟩ ∧ t.src.flash.sessionActive = true ∧
    t.src.flash.buffer = [] ∧ t.src.store.flashResumeScratch = some ⟨1, 1, 0, [1]⟩ ∧
    t.dst.flash.buffer = [1] ∧ t.output.cmd = .ack ∧ referencePlatform.crc32 [1] ≠ 0 := by
  obtain ⟨t, hreach, ht, hpacket, hactive, hempty, hscratch⟩ := exists_resume_step ⟨1, 1, 0, [1]⟩
  have hrefused : ¬ ResumeRefused t.event.packet.payload ⟨1, 1, 0, [1]⟩ := by
    rw [hpacket]
    decide
  obtain ⟨h, -⟩ | ⟨-, hack, hdst⟩ := step_resume_cases ht (by rw [hpacket]) hactive hscratch
  · exact absurd h hrefused
  · exact ⟨t, hreach, ht, hpacket, hactive, hempty, hscratch, by rw [hdst]; rfl, hack, by decide⟩

/-- A scratch with the right checksum is used as well. -/
theorem resume_checks_scratch_intact : ∃ t : Step,
    (firmware referencePlatform referenceCatalogue).Step t ∧
    t.event.packet = ⟨.flashResume, []⟩ ∧ t.src.flash.sessionActive = true ∧
    t.ChecksScratch referencePlatform ⟨1, 1, referencePlatform.crc32 [1], [1]⟩ := by
  obtain ⟨t, -, ht, hpacket, hactive, -, hscratch⟩ :=
    exists_resume_step ⟨1, 1, referencePlatform.crc32 [1], [1]⟩
  exact ⟨t, ht, hpacket, hactive,
    (resume_checks_scratch_iff ht (by rw [hpacket]) hactive hscratch).mpr (.inl rfl)⟩

end StEcu
