import StEcu.Transport.PinPage

/-!
# Rejected packets

A packet that is rejected leaves the runtime as it was, but for the tick of the health window and
the bookkeeping of the bootloader authentication. The one exception is a pin-assignment page: it is
written before it is parsed, and the page that takes its place again is not the one that was there
but the assignments in force, serialised anew; that is a different page where the old one was in the
legacy format.

## Main definitions

* `Step.OnlyAuthChanges`: nothing but the tick and the authentication state changes.
* `Step.RejectsOverLegacyPage`: the exception.

## Main results

* `rejected_changes_nothing_iff`: a rejected packet changes nothing exactly if it is not the
  exception.
* `rejected_page_rewrites_legacy_page`: a board on which it is.
-/

namespace StEcu

variable {P : Platform} {A : Catalogue} {t : Step}

/-- A step changes nothing but the authentication state, apart from its tick. In particular, the
store with its scratch, the tables, the pin assignments, the log and the transfer stay. -/
def Step.OnlyAuthChanges (t : Step) : Prop :=
  t.dst = { t.src.tickUpdateHealthWindow t.event.clock.tick with auth := t.dst.auth }

/-- A pin-assignment page that does not parse is written over one in the legacy format. -/
def Step.RejectsOverLegacyPage (P : Platform) (t : Step) : Prop :=
  t.event.packet.cmd = .writePage ∧ ∃ data error page,
    t.src.Carries P t.event.packet.payload pinPageId data ∧ data.length = 512 ∧
      deserializeAssignmentsFromPage data = .error error ∧
      t.src.store.readPage pinPageId = some page ∧ page.take 4 = pinAssignmentMagicLegacy

open FirmwareRuntime

/-- A rejected packet, from its effect: nothing changes, or a pin-assignment page was replaced. -/
theorem FirmwareRuntime.Effect.rejected_cases (hP : AeadLaw P) {clock : Clock}
    {packet answer : Packet} {r r' : FirmwareRuntime} (he : Effect P clock packet r r' answer)
    (h : r.Sound P) (hnack : answer.cmd = .nack) :
    r' = { r with auth := r'.auth } ∨ ∃ data error reverted, packet.cmd = .writePage ∧
      r.Carries P packet.payload pinPageId data ∧ data.length = 512 ∧
      deserializeAssignmentsFromPage data = .error error ∧
      serializeAssignmentsToPage r.pinAssignments 512 = .ok reverted ∧
      r' = { r with store := r.store.withRam pinPageId reverted } := by
  cases he with
  | rejected e => exact .inl rfl
  | authRejected auth e hcmd => exact .inl rfl
  | observed live triggerRuntime tables dtcEntries log answer hcmd hne => exact absurd hnack hne
  | encryptionFailed pageId page enc e hcmd hread hcrypto henc hct =>
    -- the cipher does not fail under a key of the right length
    obtain ⟨ciphertext, hct', -⟩ := h.exists_ciphertext hP hcrypto henc hread
    rw [hct] at hct'
    cases hct'
  | pinPageReverted data reverted e error hcmd hc hlen hdes hser =>
    exact .inr ⟨data, error, reverted, hcmd, hc, hlen, hdes, hser, rfl⟩
  | resumeIdle answer hcmd hack => rw [hack] at hnack; cases hnack
  | resumed scratch answer hcmd hack => rw [hack] at hnack; cases hnack
  | _ => cases hnack

/-- **A rejected packet changes nothing that the host configured**, unless it is a pin-assignment
page written over one in the legacy format, which it always replaces. -/
theorem rejected_changes_nothing_iff (hP : AeadLaw P) (h : Reachable P A t.src)
    (ht : (firmware P A).Step t) (hnack : t.output.cmd = .nack) :
    t.OnlyAuthChanges ↔ ¬ t.RejectsOverLegacyPage P := by
  have htick := h.sound.tick t.event.clock.tick
  constructor
  · rintro hsame ⟨hcmd, data, error, page, hc, hlen, hdes, hpage, hlegacy⟩
    obtain ⟨reverted, hser, -⟩ := htick.exists_serialize
    have hstep : t.src.handlePacket P A t.event.clock t.event.packet = (t.dst, t.output) := ht
    rw [handlePacket, dispatch, hcmd] at hstep
    dsimp only at hstep
    rw [htick.writePage_reverted hc hlen hdes hser] at hstep
    -- the staged page after the step, once as written and once as left alone
    have hwritten : t.dst.store.readPage pinPageId = some reverted := by
      rw [← (Prod.mk.inj hstep).1]
      exact ConfigStore.readPage_withRam_self t.src.store pinPageId reverted hpage
    have hleft : t.dst.store.readPage pinPageId = some page := by
      rw [show t.dst.store = t.src.store from (congrArg store hsame).trans rfl]
      exact hpage
    obtain rfl := Option.some.inj (hwritten.symm.trans hleft)
    exact (htick.serialize_eq_pinPage_iff hpage hser).mp rfl hlegacy
  · intro hno
    rcases (step_effect ht h.sound).rejected_cases hP htick hnack with
      heq | ⟨data, error, reverted, hcmd, hc, hlen, hdes, hser, heq⟩
    · exact heq
    · obtain ⟨page, hpage, -⟩ := htick.pins
      have hcurrent : page.take 4 ≠ pinAssignmentMagicLegacy := fun hlegacy =>
        hno ⟨hcmd, data, error, page, hc, hlen, hdes, hpage, hlegacy⟩
      rw [(htick.serialize_eq_pinPage_iff hpage hser).mpr hcurrent,
        ConfigStore.withRam_eq_self _ _ _ hpage] at heq
      rw [Step.OnlyAuthChanges, heq]

/-! ### The exception -/

/-- The first board, sent a page of garbage after a page in the legacy format: the garbage is
rejected, and the staged page is no longer what it was. -/
theorem rejected_page_rewrites_legacy_page :
    ∃ t : Step, Reachable referencePlatform referenceCatalogue t.src ∧
      (firmware referencePlatform referenceCatalogue).Step t ∧
      t.event = writePinPage referencePlatform garbagePinPage ∧ t.output.cmd = .nack ∧
      t.src.store.readPage pinPageId = some legacyEmptyPinPage ∧
      t.dst.store.readPage pinPageId ≠ t.src.store.readPage pinPageId := by
  obtain ⟨r, hreach, hplain, hpage⟩ := exists_legacy_ecuV1 referencePlatform referenceCatalogue
  obtain ⟨reverted, hser, hnack, hstore⟩ := of_writePinPage_rejected (A := referenceCatalogue)
    hreach.sound hplain length_garbagePinPage deserialize_garbagePinPage
  refine ⟨_, hreach, step_of r (writePinPage referencePlatform garbagePinPage), rfl, hnack, hpage,
    ?_⟩
  rw [hstore, ConfigStore.readPage_withRam_self _ _ _ hpage]
  intro heq
  obtain rfl := Option.some.inj (heq.trans hpage)
  exact (hreach.sound.serialize_eq_pinPage_iff hpage hser).mp rfl take_legacyEmptyPinPage

/-- The first board, sent a page of garbage as it boots: nothing changes. -/
theorem rejected_changes_nothing_ecuV1 :
    ∃ t : Step, t.event = writePinPage referencePlatform garbagePinPage ∧ t.output.cmd = .nack ∧
      t.OnlyAuthChanges := by
  obtain ⟨r, hr, hplain, -⟩ := exists_new_ecuV1 referencePlatform
  have hreach : Reachable referencePlatform referenceCatalogue r := .of_boot .newZeroed hr
  have hbooted := booted_of_newWithStore ConfigStore.wellFormed_newZeroed hr
  obtain ⟨-, -, hnack, -⟩ := of_writePinPage_rejected (A := referenceCatalogue) hreach.sound hplain
    length_garbagePinPage deserialize_garbagePinPage
  refine ⟨_, rfl, hnack, (rejected_changes_nothing_iff referencePlatform_aead hreach
    (step_of r (writePinPage referencePlatform garbagePinPage)) hnack).mpr ?_⟩
  rintro ⟨-, data, error, page, -, -, -, hpage, hlegacy⟩
  have hser : serializeAssignmentsToPage r.pinAssignments 512 = .ok bootPinPage := by
    rw [hbooted.pins_eq]
    exact serialize_boot
  have hboot : bootPinPage = page := Option.some.inj (hbooted.readPage_pin.symm.trans hpage)
  exact (hbooted.sound.serialize_eq_pinPage_iff hpage hser).mp hboot hlegacy

end StEcu
