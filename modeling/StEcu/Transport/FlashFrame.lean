import StEcu.Transport.EncryptedBoard
import StEcu.Transport.PinPage

/-!
# What reaches flash

The committed image of a page changes by an acknowledged burn of that page. Besides, a board that
encrypts pages commits the record page when a read uses up the last nonce that the record covers:
that counts as a new generation of the page, with the new record at its end.

## Main definitions

* `FirmwareRuntime.PersistDue`: the next page read persists the nonce counter.
* `Step.Burns`, `Step.Persists`: the two kinds of steps that change flash.

## Main results

* `FirmwareRuntime.Effect.flashSlots_cases`: what a packet does to the flash slots.
* `flash_changes_only_by_burn`: the frame condition, for a step and for a run.
* `read_commits_record_page`: a page read that commits the record page.
-/

namespace StEcu

variable {P : Platform} {A : Catalogue}

/-- The next page read uses up the last nonce that the persisted record covers. -/
def FirmwareRuntime.PersistDue (r : FirmwareRuntime) : Prop :=
  r.pageCryptoEnabled = true ∧ ∃ enc, r.tuneEncryption = some enc ∧
    r.pageCryptoNextPersistCounter ≤ enc.state.nonceCounter + 1

/-- An acknowledged burn of a page. -/
def Step.Burns (t : Step) (pageId : UInt8) : Prop :=
  t.event.packet.cmd = .burnPage ∧ decodePageRequest t.event.packet.payload = .ok pageId ∧
    t.output.cmd = .ack

/-- An answered page read that persists the nonce counter. -/
def Step.Persists (t : Step) : Prop :=
  t.event.packet.cmd = .readPage ∧ t.output.cmd = .pageData ∧ t.src.PersistDue

open FirmwareRuntime

/-- **What a packet does to flash**: nothing, or it burns a page, or it persists the nonce
counter. -/
theorem FirmwareRuntime.Effect.flashSlots_cases {clock : Clock} {packet answer : Packet}
    {r r' : FirmwareRuntime} (he : Effect P clock packet r r' answer) (h : r.Sound P) :
    r'.store.flashSlots = r.store.flashSlots ∨
      (∃ pageId page, packet.cmd = .burnPage ∧ decodePageRequest packet.payload = .ok pageId ∧
        answer.cmd = .ack ∧ r.store.readPage pageId = some page ∧
        r'.store = (r.store.burnPage P pageId).1) ∨
      (packet.cmd = .readPage ∧ answer.cmd = .pageData ∧ r.PersistDue ∧ ∃ enc page,
        r.tuneEncryption = some enc ∧ r.store.readPage pageCryptoNoncePageId = some page ∧
        CounterPersisted P r.store page (enc.state.nonceCounter + 1) r'.store) := by
  cases he with
  | pageEncrypted pageId page ciphertext enc hcmd hdec hread hcrypto henc =>
    rcases maybePersistPageCryptoCounter_cases
      (P := P) (r := { r with tuneEncryption := some enc.advanceNonce }) h.store
      enc.advanceNonce.state.nonceCounter with ⟨-, heq⟩ | ⟨⟨-, hdue⟩, heq⟩
    · rw [heq]
      exact .inl rfl
    · obtain ⟨record, hrecord, -⟩ := exists_recordPage h.store
      rw [heq]
      exact .inr (.inr ⟨hcmd, rfl, ⟨hcrypto, enc, henc, hdue⟩, enc, record, henc, hrecord,
        (persistPageCryptoCounter_spec h.store hrecord _).2⟩)
  | pageBurned pageId page hcmd hdec hread =>
    exact .inr (.inl ⟨pageId, page, hcmd, hdec, rfl, hread, rfl⟩)
  | blockAppended block hcmd hcheck =>
    obtain ⟨scratch, heq⟩ := appendFlashBlock_eq (P := P) (r := r) block
    rw [heq]
    exact .inl rfl
  | _ => exact .inl rfl

section Steps

variable {t : Step} {pageId : UInt8}

/-- A step that does not burn a page leaves its slot alone, or persists the nonce counter in it. -/
theorem step_flashSlots_cases (ht : (firmware P A).Step t) (h : t.src.Sound P)
    (hburn : ¬ t.Burns pageId) :
    t.dst.store.flashSlots[pageId.toNat]? = t.src.store.flashSlots[pageId.toNat]? ∨
      pageId = pageCryptoNoncePageId ∧ t.Persists ∧ ∃ counter page,
        t.src.store.readPage pageCryptoNoncePageId = some page ∧
        CounterPersisted P t.src.store page counter t.dst.store := by
  have hsound := h.tick t.event.clock.tick
  rcases (step_effect ht h).flashSlots_cases hsound with
    heq | ⟨burned, page, hcmd, hdec, hack, hread, heq⟩ |
    ⟨hcmd, hdata, hdue, enc, page, -, hpage, hpersisted⟩
  · rw [heq]
    exact .inl rfl
  · have hne : pageId ≠ burned := by
      rintro rfl
      exact hburn ⟨hcmd, hdec, hack⟩
    obtain ⟨-, -, -, hother, -⟩ := hsound.store.burnPage_spec hread
    rw [heq, hother pageId hne]
    exact .inl rfl
  · by_cases hid : pageId = pageCryptoNoncePageId
    · exact .inr ⟨hid, ⟨hcmd, hdata, hdue⟩, _, page, hpage, hpersisted⟩
    · exact .inl (hpersisted.slot_other pageId hid)

/-- Persisting a counter where nothing but the record differs between the staged page and the
committed one changes nothing but the record in flash. -/
theorem CounterPersisted.keeps_flash {s s' : ConfigStore} {ram flash : Bytes} {counter : UInt64}
    (h : CounterPersisted P s ram counter s')
    (hsame : outsideNonceRecord ram = outsideNonceRecord flash) :
    s'.readFlashPage pageCryptoNoncePageId = some (withNonceRecord flash counter) := by
  rw [h.readFlashPage_self, withNonceRecord, ← outsideNonceRecord, hsame, outsideNonceRecord,
    ← withNonceRecord]

/-- **Flash changes by burns only**, up to the record page of a board that encrypts pages. A step
that is no acknowledged burn of a page leaves its slot alone; or it persists the nonce counter,
which counts the generation of the record page up, and, where nothing but the record differs between
the staged page and the committed one, changes nothing but the record. So over a run without an
acknowledged burn of a page, its slot stays as it was, whatever was staged. -/
theorem flash_changes_only_by_burn :
    (∀ (t : Step) (pageId : UInt8), Reachable P A t.src → (firmware P A).Step t →
      ¬ t.Burns pageId →
      t.dst.store.flashSlots[pageId.toNat]? = t.src.store.flashSlots[pageId.toNat]? ∨
        pageId = pageCryptoNoncePageId ∧ t.Persists ∧
        t.dst.store.flashPageGeneration pageId =
          (t.src.store.flashPageGeneration pageId).map (UInt32.saturatingAdd · 1) ∧
        ∀ ram flash, t.src.store.readPage pageId = some ram →
          t.src.store.readFlashPage pageId = some flash →
          outsideNonceRecord ram = outsideNonceRecord flash →
          ∃ counter, t.dst.store.readFlashPage pageId = some (withNonceRecord flash counter)) ∧
    ∀ (r₀ r : FirmwareRuntime) (tr : List Step) (pageId : UInt8), Reachable P A r₀ →
      (firmware P A).Run r₀ tr r → (∀ t ∈ tr, ¬ Step.Burns t pageId) →
      pageId ≠ pageCryptoNoncePageId ∨ r₀.pageCryptoEnabled = false →
      r.store.flashSlots[pageId.toNat]? = r₀.store.flashSlots[pageId.toNat]? := by
  constructor
  · intro t pageId hr ht hburn
    rcases step_flashSlots_cases ht hr.sound hburn with
      heq | ⟨rfl, hpersists, counter, page, hpage, hpersisted⟩
    · exact .inl heq
    · refine .inr ⟨rfl, hpersists, hpersisted.generation_eq, fun ram flash hram hflash hsame => ?_⟩
      obtain rfl := Option.some.inj (hpage.symm.trans hram)
      exact ⟨counter, hpersisted.keeps_flash hsame⟩
  · intro r₀ r tr pageId hr₀ hrun hburns hkind
    refine hrun.observe_eq (fun r => r.store.flashSlots[pageId.toNat]?) fun t ht hstep => ?_
    obtain ⟨pre, post, rfl⟩ := List.append_of_mem ht
    have hpre := hrun.split_mem.1
    rcases step_flashSlots_cases hstep (run_sound hpre hr₀.sound) (hburns t ht) with
      heq | ⟨rfl, ⟨-, -, hcrypto, -⟩, -⟩
    · exact heq
    · -- only an encrypting board persists its counter
      rw [(run_sameBoard hpre hr₀.sound).pageCryptoEnabled_eq] at hcrypto
      rcases hkind with hne | hplain
      · exact absurd rfl hne
      · rw [hplain] at hcrypto
        cases hcrypto

end Steps

/-- An encrypting board near the end of its counter: reading page 0 commits the record page once
more, in a new generation. -/
theorem read_commits_record_page :
    ∃ t : Step, Reachable referencePlatform referenceCatalogue t.src ∧
      (firmware referencePlatform referenceCatalogue).Step t ∧ t.event = readPageInput 0 ∧
      t.src.store.flashPageGeneration pageCryptoNoncePageId = some 2 ∧
      t.dst.store.flashPageGeneration pageCryptoNoncePageId = some 3 := by
  obtain ⟨r, -, hreach, hstart⟩ :=
    exists_h743 referencePlatform referenceCatalogue 0xFFFFFFFFFFFFFBFE
  obtain ⟨enc, henc, hcounter⟩ := hstart.exists_enc
  obtain ⟨page, hpage, -⟩ := hreach.sound.store.exists_readPage 0 (n := 512) rfl
  obtain ⟨ciphertext, -, -, hdst⟩ := of_readPage_encrypted (A := referenceCatalogue)
    referencePlatform_aead hreach.sound hstart.crypto henc hpage
  refine ⟨_, hreach, step_of r (readPageInput 0), rfl, hstart.generation_eq, ?_⟩
  rw [hdst]
  rcases maybePersistPageCryptoCounter_cases (P := referencePlatform)
    (r := { r.tickUpdateHealthWindow 0 with tuneEncryption := some enc.advanceNonce })
    hreach.sound.store (enc.state.nonceCounter + 1) with ⟨hnot, -⟩ | ⟨-, heq⟩
  · refine absurd ⟨hstart.crypto, ?_⟩ hnot
    dsimp only [tickUpdateHealthWindow]
    rw [hstart.next_eq, hcounter]
    decide
  · rw [heq]
    have hpersisted := persistPageCryptoCounter_spec hreach.sound.store hstart.readPage_eq
      (enc.state.nonceCounter + 1)
    exact hpersisted.2.generation_eq.trans (by rw [hstart.generation_eq]; rfl)

/-- The first board with a page staged and not burned: flash still holds the page of the boot. -/
theorem flash_changes_only_by_burn_ecuV1 :
    ∃ t : Step, t.event = writePinPage referencePlatform legacyEmptyPinPage ∧
      t.dst.store.readPage pinPageId = some legacyEmptyPinPage ∧
      t.dst.store.flashSlots[pinPageId.toNat]? = t.src.store.flashSlots[pinPageId.toNat]? := by
  obtain ⟨r, hr, hplain, -⟩ := exists_new_ecuV1 referencePlatform
  have hreach : Reachable referencePlatform referenceCatalogue r := .of_boot .newZeroed hr
  obtain ⟨page, hpage, -⟩ := hreach.sound.pins
  obtain ⟨hstore, -⟩ := of_writePinPage_accepted (A := referenceCatalogue) hreach.sound hplain
    length_legacyEmptyPinPage deserialize_legacyEmptyPinPage
  have ht := step_of (P := referencePlatform) (A := referenceCatalogue) r
    (writePinPage referencePlatform legacyEmptyPinPage)
  have hburns : ¬ Step.Burns (Step.of referencePlatform referenceCatalogue r
      (writePinPage referencePlatform legacyEmptyPinPage)) pinPageId := by
    rintro ⟨hcmd, -⟩
    cases hcmd
  refine ⟨Step.of referencePlatform referenceCatalogue r
    (writePinPage referencePlatform legacyEmptyPinPage), rfl, ?_, ?_⟩
  · rw [hstore]
    exact ConfigStore.readPage_withRam_self _ _ _ hpage
  · rcases flash_changes_only_by_burn.1 _ pinPageId hreach ht hburns with heq | ⟨hid, -⟩
    · exact heq
    · exact absurd hid (by decide)

end StEcu
