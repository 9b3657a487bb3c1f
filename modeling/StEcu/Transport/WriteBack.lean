import StEcu.Transport.FlashFrame

/-!
# Writing back what was read

The answer to a page read is a payload of the write command: on a board that encrypts pages it
decrypts, under the key it was encrypted with, to the page that was staged when it was read. Writing
it back right away therefore changes nothing, with one exception. The read that persists the nonce
counter patches the record page after it encrypted it; where the page read is the record page
itself, the answer is the page as it was before, and writing it back takes the new record out of it.

## Main definitions

* `Step.WritesBack`: a write that is acknowledged and changes nothing.
* `FirmwareRuntime.RewritesRecord`: the next page read puts a new record into the record page.

## Main results

* `FirmwareRuntime.Sound.writePage_staged`: writing the staged page again changes nothing.
* `answered_readPage`: what an answered page read says and does.
* `read_write_back_iff`: the write changes nothing exactly if the page read was not the record page,
  or the read did not put a new record into it.
* `record_page_written_back`: a board that loses its record.
-/

namespace StEcu

variable {P : Platform} {A : Catalogue}

/-- A write is acknowledged with the burn flag that the page had before, and leaves the pages in RAM
and flash, the pin assignments and the trigger configuration as they were. -/
def Step.WritesBack (u : Step) (pageId : UInt8) : Prop :=
  u.output = ⟨.ack, encodeAckPayload pageId ((u.src.store.needsBurn pageId).getD false)⟩ ∧
    u.dst.store.ramPages = u.src.store.ramPages ∧
    u.dst.store.flashSlots = u.src.store.flashSlots ∧
    u.dst.pinAssignments = u.src.pinAssignments ∧
    u.dst.triggerRuntime.config = u.src.triggerRuntime.config

namespace FirmwareRuntime

/-- The next page read persists the counter in a record that the staged record page does not
hold. -/
def RewritesRecord (r : FirmwareRuntime) : Prop :=
  r.PersistDue ∧ ∃ enc page, r.tuneEncryption = some enc ∧
    r.store.readPage pageCryptoNoncePageId = some page ∧
    nonceRecordOfPage page ≠ nonceRecord (enc.state.nonceCounter + 1)

/-- Writing the staged page again changes nothing. -/
theorem Sound.writePage_staged {r : FirmwareRuntime} (h : r.Sound P) {payload page : Bytes}
    {pageId : UInt8} (hc : r.Carries P payload pageId page)
    (hread : r.store.readPage pageId = some page) :
    r.writePage P payload = (r, r.pageAck pageId) := by
  have hlen := h.store.length_readPage hread
  have hstore : r.store.withRam pageId page = r.store := r.store.withRam_eq_self pageId page hread
  by_cases hpin : pageId = pinPageId
  · subst hpin
    obtain ⟨staged, hstaged, hdes⟩ := h.pins
    obtain rfl := Option.some.inj (hread.symm.trans hstaged)
    rw [h.writePage_pin hc (Option.some.inj (hlen.symm.trans rfl)) hdes, hstore]
  by_cases hbase : pageId = basePageId
  · subst hbase
    have htrigger : r.triggerRuntime.applyPage0Payload page = r.triggerRuntime := by
      rw [TriggerRuntime.applyPage0Payload, ← h.trigger page hread]
    rw [h.writePage_base hc hlen, hstore, htrigger]
  · rw [h.writePage_of_ne hc hlen hpin hbase, hstore]

end FirmwareRuntime

open FirmwareRuntime

variable {t u : Step} {pageId : UInt8}

/-- **What an answered page read says and does**: the answer carries the staged page, and the store
stays, or the counter is persisted in it. -/
theorem answered_readPage (hP : AeadLaw P) (ht : (firmware P A).Step t) (h : t.src.Sound P)
    (hcmd : t.event.packet.cmd = .readPage)
    (hid : decodePageRequest t.event.packet.payload = .ok pageId)
    (hdata : t.output.cmd = .pageData) :
    ∃ page, t.src.store.readPage pageId = some page ∧
      t.dst.Carries P t.output.payload pageId page ∧
      ((¬ t.src.PersistDue ∧ t.dst.store = t.src.store) ∨
        t.src.PersistDue ∧ ∃ enc record, t.src.tuneEncryption = some enc ∧
          t.src.store.readPage pageCryptoNoncePageId = some record ∧
          CounterPersisted P t.src.store record (enc.state.nonceCounter + 1) t.dst.store) := by
  have hdst := step_sound ht h
  have heffect := step_effect ht h
  obtain ⟨src, ⟨clock, packet⟩, answer, dst⟩ := t
  dsimp only at *
  cases heffect with
  | pageRead id page hcmd' hdec hread hplain =>
    obtain rfl := Except.ok.inj (hid.symm.trans hdec)
    have hlen := pageLengthAt_le (h.store.length_readPage hread)
    refine ⟨page, hread, carries_encodePagePayload hplain pageId (by omega), .inl ⟨?_, rfl⟩⟩
    rintro ⟨hcrypto, -⟩
    exact absurd (hplain.symm.trans hcrypto) (by decide)
  | pageEncrypted id page ciphertext enc hcmd' hdec hread hcrypto henc hct =>
    obtain rfl := Except.ok.inj (hid.symm.trans hdec)
    have hlen := pageLengthAt_le (h.store.length_readPage hread)
    rcases maybePersistPageCryptoCounter_cases (P := P)
      (r := { src.tickUpdateHealthWindow clock.tick with tuneEncryption := some enc.advanceNonce })
      h.store enc.advanceNonce.state.nonceCounter with ⟨hnot, heq⟩ | ⟨⟨-, hdue⟩, heq⟩
    · rw [heq] at hdst ⊢
      refine ⟨page, hread, hdst.carries_encrypted hP hcrypto rfl pageId enc.length_nonceBytes hlen
        hct, .inl ⟨?_, rfl⟩⟩
      rintro ⟨-, enc', henc', hdue⟩
      obtain rfl := Option.some.inj (henc.symm.trans henc')
      exact hnot ⟨hcrypto, hdue⟩
    · obtain ⟨record, hrecord, -⟩ := exists_recordPage h.store
      rw [heq] at hdst ⊢
      exact ⟨page, hread, hdst.carries_encrypted hP hcrypto rfl pageId enc.length_nonceBytes hlen
        hct, .inr ⟨⟨hcrypto, enc, henc, hdue⟩, enc, record, henc, hrecord,
          (persistPageCryptoCounter_spec h.store hrecord _).2⟩⟩
  | observed live triggerRuntime tables dtcEntries log answer hcmd' hnack hpage =>
    exact absurd hdata hpage
  | resumeIdle answer hcmd' hack => cases hack.symm.trans hdata
  | resumed scratch answer hcmd' hack => cases hack.symm.trans hdata
  | _ => cases hdata

section WriteBack

variable {payload page : Bytes} (hu : (firmware P A).Step u)
  (hback : u.event.packet = ⟨.writePage, payload⟩)
include hu hback

theorem step_writePage : (u.src.tickUpdateHealthWindow u.event.clock.tick).writePage P payload =
    (u.dst, u.output) := by
  have hstep : (u.src.tickUpdateHealthWindow u.event.clock.tick).dispatch P A u.event.clock
      u.event.packet = (u.dst, u.output) := hu
  rwa [dispatch, hback] at hstep

variable (h : u.src.Sound P) (hc : u.src.Carries P payload pageId page)
include h hc

/-- A write of the staged page is acknowledged and changes nothing. -/
theorem writesBack_of_staged (hread : u.src.store.readPage pageId = some page) :
    u.WritesBack pageId := by
  obtain ⟨hdst, houtput⟩ := Prod.mk.inj ((step_writePage hu hback).symm.trans
    ((h.tick u.event.clock.tick).writePage_staged hc hread))
  rw [Step.WritesBack, hdst, houtput]
  exact ⟨rfl, rfl, rfl, rfl, rfl⟩

/-- A write of the record page is acknowledged, and the page is staged. -/
theorem step_writePage_recordPage (hid : pageId = pageCryptoNoncePageId)
    (hlen : pageLengthAt pageId.toNat = some page.length) :
    u.output.cmd = .ack ∧ u.dst.store.readPage pageId = some page := by
  have hpin : pageId ≠ pinPageId := by
    rw [hid]
    decide
  have hbase : pageId ≠ basePageId := by
    rw [hid]
    decide
  obtain ⟨hdst, houtput⟩ := Prod.mk.inj ((step_writePage hu hback).symm.trans
    ((h.tick u.event.clock.tick).writePage_of_ne hc hlen hpin hbase))
  obtain ⟨staged, hstaged, -⟩ := h.store.exists_readPage pageId hlen
  rw [hdst, houtput]
  exact ⟨rfl, ConfigStore.readPage_withRam_self u.src.store pageId page hstaged⟩

/-- A write of the record page changes nothing exactly if that page is staged already. -/
theorem writesBack_recordPage_iff (hid : pageId = pageCryptoNoncePageId)
    (hlen : pageLengthAt pageId.toNat = some page.length) :
    u.WritesBack pageId ↔ u.src.store.readPage pageId = some page := by
  constructor
  · rintro ⟨-, hram, -⟩
    rw [ConfigStore.readPage, ← hram]
    exact (step_writePage_recordPage hu hback h hc hid hlen).2
  · exact writesBack_of_staged hu hback h hc

end WriteBack

/-- **Writing back what was read changes nothing**, unless the page is the record page and the read
put a new record into it. -/
theorem read_write_back_iff (hP : AeadLaw P) (h : Reachable P A t.src) (ht : (firmware P A).Step t)
    (hcmd : t.event.packet.cmd = .readPage)
    (hid : decodePageRequest t.event.packet.payload = .ok pageId) (hdata : t.output.cmd = .pageData)
    (hu : (firmware P A).Step u) (hnext : u.src = t.dst)
    (hback : u.event.packet = ⟨.writePage, t.output.payload⟩) :
    u.WritesBack pageId ↔ ¬ (pageId = pageCryptoNoncePageId ∧ t.src.RewritesRecord) := by
  have hsound : u.src.Sound P := hnext ▸ step_sound ht h.sound
  obtain ⟨page, hread, hc, hstore⟩ := answered_readPage hP ht h.sound hcmd hid hdata
  have hlen := h.sound.store.length_readPage hread
  rw [← hnext] at hc hstore
  by_cases hrecord : pageId = pageCryptoNoncePageId
  · rw [writesBack_recordPage_iff hu hback hsound hc hrecord hlen]
    subst hrecord
    rcases hstore with ⟨hnot, heq⟩ | ⟨hdue, enc, record, henc, hrecord, hpersisted⟩
    · rw [heq]
      exact iff_of_true hread fun hboth => hnot hboth.2.1
    · obtain rfl := Option.some.inj (hread.symm.trans hrecord)
      have hle := length_recordPage h.sound.store hrecord
      rw [hpersisted.readPage_self, Option.some.injEq, withNonceRecord_eq_self_iff hle]
      constructor
      · rintro heq ⟨-, -, enc', page', henc', hpage', hne⟩
        obtain rfl := Option.some.inj (henc.symm.trans henc')
        obtain rfl := Option.some.inj (hread.symm.trans hpage')
        exact hne heq
      · intro hno
        by_contra hne
        exact hno ⟨rfl, hdue, enc, page, henc, hread, hne⟩
  · have hstaged : u.src.store.readPage pageId = some page := by
      rcases hstore with ⟨-, heq⟩ | ⟨-, enc, record, -, -, hpersisted⟩
      · rw [heq, hread]
      · rw [hpersisted.readPage_other pageId hrecord, hread]
    exact iff_of_true (writesBack_of_staged hu hback hsound hc hstaged) fun hboth =>
      hrecord hboth.1

/-- The step that writes back what a step read. -/
def Step.writeBack (P : Platform) (A : Catalogue) (t : Step) : Step :=
  Step.of P A t.dst ⟨⟨0, 0, none⟩, ⟨.writePage, t.output.payload⟩⟩

/-- An encrypting board near the end of its counter: reading the record page persists the counter in
it, and writing back what was read takes the new record out. -/
theorem record_page_written_back :
    ∃ t u : Step, Reachable referencePlatform referenceCatalogue t.src ∧
      (firmware referencePlatform referenceCatalogue).Step t ∧
      t.event = readPageInput pageCryptoNoncePageId ∧ t.output.cmd = .pageData ∧
      (firmware referencePlatform referenceCatalogue).Step u ∧ u.src = t.dst ∧
      u.event.packet = ⟨.writePage, t.output.payload⟩ ∧ u.output.cmd = .ack ∧
      u.dst.store.readPage pageCryptoNoncePageId ≠ u.src.store.readPage pageCryptoNoncePageId := by
  obtain ⟨r, -, hreach, hstart⟩ :=
    exists_h743 referencePlatform referenceCatalogue 0xFFFFFFFFFFFFFBFE
  obtain ⟨enc, henc, hcounter⟩ := hstart.exists_enc
  obtain ⟨ciphertext, -, houtput, -⟩ := of_readPage_encrypted (A := referenceCatalogue)
    referencePlatform_aead hreach.sound hstart.crypto henc hstart.readPage_eq
  have ht := step_of (P := referencePlatform) (A := referenceCatalogue) r
    (readPageInput pageCryptoNoncePageId)
  have hsrc : (Step.of referencePlatform referenceCatalogue r
    (readPageInput pageCryptoNoncePageId)).src = r := rfl
  have hevent : (Step.of referencePlatform referenceCatalogue r
    (readPageInput pageCryptoNoncePageId)).event = readPageInput pageCryptoNoncePageId := rfl
  generalize Step.of referencePlatform referenceCatalogue r
    (readPageInput pageCryptoNoncePageId) = t at houtput ht hsrc hevent
  subst hsrc
  have hdata : t.output.cmd = .pageData := congrArg Packet.cmd houtput
  have hdst := step_sound ht hreach.sound
  have hcmd : t.event.packet.cmd = .readPage := by rw [hevent]; rfl
  have hid : decodePageRequest t.event.packet.payload = .ok pageCryptoNoncePageId := by
    rw [hevent]
    rfl
  rcases answered_readPage referencePlatform_aead ht hreach.sound hcmd hid hdata with
    ⟨page, hread, hc, ⟨hnot, -⟩ | ⟨-, enc', record, henc', hrecord, hpersisted⟩⟩
  · refine absurd ⟨hstart.crypto, enc, henc, ?_⟩ hnot
    rw [hstart.next_eq, hcounter]
    decide
  · obtain rfl := Option.some.inj (henc.symm.trans henc')
    obtain rfl := Option.some.inj (hread.symm.trans hrecord)
    have hlen := hreach.sound.store.length_readPage hread
    obtain ⟨hack, hstaged⟩ := step_writePage_recordPage (A := referenceCatalogue)
      (step_of t.dst ⟨⟨0, 0, none⟩, ⟨.writePage, t.output.payload⟩⟩) rfl hdst hc rfl hlen
    refine ⟨t, Step.writeBack referencePlatform referenceCatalogue t, hreach, ht, hevent, hdata,
      step_of _ _, rfl, rfl, hack, fun heq => ?_⟩
    have hsame : withNonceRecord page (enc.state.nonceCounter + 1) = page :=
      Option.some.inj (hpersisted.readPage_self.symm.trans (heq.symm.trans hstaged))
    -- the record that was staged is not the one that the read put there
    rw [withNonceRecord_eq_self_iff (length_recordPage hreach.sound.store hread)] at hsame
    obtain rfl := Option.some.inj (hread.symm.trans hstart.readPage_eq)
    rw [nonceRecordOfPage_recordPage, nonceRecord_inj, hcounter] at hsame
    exact absurd hsame (by decide)

/-- The first board, sent back the page 0 that it answered with: nothing changes. -/
theorem read_write_back_ecuV1 :
    ∃ t u : Step, t.event = readPageInput 0 ∧ t.output.cmd = .pageData ∧ u.src = t.dst ∧
      u.event.packet = ⟨.writePage, t.output.payload⟩ ∧ u.WritesBack 0 := by
  obtain ⟨r, hr, hplain, -⟩ := exists_new_ecuV1 referencePlatform
  have hreach : Reachable referencePlatform referenceCatalogue r := .of_boot .newZeroed hr
  obtain ⟨page, hpage, -⟩ := hreach.sound.store.exists_readPage 0 (n := 512) rfl
  have hdec : decodePageRequest [0] = .ok 0 := rfl
  have hread := readPage_plain (P := referencePlatform) (r := r.tickUpdateHealthWindow 0) hplain
    hdec hpage
  have hdata : (Step.of referencePlatform referenceCatalogue r (readPageInput 0)).output.cmd =
      .pageData := congrArg (fun answer => answer.2.cmd) hread
  refine ⟨_, Step.writeBack referencePlatform referenceCatalogue _, rfl, hdata, rfl, rfl,
    (read_write_back_iff referencePlatform_aead hreach (step_of r (readPageInput 0)) rfl rfl hdata
      (step_of _ _) rfl rfl).mpr ?_⟩
  rintro ⟨-, ⟨hcrypto, -⟩, -⟩
  exact absurd (hplain.symm.trans hcrypto) (by decide)

end StEcu
