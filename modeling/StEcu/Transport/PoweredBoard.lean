import StEcu.Foundation.PersistAhead
import StEcu.Transport.WriteBack

/-!
# A board that is switched off and on

A board that encrypts pages, over packets and reboots: between any two packets it may be built anew
from the store that it has at that time. Its nonce counter follows the discipline of a counter that
is persisted ahead; the record is in flash, at the end of the record page, and burning that page
overwrites the record by the one that is staged.

## Main definitions

* `BoardEvent`, `board`: packets and reboots; the transition system.
* `FirmwareRuntime.Encrypting`: the invariant of such a board.
* `FirmwareRuntime.persistAhead`: the nonce counter with its threshold and its record.
* `pageNonce`, `BoardStep.nonce`: the nonce that an answer shows.
* `persistedAt`: the nonce counter right after it has been persisted.
* `BoardStep.HasRoom`: the counter does not run over.

## Main results

* `FirmwareRuntime.Effect.nonce_cases`: what a packet does to the nonce counter.
* `BoardStep.persistAhead`: every step of a board follows the discipline.
-/

namespace StEcu

/-- What happens to a board: a packet arrives, or it is switched off and on again. -/
inductive BoardEvent
  | packet (input : Input)
  | reboot

/-- A step of a board; a reboot has no answer. -/
abbrev BoardStep := Transition FirmwareRuntime BoardEvent (Option Packet)

open FirmwareRuntime

/-- The steps of a board of a given identity. -/
inductive BoardStep.Possible (P : Platform) (A : Catalogue) (identity : FirmwareIdentity) :
    BoardStep → Prop
  | packet {r r' : FirmwareRuntime} {input : Input} {answer : Packet}
      (h : (firmware P A).Step ⟨r, input, answer, r'⟩) :
      Possible P A identity ⟨r, .packet input, some answer, r'⟩
  | reboot {r r' : FirmwareRuntime} (h : newWithStore P identity false r.store = some r') :
      Possible P A identity ⟨r, .reboot, none, r'⟩

/-- A board that handles packets, and that may be switched off and on. -/
def board (P : Platform) (A : Catalogue) (identity : FirmwareIdentity) :
    TransitionSystem FirmwareRuntime BoardEvent (Option Packet) where
  Step := BoardStep.Possible P A identity

variable {P : Platform} {A : Catalogue} {identity : FirmwareIdentity}

/-! ### The invariant -/

/-- A sound board of a given identity that encrypts pages. -/
structure FirmwareRuntime.Encrypting (P : Platform) (identity : FirmwareIdentity)
    (r : FirmwareRuntime) : Prop where
  sound : r.Sound P
  identity_eq : r.identity = identity
  crypto : r.pageCryptoEnabled = true

theorem encrypting_of_newWithStore (hid : pageCryptoEnabledForIdentity identity = true)
    {s : ConfigStore} (hs : s.WellFormed P) {r : FirmwareRuntime}
    (hr : newWithStore P identity false s = some r) : r.Encrypting P identity := by
  have hbooted := booted_of_newWithStore hs hr
  exact ⟨hbooted.sound, hbooted.identity_eq, hbooted.enabled_eq.trans (by rw [hid]; rfl)⟩

theorem board_encrypting (hid : pageCryptoEnabledForIdentity identity = true) {t : BoardStep}
    (ht : (board P A identity).Step t) (h : t.src.Encrypting P identity) :
    t.dst.Encrypting P identity := by
  cases ht with
  | packet hstep =>
    have hboard := (step_effect hstep h.sound).sameBoard
    exact ⟨step_sound hstep h.sound, hboard.identity_eq.trans h.identity_eq,
      hboard.pageCryptoEnabled_eq.trans h.crypto⟩
  | reboot hboot => exact encrypting_of_newWithStore hid h.sound.store hboot

/-! ### The nonce counter -/

/-- The nonce counter with the threshold at which it is persisted and the record in flash. -/
def FirmwareRuntime.persistAhead (r : FirmwareRuntime) : PersistAhead where
  counter := r.tuneEncryption.elim 0 fun enc => enc.state.nonceCounter.toNat
  threshold := r.pageCryptoNextPersistCounter.toNat
  record := (readPersistedPageCryptoCounter r.store).map UInt64.toNat

/-- The counter in the record at the end of the staged record page. -/
def FirmwareRuntime.stagedRecord (r : FirmwareRuntime) : Option ℕ :=
  ((r.store.readPage pageCryptoNoncePageId).bind fun page =>
    recordCounter (nonceRecordOfPage page)).map UInt64.toNat

/-- The nonce in front of the ciphertext that an answer carries. -/
def pageNonce (P : Platform) (answer : Packet) : Option Bytes :=
  if answer.cmd = .pageData then
    (decodePagePayload P answer.payload).toOption.map fun page => page.payload.take gcmNonceLen
  else none

/-- The counter in a nonce. -/
def nonceValue (nonce : Bytes) : ℕ := (u64OfBe (nonce.drop 4)).toNat

/-- The nonce of the page that a step answers with, if the page is encrypted. -/
def BoardStep.nonce (P : Platform) (t : BoardStep) : Option Bytes := t.output.bind (pageNonce P)

@[simp] theorem nonceValue_nonceBytes (enc : TuneEncryption) :
    nonceValue enc.nonceBytes = enc.state.nonceCounter.toNat := by
  have hdrop : enc.nonceBytes.drop 4 = u64ToBe enc.state.nonceCounter := List.drop_left' (by simp)
  rw [nonceValue, hdrop, u64OfBe_u64ToBe]

theorem pageNonce_of_ne {answer : Packet} (h : answer.cmd ≠ .pageData) :
    pageNonce P answer = none := if_neg h

/-- An encrypted page shows the nonce it was encrypted with. -/
theorem pageNonce_encodePagePayload (enc : TuneEncryption) (pageId : UInt8) {ciphertext : Bytes}
    (hlen : ciphertext.length ≤ 2048) :
    pageNonce P ⟨.pageData, encodePagePayload P pageId (enc.nonceBytes ++ ciphertext)⟩ =
      some enc.nonceBytes := by
  have hsize : (enc.nonceBytes ++ ciphertext).length ≤ 0xFFFF := by
    rw [List.length_append, enc.length_nonceBytes]
    omega
  rw [pageNonce, if_pos rfl, decode_encodePagePayload hsize]
  exact congrArg some (List.take_left' enc.length_nonceBytes)

/-! ### The discipline -/

/-- The stride, as a number. -/
def nonceStride : ℕ := pageCryptoNoncePersistStride.toNat

theorem FirmwareRuntime.persistAhead_eq {r : FirmwareRuntime} {enc : TuneEncryption}
    {counter : UInt64} (henc : r.tuneEncryption = some enc)
    (hrecord : readPersistedPageCryptoCounter r.store = some counter) :
    r.persistAhead = ⟨enc.state.nonceCounter.toNat, r.pageCryptoNextPersistCounter.toNat,
      some counter.toNat⟩ := by
  rw [persistAhead, henc, hrecord, Option.elim_some, Option.map_some]

/-- The counter is what the controller, the threshold and the flash slot of the record page say. -/
theorem FirmwareRuntime.persistAhead_congr {r r' : FirmwareRuntime} (h : r.store.WellFormed P)
    (h' : r'.store.WellFormed P) (henc : r'.tuneEncryption = r.tuneEncryption)
    (hnext : r'.pageCryptoNextPersistCounter = r.pageCryptoNextPersistCounter)
    (hflash : r'.store.readFlashPage pageCryptoNoncePageId =
      r.store.readFlashPage pageCryptoNoncePageId) : r'.persistAhead = r.persistAhead := by
  obtain ⟨page, hpage, -⟩ := exists_flashRecordPage h
  simp only [persistAhead, henc, hnext, readPersistedPageCryptoCounter_eq h hpage,
    readPersistedPageCryptoCounter_eq h' (hflash.trans hpage)]

/-- What a packet does to the counter: nothing, or it burns the record page, or it uses a nonce. -/
theorem FirmwareRuntime.Effect.nonce_cases (hP : AeadLaw P) {clock : Clock}
    {packet answer : Packet} {r r' : FirmwareRuntime} (he : Effect P clock packet r r' answer)
    (h : r.Sound P) (hcrypto : r.pageCryptoEnabled = true) :
    (pageNonce P answer = none ∧ r'.persistAhead = r.persistAhead) ∨
      (pageNonce P answer = none ∧
        Step.Burns ⟨r, ⟨clock, packet⟩, answer, r'⟩ pageCryptoNoncePageId ∧
        r'.persistAhead = { r.persistAhead with record := r.stagedRecord }) ∨
      packet.cmd = .readPage ∧ ∃ enc, r.tuneEncryption = some enc ∧
        pageNonce P answer = some enc.nonceBytes ∧
        r' = { r with tuneEncryption := some enc.advanceNonce }.maybePersistPageCryptoCounter P
          (enc.state.nonceCounter + 1) := by
  have hsound := he.sound h
  cases he with
  | pageRead pageId page hcmd hdec hread hplain =>
    rw [hcrypto] at hplain
    cases hplain
  | pageEncrypted pageId page ciphertext enc hcmd hdec hread _ henc hct =>
    obtain ⟨ciphertext', hct', hlen⟩ := h.exists_ciphertext hP hcrypto henc hread
    obtain rfl := Option.some.inj (hct.symm.trans hct')
    have hpage := pageLengthAt_le (h.store.length_readPage hread)
    exact .inr (.inr ⟨hcmd, enc, henc, pageNonce_encodePagePayload enc pageId (by omega), rfl⟩)
  | encryptionFailed pageId page enc e hcmd hread _ henc hct =>
    obtain ⟨ciphertext, hct', -⟩ := h.exists_ciphertext hP hcrypto henc hread
    rw [hct] at hct'
    cases hct'
  | pageBurned pageId page hcmd hdec hread =>
    have hnonce : pageNonce P ⟨.ack, encodeAckPayload pageId false⟩ = none :=
      pageNonce_of_ne (by simp)
    obtain ⟨-, -, -, hother, hself, -⟩ := h.store.burnPage_spec hread
    by_cases hid : pageId = pageCryptoNoncePageId
    · subst hid
      refine .inr (.inl ⟨hnonce, ⟨hcmd, hdec, rfl⟩, ?_⟩)
      simp only [persistAhead, stagedRecord, hread, Option.bind_some,
        readPersistedPageCryptoCounter_eq hsound.store hself]
    · exact .inl ⟨hnonce, persistAhead_congr h.store hsound.store rfl rfl
        (ConfigStore.flash_congr (hother _ (Ne.symm hid))).1⟩
  | observed live triggerRuntime tables dtcEntries log answer hcmd hnack hpage =>
    exact .inl ⟨pageNonce_of_ne hpage, rfl⟩
  | resumeIdle answer hcmd hack =>
    exact .inl ⟨pageNonce_of_ne (by simp [hack]), rfl⟩
  | resumed scratch answer hcmd hack =>
    exact .inl ⟨pageNonce_of_ne (by simp [hack]), rfl⟩
  | blockAppended block hcmd hcheck =>
    obtain ⟨scratch, heq⟩ := appendFlashBlock_eq (P := P) (r := r) block
    rw [heq] at hsound ⊢
    exact .inl ⟨pageNonce_of_ne (by simp), persistAhead_congr h.store hsound.store rfl rfl rfl⟩
  | _ =>
    exact .inl ⟨pageNonce_of_ne (fun hpage => by cases hpage),
      persistAhead_congr h.store hsound.store rfl rfl rfl⟩

/-- The counter does not run over: a page read finds it below its largest value, and so is the sum
of the record and the stride that a reboot starts from. -/
def BoardStep.HasRoom (t : BoardStep) : Prop :=
  match t.event with
  | .packet input => input.packet.cmd = .readPage → t.src.persistAhead.counter + 1 < 2 ^ 64
  | .reboot => ∀ c ∈ t.src.persistAhead.record, c + nonceStride < 2 ^ 64

/-- An acknowledged burn of the record page. -/
def BoardStep.BurnsRecord (t : BoardStep) : Prop :=
  ∃ input answer, t.event = .packet input ∧ t.output = some answer ∧
    Step.Burns ⟨t.src, input, answer, t.dst⟩ pageCryptoNoncePageId

/-- The counter right after it has been persisted: the record is due again a stride later, or at the
largest value. -/
def persistedAt (n : ℕ) : PersistAhead := ⟨n, min (n + nonceStride) (2 ^ 64 - 1), some n⟩

theorem le_threshold_persistedAt {n : ℕ} (h : n < 2 ^ 64) : n ≤ (persistedAt n).threshold :=
  le_min (Nat.le_add_right n nonceStride) (Nat.le_sub_one_of_lt h)

theorem threshold_persistedAt_le (n : ℕ) : (persistedAt n).threshold ≤ n + nonceStride :=
  min_le_left _ _

/-- A page read uses the counter; if the record is due, it is renewed. -/
theorem FirmwareRuntime.persistAhead_read_cases {r : FirmwareRuntime} (h : r.Sound P)
    (hcrypto : r.pageCryptoEnabled = true) {enc : TuneEncryption}
    (henc : r.tuneEncryption = some enc) (hroom : r.persistAhead.counter + 1 < 2 ^ 64)
    {r' : FirmwareRuntime} (heq : r' = { r with
      tuneEncryption := some enc.advanceNonce }.maybePersistPageCryptoCounter P
        (enc.state.nonceCounter + 1)) :
    enc.state.nonceCounter.toNat = r.persistAhead.counter ∧
      ((r.persistAhead.counter + 1 < r.persistAhead.threshold ∧
          r'.persistAhead = { r.persistAhead with counter := r.persistAhead.counter + 1 }) ∨
        r'.persistAhead = persistedAt (r.persistAhead.counter + 1)) := by
  have hcounter : r.persistAhead.counter = enc.state.nonceCounter.toNat := by
    simp only [persistAhead, henc, Option.elim_some]
  have hnext : (enc.state.nonceCounter + 1).toNat = enc.state.nonceCounter.toNat + 1 := by
    rw [UInt64.toNat_add]
    exact Nat.mod_eq_of_lt (hcounter ▸ hroom)
  rw [← hcounter] at hnext ⊢
  refine ⟨rfl, ?_⟩
  rcases maybePersistPageCryptoCounter_cases (P := P)
    (r := { r with tuneEncryption := some enc.advanceNonce }) h.store
    (enc.state.nonceCounter + 1) with
    ⟨hnot, hkept⟩ | ⟨-, hrenewed⟩
  · have hlt : enc.state.nonceCounter + 1 < r.pageCryptoNextPersistCounter := by
      rw [← UInt64.not_le]
      exact fun hle => hnot ⟨hcrypto, hle⟩
    rw [UInt64.lt_iff_toNat_lt, hnext] at hlt
    rw [heq, hkept]
    exact .inl ⟨hlt, PersistAhead.ext hnext rfl rfl⟩
  · rw [hrenewed] at heq
    have hrecord : readPersistedPageCryptoCounter r'.store = some (enc.state.nonceCounter + 1) := by
      rw [heq]
      exact readPersisted_persist h.store _
    rw [heq] at hrecord ⊢
    rw [persistAhead_eq (show _ = some enc.advanceNonce from rfl) hrecord,
      TuneEncryption.nonceCounter_advanceNonce, UInt64.toNat_saturatingAdd, hnext]
    exact .inr rfl

/-- A page read takes a step of the discipline. -/
theorem FirmwareRuntime.persistAhead_read {r : FirmwareRuntime} (h : r.Sound P)
    (hcrypto : r.pageCryptoEnabled = true) {enc : TuneEncryption}
    (henc : r.tuneEncryption = some enc) (hroom : r.persistAhead.counter + 1 < 2 ^ 64)
    {r' : FirmwareRuntime} (heq : r' = { r with
      tuneEncryption := some enc.advanceNonce }.maybePersistPageCryptoCounter P
        (enc.state.nonceCounter + 1)) :
    PersistAhead.Step nonceStride r.persistAhead .use (some enc.state.nonceCounter.toNat)
      r'.persistAhead := by
  obtain ⟨hcounter, ⟨hlt, hkept⟩ | hrenewed⟩ := persistAhead_read_cases h hcrypto henc hroom heq
  · rw [hcounter, hkept]
    exact .use _ hlt
  · rw [hcounter, hrenewed]
    exact .renew _ _ (le_threshold_persistedAt hroom) (threshold_persistedAt_le _)

/-- Where a board starts: its record is its counter, a stride after the record of the store. -/
theorem FirmwareRuntime.persistAhead_newWithStore
    (hid : pageCryptoEnabledForIdentity identity = true) {s : ConfigStore} (hs : s.WellFormed P)
    {r : FirmwareRuntime} (hboot : newWithStore P identity false s = some r) :
    ∃ counter < 2 ^ 64, r.persistAhead = persistedAt counter ∧
      ∀ c, readPersistedPageCryptoCounter s = some c → c.toNat + nonceStride < 2 ^ 64 →
        counter = c.toNat + nonceStride := by
  have hbooted := booted_of_newWithStore hs hboot
  obtain ⟨enc, page, -, hpage, henc, hnext, -, hflash, -⟩ :=
    hbooted.encrypted (encrypting_of_newWithStore hid hs hboot).crypto
  have hle := length_recordPage hs hpage
  generalize hcounter : bootCounter enc s = counter at *
  have hrecord : readPersistedPageCryptoCounter r.store = some counter := by
    rw [readPersistedPageCryptoCounter_eq hbooted.sound.store hflash,
      nonceRecordOfPage_withNonceRecord hle, recordCounter_nonceRecord]
  refine ⟨counter.toNat, counter.toNat_lt, ?_, fun c hc hfits => ?_⟩
  · rw [persistAhead_eq henc hrecord, hnext, UInt64.toNat_saturatingAdd]
    rfl
  · rw [← hcounter, bootCounter, hc]
    dsimp only
    rw [UInt64.toNat_saturatingAdd, ← nonceStride]
    omega

/-- A reboot takes a step of the discipline. -/
theorem FirmwareRuntime.persistAhead_reboot (hid : pageCryptoEnabledForIdentity identity = true)
    {r r' : FirmwareRuntime} (h : r.Sound P)
    (hboot : newWithStore P identity false r.store = some r')
    (hroom : ∀ c ∈ r.persistAhead.record, c + nonceStride < 2 ^ 64) :
    PersistAhead.Step nonceStride r.persistAhead .restart none r'.persistAhead := by
  obtain ⟨counter, hlt, heq, hstart⟩ := persistAhead_newWithStore hid h.store hboot
  rw [heq]
  refine .restart _ counter _ (fun c hc => ?_) (le_threshold_persistedAt hlt)
    (threshold_persistedAt_le counter)
  obtain ⟨persisted, hpersisted, rfl⟩ := Option.map_eq_some_iff.mp hc
  exact hstart persisted hpersisted (hroom _ hc)

/-- A board starts with its record ahead of its counter. -/
theorem FirmwareRuntime.ahead_newWithStore (hid : pageCryptoEnabledForIdentity identity = true)
    {s : ConfigStore} (hs : s.WellFormed P) {r : FirmwareRuntime}
    (hboot : newWithStore P identity false s = some r) : r.persistAhead.Ahead nonceStride := by
  obtain ⟨counter, hlt, heq, -⟩ := persistAhead_newWithStore hid hs hboot
  rw [heq]
  exact ⟨counter, rfl, le_threshold_persistedAt hlt, threshold_persistedAt_le counter⟩

/-- **Every step of a board follows the discipline** of a counter that is persisted ahead. -/
theorem BoardStep.persistAhead (hP : AeadLaw P) (hid : pageCryptoEnabledForIdentity identity = true)
    {t : BoardStep} (ht : (board P A identity).Step t) (h : t.src.Encrypting P identity)
    (hroom : t.HasRoom) :
    ∃ e, PersistAhead.Step nonceStride t.src.persistAhead e ((t.nonce P).map nonceValue)
        t.dst.persistAhead ∧ (e = .restart → t.event = .reboot) ∧
      ∀ record, e = .overwrite record → t.BurnsRecord ∧ record = t.src.stagedRecord := by
  cases ht with
  | @packet r r' input answer hstep =>
    have htick := h.sound.tick input.clock.tick
    have hnonce : BoardStep.nonce P ⟨r, .packet input, some answer, r'⟩ = pageNonce P answer := rfl
    rcases (step_effect hstep h.sound).nonce_cases hP htick h.crypto with
      ⟨hnone, heq⟩ | ⟨hnone, hburns, heq⟩ | ⟨hcmd, enc, henc, hsome, heq⟩
    · refine ⟨.idle, ?_, by simp, by simp⟩
      rw [hnonce, hnone, heq]
      exact .idle r.persistAhead
    · refine ⟨.overwrite r.stagedRecord, ?_, by simp, fun record hrecord => ?_⟩
      · rw [hnonce, hnone, heq]
        exact .overwrite r.persistAhead r.stagedRecord
      · cases hrecord
        exact ⟨⟨input, answer, rfl, rfl, hburns⟩, rfl⟩
    · refine ⟨.use, ?_, by simp, by simp⟩
      rw [hnonce, hsome, Option.map_some, nonceValue_nonceBytes]
      exact persistAhead_read htick h.crypto henc (hroom hcmd) heq
  | reboot hboot =>
    exact ⟨.restart, persistAhead_reboot hid h.sound hboot hroom, fun _ => rfl, by simp⟩

end StEcu
