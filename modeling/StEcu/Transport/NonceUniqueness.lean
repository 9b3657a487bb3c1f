import Mathlib.Data.List.Nodup
import StEcu.Transport.PoweredBoard

/-!
# Nonces are used once

A nonce that encrypts two pages under one key gives both away. A board never uses a nonce twice,
over any packets and reboots, as long as every reboot finds a record in flash that covers the nonces
used. The firmware keeps the record that way; but the record is at the end of a page that the host
may write and burn like any other, and a host that burns an old record makes the board repeat itself
after the next reboot.

## Main definitions

* `BoardStep.BurnsStale`: an acknowledged burn of a record page that takes the record back too far.

## Main results

* `nonces_distinct`: when the nonces of a run are distinct.
* `nonce_used_twice`: a host that burns an old record.
-/

namespace StEcu

open FirmwareRuntime

variable {P : Platform} {A : Catalogue} {identity : FirmwareIdentity}

/-- An acknowledged burn of the record page, where the staged page holds no record, or one that is
more than a stride behind the counter at which the record is due next. -/
def BoardStep.BurnsStale (t : BoardStep) : Prop :=
  t.BurnsRecord ∧ ∀ c ∈ t.src.stagedRecord, c + nonceStride < t.src.persistAhead.threshold

/-- A read of a page has room where its counter is not at its largest value. -/
theorem hasRoom_of_event {t : BoardStep} {input : Input} (he : t.event = .packet input)
    (hroom : t.src.persistAhead.counter + 1 < 2 ^ 64) : t.HasRoom := by
  rw [BoardStep.HasRoom, he]
  exact fun _ => hroom

/-- Only a burn takes the record back. -/
theorem not_burnsStale_of_event {t : BoardStep}
    (he : ∀ input, t.event = .packet input → input.packet.cmd ≠ .burnPage) : ¬ t.BurnsStale := by
  rintro ⟨⟨input, answer, hevent, -, hcmd, -⟩, -⟩
  exact he input hevent hcmd

section Run

variable (hid : pageCryptoEnabledForIdentity identity = true) {r₀ r : FirmwareRuntime}
  {tr : List BoardStep} (hrun : (board P A identity).Run r₀ tr r)
include hid hrun

/-- Every state of a run of an encrypting board is one of an encrypting board. -/
theorem run_encrypting (h : r₀.Encrypting P identity) {t : BoardStep} (ht : t ∈ tr) :
    t.src.Encrypting P identity :=
  hrun.invariant_src h (fun _ _ => board_encrypting hid) ht

/-- The record stays ahead of the counter, before every step, if no burn takes it back. -/
theorem run_ahead (hP : AeadLaw P) (h : r₀.Encrypting P identity)
    (hahead : r₀.persistAhead.Ahead nonceStride) (hroom : ∀ t ∈ tr, t.HasRoom)
    (hburns : ∀ t ∈ tr, ¬ BoardStep.BurnsStale t) {t : BoardStep} (ht : t ∈ tr) :
    t.src.persistAhead.Ahead nonceStride := by
  obtain ⟨pre, post, rfl⟩ := List.append_of_mem ht
  refine PersistAhead.ahead_of_run FirmwareRuntime.persistAhead
    (fun u => (BoardStep.nonce P u).map nonceValue) hrun.split_mem.1 hahead fun u hu hstep => ?_
  have hmem : u ∈ pre ++ t :: post := List.mem_append_left _ hu
  obtain ⟨e, he, -, hoverwrite⟩ := BoardStep.persistAhead hP hid hstep
    (run_encrypting hid hrun h hmem) (hroom u hmem)
  refine ⟨e, he, fun record hrecord => ?_⟩
  obtain ⟨hburn, rfl⟩ := hoverwrite record hrecord
  by_contra hnone
  refine hburns u hmem ⟨hburn, fun c hc => Nat.lt_of_not_le fun hle => hnone ⟨c, hc, hle⟩⟩

end Run

/-- **No nonce is used twice** by a board that encrypts pages, over any packets and reboots, if
every reboot finds a record that covers the counter; and every record does as long as no burn takes
the record back. -/
theorem nonces_distinct (hP : AeadLaw P) (hid : pageCryptoEnabledForIdentity identity = true)
    {s : ConfigStore} (hs : ReachableStore P A s) {r₀ r : FirmwareRuntime} {tr : List BoardStep}
    (hboot : newWithStore P identity false s = some r₀) (hrun : (board P A identity).Run r₀ tr r)
    (hroom : ∀ t ∈ tr, t.HasRoom) :
    ((∀ t ∈ tr, t.event = .reboot → t.src.persistAhead.Covered nonceStride) →
        (tr.filterMap (BoardStep.nonce P)).Nodup) ∧
      ((∀ t ∈ tr, ¬ t.BurnsStale) → ∀ t ∈ tr, t.src.persistAhead.Covered nonceStride) := by
  have hencrypting := encrypting_of_newWithStore hid hs.wellFormed hboot
  constructor
  · intro hcovered
    have hvalues := PersistAhead.issued_pairwise FirmwareRuntime.persistAhead
      (fun t => (BoardStep.nonce P t).map nonceValue) hrun fun t ht hstep => by
        obtain ⟨e, he, hrestart, -⟩ := BoardStep.persistAhead hP hid hstep
          (run_encrypting hid hrun hencrypting ht) (hroom t ht)
        exact ⟨e, he, fun heq => hcovered t ht (hrestart heq)⟩
    rw [← List.map_filterMap] at hvalues
    have hnodup : ((tr.filterMap (BoardStep.nonce P)).map nonceValue).Nodup :=
      hvalues.imp fun hlt => hlt.ne
    exact List.Nodup.of_map nonceValue hnodup
  · intro hburns t ht
    exact (run_ahead hid hrun hP hencrypting (ahead_newWithStore hid hs.wellFormed hboot) hroom
      hburns ht).covered

/-! ### Single steps -/

/-- The step that a board takes on a packet. -/
def BoardStep.ofPacket (P : Platform) (A : Catalogue) (r : FirmwareRuntime) (input : Input) :
    BoardStep :=
  ⟨r, .packet input, some (Step.of P A r input).output, (Step.of P A r input).dst⟩

theorem board_ofPacket (identity : FirmwareIdentity) (r : FirmwareRuntime) (input : Input) :
    (board P A identity).Step (BoardStep.ofPacket P A r input) := .packet (step_of r input)

/-- The nonce for a value of the counter; the key is always in its first generation. -/
def nonceOfValue (n : ℕ) : Bytes := u32ToBe 1 ++ u64ToBe (UInt64.ofNat n)

/-- The packet that writes the record page. -/
def writeRecordInput (payload : Bytes) : Input := ⟨⟨0, 0, none⟩, ⟨.writePage, payload⟩⟩

section Steps

variable (A) (hid : pageCryptoEnabledForIdentity identity = true) {r : FirmwareRuntime}
  (h : r.Encrypting P identity)
include hid h

/-- A board answers a read of page 0 with the nonce of its counter. -/
theorem exists_read (hP : AeadLaw P) : ∃ t : BoardStep, (board P A identity).Step t ∧ t.src = r ∧
    t.event = .packet (readPageInput 0) ∧ t.nonce P = some (nonceOfValue r.persistAhead.counter) ∧
    t.dst.Encrypting P identity := by
  obtain ⟨enc, henc, hbelongs⟩ := h.sound.crypto h.crypto
  obtain ⟨page, hpage, hlen⟩ := h.sound.store.exists_readPage 0 (n := 512) rfl
  obtain ⟨ciphertext, hct, houtput, -⟩ :=
    of_readPage_encrypted (A := A) hP h.sound h.crypto henc hpage
  obtain ⟨ciphertext', hct', hlen'⟩ := h.sound.exists_ciphertext hP h.crypto henc hpage
  obtain rfl := Option.some.inj (hct.symm.trans hct')
  have hnonce : enc.nonceBytes = nonceOfValue r.persistAhead.counter := by
    rw [TuneEncryption.nonceBytes, hbelongs.generation_eq, nonceOfValue, persistAhead, henc,
      Option.elim_some, UInt64.ofNat_toNat]
  have ht := board_ofPacket (P := P) (A := A) identity r (readPageInput 0)
  refine ⟨_, ht, rfl, rfl, ?_, board_encrypting hid ht h⟩
  rw [← hnonce]
  exact (congrArg (pageNonce P) houtput).trans (pageNonce_encodePagePayload enc 0 (by omega))

/-- A host that has the key makes a board burn any record. -/
theorem exists_burnRecord (hP : AeadLaw P) (counter : UInt64) : ∃ (payload : Bytes)
    (t u : BoardStep), (board P A identity).Step t ∧ (board P A identity).Step u ∧ t.src = r ∧
    t.event = .packet (writeRecordInput payload) ∧ u.src = t.dst ∧
    u.event = .packet (burnPageInput pageCryptoNoncePageId) ∧ u.dst.Encrypting P identity ∧
    readPersistedPageCryptoCounter u.dst.store = some counter := by
  obtain ⟨enc, henc, hbelongs⟩ := h.sound.crypto h.crypto
  have hlen : (recordPage counter).length ≤ 1024 := by
    rw [length_recordPage_eq]
    omega
  obtain ⟨ciphertext, hct, -⟩ := hbelongs.ready.decrypt_encrypt hP hlen enc.length_nonceBytes
  have hc := h.sound.carries_encrypted hP h.crypto henc pageCryptoNoncePageId
    enc.length_nonceBytes hlen hct
  generalize encodePagePayload P pageCryptoNoncePageId (enc.nonceBytes ++ ciphertext) = payload
    at hc
  -- the page is staged, and then burned
  have ht := board_ofPacket (P := P) (A := A) identity r (writeRecordInput payload)
  obtain ⟨-, hstaged⟩ := step_writePage_recordPage (step_of r (writeRecordInput payload)) rfl
    h.sound hc rfl (by rw [length_recordPage_eq]; rfl)
  have hwritten := board_encrypting hid ht h
  have hu := board_ofPacket (P := P) (A := A) identity
    (Step.of P A r (writeRecordInput payload)).dst (burnPageInput pageCryptoNoncePageId)
  obtain ⟨-, hdst⟩ := of_burnPage (A := A) hwritten.sound hstaged
  obtain ⟨-, -, -, -, hflash, -⟩ := hwritten.sound.store.burnPage_spec hstaged
  refine ⟨payload, _, _, ht, hu, rfl, rfl, rfl, rfl, board_encrypting hid hu hwritten, ?_⟩
  refine (congrArg (fun r => readPersistedPageCryptoCounter r.store) hdst).trans ?_
  exact (readPersistedPageCryptoCounter_eq (hwritten.sound.store.burn _) hflash).trans
    (by rw [nonceRecordOfPage_recordPage, recordCounter_nonceRecord])

/-- A reboot starts the counter a stride after the record. -/
theorem exists_reboot {counter : UInt64}
    (hrecord : readPersistedPageCryptoCounter r.store = some counter)
    (hroom : counter.toNat + nonceStride < 2 ^ 64) : ∃ t : BoardStep, (board P A identity).Step t ∧
    t.src = r ∧ t.event = .reboot ∧ t.nonce P = none ∧ t.dst.Encrypting P identity ∧
    t.dst.persistAhead.counter = counter.toNat + nonceStride := by
  obtain ⟨r', hboot, -⟩ := exists_newWithStore identity false h.sound.store
  obtain ⟨start, -, heq, hstart⟩ := persistAhead_newWithStore hid h.sound.store hboot
  refine ⟨⟨r, .reboot, none, r'⟩, .reboot hboot, rfl, rfl, rfl,
    encrypting_of_newWithStore hid h.sound.store hboot, ?_⟩
  exact (congrArg PersistAhead.counter heq).trans (hstart counter hrecord hroom)

end Steps

/-! ### Two runs of the board of the tests -/

theorem h743_encrypts : pageCryptoEnabledForIdentity .h743 = true := by decide

/-- The board of the tests, booted from the record of 0, starts at the counter 1024. -/
theorem exists_encrypting_h743 (P : Platform) :
    ∃ r, newWithStore P .h743 false (storeWithRecord P 0) = some r ∧ r.Encrypting P .h743 ∧
      r.persistAhead.counter = 1024 ∧ r.persistAhead.record = some 1024 := by
  obtain ⟨r, hboot, -⟩ := exists_h743 P referenceCatalogue 0
  have hs := (reachable_storeWithRecord (P := P) (A := referenceCatalogue) 0).wellFormed
  obtain ⟨start, -, heq, hstart⟩ := persistAhead_newWithStore h743_encrypts hs hboot
  obtain rfl : start = 1024 := hstart 0 (readPersisted_storeWithRecord 0) (by decide)
  exact ⟨r, hboot, encrypting_of_newWithStore h743_encrypts hs hboot,
    congrArg PersistAhead.counter heq, congrArg PersistAhead.record heq⟩

/-- The board of the tests reads a page, is made to burn the record it booted from, is switched off
and on, and reads the page again: it uses the same nonce. -/
theorem nonce_used_twice :
    ∃ r₀ r tr payload,
      newWithStore referencePlatform .h743 false (storeWithRecord referencePlatform 0) = some r₀ ∧
      (board referencePlatform referenceCatalogue .h743).Run r₀ tr r ∧
      tr.map Transition.event = [.packet (readPageInput 0), .packet (writeRecordInput payload),
        .packet (burnPageInput pageCryptoNoncePageId), .reboot, .packet (readPageInput 0)] ∧
      ¬ (tr.filterMap (BoardStep.nonce referencePlatform)).Nodup := by
  obtain ⟨r₀, hboot, h₀, hcounter₀, -⟩ := exists_encrypting_h743 referencePlatform
  obtain ⟨t₁, ht₁, rfl, he₁, hnonce₁, h₁⟩ :=
    exists_read referenceCatalogue h743_encrypts h₀ referencePlatform_aead
  obtain ⟨payload, t₂, t₃, ht₂, ht₃, hsrc₂, he₂, hsrc₃, he₃, h₃, hrecord⟩ :=
    exists_burnRecord referenceCatalogue h743_encrypts h₁ referencePlatform_aead 0
  obtain ⟨t₄, ht₄, hsrc₄, he₄, -, h₄, hcounter₄⟩ :=
    exists_reboot referenceCatalogue h743_encrypts h₃ hrecord (by decide)
  obtain ⟨t₅, ht₅, hsrc₅, he₅, hnonce₅, -⟩ :=
    exists_read referenceCatalogue h743_encrypts h₄ referencePlatform_aead
  have hrun₅ := TransitionSystem.Run.single ht₅
  have hrun₄ := (hsrc₅ ▸ hrun₅).cons ht₄
  have hrun₃ := (hsrc₄ ▸ hrun₄).cons ht₃
  have hrun₂ := (hsrc₃ ▸ hrun₃).cons ht₂
  have hrun₁ := (hsrc₂ ▸ hrun₂).cons ht₁
  refine ⟨t₁.src, _, _, payload, hboot, hrun₁, by simp [he₁, he₂, he₃, he₄, he₅], ?_⟩
  rw [List.filterMap_cons_some hnonce₁, List.nodup_cons]
  rintro ⟨hfresh, -⟩
  refine hfresh (List.mem_filterMap.mpr ⟨t₅, by simp, ?_⟩)
  rw [hnonce₅, hcounter₄, hcounter₀]
  rfl

/-- The board of the tests reads a page before and after a reboot: it uses two nonces. -/
theorem nonces_distinct_h743 :
    ∃ r₀ r tr,
      newWithStore referencePlatform .h743 false (storeWithRecord referencePlatform 0) = some r₀ ∧
      (board referencePlatform referenceCatalogue .h743).Run r₀ tr r ∧
      tr.map Transition.event =
        [.packet (readPageInput 0), .reboot, .packet (readPageInput 0)] ∧
      (tr.filterMap (BoardStep.nonce referencePlatform)).length = 2 ∧
      (tr.filterMap (BoardStep.nonce referencePlatform)).Nodup := by
  obtain ⟨r₀, hboot, h₀, hcounter₀, hrecord₀⟩ := exists_encrypting_h743 referencePlatform
  have hs := reachable_storeWithRecord (P := referencePlatform) (A := referenceCatalogue) 0
  obtain ⟨t₁, ht₁, rfl, he₁, hnonce₁, h₁⟩ :=
    exists_read referenceCatalogue h743_encrypts h₀ referencePlatform_aead
  have hroom₁ : t₁.HasRoom := hasRoom_of_event he₁ (by omega)
  -- the record after the first read is the one before it, or that of the counter after it
  obtain ⟨c, hc, hle⟩ : ∃ c, t₁.dst.persistAhead.record = some c ∧ c ≤ 1025 := by
    obtain ⟨e, hstep, -⟩ :=
      BoardStep.persistAhead referencePlatform_aead h743_encrypts ht₁ h₀ hroom₁
    rw [hnonce₁, Option.map_some] at hstep
    generalize t₁.src.persistAhead = s at hstep hcounter₀ hrecord₀
    generalize t₁.dst.persistAhead = s' at hstep ⊢
    generalize hvalue : some (nonceValue (nonceOfValue s.counter)) = value at hstep
    cases hstep with
    | use hlt => exact ⟨1024, hrecord₀, by omega⟩
    | renew threshold hle hahead => exact ⟨_, rfl, by omega⟩
    | _ => cases hvalue
  obtain ⟨counter, hcounter, rfl⟩ := Option.map_eq_some_iff.mp hc
  have hstride : nonceStride = 1024 := rfl
  obtain ⟨t₂, ht₂, hsrc₂, he₂, hnonce₂, h₂, hcounter₂⟩ :=
    exists_reboot referenceCatalogue h743_encrypts h₁ hcounter (by omega)
  obtain ⟨t₃, ht₃, hsrc₃, he₃, hnonce₃, -⟩ :=
    exists_read referenceCatalogue h743_encrypts h₂ referencePlatform_aead
  have hroom₂ : t₂.HasRoom := by
    rw [BoardStep.HasRoom, he₂]
    intro c' hc'
    rw [hsrc₂, hc] at hc'
    obtain rfl := Option.some.inj hc'
    omega
  have hroom₃ : t₃.HasRoom := hasRoom_of_event he₃ (by rw [hsrc₃]; omega)
  have hrun₃ := TransitionSystem.Run.single ht₃
  have hrun₂ := (hsrc₃ ▸ hrun₃).cons ht₂
  have hrun₁ := (hsrc₂ ▸ hrun₂).cons ht₁
  have hroom : ∀ t ∈ [t₁, t₂, t₃], BoardStep.HasRoom t := by
    simp [hroom₁, hroom₂, hroom₃]
  have hburns : ∀ t ∈ [t₁, t₂, t₃], ¬ BoardStep.BurnsStale t := by
    simp only [List.forall_mem_cons, List.not_mem_nil, false_imp_iff, implies_true, and_true]
    refine ⟨not_burnsStale_of_event fun input he => ?_, not_burnsStale_of_event fun input he => ?_,
      not_burnsStale_of_event fun input he => ?_⟩
    · obtain rfl := BoardEvent.packet.inj (he₁.symm.trans he)
      simp [readPageInput]
    · cases he₂.symm.trans he
    · obtain rfl := BoardEvent.packet.inj (he₃.symm.trans he)
      simp [readPageInput]
  obtain ⟨hnodup, hcovered⟩ := nonces_distinct referencePlatform_aead h743_encrypts hs hboot hrun₁
    hroom
  refine ⟨t₁.src, _, _, hboot, hrun₁, by simp [he₁, he₂, he₃], ?_,
    hnodup fun t ht _ => hcovered hburns t ht⟩
  rw [List.filterMap_cons_some hnonce₁, List.filterMap_cons_none hnonce₂,
    List.filterMap_cons_some hnonce₃]
  rfl

end StEcu
