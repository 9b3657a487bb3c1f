import StEcu.Config.PageMemory
import StEcu.Transport.PoweredBoard

/-!
# The pages, from what the host did

Over packets and reboots, a board is a memory of pages that the host edits: an acknowledged write
stages, an acknowledged burn commits, and nothing else changes a page. The board itself writes to
two pages only: a boot seeds the pin-assignment page, and a board that encrypts pages keeps its
nonce counter in the record page.

So what a page holds can be told from the packets that were acknowledged. A page read answers with
the data of the last write before it, and flash holds the data of the last write before the last
burn, whatever else the host did in between, and however often the board was switched off and on.

## Main definitions

* `hostPages`: the pages that only the host changes.
* `Step.pageOps`, `BoardStep.pageOps`: what a step means for the pages.
* `BoardStep.Burns`, `BoardStep.written`, `lastWritten`: burns and writes of a page.

## Main results

* `FirmwareRuntime.Effect.agreeOn`, `BoardStep.agreeOn`: every step means what it should.
* `pages_follow_history`: RAM, flash and the answers, from the history.
-/

namespace StEcu

variable {P : Platform} {A : Catalogue} {identity : FirmwareIdentity}

open StagedMemory (Op)

/-- The pages that only the host changes. -/
def hostPages (crypto : Bool) : Set UInt8 :=
  {pageId | pageId ≠ pinPageId ∧ (crypto = true → pageId ≠ pageCryptoNoncePageId)}

/-- The page and the data that a payload of the write command carries. -/
def FirmwareRuntime.carried (P : Platform) (r : FirmwareRuntime) (payload : Bytes) :
    Option (UInt8 × Bytes) := do
  let page ← (decodePagePayload P payload).toOption
  let data ← (r.decryptPageFromTransport P page.payload).toOption
  return (page.pageId, data)

/-- What a packet means for the pages, from its answer: an acknowledged write stages, an
acknowledged burn commits. -/
def Step.pageOps (P : Platform) (t : Step) : List (Op UInt8 (Option Bytes)) :=
  if t.output.cmd = .ack then
    match t.event.packet.cmd with
    | .writePage => ((t.src.carried P t.event.packet.payload).map fun (pageId, data) =>
        Op.stage pageId (some data)).toList
    | .burnPage => ((decodePageRequest t.event.packet.payload).toOption.map Op.commit).toList
    | _ => []
  else []

/-- A reboot means nothing for the pages. -/
def BoardStep.pageOps (P : Platform) (t : BoardStep) : List (Op UInt8 (Option Bytes)) :=
  match t.event, t.output with
  | .packet input, some answer => Step.pageOps P ⟨t.src, input, answer, t.dst⟩
  | _, _ => []

/-- An acknowledged burn of a page. -/
def BoardStep.Burns (t : BoardStep) (pageId : UInt8) : Prop :=
  ∃ input answer, t.event = .packet input ∧ t.output = some answer ∧
    Step.Burns ⟨t.src, input, answer, t.dst⟩ pageId

/-- The data that an acknowledged write puts into a page. -/
def BoardStep.written (P : Platform) (pageId : UInt8) (t : BoardStep) : Option Bytes :=
  match t.event, t.output with
  | .packet input, some answer =>
    if answer.cmd = .ack ∧ input.packet.cmd = .writePage then
      (t.src.carried P input.packet.payload).bind fun (carriedId, data) =>
        if carriedId = pageId then some data else none
    else none
  | _, _ => none

/-- The data of the last acknowledged write of a page in a run. -/
def lastWritten (P : Platform) (pageId : UInt8) (tr : List BoardStep) : Option Bytes :=
  (tr.filterMap (BoardStep.written P pageId)).getLast?

open FirmwareRuntime

theorem FirmwareRuntime.carried_eq_some_iff {r : FirmwareRuntime} {payload data : Bytes}
    {pageId : UInt8} :
    r.carried P payload = some (pageId, data) ↔ r.Carries P payload pageId data := by
  rw [carried, Carries]
  cases decodePagePayload P payload with
  | error e => simp [Except.toOption]
  | ok page =>
    cases hdata : r.decryptPageFromTransport P page.payload <;> simp [Except.toOption, hdata]

/-! ### What a step means -/

section Step

variable {t : Step}

theorem Step.pageOps_of_not_ack (h : t.output.cmd ≠ .ack) : t.pageOps P = [] := if_neg h

theorem Step.pageOps_of_ne (hwrite : t.event.packet.cmd ≠ .writePage)
    (hburn : t.event.packet.cmd ≠ .burnPage) : t.pageOps P = [] := by
  rw [pageOps]
  split_ifs with hack
  · split <;> simp_all
  · rfl

theorem Step.pageOps_write {data : Bytes} {pageId : UInt8} (hack : t.output.cmd = .ack)
    (hcmd : t.event.packet.cmd = .writePage)
    (hc : t.src.Carries P t.event.packet.payload pageId data) :
    t.pageOps P = [.stage pageId (some data)] := by
  rw [pageOps, if_pos hack, hcmd]
  simp only [carried_eq_some_iff.mpr hc, Option.map_some, Option.toList_some]

theorem Step.pageOps_burn {pageId : UInt8} (hack : t.output.cmd = .ack)
    (hcmd : t.event.packet.cmd = .burnPage)
    (hdec : decodePageRequest t.event.packet.payload = .ok pageId) :
    t.pageOps P = [.commit pageId] := by
  rw [pageOps, if_pos hack, hcmd]
  simp only [hdec, Except.toOption, Option.map_some, Option.toList_some]

end Step

/-- Two stores with the same pages are the same memory. -/
theorem ConfigStore.memory_congr {s s' : ConfigStore} {S : Set UInt8}
    (h : ∀ q ∈ S, s'.readPage q = s.readPage q ∧ s'.readFlashPage q = s.readFlashPage q) :
    s'.memory.AgreeOn s.memory S := h

/-- Replacing a page that the board writes to is nothing to the pages of the host. -/
theorem ConfigStore.memory_withRam_of_notMem (s : ConfigStore) {pageId : UInt8} {S : Set UInt8}
    (h : pageId ∉ S) (data : Bytes) : (s.withRam pageId data).memory.AgreeOn s.memory S :=
  ConfigStore.memory_congr fun _ hq =>
    ⟨ConfigStore.readPage_withRam_of_ne s pageId data fun heq => h (heq ▸ hq), rfl⟩

theorem pinPageId_notMem_hostPages (crypto : Bool) : pinPageId ∉ hostPages crypto :=
  fun h => h.1 rfl

/-- **Every packet means what it should**, to the pages of the host. -/
theorem FirmwareRuntime.Effect.agreeOn {clock : Clock} {packet answer : Packet}
    {r r' : FirmwareRuntime} (he : Effect P clock packet r r' answer) (h : r.Sound P) :
    r'.store.memory.AgreeOn
      (r.store.memory.run (Step.pageOps P ⟨r, ⟨clock, packet⟩, answer, r'⟩))
      (hostPages r.pageCryptoEnabled) := by
  have hidle {src dst : FirmwareRuntime} (hwrite : packet.cmd ≠ .writePage)
      (hburn : packet.cmd ≠ .burnPage) : Step.pageOps P ⟨src, ⟨clock, packet⟩, answer, dst⟩ = [] :=
    Step.pageOps_of_ne hwrite hburn
  cases he with
  | rejected e =>
    rw [Step.pageOps_of_not_ack (by simp)]
    exact .refl _
  | observed live triggerRuntime tables dtcEntries log answer hcmd hnack hpage htrigger =>
    rw [hidle (by rintro hw; rw [hw] at hcmd; cases hcmd)
      (by rintro hw; rw [hw] at hcmd; cases hcmd)]
    exact .refl _
  | pageEncrypted pageId page ciphertext enc hcmd hdec hread hcrypto henc hct =>
    rw [hidle (by simp [hcmd]) (by simp [hcmd])]
    rcases maybePersistPageCryptoCounter_cases (P := P)
      (r := { r with tuneEncryption := some enc.advanceNonce }) h.store
      enc.advanceNonce.state.nonceCounter with ⟨-, heq⟩ | ⟨-, heq⟩
    · rw [heq]
      exact .refl _
    · obtain ⟨record, hrecord, -⟩ := exists_recordPage h.store
      have hpersisted := (persistPageCryptoCounter_spec h.store hrecord
        enc.advanceNonce.state.nonceCounter).2
      rw [heq]
      exact fun q hq => ⟨hpersisted.readPage_other q (hq.2 hcrypto),
        (ConfigStore.flash_congr (hpersisted.slot_other q (hq.2 hcrypto))).1⟩
  | pageWritten pageId data hcmd hc hlen hpin hbase =>
    obtain ⟨old, hold, -⟩ := h.store.exists_readPage pageId hlen
    rw [Step.pageOps_write rfl hcmd hc]
    dsimp only
    rw [ConfigStore.memory_withRam hold]
    exact .refl _
  | basePageWritten data hcmd hc hlen =>
    obtain ⟨old, hold, -⟩ := h.store.exists_readPage basePageId hlen
    rw [Step.pageOps_write rfl hcmd hc]
    dsimp only
    rw [ConfigStore.memory_withRam hold]
    exact .refl _
  | pinPageWritten data pinAssignments hcmd hc hlen hdes =>
    obtain ⟨old, hold, -⟩ :=
      h.store.exists_readPage pinPageId (n := data.length) (by rw [hlen]; rfl)
    rw [Step.pageOps_write rfl hcmd hc]
    dsimp only
    rw [ConfigStore.memory_withRam hold]
    exact .refl _
  | pinPageReverted data reverted e error hcmd hc hlen hdes hser =>
    rw [Step.pageOps_of_not_ack (by simp)]
    exact ConfigStore.memory_withRam_of_notMem _ (pinPageId_notMem_hostPages _) reverted
  | pageBurned pageId page hcmd hdec hread =>
    rw [Step.pageOps_burn rfl hcmd hdec]
    dsimp only
    rw [h.store.memory_burnPage]
    exact .refl _
  | pinsAssigned pinAssignments page hcmd hvalid hser =>
    rw [hidle (by simp [hcmd]) (by simp [hcmd])]
    exact ConfigStore.memory_withRam_of_notMem _ (pinPageId_notMem_hostPages _) page
  | blockAppended block hcmd hcheck =>
    obtain ⟨scratch, heq⟩ := appendFlashBlock_eq (P := P) (r := r) block
    rw [hidle (by simp [hcmd]) (by simp [hcmd]), heq]
    exact .refl _
  | authRejected auth e hcmd | challenged auth challenge hcmd hlen | sessionStarted hcmd
  | pageRead pageId page hcmd hdec hread hplain
  | encryptionFailed pageId page enc e hcmd hread hcrypto henc hct
  | resumeIdle answer hcmd hack hsession hscratch
  | resumed scratch answer hcmd hack hsession hscratch hsize | imageVerified crc hcmd hcheck
  | imageInstalled crc hcmd hcheck | bootConfirmed targetBank hcmd hstate hpending =>
    rw [hidle (by simp [hcmd]) (by simp [hcmd])]
    exact .refl _

/-- A booted board has the pages of the host that its store had. -/
theorem FirmwareRuntime.Booted.agreeOn {simulator : Bool} {s : ConfigStore} {r : FirmwareRuntime}
    (h : Booted P identity simulator s r) :
    r.store.memory.AgreeOn s.memory (hostPages r.pageCryptoEnabled) := by
  intro q hq
  by_cases hrecord : q = pageCryptoNoncePageId
  · have hplain : r.pageCryptoEnabled = false := by
      by_contra hcrypto
      exact hq.2 (by simpa using hcrypto) hrecord
    subst hrecord
    exact h.plain hplain
  · exact ⟨h.readPage_other q hq.1 hrecord, h.readFlashPage_other q hq.1 hrecord⟩

/-- A board of a given identity, which encrypts pages as its identity says. -/
structure FirmwareRuntime.OfIdentity (P : Platform) (identity : FirmwareIdentity)
    (r : FirmwareRuntime) : Prop where
  sound : r.Sound P
  crypto_eq : r.pageCryptoEnabled = pageCryptoEnabledForIdentity identity

theorem FirmwareRuntime.Booted.ofIdentity {s : ConfigStore} {r : FirmwareRuntime}
    (h : Booted P identity false s r) : r.OfIdentity P identity :=
  ⟨h.sound, h.enabled_eq.trans (by simp)⟩

section BoardStep

variable {t : BoardStep} (ht : (board P A identity).Step t) (h : t.src.OfIdentity P identity)
include ht h

theorem board_ofIdentity : t.dst.OfIdentity P identity := by
  cases ht with
  | packet hstep =>
    exact ⟨step_sound hstep h.sound,
      (step_effect hstep h.sound).sameBoard.pageCryptoEnabled_eq.trans h.crypto_eq⟩
  | reboot hboot => exact (booted_of_newWithStore h.sound.store hboot).ofIdentity

/-- **Every step of a board means what it should**, to the pages of the host. -/
theorem BoardStep.agreeOn : t.dst.store.memory.AgreeOn (t.src.store.memory.run (t.pageOps P))
    (hostPages (pageCryptoEnabledForIdentity identity)) := by
  cases ht with
  | @packet r r' input answer hstep =>
    rw [← h.crypto_eq]
    exact (step_effect hstep h.sound).agreeOn (h.sound.tick _)
  | @reboot r r' hboot =>
    have hbooted := booted_of_newWithStore h.sound.store hboot
    rw [← hbooted.ofIdentity.crypto_eq]
    exact hbooted.agreeOn

end BoardStep

/-! ### Writes and burns in a history -/

/-- What a step means, with the writes and burns that it is. -/
theorem BoardStep.pageOps_cases (t : BoardStep) :
    (t.pageOps P = [] ∧ (∀ q, t.written P q = none) ∧ ∀ q, ¬ t.Burns q) ∨
      (∃ pageId data, t.pageOps P = [.stage pageId (some data)] ∧
        (∀ q, t.written P q = if pageId = q then some data else none) ∧ ∀ q, ¬ t.Burns q) ∨
      ∃ pageId, t.pageOps P = [.commit pageId] ∧ (∀ q, t.written P q = none) ∧
        ∀ q, t.Burns q ↔ q = pageId := by
  obtain ⟨src, event, output, dst⟩ := t
  cases event with
  | reboot =>
    refine .inl ⟨rfl, fun _ => rfl, ?_⟩
    rintro q ⟨input, answer, he, -⟩
    cases he
  | packet input =>
    cases output with
    | none =>
      refine .inl ⟨rfl, fun _ => rfl, ?_⟩
      rintro q ⟨input, answer, -, ho, -⟩
      cases ho
    | some answer =>
      have hburns (q : UInt8) : BoardStep.Burns ⟨src, .packet input, some answer, dst⟩ q ↔
          input.packet.cmd = .burnPage ∧ decodePageRequest input.packet.payload = .ok q ∧
            answer.cmd = .ack := by
        constructor
        · rintro ⟨input', answer', he, ho, hburns⟩
          cases he
          cases ho
          exact hburns
        · exact fun hburns => ⟨input, answer, rfl, rfl, hburns⟩
      simp only [hburns, BoardStep.pageOps, BoardStep.written, Step.pageOps]
      by_cases hack : answer.cmd = .ack
      · by_cases hwrite : input.packet.cmd = .writePage
        · cases src.carried P input.packet.payload with
          | none => exact .inl (by simp [hack, hwrite])
          | some carried => exact .inr (.inl ⟨carried.1, carried.2, by simp [hack, hwrite]⟩)
        · by_cases hburn : input.packet.cmd = .burnPage
          · cases hdec : decodePageRequest input.packet.payload with
            | error e => exact .inl (by simp [hack, hburn, Except.toOption])
            | ok pageId =>
              exact .inr (.inr ⟨pageId, by simp [hack, hburn, Except.toOption, eq_comm]⟩)
          · refine .inl ⟨?_, by simp [hwrite], by simp [hburn]⟩
            rw [if_pos hack]
            split <;> simp_all
      · exact .inl (by simp [hack])

theorem BoardStep.commit_mem_pageOps_iff {t : BoardStep} {pageId : UInt8} :
    Op.commit pageId ∈ t.pageOps P ↔ t.Burns pageId := by
  obtain ⟨hops, -, hburns⟩ | ⟨q, data, hops, -, hburns⟩ | ⟨q, hops, -, hburns⟩ :=
    t.pageOps_cases (P := P)
  · simp [hops, hburns]
  · simp [hops, hburns]
  · simp [hops, hburns]

theorem BoardStep.revert_notMem_pageOps (t : BoardStep) (pageId : UInt8) :
    Op.revert pageId ∉ t.pageOps P := by
  obtain ⟨hops, -⟩ | ⟨q, data, hops, -⟩ | ⟨q, hops, -⟩ := t.pageOps_cases (P := P) <;> simp [hops]

theorem BoardStep.pageOps_of_burns {t : BoardStep} {pageId : UInt8} (h : t.Burns pageId) :
    t.pageOps P = [.commit pageId] := by
  obtain ⟨-, -, hburns⟩ | ⟨q, data, -, -, hburns⟩ | ⟨q, hops, -, hburns⟩ :=
    t.pageOps_cases (P := P)
  · exact absurd h (hburns pageId)
  · exact absurd h (hburns pageId)
  · rw [hops, (hburns pageId).mp h]

/-- The values that a run stages in a page are the data that are written to it. -/
theorem filterMap_stagedAt_pageOps (pageId : UInt8) (tr : List BoardStep) :
    (tr.flatMap (BoardStep.pageOps P)).filterMap (Op.stagedAt pageId) =
      (tr.filterMap (BoardStep.written P pageId)).map some := by
  induction tr with
  | nil => rfl
  | cons t tr ih =>
    rw [List.flatMap_cons, List.filterMap_append, ih]
    obtain ⟨hops, hwritten, -⟩ | ⟨q, data, hops, hwritten, -⟩ | ⟨q, hops, hwritten, -⟩ :=
      t.pageOps_cases (P := P)
    · simp [hops, hwritten]
    · by_cases hq : q = pageId <;> simp [hops, hwritten, hq, Op.stagedAt]
    · simp [hops, hwritten, Op.stagedAt]

section Run

variable {s : ConfigStore} {r₀ r : FirmwareRuntime} {tr : List BoardStep} {pageId : UInt8}
  (hs : s.WellFormed P) (hboot : newWithStore P identity false s = some r₀)
  (hpage : pageId ∈ hostPages (pageCryptoEnabledForIdentity identity))
include hs hboot hpage

/-- The pages of the host follow the history of a run. -/
theorem run_agreeOn (hrun : (board P A identity).Run r₀ tr r) :
    r.OfIdentity P identity ∧
      r.store.memory.staged pageId =
        (s.memory.run (tr.flatMap (BoardStep.pageOps P))).staged pageId ∧
      r.store.memory.committed pageId =
        (s.memory.run (tr.flatMap (BoardStep.pageOps P))).committed pageId := by
  have hbooted := booted_of_newWithStore hs hboot
  have hinit := hbooted.agreeOn
  rw [hbooted.ofIdentity.crypto_eq] at hinit
  have hagree := hrun.agreeOn (fun r => r.store.memory) (BoardStep.pageOps P)
    fun t ht hstep => BoardStep.agreeOn hstep
      (hrun.invariant_src hbooted.ofIdentity (fun _ _ => board_ofIdentity) ht)
  exact ⟨hrun.invariant hbooted.ofIdentity fun _ => board_ofIdentity,
    hagree.trans (hinit.run _) pageId hpage⟩

theorem run_readPage (hrun : (board P A identity).Run r₀ tr r) :
    r.store.readPage pageId = (lastWritten P pageId tr).or (s.readPage pageId) := by
  obtain ⟨-, hstaged, -⟩ := run_agreeOn hs hboot hpage hrun
  change r.store.memory.staged pageId = _
  rw [hstaged, StagedMemory.staged_run, filterMap_stagedAt_pageOps, List.getLast?_map, lastWritten]
  · cases (tr.filterMap (BoardStep.written P pageId)).getLast? <;> rfl
  · rintro op hop rfl
    obtain ⟨t, -, ht⟩ := List.mem_flatMap.mp hop
    exact t.revert_notMem_pageOps pageId ht

end Run

/-- **What a page holds, from what the host did**: over any run of packets and reboots, RAM holds
the data of the last acknowledged write, flash the data that RAM held at the last acknowledged burn,
and a page read answers with the data of the last acknowledged write before it. -/
theorem pages_follow_history (hP : AeadLaw P) {s : ConfigStore} (hs : ReachableStore P A s)
    {r₀ r : FirmwareRuntime} {tr : List BoardStep}
    (hboot : newWithStore P identity false s = some r₀)
    (hrun : (board P A identity).Run r₀ tr r) {pageId : UInt8}
    (hpage : pageId ∈ hostPages (pageCryptoEnabledForIdentity identity)) :
    r.store.readPage pageId = (lastWritten P pageId tr).or (s.readPage pageId) ∧
      ((∀ t ∈ tr, ¬ t.Burns pageId) →
        r.store.readFlashPage pageId = s.readFlashPage pageId) ∧
      (∀ pre t post, tr = pre ++ t :: post → t.Burns pageId → (∀ u ∈ post, ¬ u.Burns pageId) →
        r.store.readFlashPage pageId = (lastWritten P pageId pre).or (s.readPage pageId)) ∧
      ∀ pre t post input answer, tr = pre ++ t :: post → t.event = .packet input →
        t.output = some answer → input.packet.cmd = .readPage →
        decodePageRequest input.packet.payload = .ok pageId → answer.cmd = .pageData →
        ∃ page, (lastWritten P pageId pre).or (s.readPage pageId) = some page ∧
          t.dst.Carries P answer.payload pageId page := by
  have hwf := hs.wellFormed
  obtain ⟨-, -, hcommitted⟩ := run_agreeOn hwf hboot hpage hrun
  have hburns {tr : List BoardStep} (h : ∀ u ∈ tr, ¬ u.Burns pageId) :
      ∀ op ∈ tr.flatMap (BoardStep.pageOps P), op ≠ .commit pageId := by
    rintro op hop rfl
    obtain ⟨t, ht, hmem⟩ := List.mem_flatMap.mp hop
    exact h t ht (BoardStep.commit_mem_pageOps_iff.mp hmem)
  refine ⟨run_readPage hwf hboot hpage hrun, fun h => ?_, fun pre t post htr ht hpost => ?_,
    fun pre t post input answer htr he ho hcmd hdec hdata => ?_⟩
  · change r.store.memory.committed pageId = _
    rw [hcommitted, StagedMemory.committed_run (hburns h)]
    rfl
  · subst htr
    obtain ⟨-, hstaged, -⟩ := run_agreeOn hwf hboot hpage hrun.split_mem.1
    change r.store.memory.committed pageId = _
    rw [hcommitted, List.flatMap_append, List.flatMap_cons, BoardStep.pageOps_of_burns ht,
      List.singleton_append, StagedMemory.committed_run_of_commit (hburns hpost), ← hstaged]
    exact run_readPage hwf hboot hpage hrun.split_mem.1
  · subst htr
    obtain ⟨hpre, hstep, -⟩ := hrun.split_mem
    obtain ⟨hsrc, -⟩ := run_agreeOn hwf hboot hpage hpre
    obtain ⟨src, event, output, dst⟩ := t
    cases he
    cases ho
    cases hstep with
    | packet hstep =>
      obtain ⟨page, hread, hc, -⟩ := answered_readPage hP hstep hsrc.sound hcmd hdec hdata
      exact ⟨page, (run_readPage hwf hboot hpage hpre).symm.trans hread, hc⟩

/-- A write of a page that the firmware does not parse. -/
theorem exists_written (A : Catalogue) (identity : FirmwareIdentity) {r : FirmwareRuntime}
    (h : r.Sound P) (hplain : r.pageCryptoEnabled = false) {pageId : UInt8} {data : Bytes}
    (hlen : pageLengthAt pageId.toNat = some data.length) (hpin : pageId ≠ pinPageId)
    (hbase : pageId ≠ basePageId) :
    ∃ t : BoardStep, (board P A identity).Step t ∧ t.src = r ∧ t.dst.Sound P ∧
      t.event = .packet (writePageInput P pageId data) ∧ t.written P pageId = some data := by
  have hc : r.Carries P (writePageInput P pageId data).packet.payload pageId data :=
    carries_encodePagePayload hplain pageId (Nat.le_trans (pageLengthAt_le hlen) (by decide))
  have hw : r.handlePacket P A ⟨0, 0, none⟩ (writePageInput P pageId data).packet = _ :=
    (h.tick 0).writePage_of_ne hc hlen hpin hbase
  have ht : (firmware P A).Step ⟨r, writePageInput P pageId data, _, _⟩ := hw
  refine ⟨_, .packet ht, rfl, step_sound ht h, rfl, ?_⟩
  simp only [BoardStep.written, writePageInput, and_self, if_true]
  have hcarried : r.carried P (encodePagePayload P pageId data) = some (pageId, data) :=
    carried_eq_some_iff.mpr hc
  rw [hcarried]
  simp

/-- The first board has its last page written and burned, and is switched off and on: the data is
still there. -/
theorem pages_follow_history_ecuV1 :
    ∃ r₀ r tr, newWithStore referencePlatform .ecuV1 false (.newZeroed referencePlatform) =
        some r₀ ∧
      (board referencePlatform referenceCatalogue .ecuV1).Run r₀ tr r ∧
      tr.map Transition.event = [.packet (writePageInput referencePlatform 9 (recordPage 5)),
        .packet (burnPageInput 9), .reboot] ∧
      r.store.readPage 9 = some (recordPage 5) ∧
      r.store.readFlashPage 9 = some (recordPage 5) := by
  obtain ⟨r₀, hr₀, hplain, -⟩ := exists_new_ecuV1 referencePlatform
  have h₀ := (booted_of_newWithStore ConfigStore.wellFormed_newZeroed hr₀).sound
  have hlen : pageLengthAt (9 : UInt8).toNat = some (recordPage 5).length := by
    rw [length_recordPage_eq]
    rfl
  obtain ⟨t₁, ht₁, rfl, h₁, he₁, hwritten⟩ := exists_written referenceCatalogue .ecuV1 h₀ hplain
    hlen (by decide) (by decide)
  obtain ⟨page, hpage, -⟩ := h₁.store.exists_readPage 9 (n := 256) rfl
  obtain ⟨hack, -⟩ := of_burnPage (A := referenceCatalogue) h₁ hpage
  have ht₂ := step_of (P := referencePlatform) (A := referenceCatalogue) t₁.dst (burnPageInput 9)
  obtain ⟨r, hr, -⟩ := exists_newWithStore .ecuV1 false (step_sound ht₂ h₁).store
  have hburn : (board referencePlatform referenceCatalogue .ecuV1).Step _ :=
    BoardStep.Possible.packet ht₂
  have hreboot : (board referencePlatform referenceCatalogue .ecuV1).Step _ :=
    BoardStep.Possible.reboot hr
  have hrun := TransitionSystem.Run.cons ht₁
    (TransitionSystem.Run.cons hburn (TransitionSystem.Run.single hreboot))
  have hhost : 9 ∈ hostPages (pageCryptoEnabledForIdentity .ecuV1) := ⟨by decide, by decide⟩
  obtain ⟨hram, -, hflash, -⟩ :=
    pages_follow_history referencePlatform_aead .newZeroed hr₀ hrun hhost
  have hnone {src dst : FirmwareRuntime} {answer : Packet} : BoardStep.written referencePlatform 9
      ⟨src, .packet (burnPageInput 9), some answer, dst⟩ = none := by
    simp [BoardStep.written, burnPageInput]
  refine ⟨t₁.src, r, _, hr₀, hrun, by simp [he₁, Step.of], ?_, ?_⟩
  · rw [hram, lastWritten, List.filterMap_cons_some hwritten, List.filterMap_cons_none hnone]
    rfl
  · rw [hflash [t₁] _ _ rfl ⟨_, _, rfl, rfl, rfl, rfl, congrArg Packet.cmd hack⟩, lastWritten,
      List.filterMap_cons_some hwritten]
    · rfl
    · rintro u hu ⟨input, answer, he, -⟩
      obtain rfl := List.mem_singleton.mp hu
      cases he

end StEcu
