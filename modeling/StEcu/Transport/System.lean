import StEcu.Foundation.TransitionSystem
import StEcu.Transport.Effect

/-!
# The runtime as a transition system

A runtime takes one transition for each packet, at the clock readings of that packet. Its runs
start from a runtime built from some configuration store; a store comes from the operations of
`ConfigStore` and from switching off a board after any run.

The invariant of a runtime holds in every reachable state.

## Main definitions

* `Input`, `firmware`: a packet with its clock readings; the transition system.
* `ReachableStore`, `Reachable`: the stores and the runtimes that can come about.

## Main results

* `FirmwareRuntime.Effect.sound`: no effect of a packet breaks the invariant.
* `ReachableStore.wellFormed`, `Reachable.sound`.
-/

namespace StEcu

/-- A packet and the clock readings while it is handled. -/
structure Input where
  clock : Clock
  packet : Packet

/-- The transition system of a runtime. -/
def firmware (P : Platform) (A : Catalogue) : TransitionSystem FirmwareRuntime Input Packet :=
  .ofFun fun r input => r.handlePacket P A input.clock input.packet

/-- The step function of the transition system. -/
abbrev handle (P : Platform) (A : Catalogue) (r : FirmwareRuntime) (input : Input) :
    FirmwareRuntime × Packet :=
  r.handlePacket P A input.clock input.packet

/-- A step of a runtime: the state before, the packet with its clock, the answer, the state
after. -/
abbrev Step := Transition FirmwareRuntime Input Packet

/-- The step that a runtime takes on an input. -/
def Step.of (P : Platform) (A : Catalogue) (r : FirmwareRuntime) (input : Input) : Step :=
  ⟨r, input, (r.handlePacket P A input.clock input.packet).2,
    (r.handlePacket P A input.clock input.packet).1⟩

namespace FirmwareRuntime

variable {P : Platform} {r : FirmwareRuntime}

/-! ### Preservation of the invariant -/

theorem Sound.tick (h : r.Sound P) (now : ℕ) : (r.tickUpdateHealthWindow now).Sound P :=
  ⟨h.store, h.pins, h.trigger, h.crypto⟩

/-- Replacing a page that is neither the pin-assignment page nor page 0. -/
theorem Sound.withRam (h : r.Sound P) {pageId : UInt8} {data : Bytes}
    (hlen : pageLengthAt pageId.toNat = some data.length) (hpin : pageId ≠ pinPageId)
    (hbase : pageId ≠ basePageId) :
    ({ r with store := r.store.withRam pageId data } : FirmwareRuntime).Sound P :=
  h.withStore (h.store.withRam hlen) (ConfigStore.readPage_withRam_of_ne _ _ _ hpin.symm)
    (ConfigStore.readPage_withRam_of_ne _ _ _ hbase.symm)

/-- Replacing the pin-assignment page by one that stands for the assignments put in force. -/
theorem Sound.withPinPage (h : r.Sound P) {data : Bytes}
    {pinAssignments : List ResolvedPinAssignment} (hlen : data.length = 512)
    (hdes : deserializeAssignmentsFromPage data = .ok pinAssignments) :
    ({ r with store := r.store.withRam pinPageId data, pinAssignments } :
      FirmwareRuntime).Sound P where
  store := h.store.withRam (by rw [hlen]; rfl)
  pins := by
    obtain ⟨page, hpage, -⟩ := h.pins
    exact ⟨data, ConfigStore.readPage_withRam_self _ _ _ hpage, hdes⟩
  trigger page hpage := by
    have hne : basePageId ≠ pinPageId := by decide
    exact h.trigger page ((ConfigStore.readPage_withRam_of_ne _ _ _ hne).symm.trans hpage)
  crypto := h.crypto

/-- Whether or not the counter is persisted, the pages that the runtime mirrors stay. -/
theorem Sound.maybePersist (h : r.Sound P) (counter : UInt64) :
    (r.maybePersistPageCryptoCounter P counter).Sound P := by
  rcases maybePersistPageCryptoCounter_cases h.store counter with ⟨-, heq⟩ | ⟨-, heq⟩
  · rw [heq]
    exact h
  · obtain ⟨page, hpage, -⟩ := exists_recordPage h.store
    obtain ⟨-, hpersisted⟩ := persistPageCryptoCounter_spec h.store hpage counter
    rw [heq]
    have hs := h.withStore hpersisted.wellFormed (hpersisted.readPage_other pinPageId (by decide))
      (hpersisted.readPage_other basePageId (by decide))
    exact ⟨hs.store, hs.pins, hs.trigger, hs.crypto⟩

/-- Appending a block changes the transfer, the update state and perhaps the scratch. -/
theorem appendFlashBlock_eq (block : Bytes) : ∃ scratch,
    r.appendFlashBlock P block =
      { r with
        flash := r.flash.appendBlock block
        update := { r.update with state := .receiving }
        store := { r.store with flashResumeScratch := scratch } } := by
  rw [appendFlashBlock, maybePersistFlashResumeScratch, persistFlashResumeScratch]
  split
  · split
    · exact ⟨r.store.flashResumeScratch, rfl⟩
    · exact ⟨_, rfl⟩
  · exact ⟨r.store.flashResumeScratch, rfl⟩

@[simp] theorem flash_appendFlashBlock (block : Bytes) :
    (r.appendFlashBlock P block).flash = r.flash.appendBlock block := by
  obtain ⟨scratch, heq⟩ := appendFlashBlock_eq (P := P) (r := r) block
  rw [heq]

/-- The tick does nothing outside the health window. -/
theorem tickUpdateHealthWindow_of_ne (h : r.update.state ≠ .healthWindow) (now : ℕ) :
    r.tickUpdateHealthWindow now = r := by
  rw [tickUpdateHealthWindow, FirmwareUpdate.tickUpdateHealthWindow, if_pos h]

/-- **No effect of a packet breaks the invariant.** -/
theorem Effect.sound {clock : Clock} {packet : Packet} {r' : FirmwareRuntime} {answer : Packet}
    (he : Effect P clock packet r r' answer) (h : r.Sound P) : r'.Sound P := by
  cases he with
  | rejected e => exact h
  | observed live triggerRuntime tables dtcEntries log answer hcmd hnack hpage htrigger =>
    exact ⟨h.store, h.pins, fun page hp => htrigger.trans (h.trigger page hp), h.crypto⟩
  | authRejected auth e hcmd => exact ⟨h.store, h.pins, h.trigger, h.crypto⟩
  | challenged auth challenge hcmd hlen => exact ⟨h.store, h.pins, h.trigger, h.crypto⟩
  | sessionStarted hcmd => exact ⟨h.store, h.pins, h.trigger, h.crypto⟩
  | pageRead pageId page hcmd hdec hread hplain => exact h
  | pageEncrypted pageId page ciphertext enc hcmd hdec hread hcrypto henc hct =>
    obtain ⟨enc', henc', hbelongs⟩ := h.crypto hcrypto
    obtain rfl := Option.some.inj (henc.symm.trans henc')
    have hs : ({ r with tuneEncryption := some enc.advanceNonce } : FirmwareRuntime).Sound P :=
      ⟨h.store, h.pins, h.trigger, fun _ => ⟨_, rfl, hbelongs.advanceNonce⟩⟩
    exact hs.maybePersist _
  | encryptionFailed pageId page enc e hcmd hread hcrypto henc =>
    obtain ⟨enc', henc', hbelongs⟩ := h.crypto hcrypto
    obtain rfl := Option.some.inj (henc.symm.trans henc')
    exact ⟨h.store, h.pins, h.trigger, fun _ => ⟨_, rfl, hbelongs.advanceNonce⟩⟩
  | pageWritten pageId data hcmd hc hlen hpin hbase => exact h.withRam hlen hpin hbase
  | basePageWritten data hcmd hc hlen =>
    have hne : pinPageId ≠ basePageId := by decide
    obtain ⟨old, hold, -⟩ := h.store.exists_readPage _ hlen
    refine ⟨h.store.withRam hlen, ?_, fun p hp => ?_, h.crypto⟩
    · obtain ⟨pinPage, hpinPage, hdes⟩ := h.pins
      exact ⟨pinPage, (ConfigStore.readPage_withRam_of_ne _ _ _ hne).trans hpinPage, hdes⟩
    · have hself := ConfigStore.readPage_withRam_self r.store basePageId data hold
      obtain rfl := Option.some.inj (hself.symm.trans hp)
      rfl
  | pinPageWritten data pinAssignments hcmd hc hlen hdes => exact h.withPinPage hlen hdes
  | pinPageReverted data reverted e error hcmd hc hlen hdes hser =>
    exact h.withPinPage (length_of_serializeAssignmentsToPage hser)
      (deserialize_serialize h.validPins hser)
  | pageBurned pageId page hcmd hdec hread =>
    obtain ⟨-, hram, -⟩ := h.store.burnPage_spec hread
    exact h.withStore (h.store.burn pageId) (by rw [ConfigStore.readPage, hram]; rfl)
      (by rw [ConfigStore.readPage, hram]; rfl)
  | pinsAssigned pinAssignments page hcmd hvalid hser =>
    exact h.withPinPage (length_of_serializeAssignmentsToPage hser)
      (deserialize_serialize hvalid hser)
  | resumeIdle answer hcmd hack hsession hscratch => exact h
  | resumed scratch answer hcmd hack hsession hscratch hsize =>
    exact ⟨h.store, h.pins, h.trigger, h.crypto⟩
  | blockAppended block hcmd hcheck =>
    obtain ⟨scratch, heq⟩ := appendFlashBlock_eq (P := P) (r := r) block
    rw [heq]
    exact ⟨h.store.withScratch scratch, h.pins, h.trigger, h.crypto⟩
  | imageVerified crc hcmd hcheck => exact ⟨h.store, h.pins, h.trigger, h.crypto⟩
  | imageInstalled crc hcmd hcheck => exact ⟨h.store.withScratch none, h.pins, h.trigger, h.crypto⟩
  | bootConfirmed targetBank hcmd hstate hpending => exact ⟨h.store, h.pins, h.trigger, h.crypto⟩

/-- The settings of a board, which are made when it is built. -/
structure SameBoard (r r' : FirmwareRuntime) : Prop where
  identity_eq : r'.identity = r.identity
  pageCryptoEnabled_eq : r'.pageCryptoEnabled = r.pageCryptoEnabled
  flashSignatureRequired_eq : r'.flashSignatureRequired = r.flashSignatureRequired
  bootloaderAuthRequired_eq : r'.bootloaderAuthRequired = r.bootloaderAuthRequired

theorem Effect.sameBoard {clock : Clock} {packet : Packet} {r' : FirmwareRuntime} {answer : Packet}
    (he : Effect P clock packet r r' answer) : SameBoard r r' := by
  cases he with
  | pageEncrypted pageId page ciphertext enc hcmd hdec hread hcrypto henc hct =>
    obtain ⟨store, next, heq⟩ := maybePersistPageCryptoCounter_eq (P := P)
      (r := { r with tuneEncryption := some enc.advanceNonce }) enc.advanceNonce.state.nonceCounter
    rw [heq]
    exact ⟨rfl, rfl, rfl, rfl⟩
  | blockAppended block hcmd hcheck =>
    obtain ⟨scratch, heq⟩ := appendFlashBlock_eq (P := P) (r := r) block
    rw [heq]
    exact ⟨rfl, rfl, rfl, rfl⟩
  | _ => exact ⟨rfl, rfl, rfl, rfl⟩

end FirmwareRuntime

/-! ### Steps and runs -/

variable {P : Platform} {A : Catalogue}

theorem step_iff {t : Step} : (firmware P A).Step t ↔
    t.src.handlePacket P A t.event.clock t.event.packet = (t.dst, t.output) := Iff.rfl

theorem step_of (r : FirmwareRuntime) (input : Input) :
    (firmware P A).Step (Step.of P A r input) := step_iff.mpr Prod.mk.eta.symm

/-- A step of a sound runtime is an effect on the runtime after the tick. -/
theorem step_effect {t : Step} (ht : (firmware P A).Step t) (h : t.src.Sound P) :
    FirmwareRuntime.Effect P t.event.clock t.event.packet
      (t.src.tickUpdateHealthWindow t.event.clock.tick) t.dst t.output := by
  have heffect : FirmwareRuntime.Effect P t.event.clock t.event.packet _ _ _ :=
    FirmwareRuntime.dispatch_effect A (h.tick t.event.clock.tick)
  have heq := step_iff.mp ht
  rw [FirmwareRuntime.handlePacket] at heq
  rwa [heq] at heffect

theorem step_sound {t : Step} (ht : (firmware P A).Step t) (h : t.src.Sound P) : t.dst.Sound P :=
  (step_effect ht h).sound (h.tick _)

theorem run_sound {r₀ r : FirmwareRuntime} {tr : List Step} (hrun : (firmware P A).Run r₀ tr r)
    (h : r₀.Sound P) : r.Sound P :=
  hrun.invariant h fun _ => step_sound

/-- Every step of a run from a sound runtime is an effect. -/
theorem run_effect {r₀ r : FirmwareRuntime} {tr : List Step} (hrun : (firmware P A).Run r₀ tr r)
    (h : r₀.Sound P) {t : Step} (ht : t ∈ tr) :
    t.src.Sound P ∧ FirmwareRuntime.Effect P t.event.clock t.event.packet
      (t.src.tickUpdateHealthWindow t.event.clock.tick) t.dst t.output := by
  have hsrc := hrun.invariant_src h (fun _ _ => step_sound) ht
  exact ⟨hsrc, step_effect (hrun.step_of_mem ht) hsrc⟩

/-- The settings of a board are the same throughout a run. -/
theorem run_sameBoard {r₀ r : FirmwareRuntime} {tr : List Step}
    (hrun : (firmware P A).Run r₀ tr r) (h : r₀.Sound P) : r₀.SameBoard r := by
  refine (hrun.invariant (I := fun r => r.Sound P ∧ r₀.SameBoard r) ⟨h, ⟨rfl, rfl, rfl, rfl⟩⟩
    fun t ht hi => ⟨step_sound ht hi.1, ?_⟩).2
  obtain ⟨h₁, h₂, h₃, h₄⟩ := (step_effect ht hi.1).sameBoard
  exact ⟨h₁.trans hi.2.identity_eq, h₂.trans hi.2.pageCryptoEnabled_eq,
    h₃.trans hi.2.flashSignatureRequired_eq, h₄.trans hi.2.bootloaderAuthRequired_eq⟩

/-! ### What can come about -/

/-- The stores that can come about: by the operations of the store, and by switching off a board
after any run. -/
inductive ReachableStore (P : Platform) (A : Catalogue) : ConfigStore → Prop
  | newZeroed : ReachableStore P A (.newZeroed P)
  | write {s s' pageId data} (h : ReachableStore P A s) (hw : s.writePage pageId data = .ok s') :
      ReachableStore P A s'
  | burn {s} (h : ReachableStore P A s) (pageId : UInt8) :
      ReachableStore P A (s.burnPage P pageId).1
  | burnAll {s} (h : ReachableStore P A s) : ReachableStore P A (s.burnAllDirty P).1
  | restore {s s' pageId} (h : ReachableStore P A s)
      (hr : s.restorePageFromFlash pageId = .ok s') : ReachableStore P A s'
  | importImage {s} (h : ReachableStore P A s) (pageId : UInt8) (rawImage : Bytes) :
      ReachableStore P A (s.importPersistedPageImage P pageId rawImage).1
  | writeScratch {s} (h : ReachableStore P A s) (scratch : FlashResumeScratch) :
      ReachableStore P A (s.writeFlashResumeScratch scratch)
  | clearScratch {s} (h : ReachableStore P A s) : ReachableStore P A s.clearFlashResumeScratch
  | powerCycle {s identity simulator r₀ tr r} (h : ReachableStore P A s)
      (hboot : FirmwareRuntime.newWithStore P identity simulator s = some r₀)
      (hrun : (firmware P A).Run r₀ tr r) : ReachableStore P A r.store

/-- The runtimes that can come about: built from a store that can, and after any packets. -/
structure Reachable (P : Platform) (A : Catalogue) (r : FirmwareRuntime) : Prop where
  exists_run : ∃ identity simulator s r₀ tr, ReachableStore P A s ∧
    FirmwareRuntime.newWithStore P identity simulator s = some r₀ ∧ (firmware P A).Run r₀ tr r

theorem ReachableStore.wellFormed {s : ConfigStore} (h : ReachableStore P A s) :
    s.WellFormed P := by
  induction h with
  | newZeroed => exact ConfigStore.wellFormed_newZeroed
  | write _ hw ih => exact ih.write hw
  | burn _ pageId ih => exact ih.burn pageId
  | burnAll _ ih => exact ih.burnAll
  | restore _ hr ih => exact ih.restore hr
  | importImage _ pageId rawImage ih => exact ih.importImage pageId rawImage
  | writeScratch _ scratch ih => exact ih.withScratch (some scratch)
  | clearScratch _ ih => exact ih.withScratch none
  | powerCycle _ hboot hrun ih =>
    exact (run_sound hrun (FirmwareRuntime.booted_of_newWithStore ih hboot).sound).store

theorem Reachable.sound {r : FirmwareRuntime} (h : Reachable P A r) : r.Sound P := by
  obtain ⟨identity, simulator, s, r₀, tr, hs, hboot, hrun⟩ := h.exists_run
  exact run_sound hrun (FirmwareRuntime.booted_of_newWithStore hs.wellFormed hboot).sound

/-- A runtime built from a store that can come about can come about. -/
theorem Reachable.of_boot {identity : FirmwareIdentity} {simulator : Bool} {s : ConfigStore}
    {r : FirmwareRuntime} (hs : ReachableStore P A s)
    (hboot : FirmwareRuntime.newWithStore P identity simulator s = some r) : Reachable P A r :=
  ⟨identity, simulator, s, r, [], hs, hboot, .nil⟩

/-- A board with an erased store boots. -/
theorem exists_reachable_new (identity : FirmwareIdentity) (simulator : Bool) :
    ∃ r, FirmwareRuntime.new P identity simulator = some r ∧ Reachable P A r := by
  obtain ⟨r, hr, -⟩ := FirmwareRuntime.exists_newWithStore identity simulator
    (ConfigStore.wellFormed_newZeroed (P := P))
  exact ⟨r, hr, .of_boot .newZeroed hr⟩

theorem Reachable.step {t : Step} (h : Reachable P A t.src) (ht : (firmware P A).Step t) :
    Reachable P A t.dst := by
  obtain ⟨identity, simulator, s, r₀, tr, hs, hboot, hrun⟩ := h.exists_run
  exact ⟨identity, simulator, s, r₀, tr ++ [t], hs, hboot,
    hrun.append (TransitionSystem.Run.single ht)⟩

/-- The store of a runtime that can come about can come about. -/
theorem Reachable.store {r : FirmwareRuntime} (h : Reachable P A r) :
    ReachableStore P A r.store := by
  obtain ⟨identity, simulator, s, r₀, tr, hs, hboot, hrun⟩ := h.exists_run
  exact .powerCycle hs hboot hrun

end StEcu
