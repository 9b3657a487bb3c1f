import StEcu.Transport.Installation

/-!
# The lifecycle of an update

The A/B update seen on its own: a state machine over the bank record and the session flag, with one
transition for every way in which the commands and the tick of the health window move them. The
runtime refines it step by step, so that its invariants and the account of what becomes of installed
candidates are proved about this machine.

A candidate leaves its health window in three ways: it is confirmed, its window expires, or a new
flash session drops it.

## Main definitions

* `FirmwareUpdate.Expires`: the window ends at this tick.
* `UpdateEffect`: the transitions of the machine after the tick.
* `FirmwareUpdate.Consistent`: the invariant of banks, state, timer and session flag.
* `Step.installs`, `Step.commits`, `Step.rollsBack`, `Step.drops`: what a step does to a candidate.

## Main results

* `FirmwareRuntime.Effect.updateEffect`: the runtime refines the machine.
* `update_consistent`: the invariant, and where the active bank changes.
* `update_window_exits`: how a step leaves the health window, and the account over a run.
-/

namespace StEcu

variable {P : Platform} {A : Catalogue}

/-! ### The machine -/

namespace FirmwareUpdate

/-- The health window is open and ends at a tick. -/
def Expires (u : FirmwareUpdate) (now : ℕ) : Prop :=
  u.state = .healthWindow ∧ u.healthWindowRemainingMs ≤ u.elapsedMs now

instance (u : FirmwareUpdate) (now : ℕ) : Decidable (u.Expires now) := by
  unfold Expires
  infer_instance

/-- The other bank. -/
def otherBank (bank : UInt8) : UInt8 := if bank = updateBankA then updateBankB else updateBankA

/-- The invariant of the bank record beside a session flag. -/
structure Consistent (u : FirmwareUpdate) (sessionActive : Bool) : Prop where
  bank_eq : u.activeBank = u.lastGoodBank
  bank_mem : u.activeBank = updateBankA ∨ u.activeBank = updateBankB
  window : u.state = .healthWindow → u.pendingBank = some (otherBank u.activeBank) ∧
    0 < u.healthWindowRemainingMs ∧ u.healthWindowRemainingMs ≤ updateHealthWindowMs
  outside : u.state ≠ .healthWindow → u.pendingBank = none ∧ u.healthWindowRemainingMs = 0
  session : sessionActive = true → u.state = .receiving ∨ u.state = .verified
  noSession : sessionActive = false → u.state = .idle ∨ u.state = .healthWindow ∨
    u.state = .committed ∨ u.state = .rolledBack

variable {u : FirmwareUpdate} {active : Bool}

/-- The tick of an open window, in one case distinction. -/
theorem Consistent.tickUpdateHealthWindow_eq (h : u.Consistent active)
    (hw : u.state = .healthWindow) (now : ℕ) :
    u.tickUpdateHealthWindow now =
      if u.Expires now then u.rollbackPendingUpdate
      else { u with
        lastTick := some now
        healthWindowRemainingMs := u.healthWindowRemainingMs - u.elapsedMs now } := by
  obtain ⟨-, hpos, -⟩ := h.window hw
  have hexp : u.Expires now ↔ u.healthWindowRemainingMs ≤ u.elapsedMs now :=
    and_iff_right hw
  rw [tickUpdateHealthWindow, if_neg (not_ne_iff.mpr hw)]
  simp only [hexp]
  by_cases hzero : u.elapsedMs now = 0
  · have hlt : ¬ u.healthWindowRemainingMs ≤ 0 := by
      rw [UInt32.not_le]
      exact hpos
    simp [hzero, hlt]
  · simp only [hzero, if_false]
    rfl

/-- An open window has no session beside it. -/
theorem Consistent.active_eq_false (h : u.Consistent active) (hw : u.state = .healthWindow) :
    active = false := by
  cases active with
  | false => rfl
  | true =>
    rcases h.session rfl with hs | hs
    · rw [hs] at hw
      cases hw
    · rw [hs] at hw
      cases hw

theorem Consistent.tick (h : u.Consistent active) (now : ℕ) :
    (u.tickUpdateHealthWindow now).Consistent active := by
  by_cases hw : u.state = .healthWindow
  · obtain ⟨hpending, hpos, hle⟩ := h.window hw
    obtain rfl := h.active_eq_false hw
    rw [h.tickUpdateHealthWindow_eq hw]
    split
    · exact
        { bank_eq := rfl
          bank_mem := by
            rw [show u.rollbackPendingUpdate.activeBank = u.activeBank from h.bank_eq.symm]
            exact h.bank_mem
          window := fun hw' => by cases hw'
          outside := fun _ => ⟨rfl, rfl⟩
          session := fun hs => by cases hs
          noSession := fun _ => .inr (.inr (.inr rfl)) }
    next hexp =>
      have hlt : u.elapsedMs now < u.healthWindowRemainingMs := by
        rw [← UInt32.not_le]
        exact fun hle' => hexp ⟨hw, hle'⟩
      have hsub : (u.healthWindowRemainingMs - u.elapsedMs now).toNat =
          u.healthWindowRemainingMs.toNat - (u.elapsedMs now).toNat :=
        UInt32.toNat_sub_of_le _ _ (UInt32.le_of_lt hlt)
      rw [UInt32.lt_iff_toNat_lt] at hlt
      rw [UInt32.le_iff_toNat_le] at hle
      refine ⟨h.bank_eq, h.bank_mem, fun _ => ⟨hpending, ?_, ?_⟩, fun hne => absurd hw hne,
        h.session, h.noSession⟩
      · rw [UInt32.lt_iff_toNat_lt, hsub]
        change 0 < _
        omega
      · rw [UInt32.le_iff_toNat_le, hsub]
        omega
  · rwa [tickUpdateHealthWindow, if_pos hw]

end FirmwareUpdate

open FirmwareUpdate

/-- The transitions of the machine on a bank record and a session flag, after the tick. -/
inductive UpdateEffect (now : ℕ) (packet : Packet) (u : FirmwareUpdate) :
    Bool → FirmwareUpdate → Bool → Packet → Prop
  /-- The packet is no acknowledged command of the lifecycle. -/
  | kept (active : Bool) (answer : Packet)
      (hinstall : packet.cmd = .flashComplete → answer.cmd ≠ .ack)
      (hcommit : packet.cmd = .confirmBootHealthy → answer.cmd ≠ .ack)
      (hstart : packet.cmd = .enterBootloader → answer ≠ ack) :
      UpdateEffect now packet u active u active answer
  /-- A session starts, whatever the state. -/
  | started (active : Bool) (hcmd : packet.cmd = .enterBootloader) :
      UpdateEffect now packet u active u.beginReceiving true ack
  /-- Within a session, the transfer goes on. -/
  | moved (state : FirmwareUpdateState) (answer : Packet)
      (hstate : state = .receiving ∨ state = .verified) (hinstall : packet.cmd ≠ .flashComplete)
      (hcommit : packet.cmd ≠ .confirmBootHealthy) (hstart : packet.cmd ≠ .enterBootloader) :
      UpdateEffect now packet u true { u with state } true answer
  /-- The session ends with its image installed. -/
  | installed (crc : UInt32) (size : ℕ) (hcmd : packet.cmd = .flashComplete) :
      UpdateEffect now packet u true (u.beginUpdateHealthWindow crc size now) false ack
  | committed (active : Bool) (bank : UInt8) (hcmd : packet.cmd = .confirmBootHealthy)
      (hstate : u.state = .healthWindow) (hpending : u.pendingBank = some bank) :
      UpdateEffect now packet u active (u.committedTo bank) active ack

namespace UpdateEffect

variable {now : ℕ} {packet answer : Packet} {u u' : FirmwareUpdate} {active active' : Bool}

theorem otherBank_mem (bank : UInt8) :
    otherBank bank = updateBankA ∨ otherBank bank = updateBankB := by
  unfold otherBank
  split
  · exact .inr rfl
  · exact .inl rfl

/-- **The transitions of the machine keep its invariant.** -/
theorem consistent (he : UpdateEffect now packet u active u' active' answer)
    (h : u.Consistent active) : u'.Consistent active' := by
  cases he with
  | kept => exact h
  | started active hcmd =>
    exact
      { bank_eq := h.bank_eq
        bank_mem := h.bank_mem
        window := fun hw => by cases hw
        outside := fun _ => ⟨rfl, rfl⟩
        session := fun _ => .inl rfl
        noSession := fun hs => by cases hs }
  | moved state answer hstate =>
    have hne : u.state ≠ .healthWindow := by
      intro hw
      cases h.active_eq_false hw
    obtain ⟨hpending, hremaining⟩ := h.outside hne
    refine ⟨h.bank_eq, h.bank_mem, fun hw => ?_, fun _ => ⟨hpending, hremaining⟩,
      fun _ => hstate, fun hs => by cases hs⟩
    rcases hstate with rfl | rfl
    · cases hw
    · cases hw
  | installed crc size hcmd =>
    exact
      { bank_eq := h.bank_eq
        bank_mem := h.bank_mem
        window := fun _ => ⟨rfl, (by decide : 0 < updateHealthWindowMs), UInt32.le_refl _⟩
        outside := fun hne => absurd rfl hne
        session := fun hs => by cases hs
        noSession := fun _ => .inr (.inl rfl) }
  | committed active bank hcmd hstate hpending =>
    obtain rfl := h.active_eq_false hstate
    obtain rfl := Option.some.inj (hpending.symm.trans (h.window hstate).1)
    exact
      { bank_eq := rfl
        bank_mem := otherBank_mem u.activeBank
        window := fun hw => by cases hw
        outside := fun _ => ⟨rfl, rfl⟩
        session := fun hs => by cases hs
        noSession := fun _ => .inr (.inr (.inl rfl)) }

end UpdateEffect

/-! ### The runtime refines the machine -/

theorem FirmwareRuntime.Effect.updateEffect {clock : Clock} {packet answer : Packet}
    {r r' : FirmwareRuntime} (he : FirmwareRuntime.Effect P clock packet r r' answer) :
    UpdateEffect clock.now packet r.update r.flash.sessionActive r'.update r'.flash.sessionActive
      answer := by
  cases he with
  | rejected e =>
    exact .kept _ _ (by simp) (by simp) fun _ h => by simpa using congrArg Packet.cmd h
  | observed live triggerRuntime tables dtcEntries log answer hcmd =>
    refine .kept _ _ ?_ ?_ ?_ <;> intro h <;> rw [h] at hcmd <;> cases hcmd
  | authRejected auth e hcmd =>
    exact .kept _ _ (by simp) (by simp) fun _ h => by simpa using congrArg Packet.cmd h
  | challenged auth challenge hcmd hlen =>
    refine .kept _ _ (by simp [hcmd]) (by simp [hcmd]) fun _ h => ?_
    obtain rfl : challenge = [] := congrArg Packet.payload h
    cases hlen
  | sessionStarted hcmd => exact .started _ hcmd
  | pageEncrypted pageId page ciphertext enc hcmd =>
    obtain ⟨store, next, heq⟩ := FirmwareRuntime.maybePersistPageCryptoCounter_eq (P := P)
      (r := { r with tuneEncryption := some enc.advanceNonce }) enc.advanceNonce.state.nonceCounter
    rw [heq]
    exact .kept _ _ (by simp [hcmd]) (by simp [hcmd]) (by simp [hcmd])
  | resumed scratch answer hcmd hack hsession =>
    rw [hsession]
    exact .moved _ _ (.inl rfl) (by simp [hcmd]) (by simp [hcmd]) (by simp [hcmd])
  | blockAppended block hcmd hcheck =>
    obtain ⟨scratch, heq⟩ := FirmwareRuntime.appendFlashBlock_eq (P := P) (r := r) block
    rw [heq]
    dsimp only [FlashTransfer.appendBlock]
    rw [(FirmwareRuntime.checkFlashBlock_eq_ok hcheck).1]
    exact .moved _ _ (.inl rfl) (by simp [hcmd]) (by simp [hcmd]) (by simp [hcmd])
  | imageVerified crc hcmd hcheck =>
    dsimp only [FirmwareRuntime.markFlashVerified, FlashTransfer.markVerified]
    rw [(FirmwareRuntime.checkFlashVerify_eq_ok hcheck).1]
    exact .moved _ _ (.inr rfl) (by simp [hcmd]) (by simp [hcmd]) (by simp [hcmd])
  | imageInstalled crc hcmd hcheck =>
    rw [FirmwareRuntime.sessionActive_of_checkFlashComplete hcheck]
    exact .installed crc _ hcmd
  | bootConfirmed targetBank hcmd hstate hpending => exact .committed _ _ hcmd hstate hpending
  | encryptionFailed | pageRead | pageWritten | basePageWritten | pinPageWritten | pinPageReverted
  | pageBurned | pinsAssigned | resumeIdle =>
    exact .kept _ _ (by simp_all) (by simp_all) (by simp_all)

/-! ### Steps and runs -/

namespace Step

/-- A candidate is installed. -/
def installs (t : Step) : Bool := t.event.packet.cmd = .flashComplete ∧ t.output.cmd = .ack

/-- The candidate is confirmed. -/
def commits (t : Step) : Bool := t.event.packet.cmd = .confirmBootHealthy ∧ t.output.cmd = .ack

/-- The bank record after the tick of the step. -/
def ticked (t : Step) : FirmwareUpdate := t.src.update.tickUpdateHealthWindow t.event.clock.tick

/-- The tick rolls the candidate back. -/
def rollsBack (t : Step) : Bool :=
  t.src.update.state = .healthWindow ∧ t.ticked.state = .rolledBack

/-- A session starts on a window that outlasted the tick. -/
def drops (t : Step) : Bool :=
  t.ticked.state = .healthWindow ∧ t.event.packet.cmd = .enterBootloader ∧ t.output = ack

end Step

namespace FirmwareUpdate

/-- The number of candidates on trial. -/
def onTrial (u : FirmwareUpdate) : ℕ := if u.state = .healthWindow then 1 else 0

variable {u : FirmwareUpdate} {active : Bool}

theorem onTrial_of_eq (h : u.state = .healthWindow) : u.onTrial = 1 := if_pos h

/-- A tick leaves a window alone but for its timer, or rolls its candidate back. -/
theorem Consistent.tick_cases (h : u.Consistent active) (hw : u.state = .healthWindow) (now : ℕ) :
    (u.Expires now ∧ u.tickUpdateHealthWindow now = u.rollbackPendingUpdate) ∨
      ¬ u.Expires now ∧ u.tickUpdateHealthWindow now =
        { u with
          lastTick := some now
          healthWindowRemainingMs := u.healthWindowRemainingMs - u.elapsedMs now } := by
  have heq := h.tickUpdateHealthWindow_eq hw now
  by_cases hexp : u.Expires now
  · exact .inl ⟨hexp, heq.trans (if_pos hexp)⟩
  · exact .inr ⟨hexp, heq.trans (if_neg hexp)⟩

/-- Every candidate on trial before a tick is rolled back or still on trial after it. -/
theorem Consistent.tick_balance (h : u.Consistent active) (now : ℕ) :
    u.onTrial = (decide (u.state = .healthWindow ∧
        (u.tickUpdateHealthWindow now).state = .rolledBack)).toNat +
      (u.tickUpdateHealthWindow now).onTrial := by
  by_cases hw : u.state = .healthWindow
  · rcases h.tick_cases hw now with ⟨-, heq⟩ | ⟨-, heq⟩
    · simp [heq, hw, onTrial, rollbackPendingUpdate]
    · simp [heq, hw, onTrial]
  · simp [tickUpdateHealthWindow, hw, onTrial]

end FirmwareUpdate

namespace UpdateEffect

variable {now : ℕ} {packet answer : Packet} {u u' : FirmwareUpdate} {active active' : Bool}

/-- After the tick, candidates appear by installation, and disappear by confirmation or by the start
of a session. -/
theorem balance (he : UpdateEffect now packet u active u' active' answer)
    (h : u.Consistent active) :
    u.onTrial + (decide (packet.cmd = .flashComplete ∧ answer.cmd = .ack)).toNat =
      (decide (packet.cmd = .confirmBootHealthy ∧ answer.cmd = .ack)).toNat +
        (decide (u.state = .healthWindow ∧ packet.cmd = .enterBootloader ∧ answer = ack)).toNat +
        u'.onTrial := by
  cases he with
  | kept active answer hinstall hcommit hstart =>
    have h₁ : ¬ (packet.cmd = .flashComplete ∧ answer.cmd = .ack) := fun h => hinstall h.1 h.2
    have h₂ : ¬ (packet.cmd = .confirmBootHealthy ∧ answer.cmd = .ack) := fun h => hcommit h.1 h.2
    have h₃ : ¬ (u.state = .healthWindow ∧ packet.cmd = .enterBootloader ∧ answer = ack) :=
      fun h => hstart h.2.1 h.2.2
    simp [h₁, h₂, h₃]
  | started active hcmd =>
    by_cases hw : u.state = .healthWindow <;> simp [hcmd, hw, onTrial, beginReceiving]
  | moved state answer hstate hinstall hcommit hstart =>
    have hw : u.state ≠ .healthWindow := fun hw => by cases h.active_eq_false hw
    have hw' : state ≠ .healthWindow := by
      obtain rfl | rfl := hstate <;> decide
    simp [hinstall, hcommit, hstart, onTrial, hw, hw']
  | installed crc size hcmd =>
    have hw : u.state ≠ .healthWindow := fun hw => by cases h.active_eq_false hw
    simp [hcmd, onTrial, hw, beginUpdateHealthWindow]
  | committed active bank hcmd hstate hpending => simp [hcmd, onTrial, hstate, committedTo]

end UpdateEffect

namespace UpdateEffect

variable {now : ℕ} {packet answer : Packet} {u u' : FirmwareUpdate} {active active' : Bool}

/-- A packet that opens a window installs a candidate. -/
theorem installs_of_opens (he : UpdateEffect now packet u active u' active' answer)
    (h : u.state ≠ .healthWindow) (h' : u'.state = .healthWindow) :
    packet.cmd = .flashComplete ∧ answer = ack := by
  cases he with
  | kept => exact absurd h' h
  | moved state answer hstate =>
    obtain rfl | rfl := hstate <;> cases h'
  | installed crc size hcmd => exact ⟨hcmd, rfl⟩
  | started | committed => cases h'

/-- A packet keeps the active bank, or confirms the candidate on trial. -/
theorem activeBank_cases (he : UpdateEffect now packet u active u' active' answer) :
    u'.activeBank = u.activeBank ∨ packet.cmd = .confirmBootHealthy ∧ answer = ack ∧
      u.state = .healthWindow ∧ u'.state = .committed := by
  cases he with
  | committed active bank hcmd hstate => exact .inr ⟨hcmd, rfl, hstate, rfl⟩
  | _ => exact .inl rfl

end UpdateEffect

section Runs

variable {r₀ r : FirmwareRuntime} {tr : List Step} {t : Step}

/-- After the tick, a step of the runtime is a transition of the machine. -/
theorem step_updateEffect (ht : (firmware P A).Step t) (h : t.src.Sound P) :
    UpdateEffect t.event.clock.now t.event.packet t.ticked t.src.flash.sessionActive t.dst.update
      t.dst.flash.sessionActive t.output :=
  (step_effect ht h).updateEffect

/-- The invariant of a runtime with the invariant of its bank record. -/
structure FirmwareRuntime.UpdateSound (P : Platform) (r : FirmwareRuntime) : Prop where
  sound : r.Sound P
  consistent : r.update.Consistent r.flash.sessionActive

theorem step_updateSound (ht : (firmware P A).Step t) (h : t.src.UpdateSound P) :
    t.dst.UpdateSound P :=
  ⟨step_sound ht h.sound, (step_updateEffect ht h.sound).consistent (h.consistent.tick _)⟩

theorem run_updateSound (hrun : (firmware P A).Run r₀ tr r) (h : r₀.UpdateSound P) :
    r.UpdateSound P :=
  hrun.invariant h fun _ => step_updateSound

/-- A runtime that was just built is idle on the first bank. -/
theorem updateSound_of_booted {identity : FirmwareIdentity} {simulator : Bool} {s : ConfigStore}
    (h : FirmwareRuntime.Booted P identity simulator s r) : r.UpdateSound P := by
  refine ⟨h.sound, ?_⟩
  obtain ⟨counter, hflash⟩ := h.flash_eq
  rw [h.update_eq, hflash]
  exact
    { bank_eq := rfl
      bank_mem := .inl rfl
      window := fun hw => by cases hw
      outside := fun _ => ⟨rfl, rfl⟩
      session := fun hs => by cases hs
      noSession := fun _ => .inl rfl }

theorem Reachable.updateSound (h : Reachable P A r) : r.UpdateSound P := by
  obtain ⟨identity, simulator, s, r₀, tr, hs, hboot, hrun⟩ := h.exists_run
  exact run_updateSound hrun
    (updateSound_of_booted (FirmwareRuntime.booted_of_newWithStore hs.wellFormed hboot))

/-- The tick of a step never moves the active bank. -/
theorem ticked_activeBank (h : t.src.UpdateSound P) :
    t.ticked.activeBank = t.src.update.activeBank := by
  by_cases hw : t.src.update.state = .healthWindow
  · rcases h.consistent.tick_cases hw t.event.clock.tick with ⟨-, heq⟩ | ⟨-, heq⟩
    · rw [Step.ticked, heq]
      exact h.consistent.bank_eq.symm
    · rw [Step.ticked, heq]
  · rw [Step.ticked, tickUpdateHealthWindow, if_pos hw]

/-- A step keeps the active bank, or confirms the candidate on trial. -/
theorem step_activeBank_cases (ht : (firmware P A).Step t) (h : t.src.UpdateSound P) :
    t.dst.update.activeBank = t.src.update.activeBank ∨
      t.event.packet.cmd = .confirmBootHealthy ∧ t.output = ack ∧
        t.ticked.state = .healthWindow ∧ t.dst.update.state = .committed := by
  rw [← ticked_activeBank h]
  exact (step_updateEffect ht h.sound).activeBank_cases

/-- **An open window goes back to an installation**, on the active bank of that time. -/
theorem exists_installation (hrun : (firmware P A).Run r₀ tr r) (h : r₀.UpdateSound P)
    (h₀ : r₀.update.state ≠ .healthWindow) (hr : r.update.state = .healthWindow) :
    ∃ pre c post, tr = pre ++ c :: post ∧ c.event.packet.cmd = .flashComplete ∧ c.output = ack ∧
      (∀ u ∈ post, u.src.update.state = .healthWindow ∧ u.dst.update.state = .healthWindow) ∧
      r.update.activeBank = c.src.update.activeBank := by
  obtain ⟨pre, c, post, rfl, hsrc, hdst, hpost⟩ :=
    hrun.exists_onset (φ := fun r => r.update.state = .healthWindow) h₀ hr
  obtain ⟨hpre, hc, hrest⟩ := hrun.split_mem
  have hcSrc := run_updateSound hpre h
  have hcDst := step_updateSound hc hcSrc
  have hticked : Step.ticked c = c.src.update := by
    rw [Step.ticked, tickUpdateHealthWindow, if_pos hsrc]
  obtain ⟨hcmd, hack⟩ :=
    (step_updateEffect hc hcSrc.sound).installs_of_opens (by rwa [hticked]) hdst
  have hbank : c.dst.update.activeBank = c.src.update.activeBank := by
    rcases step_activeBank_cases hc hcSrc with heq | ⟨hcmd', -⟩
    · exact heq
    · rw [hcmd] at hcmd'
      cases hcmd'
  refine ⟨pre, c, post, rfl, hcmd, hack, hpost, Eq.trans ?_ hbank⟩
  -- a confirmation would have closed the window
  refine hrest.observe_eq (fun r => r.update.activeBank) fun u hu hstep => ?_
  rcases step_activeBank_cases hstep
    (hrest.invariant_src hcDst (fun _ _ => step_updateSound) hu) with heq | ⟨-, -, -, hcommitted⟩
  · exact heq
  · rw [(hpost u hu).2] at hcommitted
    cases hcommitted

/-- **Banks, window and session stay consistent** over any packets and any passage of time. The
active bank changes only by an acknowledged confirmation, and a rollback ends on the bank that was
active before the candidate was installed. -/
theorem update_consistent {identity : FirmwareIdentity} {simulator : Bool} {s : ConfigStore}
    (hs : ReachableStore P A s)
    (hboot : FirmwareRuntime.newWithStore P identity simulator s = some r₀)
    (hrun : (firmware P A).Run r₀ tr r) :
    r.update.Consistent r.flash.sessionActive ∧
      (r.update.state = .healthWindow ↔ ∃ bank, r.update.pendingBank = some bank) ∧
      (∀ t ∈ tr, t.dst.update.activeBank ≠ t.src.update.activeBank →
        t.event.packet.cmd = .confirmBootHealthy ∧ t.output = ack) ∧
      ∀ pre t post, tr = pre ++ t :: post → t.rollsBack = true →
        ∃ before c window, pre = before ++ c :: window ∧
          c.event.packet.cmd = .flashComplete ∧ c.output = ack ∧
          (∀ u ∈ window, u.src.update.state = .healthWindow ∧
            u.dst.update.state = .healthWindow) ∧
          t.dst.update.activeBank = c.src.update.activeBank := by
  have hbooted := FirmwareRuntime.booted_of_newWithStore hs.wellFormed hboot
  have h₀ := updateSound_of_booted hbooted
  have hidle : r₀.update.state ≠ .healthWindow := by
    rw [hbooted.update_eq]
    decide
  have hr := (run_updateSound hrun h₀).consistent
  refine ⟨hr, ⟨fun hw => ⟨_, (hr.window hw).1⟩, ?_⟩, fun t ht hne => ?_, ?_⟩
  · rintro ⟨bank, hpending⟩
    by_contra hw
    rw [(hr.outside hw).1] at hpending
    cases hpending
  · rcases step_activeBank_cases (hrun.step_of_mem ht)
      (hrun.invariant_src h₀ (fun _ _ => step_updateSound) ht) with heq | ⟨hcmd, hack, -⟩
    · exact absurd heq hne
    · exact ⟨hcmd, hack⟩
  · rintro pre t post rfl hback
    obtain ⟨hpre, ht, -⟩ := hrun.split_mem
    have hsrc := run_updateSound hpre h₀
    obtain ⟨hw, hrolled⟩ : t.src.update.state = .healthWindow ∧ t.ticked.state = .rolledBack := by
      simpa [Step.rollsBack] using hback
    obtain ⟨before, c, window, rfl, hcmd, hack, hwindow, hbank⟩ :=
      exists_installation hpre h₀ hidle hw
    refine ⟨before, c, window, rfl, hcmd, hack, hwindow, Eq.trans ?_ hbank⟩
    rcases step_activeBank_cases ht hsrc with heq | ⟨-, -, hopen, -⟩
    · exact heq
    · rw [hrolled] at hopen
      cases hopen

/-- The first board, left alone for half a minute after an installation: the next packet finds the
candidate rolled back, on the bank that was active before. -/
theorem update_consistent_ecuV1 :
    ∃ c t : Step, c.event.packet.cmd = .flashComplete ∧ c.output = ack ∧ t.rollsBack = true ∧
      t.dst.update.activeBank = c.src.update.activeBank := by
  obtain ⟨r₀, pre, c, hr₀, hrun, hc, -, -, -, hupdate⟩ :=
    exists_installed_ecuV1 referencePlatform referenceCatalogue ⟨0, 0, none⟩
  let t := Step.of referencePlatform referenceCatalogue c.dst
    ⟨⟨30000 * nanosPerMilli, 30000 * nanosPerMilli, none⟩, ⟨.ping, []⟩⟩
  have hback : t.rollsBack = true := by
    rw [Step.rollsBack, decide_eq_true_eq]
    change c.dst.update.state = _ ∧
      (c.dst.update.tickUpdateHealthWindow (30000 * nanosPerMilli)).state = _
    rw [hupdate]
    decide
  have hrun' := (hrun.append (.single hc)).append (.single
    (show (firmware referencePlatform referenceCatalogue).Step t from step_of _ _))
  obtain ⟨before, c', window, -, hcmd, hack, -, hbank⟩ :=
    (update_consistent .newZeroed hr₀ hrun').2.2.2 _ t [] rfl hback
  exact ⟨c', t, hcmd, hack, hback, hbank⟩

/-! ### How a window ends -/

/-- What a step makes of an open health window. -/
inductive WindowExit (t : Step) : Prop
  /-- The candidate stays on trial. -/
  | open (hexp : ¬ t.src.update.Expires t.event.clock.tick)
      (hstate : t.dst.update.state = .healthWindow)
      (hpending : t.dst.update.pendingBank = t.src.update.pendingBank)
  | committed (hexp : ¬ t.src.update.Expires t.event.clock.tick)
      (hcmd : t.event.packet.cmd = .confirmBootHealthy) (hack : t.output = ack)
      (hstate : t.dst.update.state = .committed)
      (hbank : t.src.update.pendingBank = some t.dst.update.activeBank)
  | rolledBack (hexp : t.src.update.Expires t.event.clock.tick)
      (hstate : t.dst.update.state = .rolledBack)
      (hbank : t.dst.update.activeBank = t.src.update.lastGoodBank)
      (hcounter : t.dst.update.rollbackCounter = t.src.update.rollbackCounter.saturatingAdd 1)
  /-- A new session takes over; the candidate is dropped, or rolled back just before. -/
  | receiving (hcmd : t.event.packet.cmd = .enterBootloader) (hack : t.output = ack)
      (hstate : t.dst.update.state = .receiving) (hpending : t.dst.update.pendingBank = none)
      (hbank : t.dst.update.activeBank = t.src.update.lastGoodBank)
      (hcounter : t.dst.update.rollbackCounter =
        if t.src.update.Expires t.event.clock.tick then
          t.src.update.rollbackCounter.saturatingAdd 1
        else t.src.update.rollbackCounter)

theorem step_windowExit (ht : (firmware P A).Step t) (h : t.src.UpdateSound P)
    (hw : t.src.update.state = .healthWindow) : WindowExit t := by
  have hactive := h.consistent.active_eq_false hw
  have he := step_updateEffect ht h.sound
  rcases h.consistent.tick_cases hw t.event.clock.tick with ⟨hexp, htick⟩ | ⟨hexp, htick⟩
  · rw [Step.ticked, htick, hactive] at he
    generalize hu : t.dst.update = u', t.dst.flash.sessionActive = active',
      hack : t.output = answer at he
    cases he with
    | kept => exact .rolledBack hexp (by rw [hu]; rfl) (by rw [hu]; rfl) (by rw [hu]; rfl)
    | started active hcmd =>
      exact .receiving hcmd hack (by rw [hu]; rfl) (by rw [hu]; rfl) (by rw [hu]; rfl)
        (by rw [hu, if_pos hexp]; rfl)
    | committed active bank hcmd hstate => cases hstate
  · rw [Step.ticked, htick, hactive] at he
    generalize hu : t.dst.update = u', t.dst.flash.sessionActive = active',
      hack : t.output = answer at he
    cases he with
    | kept => exact .open hexp (by rw [hu]; exact hw) (by rw [hu])
    | started active hcmd =>
      exact .receiving hcmd hack (by rw [hu]; rfl) (by rw [hu]; rfl)
        (by rw [hu]; exact h.consistent.bank_eq) (by rw [hu, if_neg hexp]; rfl)
    | committed active bank hcmd hstate hpending =>
      exact .committed hexp hcmd hack (by rw [hu]; rfl) (by rw [hu]; exact hpending)

theorem step_balance (ht : (firmware P A).Step t) (h : t.src.UpdateSound P) :
    t.src.update.onTrial + t.installs.toNat =
      ([Step.commits, Step.rollsBack, Step.drops].map fun leave => (leave t).toNat).sum +
        t.dst.update.onTrial := by
  have htick : t.src.update.onTrial = t.rollsBack.toNat + t.ticked.onTrial :=
    h.consistent.tick_balance t.event.clock.tick
  have hrest : t.ticked.onTrial + t.installs.toNat =
      t.commits.toNat + t.drops.toNat + t.dst.update.onTrial :=
    (step_updateEffect ht h.sound).balance (h.consistent.tick _)
  simp only [List.map_cons, List.map_nil, List.sum_cons, List.sum_nil]
  omega

/-- **How a window ends**: by a confirmation before it expires, by expiry, which rolls back, or by
the start of a session, which drops the candidate; nothing else ends it. So over a run every
candidate installed is confirmed, rolled back, dropped or still on trial. -/
theorem update_window_exits :
    (∀ t : Step, Reachable P A t.src → (firmware P A).Step t →
      t.src.update.state = .healthWindow → WindowExit t) ∧
    ∀ {identity simulator s r₀ tr r}, ReachableStore P A s →
      FirmwareRuntime.newWithStore P identity simulator s = some r₀ →
      (firmware P A).Run r₀ tr r →
      tr.countP Step.installs = tr.countP Step.commits + tr.countP Step.rollsBack +
        tr.countP Step.drops + r.update.onTrial := by
  refine ⟨fun t hr ht hw => step_windowExit ht hr.updateSound hw, ?_⟩
  intro identity simulator s r₀ tr r hs hboot hrun
  have hbooted := FirmwareRuntime.booted_of_newWithStore hs.wellFormed hboot
  have h₀ := updateSound_of_booted hbooted
  have hzero : r₀.update.onTrial = 0 := by
    rw [hbooted.update_eq]
    rfl
  have hbalance := hrun.countP_balance (fun r => r.update.onTrial) Step.installs
    [Step.commits, Step.rollsBack, Step.drops]
    fun t ht hstep => step_balance hstep (hrun.invariant_src h₀ (fun _ _ => step_updateSound) ht)
  simp only [List.map_cons, List.map_nil, List.sum_cons, List.sum_nil] at hbalance
  omega

end Runs

/-- On the first board with a candidate on trial, a new session at once: the window is left for a
state that is neither committed nor rolled back, and no rollback is counted. -/
theorem update_window_left_by_enterBootloader :
    ∃ t : Step, Reachable referencePlatform referenceCatalogue t.src ∧
      (firmware referencePlatform referenceCatalogue).Step t ∧
      t.event.packet = ⟨.enterBootloader, []⟩ ∧ t.src.update.state = .healthWindow ∧
      ¬ t.src.update.Expires t.event.clock.tick ∧ t.dst.update.state = .receiving ∧
      t.dst.update.pendingBank = none ∧
      t.dst.update.rollbackCounter = t.src.update.rollbackCounter := by
  obtain ⟨r₀, pre, c, hr₀, hrun, hc, -, -, hauth, hupdate⟩ :=
    exists_installed_ecuV1 referencePlatform referenceCatalogue ⟨0, 0, none⟩
  have hexp : ¬ c.dst.update.Expires 0 := by
    rw [hupdate]
    decide
  have hstep : c.dst.handlePacket referencePlatform referenceCatalogue ⟨0, 0, none⟩
      ⟨.enterBootloader, []⟩ = _ := FirmwareRuntime.handlePacket_enterBootloader hauth
  refine ⟨⟨c.dst, ⟨⟨0, 0, none⟩, ⟨.enterBootloader, []⟩⟩, ack, _⟩,
    ⟨_, _, _, r₀, _, .newZeroed, hr₀, hrun.append (.single hc)⟩, hstep, rfl, ?_, hexp, rfl, rfl, ?_⟩
  · rw [hupdate]
    rfl
  · change (c.dst.update.tickUpdateHealthWindow 0).rollbackCounter = c.dst.update.rollbackCounter
    rw [hupdate]
    decide

/-- On the first board with a candidate on trial: what a new session makes of the window, and the
account of the run so far. -/
theorem update_window_exits_ecuV1 :
    ∃ (tr : List Step) (t : Step), t.src.update.state = .healthWindow ∧ WindowExit t ∧
      tr.countP Step.installs = tr.countP Step.commits + tr.countP Step.rollsBack +
        tr.countP Step.drops + 1 := by
  obtain ⟨r₀, pre, c, hr₀, hrun, hc, -, -, -, hupdate⟩ :=
    exists_installed_ecuV1 referencePlatform referenceCatalogue ⟨0, 0, none⟩
  have hrun' := hrun.append (.single hc)
  have hstate : c.dst.update.state = .healthWindow := by
    rw [hupdate]
    rfl
  obtain ⟨hexit, hcount⟩ := update_window_exits (P := referencePlatform) (A := referenceCatalogue)
  have hr := hcount .newZeroed hr₀ hrun'
  rw [onTrial_of_eq hstate] at hr
  exact ⟨_, Step.of referencePlatform referenceCatalogue c.dst
    ⟨⟨0, 0, none⟩, ⟨.enterBootloader, []⟩⟩, hstate,
    hexit _ ⟨_, _, _, r₀, _, .newZeroed, hr₀, hrun'⟩ (step_of _ _) hstate, hr⟩

end StEcu
