import StEcu.Transport.EncryptedBoard

/-!
# Bootloader authentication

On a board that requires it, a flash session starts only by answering a challenge. What a packet
does to the authentication state and to the session flag is one relation; the history of a challenge
and the gate in front of the flash commands follow from it.

## Main definitions

* `BootloaderAuth.Consistent`: the invariant of the retry interval, the failures and the lockout.
* `AuthEffect`: what a packet does to the authentication state and to the session flag.
* `Step.issues`, `Step.evaluates`, `Step.consumes`, `Step.Authenticated`.

## Main results

* `step_authEffect`: every step has one of these effects.
* `session_only_authenticated`: a session starts only by the right answer to the challenge issued
  last, and without such an answer the flash commands are rejected.
-/

namespace StEcu

/-- The code with which an answer rejects its packet. -/
def Packet.nackCode (answer : Packet) : Option UInt8 :=
  if answer.cmd = .nack then answer.payload.head? else none

@[simp] theorem nackCode_nack (code : RuntimeNackCode) (reason : String) :
    (nack code reason).nackCode = some code.code := rfl

/-! ### The authentication state -/

namespace BootloaderAuth

/-- There are at most three failures, the third of which locks, for a minute from the last
attempt. -/
structure Consistent (auth : BootloaderAuth) : Prop where
  unlocked : auth.lockoutUntil = none → auth.failedAttempts.toNat < 3
  locked : ∀ deadline, auth.lockoutUntil = some deadline → auth.failedAttempts.toNat = 3 ∧ ∃ last,
    auth.lastAttemptAt = some last ∧ deadline = last + bootloaderAuthLockoutMs * nanosPerMilli

variable {auth : BootloaderAuth} {now : ℕ}

theorem consistent_default : ({} : BootloaderAuth).Consistent :=
  ⟨fun _ => by decide, fun _ h => nomatch h⟩

/-- The state that the commands look at: the one before, or one without lockout and attempts. -/
theorem refreshWindow_cases (h : auth.isLocked now = false) :
    (auth.lockoutUntil = none ∧ auth.refreshWindow now = auth) ∨
      ∃ deadline, auth.lockoutUntil = some deadline ∧ deadline ≤ now ∧
        auth.refreshWindow now =
          { auth with lockoutUntil := none, failedAttempts := 0, lastAttemptAt := none } := by
  rw [isLocked] at h
  rw [refreshWindow]
  cases hd : auth.lockoutUntil with
  | none => exact .inl ⟨rfl, rfl⟩
  | some deadline =>
    rw [hd] at h
    have hle : deadline ≤ now := Nat.le_of_not_lt (of_decide_eq_false h)
    exact .inr ⟨deadline, rfl, hle, if_pos hle⟩

theorem refreshWindow_of_locked (h : auth.isLocked now = true) : auth.refreshWindow now = auth := by
  rw [isLocked] at h
  rw [refreshWindow]
  cases hd : auth.lockoutUntil with
  | none => rfl
  | some deadline =>
    rw [hd] at h
    exact if_neg (Nat.not_le.mpr (of_decide_eq_true h))

@[simp] theorem isLocked_refreshWindow :
    (auth.refreshWindow now).isLocked now = auth.isLocked now := by
  cases h : auth.isLocked now with
  | true => rw [refreshWindow_of_locked h, h]
  | false =>
    rcases refreshWindow_cases h with ⟨-, heq⟩ | ⟨-, -, -, heq⟩
    · rw [heq, h]
    · rw [heq]
      rfl

@[simp] theorem pendingChallenge_refreshWindow :
    (auth.refreshWindow now).pendingChallenge = auth.pendingChallenge := by
  unfold refreshWindow
  split
  · split <;> rfl
  · rfl

theorem lockoutUntil_refreshWindow (h : auth.isLocked now = false) :
    (auth.refreshWindow now).lockoutUntil = none := by
  rcases refreshWindow_cases h with ⟨hnone, heq⟩ | ⟨-, -, -, heq⟩
  · rwa [heq]
  · rw [heq]

theorem Consistent.refreshWindow (h : auth.Consistent) (now : ℕ) :
    (auth.refreshWindow now).Consistent := by
  cases hlocked : auth.isLocked now with
  | true => rwa [refreshWindow_of_locked hlocked]
  | false =>
    rcases refreshWindow_cases hlocked with ⟨-, heq⟩ | ⟨-, -, -, heq⟩
    · rwa [heq]
    · rw [heq]
      exact ⟨fun _ => Nat.zero_lt_succ 2, fun _ h => nomatch h⟩

/-- The challenge does not matter. -/
theorem Consistent.withPending (h : auth.Consistent) (pending : Option Bytes) :
    ({ auth with pendingChallenge := pending } : BootloaderAuth).Consistent :=
  ⟨h.unlocked, h.locked⟩

/-- A lockout that is over has outlasted the retry interval. -/
theorem Consistent.isRateLimited_eq (h : auth.Consistent) (hlocked : auth.isLocked now = false)
    (hlimited : (auth.refreshWindow now).isRateLimited now = false) :
    auth.isRateLimited now = false := by
  rcases refreshWindow_cases hlocked with ⟨-, heq⟩ | ⟨deadline, hdeadline, hle, -⟩
  · rwa [heq] at hlimited
  · obtain ⟨-, last, hlast, rfl⟩ := h.locked deadline hdeadline
    rw [isRateLimited, hlast]
    refine decide_eq_false ?_
    simp only [bootloaderAuthLockoutMs, bootloaderAuthRetryIntervalMs, nanosPerMilli] at hle ⊢
    omega

theorem pendingChallenge_recordFailure (auth : BootloaderAuth) (now : ℕ) :
    (auth.recordFailure now).pendingChallenge = auth.pendingChallenge ∨
      (auth.recordFailure now).pendingChallenge = none := by
  rw [recordFailure]
  dsimp only
  split_ifs
  · exact .inr rfl
  · exact .inl rfl

/-- A failure counts one up, and locks if it is the third. -/
theorem Consistent.recordFailure_spec (h : auth.Consistent) (hunlocked : auth.lockoutUntil = none)
    (now : ℕ) :
    (auth.recordFailure now).Consistent ∧
      (auth.recordFailure now).failedAttempts.toNat = auth.failedAttempts.toNat + 1 ∧
      (auth.recordFailure now).lastAttemptAt = some now := by
  have hlt := h.unlocked hunlocked
  have hcount : (auth.failedAttempts.saturatingAdd 1).toNat = auth.failedAttempts.toNat + 1 := by
    rw [UInt8.toNat_saturatingAdd]
    change min (auth.failedAttempts.toNat + 1) 0xFF = _
    omega
  rw [recordFailure]
  dsimp only
  split_ifs with hthird
  · have hle : 3 ≤ auth.failedAttempts.toNat + 1 := hcount ▸ UInt8.le_iff_toNat_le.mp hthird
    exact ⟨⟨fun h => (nomatch h), fun deadline h =>
      ⟨by dsimp only; omega, now, rfl, (Option.some.inj h).symm⟩⟩, hcount, rfl⟩
  · have hlt' : ¬ 3 ≤ auth.failedAttempts.toNat + 1 := fun hle =>
      hthird (UInt8.le_iff_toNat_le.mpr (hcount ▸ hle))
    refine ⟨⟨fun _ => by dsimp only; omega, fun deadline h => ?_⟩, hcount, rfl⟩
    rw [hunlocked] at h
    cases h

end BootloaderAuth

/-! ### What a packet does -/

/-- What a packet does to the authentication state and the session flag of a board that requires
authentication. -/
inductive AuthEffect (P : Platform) (identity : FirmwareIdentity) (now : ℕ) (packet : Packet)
    (auth : BootloaderAuth) (active : Bool) : BootloaderAuth → Bool → Packet → Prop
  /-- A packet of another command may drop the challenge, and starts no session. -/
  | other (pending : Option Bytes) (active' : Bool) (answer : Packet)
      (hcmd : packet.cmd ≠ .enterBootloader)
      (hpending : pending = auth.pendingChallenge ∨ pending = none)
      (hactive : active' = true → active = true) :
      AuthEffect P identity now packet auth active { auth with pendingChallenge := pending } active'
        answer
  | locked (reason : String) (hcmd : packet.cmd = .enterBootloader)
      (hlocked : auth.isLocked now = true) :
      AuthEffect P identity now packet auth active auth active (nack .lockActive reason)
  | challenged (counter : UInt64) (challenge : Bytes) (hcmd : packet.cmd = .enterBootloader)
      (hlocked : auth.isLocked now = false) (hempty : packet.payload = [])
      (hlen : challenge.length = bootloaderChallengeLen) :
      AuthEffect P identity now packet auth active
        { auth.refreshWindow now with counter, pendingChallenge := some challenge } active
        ⟨.ack, challenge⟩
  | rateLimited (reason : String) (hcmd : packet.cmd = .enterBootloader)
      (hlocked : auth.isLocked now = false) (hne : packet.payload ≠ []) :
      AuthEffect P identity now packet auth active (auth.refreshWindow now) active
        (nack .rateLimitExceeded reason)
  /-- A response is evaluated and fails; one of the full length uses up the challenge. -/
  | failed (pending : Option Bytes) (code : RuntimeNackCode) (reason : String)
      (hcmd : packet.cmd = .enterBootloader) (hlocked : auth.isLocked now = false)
      (hne : packet.payload ≠ [])
      (hlimited : (auth.refreshWindow now).isRateLimited now = false)
      (hcode : code ≠ .lockActive ∧ code ≠ .rateLimitExceeded)
      (hpending : pending = none ∨
        pending = auth.pendingChallenge ∧ packet.payload.length ≠ bootloaderResponseLen) :
      AuthEffect P identity now packet auth active
        (({ auth.refreshWindow now with pendingChallenge := pending } :
          BootloaderAuth).recordFailure now) active (nack code reason)
  | succeeded (challenge : Bytes) (hcmd : packet.cmd = .enterBootloader)
      (hlocked : auth.isLocked now = false)
      (hlimited : (auth.refreshWindow now).isRateLimited now = false)
      (hlen : packet.payload.length = bootloaderResponseLen)
      (hpending : auth.pendingChallenge = some challenge)
      (htag : computeBootloaderAuthTag P identity challenge = some packet.payload) :
      AuthEffect P identity now packet auth active (auth.refreshWindow now).recordSuccess true ack

namespace FirmwareRuntime

variable {P : Platform} {clock : Clock} {packet : Packet} {r : FirmwareRuntime}

theorem authenticate_authEffect (clock : Clock) (hcmd : packet.cmd = .enterBootloader) :
    AuthEffect P r.identity clock.now packet r.auth r.flash.sessionActive
      ({ r with auth := r.auth.refreshWindow clock.now }.authenticate P clock
        packet.payload).1.auth
      ({ r with auth := r.auth.refreshWindow clock.now }.authenticate P clock
        packet.payload).1.flash.sessionActive
      ({ r with auth := r.auth.refreshWindow clock.now }.authenticate P clock
        packet.payload).2 := by
  rw [authenticate]
  dsimp only
  rw [BootloaderAuth.isLocked_refreshWindow]
  split
  next hlocked =>
    rw [BootloaderAuth.refreshWindow_of_locked hlocked]
    exact .locked _ hcmd hlocked
  next hlocked =>
  have hlocked := Bool.eq_false_iff.mpr hlocked
  split
  next hempty =>
    exact .challenged _ _ hcmd hlocked (List.isEmpty_iff.mp hempty)
      (BootloaderAuth.length_issueChallenge ..)
  next hempty =>
  have hne : packet.payload ≠ [] := fun h => hempty (List.isEmpty_iff.mpr h)
  split
  · exact .rateLimited _ hcmd hlocked hne
  next hlimited =>
  have hlimited := Bool.eq_false_iff.mpr hlimited
  split
  next hlen =>
    exact .failed _ _ _ hcmd hlocked hne hlimited (by decide)
      (.inr ⟨BootloaderAuth.pendingChallenge_refreshWindow, hlen⟩)
  next hlen =>
  split
  next hnone =>
    have hself : ({ r.auth.refreshWindow clock.now with pendingChallenge := none } :
        BootloaderAuth) = r.auth.refreshWindow clock.now := by
      rw [← hnone]
    have heffect : AuthEffect P r.identity clock.now packet r.auth r.flash.sessionActive _ _ _ :=
      .failed none .notAuthenticated "bootloader challenge required" hcmd hlocked hne hlimited
        (by decide) (.inl rfl)
    rw [hself] at heffect
    exact heffect
  next challenge hchallenge =>
  split
  · exact .failed _ _ _ hcmd hlocked hne hlimited (by decide) (.inl rfl)
  next expectedTag htag =>
  split
  · exact .failed _ _ _ hcmd hlocked hne hlimited (by decide) (.inl rfl)
  next heq =>
  rw [not_not.mp heq] at htag
  rw [BootloaderAuth.pendingChallenge_refreshWindow] at hchallenge
  exact .succeeded challenge hcmd hlocked hlimited (not_not.mp hlen) hchallenge htag

/-- A packet of another command leaves the authentication alone but for the challenge, and starts no
session. -/
theorem Effect.auth_other {r' : FirmwareRuntime} {answer : Packet}
    (he : Effect P clock packet r r' answer) (hcmd : packet.cmd ≠ .enterBootloader) :
    (∃ pending, (pending = r.auth.pendingChallenge ∨ pending = none) ∧
      r'.auth = { r.auth with pendingChallenge := pending }) ∧
      (r'.flash.sessionActive = true → r.flash.sessionActive = true) := by
  cases he with
  | authRejected _ _ h => exact absurd h hcmd
  | challenged _ _ h => exact absurd h hcmd
  | sessionStarted h => exact absurd h hcmd
  | pageEncrypted pageId page ciphertext enc =>
    obtain ⟨store, next, heq⟩ := maybePersistPageCryptoCounter_eq (P := P)
      (r := { r with tuneEncryption := some enc.advanceNonce }) enc.advanceNonce.state.nonceCounter
    rw [heq]
    exact ⟨⟨_, .inl rfl, rfl⟩, id⟩
  | resumed scratch answer _ hack hsession => exact ⟨⟨_, .inl rfl, rfl⟩, fun _ => hsession⟩
  | blockAppended block _ hcheck =>
    obtain ⟨scratch, heq⟩ := appendFlashBlock_eq (P := P) (r := r) block
    rw [heq]
    exact ⟨⟨_, .inl rfl, rfl⟩, fun _ => (checkFlashBlock_eq_ok hcheck).1⟩
  | imageInstalled => exact ⟨⟨none, .inr rfl, rfl⟩, fun h => nomatch h⟩
  | _ => exact ⟨⟨_, .inl rfl, rfl⟩, id⟩

/-- Without a session the flash commands are rejected. -/
theorem Effect.nack_of_inactive {r' : FirmwareRuntime} {answer : Packet}
    (he : Effect P clock packet r r' answer) (hactive : r.flash.sessionActive = false)
    (hcmd : packet.cmd ∈ [Cmd.flashBlock, .flashVerify, .flashComplete, .flashResume]) :
    answer.cmd = .nack := by
  cases he with
  | rejected e => rfl
  | authRejected => rfl
  | encryptionFailed => rfl
  | pinPageReverted => rfl
  | resumeIdle _ _ _ hsession => exact absurd hsession (Bool.eq_false_iff.mp hactive)
  | resumed _ _ _ _ hsession => exact absurd hsession (Bool.eq_false_iff.mp hactive)
  | blockAppended _ _ hcheck =>
    exact absurd (checkFlashBlock_eq_ok hcheck).1 (Bool.eq_false_iff.mp hactive)
  | imageVerified _ _ hcheck =>
    exact absurd (checkFlashVerify_eq_ok hcheck).1 (Bool.eq_false_iff.mp hactive)
  | imageInstalled _ _ hcheck =>
    exact absurd (sessionActive_of_checkFlashComplete hcheck) (Bool.eq_false_iff.mp hactive)
  -- the other effects are of other commands
  | observed _ _ _ _ _ _ h =>
    have hcritical : ∀ cmd ∈ [Cmd.flashBlock, .flashVerify, .flashComplete, .flashResume],
        cmd.isCritical = true := by decide
    rw [hcritical _ hcmd] at h
    cases h
  | challenged _ _ h | sessionStarted h | pageRead _ _ h | pageEncrypted _ _ _ _ h
  | pageWritten _ _ h | basePageWritten _ h | pinPageWritten _ _ h | pageBurned _ _ h
  | pinsAssigned _ _ h | bootConfirmed _ h => simp [h] at hcmd

end FirmwareRuntime

theorem AuthEffect.consistent {P : Platform} {identity : FirmwareIdentity} {now : ℕ}
    {packet answer : Packet} {auth auth' : BootloaderAuth} {active active' : Bool}
    (he : AuthEffect P identity now packet auth active auth' active' answer)
    (h : auth.Consistent) : auth'.Consistent := by
  cases he with
  | other pending => exact h.withPending pending
  | locked => exact h
  | challenged =>
    have hwindow := h.refreshWindow now
    exact ⟨hwindow.unlocked, hwindow.locked⟩
  | rateLimited => exact h.refreshWindow now
  | failed pending code reason hcmd hlocked =>
    have hpending := (h.refreshWindow now).withPending pending
    exact (hpending.recordFailure_spec (BootloaderAuth.lockoutUntil_refreshWindow hlocked) now).1
  | succeeded => exact ⟨fun _ => Nat.zero_lt_succ 2, fun _ h => nomatch h⟩

/-! ### Steps and runs -/

namespace Step

/-- A challenge is issued. -/
def issues (t : Step) : Bool :=
  t.event.packet.cmd = .enterBootloader ∧ t.event.packet.payload = [] ∧ t.output.cmd = .ack

/-- A response is evaluated: it is not turned away for a lockout or for coming too soon. -/
def evaluates (t : Step) : Bool :=
  t.event.packet.cmd = .enterBootloader ∧ t.event.packet.payload ≠ [] ∧
    t.output.nackCode ≠ some RuntimeNackCode.lockActive.code ∧
    t.output.nackCode ≠ some RuntimeNackCode.rateLimitExceeded.code

/-- A response of the full length is evaluated, which uses up the challenge. -/
def consumes (t : Step) : Bool :=
  t.evaluates ∧ t.event.packet.payload.length = bootloaderResponseLen

/-- What the step does to the authentication. -/
abbrev AuthEffect (P : Platform) (t : Step) : Prop :=
  StEcu.AuthEffect P t.src.identity t.event.clock.now t.event.packet t.src.auth
    t.src.flash.sessionActive t.dst.auth t.dst.flash.sessionActive t.output

/-- The step issued the given challenge. -/
def IssuedChallenge (challenge : Bytes) (t : Step) : Prop :=
  t.issues = true ∧ t.output.payload = challenge

/-- The step left the challenge issued before it as it was. -/
def KeepsChallenge (t : Step) : Prop := t.issues = false ∧ t.consumes = false

/-- After a history, the step is the right answer to the challenge issued last, which no response
used up, at a time without lockout and without rate limit. -/
structure Authenticated (P : Platform) (history : List Step) (t : Step) : Prop where
  cmd : t.event.packet.cmd = .enterBootloader
  length : t.event.packet.payload.length = 16
  unlocked : t.src.auth.isLocked t.event.clock.now = false
  unlimited : t.src.auth.isRateLimited t.event.clock.now = false
  tag : ∃ challenge,
    computeBootloaderAuthTag P t.src.identity challenge = some t.event.packet.payload ∧
      Since (IssuedChallenge challenge) KeepsChallenge history

end Step

section Runs

variable {P : Platform} {A : Catalogue} {t : Step}

/-- **What a step does to the authentication.** -/
theorem step_authEffect (ht : (firmware P A).Step t) (hs : t.src.Sound P)
    (hauth : t.src.bootloaderAuthRequired = true) : t.AuthEffect P := by
  by_cases hcmd : t.event.packet.cmd = .enterBootloader
  · have heq := step_iff.mp ht
    rw [FirmwareRuntime.handlePacket, FirmwareRuntime.dispatch, hcmd] at heq
    dsimp only at heq
    rw [FirmwareRuntime.enterBootloader,
      if_neg (by simpa [FirmwareRuntime.tickUpdateHealthWindow] using hauth)] at heq
    have he := FirmwareRuntime.authenticate_authEffect (P := P)
      (r := t.src.tickUpdateHealthWindow t.event.clock.tick) t.event.clock hcmd
    rw [heq] at he
    exact he
  · obtain ⟨⟨pending, hpending, heq⟩, hactive⟩ := (step_effect ht hs).auth_other hcmd
    rw [Step.AuthEffect, heq]
    exact .other pending _ _ hcmd hpending hactive

/-- A challenge that is pending after a step was issued by it, or was pending and is kept. -/
theorem pending_of_authEffect {challenge : Bytes} (he : t.AuthEffect P)
    (hdst : t.dst.auth.pendingChallenge = some challenge) :
    t.IssuedChallenge challenge ∨
      t.src.auth.pendingChallenge = some challenge ∧ t.KeepsChallenge := by
  obtain ⟨src, ⟨clock, packet⟩, answer, dst⟩ := t
  dsimp only [Step.AuthEffect] at he hdst
  generalize dst.auth = auth', dst.flash.sessionActive = active' at he hdst
  cases he with
  | other pending active' answer hcmd hpending hactive =>
    rcases hpending with rfl | rfl
    · exact .inr ⟨hdst, by simp [Step.issues, hcmd], by simp [Step.consumes, Step.evaluates, hcmd]⟩
    · cases hdst
  | locked reason hcmd hlocked =>
    exact .inr ⟨hdst, by simp [Step.issues], by simp [Step.consumes, Step.evaluates]⟩
  | challenged counter challenge' hcmd hlocked hempty hlen =>
    obtain rfl := Option.some.inj hdst
    exact .inl ⟨by simp [Step.issues, hcmd, hempty], rfl⟩
  | rateLimited reason hcmd hlocked hne =>
    rw [BootloaderAuth.pendingChallenge_refreshWindow] at hdst
    exact .inr ⟨hdst, by simp [Step.issues], by simp [Step.consumes, Step.evaluates]⟩
  | failed pending code reason hcmd hlocked hne hlimited hcode hpending =>
    have hkept : pending = some challenge := by
      rcases BootloaderAuth.pendingChallenge_recordFailure
        { src.auth.refreshWindow clock.now with pendingChallenge := pending } clock.now with h | h
      · exact h.symm.trans hdst
      · rw [h] at hdst
        cases hdst
    rcases hpending with rfl | ⟨rfl, hlen⟩
    · cases hkept
    · exact .inr ⟨hkept, by simp [Step.issues], by simp [Step.consumes, hlen]⟩
  | succeeded => cases hdst

/-- What a run keeps: the authentication state is consistent, and a pending challenge was issued in
the run and is unused. -/
structure AuthHistory (tr : List Step) (r : FirmwareRuntime) : Prop where
  sound : r.Sound P
  required : r.bootloaderAuthRequired = true
  consistent : r.auth.Consistent
  pending : ∀ challenge, r.auth.pendingChallenge = some challenge →
    Since (Step.IssuedChallenge challenge) Step.KeepsChallenge tr

theorem AuthHistory.step {tr : List Step} (h : AuthHistory (P := P) tr t.src)
    (ht : (firmware P A).Step t) : AuthHistory (P := P) (tr ++ [t]) t.dst where
  sound := step_sound ht h.sound
  required := (step_effect ht h.sound).sameBoard.bootloaderAuthRequired_eq.trans h.required
  consistent := (step_authEffect ht h.sound h.required).consistent h.consistent
  pending challenge hdst := by
    rcases pending_of_authEffect (step_authEffect ht h.sound h.required) hdst with
      hissued | ⟨hsrc, hkeeps⟩
    · exact .now hissued
    · exact .later (h.pending challenge hsrc) hkeeps

theorem run_authHistory {r₀ r : FirmwareRuntime} {tr : List Step}
    (hrun : (firmware P A).Run r₀ tr r) (h : AuthHistory (P := P) [] r₀) :
    AuthHistory (P := P) tr r := by
  induction hrun with
  | nil => exact h
  | snoc _ hs ih => exact ih.step hs

/-- A step that starts a session, where none is active or with the plain acknowledgement, is the
right answer to the challenge issued last. -/
theorem AuthHistory.authenticated {tr : List Step} (h : AuthHistory (P := P) tr t.src)
    (ht : (firmware P A).Step t)
    (hstart : (t.src.flash.sessionActive = false ∧ t.dst.flash.sessionActive = true) ∨
      t.event.packet.cmd = .enterBootloader ∧ t.output = ack) :
    t.Authenticated P tr := by
  have he := step_authEffect ht h.sound h.required
  have hconsistent := h.consistent
  have hpendingSrc := h.pending
  obtain ⟨src, ⟨clock, packet⟩, answer, dst⟩ := t
  dsimp only [Step.AuthEffect] at he hstart hconsistent hpendingSrc
  generalize dst.auth = auth', dst.flash.sessionActive = active' at he hstart
  cases he with
  | succeeded challenge hcmd hlocked hlimited hlen hpending htag =>
    exact ⟨hcmd, hlen, hlocked, hconsistent.isRateLimited_eq hlocked hlimited, challenge, htag,
      hpendingSrc challenge hpending⟩
  | other pending active' answer hcmd hpending hactive =>
    rcases hstart with ⟨hsrc, hdst⟩ | ⟨hstart, -⟩
    · rw [hactive hdst] at hsrc
      cases hsrc
    · exact absurd hstart hcmd
  | challenged counter challenge hcmd hlocked hempty hlen =>
    rcases hstart with ⟨hsrc, hdst⟩ | ⟨-, hout⟩
    · rw [hdst] at hsrc
      cases hsrc
    · rw [show challenge = [] from congrArg Packet.payload hout] at hlen
      cases hlen
  | locked | rateLimited | failed =>
    rcases hstart with ⟨hsrc, hdst⟩ | ⟨-, hout⟩
    · rw [hdst] at hsrc
      cases hsrc
    · cases hout

theorem authHistory_of_boot {identity : FirmwareIdentity} {simulator : Bool} {s : ConfigStore}
    {r : FirmwareRuntime} (hs : ReachableStore P A s)
    (hboot : FirmwareRuntime.newWithStore P identity simulator s = some r)
    (hauth : r.bootloaderAuthRequired = true) : AuthHistory (P := P) [] r where
  sound := (FirmwareRuntime.booted_of_newWithStore hs.wellFormed hboot).sound
  required := hauth
  consistent := by
    rw [(FirmwareRuntime.fresh_of_newWithStore hboot).1]
    exact BootloaderAuth.consistent_default
  pending challenge h := by
    rw [(FirmwareRuntime.fresh_of_newWithStore hboot).1] at h
    cases h

/-- **A flash session starts only by authentication.** On a board that requires authentication, in
every run: a step after which a session is active where none was, and a step that acknowledges the
start of a session, is the right answer to the challenge issued last, unused and at a time without
lockout and rate limit. In a run without such a step every flash command is rejected. -/
theorem session_only_authenticated {identity : FirmwareIdentity} {simulator : Bool}
    {s : ConfigStore} {r₀ r : FirmwareRuntime} {tr : List Step} (hs : ReachableStore P A s)
    (hboot : FirmwareRuntime.newWithStore P identity simulator s = some r₀)
    (hauth : r₀.bootloaderAuthRequired = true) (hrun : (firmware P A).Run r₀ tr r) :
    (∀ pre t post, tr = pre ++ t :: post →
      (t.src.flash.sessionActive = false ∧ t.dst.flash.sessionActive = true ∨
        t.event.packet.cmd = .enterBootloader ∧ t.output = ack) →
      t.Authenticated P pre) ∧
    ((∀ pre t post, tr = pre ++ t :: post → ¬ t.Authenticated P pre) →
      ∀ t ∈ tr, t.event.packet.cmd ∈ [Cmd.flashBlock, .flashVerify, .flashComplete, .flashResume] →
        t.output.cmd = .nack) := by
  have hbooted := FirmwareRuntime.booted_of_newWithStore hs.wellFormed hboot
  have hstart := authHistory_of_boot hs hboot hauth
  have hgate : ∀ pre t post, tr = pre ++ t :: post →
      (t.src.flash.sessionActive = false ∧ t.dst.flash.sessionActive = true ∨
        t.event.packet.cmd = .enterBootloader ∧ t.output = ack) → t.Authenticated P pre := by
    rintro pre t post rfl h
    obtain ⟨hpre, ht, -⟩ := hrun.split_mem
    exact (run_authHistory hpre hstart).authenticated ht h
  refine ⟨hgate, fun hnone t ht hcmd => ?_⟩
  obtain ⟨pre, post, rfl⟩ := List.append_of_mem ht
  obtain ⟨hpre, hstep, -⟩ := hrun.split_mem
  -- no step before has switched the session on
  have hinactive : t.src.flash.sessionActive = false := by
    by_contra hactive
    obtain ⟨counter, hflash⟩ := hbooted.flash_eq
    obtain ⟨before, u, after, rfl, hsrc, hdst, -⟩ :=
      hpre.exists_onset (φ := fun r => r.flash.sessionActive = true) (by simp [hflash])
        (by simpa using hactive)
    have hsplit : before ++ u :: after ++ t :: post = before ++ u :: (after ++ t :: post) := by simp
    exact hnone before u _ hsplit
      (hgate before u _ hsplit (.inl ⟨Bool.eq_false_iff.mpr hsrc, hdst⟩))
  exact (step_effect hstep (run_sound hpre hbooted.sound)).nack_of_inactive hinactive hcmd

end Runs

/-- The H743 board of the tests asks for authentication. -/
theorem exists_new_h743 (P : Platform) : ∃ r,
    FirmwareRuntime.newWithStore P .h743 false (.newZeroed P) = some r ∧
      r.bootloaderAuthRequired = true := by
  obtain ⟨r, hr, hbooted⟩ := FirmwareRuntime.exists_newWithStore .h743 false
    (ConfigStore.wellFormed_newZeroed (P := P))
  exact ⟨r, hr, hbooted.auth_eq.trans rfl⟩

/-- A board that gets a challenge and a flash block without answering the challenge. -/
theorem session_only_authenticated_h743 : ∃ r₀ tr r,
    FirmwareRuntime.newWithStore referencePlatform .h743 false (.newZeroed referencePlatform) =
      some r₀ ∧
    (firmware referencePlatform referenceCatalogue).Run r₀ tr r ∧
    tr.map (fun t => t.event.packet) = [⟨.enterBootloader, []⟩, ⟨.flashBlock, [0, 0, 0, 0, 1]⟩] ∧
    ∀ t ∈ tr, t.event.packet.cmd = .flashBlock → t.output.cmd = .nack := by
  obtain ⟨r₀, hboot, hauth⟩ := exists_new_h743 referencePlatform
  have hrun := TransitionSystem.run_trace (handle referencePlatform referenceCatalogue) r₀
    [⟨⟨0, 0, none⟩, ⟨.enterBootloader, []⟩⟩, ⟨⟨0, 0, none⟩, ⟨.flashBlock, [0, 0, 0, 0, 1]⟩⟩]
  refine ⟨r₀, _, _, hboot, hrun, rfl, fun t ht hcmd => ?_⟩
  refine (session_only_authenticated .newZeroed hboot hauth hrun).2 ?_ t ht (by simp [hcmd])
  -- neither packet is a response
  intro pre u post hsplit h
  have hmem : u.event.packet.payload.length ∈ [0, 5] := by
    have hmap := List.mem_map_of_mem (f := fun t : Step => t.event.packet.payload.length)
      (List.mem_append_right pre (List.mem_cons_self (a := u) (l := post)))
    rwa [← hsplit] at hmap
  rw [h.length] at hmem
  simp at hmem

end StEcu
