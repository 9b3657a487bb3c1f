import Mathlib.Algebra.Order.BigOperators.Group.List
import StEcu.Foundation.Bursts
import StEcu.Transport.Authentication

/-!
# Guessing the answer to a challenge

On a board that requires authentication, the responses that are evaluated come in bursts of at most
three: within a burst the retry interval lies between two of them, and the third failure of a burst
locks the board for a minute.

## Main definitions

* `attempts`: the times at which the steps of a run evaluated a response.
* `AttemptBursts`: how the failures counted, the last attempt and the lockout stand to these times.

## Main results

* `AuthEffect.bursts`: a step that is not a success keeps the attempts in bursts.
* `brute_force_bound`: in every run without success, two attempts are at least five seconds apart,
  and no minute holds more than three.
-/

namespace StEcu

/-- The times at which responses are evaluated. -/
def attempts (tr : List Step) : List ℕ := (tr.filter Step.evaluates).map fun t => t.event.clock.now

theorem attempts_append (tr tr' : List Step) :
    attempts (tr ++ tr') = attempts tr ++ attempts tr' := by
  rw [attempts, List.filter_append, List.map_append]
  rfl

/-- The retry interval in nanoseconds. -/
def retryInterval : ℕ := bootloaderAuthRetryIntervalMs * nanosPerMilli

/-- The length of a lockout in nanoseconds. -/
def lockoutWindow : ℕ := bootloaderAuthLockoutMs * nanosPerMilli

theorem retryInterval_le_lockoutWindow : retryInterval ≤ lockoutWindow := by decide

/-- A successful authentication. -/
def Step.Succeeds (t : Step) : Prop :=
  t.event.packet.cmd = .enterBootloader ∧ t.event.packet.payload ≠ [] ∧ t.output.cmd = .ack

/-- The attempts up to a time, next to the authentication state: those of the last burst are
among the failures counted and not later than the last attempt, and those before it are a whole
lockout past. -/
structure AttemptBursts (earlier current : List ℕ) (clock : ℕ) (auth : BootloaderAuth) : Prop where
  bursts : Bursts lockoutWindow 3 earlier current
  spaced : (earlier ++ current).Pairwise fun s t => s + retryInterval ≤ t
  counted : current.length ≤ auth.failedAttempts.toNat
  recent : ∀ s ∈ current, ∃ last, auth.lastAttemptAt = some last ∧ s ≤ last
  past : ∀ s ∈ earlier, s + lockoutWindow ≤ clock

namespace AttemptBursts

variable {earlier current : List ℕ} {clock now : ℕ} {auth : BootloaderAuth}

theorem nil (clock : ℕ) (auth : BootloaderAuth) : AttemptBursts [] [] clock auth where
  bursts := .nil _ _
  spaced := .nil
  counted := Nat.zero_le _
  recent _ hs := nomatch hs
  past _ hs := nomatch hs

theorem later (h : AttemptBursts earlier current clock auth) (hle : clock ≤ now) :
    AttemptBursts earlier current now auth :=
  { h with past := fun s hs => (h.past s hs).trans hle }

/-- Only the failures counted and the last attempt matter. -/
theorem congr (h : AttemptBursts earlier current clock auth) {auth' : BootloaderAuth}
    (hfailed : auth'.failedAttempts = auth.failedAttempts)
    (hlast : auth'.lastAttemptAt = auth.lastAttemptAt) :
    AttemptBursts earlier current clock auth' :=
  { h with
    counted := hfailed ▸ h.counted
    recent := hlast ▸ h.recent }

/-- A lockout that is over ends the last burst. -/
theorem refreshWindow (h : AttemptBursts earlier current now auth) (hauth : auth.Consistent)
    (hlocked : auth.isLocked now = false) : ∃ earlier' current',
      earlier' ++ current' = earlier ++ current ∧
        AttemptBursts earlier' current' now (auth.refreshWindow now) := by
  rcases BootloaderAuth.refreshWindow_cases hlocked with ⟨-, heq⟩ | ⟨deadline, hdeadline, hle, heq⟩
  · rw [heq]
    exact ⟨earlier, current, rfl, h⟩
  · obtain ⟨-, last, hlast, rfl⟩ := hauth.locked deadline hdeadline
    rw [heq]
    refine ⟨earlier ++ current, [], List.append_nil _, ?_⟩
    exact
      { bursts := h.bursts.restart
        spaced := by
          rw [List.append_nil]
          exact h.spaced
        counted := Nat.zero_le _
        recent := fun _ hs => nomatch hs
        past := fun s hs => by
          rcases List.mem_append.mp hs with hs | hs
          · exact h.past s hs
          · obtain ⟨last', hlast', hsle⟩ := h.recent s hs
            obtain rfl := Option.some.inj (hlast.symm.trans hlast')
            exact (Nat.add_le_add_right hsle _).trans hle }

/-- A failure at a time without lockout and rate limit is one more attempt of the last burst. -/
theorem recordFailure (h : AttemptBursts earlier current now auth) (hauth : auth.Consistent)
    (hunlocked : auth.lockoutUntil = none) (hlimited : auth.isRateLimited now = false) :
    AttemptBursts earlier (current ++ [now]) now (auth.recordFailure now) := by
  have hroom : current.length < 3 := Nat.lt_of_le_of_lt h.counted (hauth.unlocked hunlocked)
  obtain ⟨-, hcount, hlast⟩ := hauth.recordFailure_spec hunlocked now
  have hcurrent : ∀ s ∈ current, s + retryInterval ≤ now := by
    intro s hs
    obtain ⟨last, hlast, hsle⟩ := h.recent s hs
    rw [BootloaderAuth.isRateLimited, hlast] at hlimited
    have hwait := of_decide_eq_false hlimited
    simp only [retryInterval, bootloaderAuthRetryIntervalMs, nanosPerMilli] at hwait ⊢
    omega
  exact
    { bursts := h.bursts.attempt hroom h.past
      spaced := by
        rw [← List.append_assoc, List.pairwise_append]
        refine ⟨h.spaced, List.pairwise_singleton _ _, fun s hs t ht => ?_⟩
        rw [List.mem_singleton.mp ht]
        rcases List.mem_append.mp hs with hs | hs
        · exact (Nat.add_le_add_left retryInterval_le_lockoutWindow s).trans (h.past s hs)
        · exact hcurrent s hs
      counted := by
        rw [hcount, List.length_append]
        exact Nat.add_le_add_right h.counted 1
      recent := fun s hs => by
        refine ⟨now, hlast, ?_⟩
        rcases List.mem_append.mp hs with hs | hs
        · exact (Nat.le_add_right _ _).trans (hcurrent s hs)
        · exact (List.mem_singleton.mp hs).le
      past := h.past }

end AttemptBursts

section Runs

variable {P : Platform} {A : Catalogue} {t : Step}

theorem attempts_of_evaluates (h : t.evaluates = true) : attempts [t] = [t.event.clock.now] := by
  rw [attempts, List.filter_cons_of_pos h]
  rfl

theorem attempts_of_not_evaluates (h : t.evaluates = false) : attempts [t] = [] := by
  rw [attempts, List.filter_cons_of_neg (Bool.eq_false_iff.mp h)]
  rfl

/-- **A step that is not a success keeps the attempts in bursts**, its own among them. -/
theorem AuthEffect.bursts {earlier current : List ℕ} (he : t.AuthEffect P)
    (hauth : t.src.auth.Consistent) (hfail : ¬ t.Succeeds)
    (h : AttemptBursts earlier current t.event.clock.now t.src.auth) : ∃ earlier' current',
      earlier' ++ current' = earlier ++ current ++ attempts [t] ∧
        AttemptBursts earlier' current' t.event.clock.now t.dst.auth := by
  -- a step without attempt leaves the lists as they are
  have hidle : t.evaluates = false → (∃ earlier' current',
      earlier' ++ current' = earlier ++ current ∧
        AttemptBursts earlier' current' t.event.clock.now t.dst.auth) → ∃ earlier' current',
      earlier' ++ current' = earlier ++ current ++ attempts [t] ∧
        AttemptBursts earlier' current' t.event.clock.now t.dst.auth := by
    intro hevaluates
    rw [attempts_of_not_evaluates hevaluates, List.append_nil]
    exact id
  obtain ⟨src, ⟨clock, packet⟩, answer, dst⟩ := t
  dsimp only [Step.AuthEffect] at he hauth h hidle
  generalize dst.auth = auth', dst.flash.sessionActive = active' at he h hidle
  cases he with
  | other pending active' answer hcmd =>
    exact hidle (by simp [Step.evaluates, hcmd]) ⟨earlier, current, rfl, h.congr rfl rfl⟩
  | locked reason hcmd hlocked =>
    exact hidle (by simp [Step.evaluates]) ⟨earlier, current, rfl, h⟩
  | challenged counter challenge hcmd hlocked hempty =>
    obtain ⟨earlier', current', heq, hwindow⟩ := h.refreshWindow hauth hlocked
    exact hidle (by simp [Step.evaluates, hempty]) ⟨earlier', current', heq, hwindow.congr rfl rfl⟩
  | rateLimited reason hcmd hlocked =>
    exact hidle (by simp [Step.evaluates]) (h.refreshWindow hauth hlocked)
  | failed pending code reason hcmd hlocked hne hlimited hcode =>
    obtain ⟨earlier', current', heq, hwindow⟩ := h.refreshWindow hauth hlocked
    have hpending := (hauth.refreshWindow clock.now).withPending pending
    have hevaluates : Step.evaluates ⟨src, ⟨clock, packet⟩, nack code reason, dst⟩ = true := by
      have hinj : ∀ c d : RuntimeNackCode, c.code = d.code → c = d := by
        intro c d h
        cases c <;> cases d <;> first | rfl | cases h
      simp only [Step.evaluates, nackCode_nack, decide_eq_true_eq, ne_eq, Option.some.injEq]
      exact ⟨hcmd, hne, fun h => hcode.1 (hinj _ _ h), fun h => hcode.2 (hinj _ _ h)⟩
    have hburst : AttemptBursts earlier' current' clock.now
        ({ src.auth.refreshWindow clock.now with pendingChallenge := pending } : BootloaderAuth) :=
      hwindow.congr rfl rfl
    refine ⟨earlier', current' ++ [clock.now], ?_, hburst.recordFailure hpending
      (BootloaderAuth.lockoutUntil_refreshWindow hlocked) hlimited⟩
    rw [attempts_of_evaluates hevaluates, ← List.append_assoc, heq]
  | succeeded challenge hcmd hlocked hlimited hlen =>
    refine absurd ⟨hcmd, fun h => ?_, rfl⟩ hfail
    rw [show packet.payload = [] from h] at hlen
    cases hlen

/-- Only a response of the full length succeeds. -/
theorem AuthEffect.length_of_succeeds (he : t.AuthEffect P) (h : t.Succeeds) :
    t.event.packet.payload.length = bootloaderResponseLen := by
  obtain ⟨src, ⟨clock, packet⟩, answer, dst⟩ := t
  obtain ⟨hcmd, hne, hack⟩ := h
  dsimp only [Step.AuthEffect] at he hcmd hne hack ⊢
  generalize dst.auth = auth', dst.flash.sessionActive = active' at he
  cases he with
  | succeeded challenge _ hlocked hlimited hlen => exact hlen
  | other pending active' answer h => exact absurd hcmd h
  | challenged counter challenge _ hlocked hempty => exact absurd hempty hne
  | locked | rateLimited | failed => cases hack

/-- The authentication state of a board that requires authentication is consistent. -/
theorem Reachable.auth_consistent {r : FirmwareRuntime} (h : Reachable P A r)
    (hauth : r.bootloaderAuthRequired = true) : r.auth.Consistent := by
  obtain ⟨identity, simulator, s, r₀, tr, hs, hboot, hrun⟩ := h.exists_run
  have hsound := (FirmwareRuntime.booted_of_newWithStore hs.wellFormed hboot).sound
  have hrequired := (run_sameBoard hrun hsound).bootloaderAuthRequired_eq.symm.trans hauth
  exact (run_authHistory hrun (authHistory_of_boot hs hboot hrequired)).consistent

/-- A run without success keeps its attempts in bursts, up to any time that is not before the last
packet. -/
theorem run_bursts {r₀ r : FirmwareRuntime} {tr : List Step} (hrun : (firmware P A).Run r₀ tr r)
    (hsound : r₀.Sound P) (hauth : r₀.bootloaderAuthRequired = true)
    (hconsistent : r₀.auth.Consistent)
    (htime : (tr.map fun t => t.event.clock.now).Pairwise (· ≤ ·))
    (hfail : ∀ t ∈ tr, ¬ t.Succeeds) (clock : ℕ) (hclock : ∀ t ∈ tr, t.event.clock.now ≤ clock) :
    r.auth.Consistent ∧ ∃ earlier current,
      earlier ++ current = attempts tr ∧ AttemptBursts earlier current clock r.auth := by
  induction hrun generalizing clock with
  | nil => exact ⟨hconsistent, [], [], rfl, .nil _ _⟩
  | @snoc tr s e o s' hprefix hs ih =>
    rw [List.map_append, List.pairwise_append] at htime
    obtain ⟨hsrc, earlier, current, heq, hbursts⟩ := ih htime.1
      (fun t ht => hfail t (List.mem_append_left _ ht)) e.clock.now
      fun t ht => htime.2.2 _ (List.mem_map_of_mem ht) _ (List.mem_singleton_self _)
    have he := step_authEffect hs (run_sound hprefix hsound)
      ((run_sameBoard hprefix hsound).bootloaderAuthRequired_eq.trans hauth)
    obtain ⟨earlier', current', heq', hbursts'⟩ := he.bursts hsrc
      (hfail _ (List.mem_append_right _ (List.mem_singleton_self _))) hbursts
    refine ⟨he.consistent hsrc, earlier', current', ?_,
      hbursts'.later (hclock _ (List.mem_append_right _ (List.mem_singleton_self _)))⟩
    rw [heq', heq, attempts_append]

/-- **Guessing is slow.** On a board that requires authentication, in every run whose packets come
in the order of their times and without a successful authentication, any two responses that are
evaluated are at least 5000 ms apart, and every half-open interval of 60000 ms holds at most three
of them. -/
theorem brute_force_bound {r₀ r : FirmwareRuntime} {tr : List Step} (h₀ : Reachable P A r₀)
    (hauth : r₀.bootloaderAuthRequired = true) (hrun : (firmware P A).Run r₀ tr r)
    (htime : (tr.map fun t => t.event.clock.now).Pairwise (· ≤ ·))
    (hfail : ∀ t ∈ tr, ¬ t.Succeeds) :
    ((attempts tr).Pairwise fun s t => s + 5000 * nanosPerMilli ≤ t) ∧
      ∀ start, countWithin (60000 * nanosPerMilli) start (attempts tr) ≤ 3 := by
  obtain ⟨clock, hclock⟩ : ∃ clock, ∀ t ∈ tr, t.event.clock.now ≤ clock :=
    ⟨(tr.map fun t => t.event.clock.now).sum, fun t ht =>
      List.single_le_sum (fun _ _ => Nat.zero_le _) _ (List.mem_map_of_mem ht)⟩
  obtain ⟨-, earlier, current, heq, hbursts⟩ := run_bursts hrun h₀.sound hauth
    (h₀.auth_consistent hauth) htime hfail clock hclock
  rw [← heq]
  exact ⟨hbursts.spaced, hbursts.bursts.within⟩

end Runs

/-- A board that gets three responses of one byte, five seconds apart. -/
theorem brute_force_bound_h743 : ∃ r₀ tr r,
    FirmwareRuntime.newWithStore referencePlatform .h743 false (.newZeroed referencePlatform) =
      some r₀ ∧
    (firmware referencePlatform referenceCatalogue).Run r₀ tr r ∧
    tr.map (fun t => t.event.clock.now) = [0, 5000000000, 10000000000] ∧
    ((attempts tr).Pairwise fun s t => s + 5000 * nanosPerMilli ≤ t) ∧
    ∀ start, countWithin (60000 * nanosPerMilli) start (attempts tr) ≤ 3 := by
  obtain ⟨r₀, hboot, hauth⟩ := exists_new_h743 referencePlatform
  have hreach : Reachable referencePlatform referenceCatalogue r₀ := .of_boot .newZeroed hboot
  have hrun := TransitionSystem.run_trace (handle referencePlatform referenceCatalogue) r₀
    ([0, 5000000000, 10000000000].map fun now => ⟨⟨now, now, none⟩, ⟨.enterBootloader, [0]⟩⟩)
  refine ⟨r₀, _, _, hboot, hrun, rfl,
    brute_force_bound hreach hauth hrun (by simp [TransitionSystem.trace]) fun t ht hsucceeds => ?_⟩
  -- a response of one byte is no success
  obtain ⟨pre, post, heq⟩ := List.append_of_mem ht
  rw [heq] at hrun
  obtain ⟨hpre, hstep, -⟩ := hrun.split_mem
  have hlen : t.event.packet.payload = [0] := by
    simp only [List.map_cons, List.map_nil, TransitionSystem.trace, List.mem_cons,
      List.not_mem_nil, or_false] at ht
    rcases ht with rfl | rfl | rfl <;> rfl
  have he := step_authEffect hstep (run_sound hpre hreach.sound)
    ((run_sameBoard hpre hreach.sound).bootloaderAuthRequired_eq.trans hauth)
  have hfull := he.length_of_succeeds hsucceeds
  rw [hlen] at hfull
  cases hfull

end StEcu
