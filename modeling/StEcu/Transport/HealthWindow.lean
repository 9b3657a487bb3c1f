import Mathlib.Data.List.Range
import StEcu.Foundation.PolledTimer
import StEcu.Transport.UpdateLifecycle

/-!
# The time of the health window

The health window is a polled countdown timer: every packet takes off the whole milliseconds since
the packet before it, and moves the reference instant by the whole gap. So a window ends when the
whole milliseconds between successive packets add up to its length, which never happens under
packets that come less than a millisecond apart.

## Main definitions

* `FirmwareUpdate.Shows`: the bank record carries a given timer.
* `Step.Quiet`: a step whose command neither confirms the candidate nor starts a session.
* `Step.tickTime`: the reading at which the step ticks the window.

## Main results

* `run_shows`: over quiet steps, the bank record is a polled timer.
* `health_window_expiry_iff`: when the candidate is rolled back.
* `health_window_outlasted`: a window that frequent packets keep open.
-/

namespace StEcu

open FirmwareUpdate

variable {P : Platform} {A : Catalogue}

namespace FirmwareUpdate

/-- What a bank record shows of a timer: an open window with its reference instant and the time it
has left, or the candidate rolled back once the timer is gone. -/
def Shows (u : FirmwareUpdate) : Option PolledTimer → Prop
  | some timer => u.state = .healthWindow ∧ u.lastTick = some timer.last ∧
      u.healthWindowRemainingMs.toNat = timer.remaining
  | none => u.state = .rolledBack

variable {u : FirmwareUpdate} {active : Bool} {timer : Option PolledTimer}

theorem Shows.rolledBack_iff (h : u.Shows timer) : u.state = .rolledBack ↔ timer = none := by
  cases timer with
  | none => exact iff_of_true h rfl
  | some timer =>
    rw [h.1]
    simp

theorem Shows.window_iff (h : u.Shows timer) : u.state = .healthWindow ↔ timer ≠ none := by
  cases timer with
  | none =>
    rw [show u.state = .rolledBack from h]
    simp
  | some timer => exact iff_of_true h.1 (by simp)

/-- The milliseconds that a tick takes off, as a natural number. -/
theorem toNat_elapsedMs {last : ℕ} (h : u.lastTick = some last) (now : ℕ) :
    (u.elapsedMs now).toNat = min ((now - last) / nanosPerMilli) 0xFFFFFFFF := by
  rw [elapsedMs, h, Option.getD_some, UInt32.toNat_ofNat']
  exact Nat.mod_eq_of_lt (Nat.lt_of_le_of_lt (Nat.min_le_right _ _) (by decide))

/-- A tick polls the timer. -/
theorem Shows.tick (h : u.Shows timer) (hu : u.Consistent active) (now : ℕ) :
    (u.tickUpdateHealthWindow now).Shows
      (timer.bind fun timer => timer.poll nanosPerMilli now) := by
  cases timer with
  | none =>
    rw [tickUpdateHealthWindow, if_pos (by rw [show u.state = .rolledBack from h]; decide)]
    exact h
  | some timer =>
    obtain ⟨hw, hlast, hremaining⟩ := h
    obtain ⟨-, -, hle⟩ := hu.window hw
    have helapsed := toNat_elapsedMs hlast now
    -- the cap on the elapsed time lies above anything a window has left
    have hbound : timer.remaining ≤ 30000 := by
      rw [← hremaining]
      exact UInt32.le_iff_toNat_le.mp hle
    rw [Option.bind_some, PolledTimer.poll]
    generalize (now - timer.last) / nanosPerMilli = gap at helapsed ⊢
    rcases hu.tick_cases hw now with ⟨⟨-, hexp⟩, heq⟩ | ⟨hexp, heq⟩
    · rw [UInt32.le_iff_toNat_le, hremaining, helapsed] at hexp
      rw [if_pos (by omega), heq]
      rfl
    · have hlt : u.elapsedMs now < u.healthWindowRemainingMs := by
        rw [← UInt32.not_le]
        exact fun hle' => hexp ⟨hw, hle'⟩
      have hsub := UInt32.toNat_sub_of_le _ _ (UInt32.le_of_lt hlt)
      rw [UInt32.lt_iff_toNat_lt, hremaining, helapsed] at hlt
      rw [hremaining, helapsed] at hsub
      rw [if_neg (by omega), heq]
      refine ⟨hw, rfl, hsub.trans ?_⟩
      dsimp only
      omega

end FirmwareUpdate

/-- A step whose command neither confirms the candidate nor starts a session. -/
def Step.Quiet (t : Step) : Prop :=
  t.event.packet.cmd ≠ .confirmBootHealthy ∧ t.event.packet.cmd ≠ .enterBootloader

/-- The reading at which a step ticks the health window. -/
def Step.tickTime (t : Step) : ℕ := t.event.clock.tick

section Runs

variable {r₀ r : FirmwareRuntime} {tr : List Step} {t c : Step} {timer : Option PolledTimer}

/-- Without a session, a quiet step moves the bank record by its tick only. -/
theorem quiet_step_update (ht : (firmware P A).Step t) (h : t.src.Sound P) (hquiet : t.Quiet)
    (hactive : t.src.flash.sessionActive = false) : t.dst.update = t.ticked := by
  have he := step_updateEffect ht h
  rw [hactive] at he
  generalize t.dst.update = u', t.dst.flash.sessionActive = active', t.output = answer at he ⊢
  cases he with
  | kept => rfl
  | started active hcmd => exact absurd hcmd hquiet.2
  | committed active bank hcmd => exact absurd hcmd hquiet.1

theorem Step.Quiet.shows (hquiet : t.Quiet) (ht : (firmware P A).Step t) (h : t.src.UpdateSound P)
    (hs : t.src.update.Shows timer) :
    t.dst.update.Shows (timer.bind fun timer => timer.poll nanosPerMilli t.tickTime) := by
  have hactive : t.src.flash.sessionActive = false := by
    cases hsession : t.src.flash.sessionActive with
    | false => rfl
    | true =>
      have hstate := h.consistent.session hsession
      cases timer with
      | none =>
        rw [show t.src.update.state = .rolledBack from hs] at hstate
        simp at hstate
      | some timer =>
        rw [hs.1] at hstate
        simp at hstate
  rw [quiet_step_update ht h.sound hquiet hactive]
  exact hs.tick h.consistent _

/-- **Over quiet steps, the bank record is a polled timer.** -/
theorem run_shows (hrun : (firmware P A).Run r₀ tr r) (h : r₀.UpdateSound P)
    {timer : PolledTimer} (hs : r₀.update.Shows (some timer)) (hquiet : ∀ u ∈ tr, Step.Quiet u) :
    r.update.Shows (timer.polls nanosPerMilli (tr.map Step.tickTime)) := by
  induction hrun with
  | nil => exact hs
  | @snoc tr s e o s' hrun hstep ih =>
    have hlast : Step.Quiet ⟨s, e, o, s'⟩ := hquiet _ (by simp)
    have hsrc := ih fun u hu => hquiet u (List.mem_append_left _ hu)
    rw [List.map_append, List.map_singleton, PolledTimer.polls_concat]
    exact hlast.shows hstep (run_updateSound hrun h) hsrc

/-- A confirmation is accepted when a window is open after the tick. -/
theorem confirm_output (ht : (firmware P A).Step t) (h : t.src.UpdateSound P)
    (hcmd : t.event.packet.cmd = .confirmBootHealthy) :
    t.output = if t.ticked.state = .healthWindow then ack
      else nack .malformedPayload "no pending health-window update to confirm" := by
  have hconsistent : t.ticked.Consistent t.src.flash.sessionActive := h.consistent.tick _
  have heq := step_iff.mp ht
  rw [FirmwareRuntime.handlePacket, FirmwareRuntime.dispatch, hcmd] at heq
  dsimp only at heq
  rw [FirmwareRuntime.confirmBootHealthy] at heq
  split
  next hw =>
    have hconfirm : t.ticked.confirmPendingUpdate =
        some (t.ticked.committedTo (otherBank t.ticked.activeBank)) := by
      rw [confirmPendingUpdate, if_neg (not_ne_iff.mpr hw), (hconsistent.window hw).1]
    simp only [FirmwareRuntime.tickUpdateHealthWindow, ← Step.ticked.eq_def, hconfirm] at heq
    exact (Prod.mk.inj heq).2.symm
  next hw =>
    have hconfirm : t.ticked.confirmPendingUpdate = none := by
      rw [confirmPendingUpdate, if_pos hw]
    simp only [FirmwareRuntime.tickUpdateHealthWindow, ← Step.ticked.eq_def, hconfirm] at heq
    exact (Prod.mk.inj heq).2.symm

/-- An acknowledged complete command opens a window with the full time. -/
theorem shows_of_installs (hc : (firmware P A).Step c) (h : c.src.UpdateSound P)
    (hcmd : c.event.packet.cmd = .flashComplete) (hack : c.output.cmd = .ack) :
    c.dst.update.Shows (some ⟨c.event.clock.now, 30000⟩) := by
  have he := step_updateEffect hc h.sound
  generalize c.ticked = u, c.src.flash.sessionActive = active, c.dst.update = u',
    c.dst.flash.sessionActive = active', c.output = answer at he hack ⊢
  cases he with
  | kept active answer hinstall => exact absurd hack (hinstall hcmd)
  | moved state answer hstate hinstall => exact absurd hcmd hinstall
  | installed crc size => exact ⟨rfl, rfl, rfl⟩
  | started active hcmd' =>
    rw [hcmd] at hcmd'
    cases hcmd'
  | committed active bank hcmd' =>
    rw [hcmd] at hcmd'
    cases hcmd'

/-- The whole milliseconds that the ticks of a history take off a window, and one more tick. -/
def countedMs (c : Step) (tr : List Step) (now : ℕ) : ℕ :=
  wholeUnits nanosPerMilli c.event.clock.now (tr.map Step.tickTime ++ [now])

/-- The bank record after an installation, quiet steps, and one more tick. -/
theorem ticked_shows (hc : (firmware P A).Step c) (h : c.src.UpdateSound P)
    (hcmd : c.event.packet.cmd = .flashComplete) (hack : c.output.cmd = .ack)
    (hrun : (firmware P A).Run c.dst tr r) (hquiet : ∀ u ∈ tr, Step.Quiet u) (now : ℕ) :
    ∃ timer, (r.update.tickUpdateHealthWindow now).Shows timer ∧
      (timer = none ↔ 30000 ≤ countedMs c tr now) := by
  have hdst := step_updateSound hc h
  have hshows := run_shows hrun hdst (shows_of_installs hc h hcmd hack) hquiet
  refine ⟨_, hshows.tick (run_updateSound hrun hdst).consistent now, ?_⟩
  rw [← PolledTimer.polls_concat, PolledTimer.polls_eq_none_iff (show 0 < 30000 by decide)]
  rfl

/-- **When a candidate is rolled back**: after an installation, and packets that neither confirm the
candidate nor start a session, a packet finds the window over exactly if the whole milliseconds
between successive packets add up to half a minute. That is when another such packet leaves the
candidate rolled back, and when a confirmation is rejected. -/
theorem health_window_expiry_iff (hsrc : Reachable P A c.src) (hc : (firmware P A).Step c)
    (hcmd : c.event.packet.cmd = .flashComplete) (hack : c.output.cmd = .ack)
    (hrun : (firmware P A).Run c.dst tr t.src) (hquiet : ∀ u ∈ tr, Step.Quiet u)
    (ht : (firmware P A).Step t) :
    (t.Quiet → (t.dst.update.state = .rolledBack ↔ 30000 ≤ countedMs c tr t.tickTime)) ∧
      (t.event.packet.cmd = .confirmBootHealthy →
        (t.output.cmd = .nack ↔ 30000 ≤ countedMs c tr t.tickTime)) := by
  have h := hsrc.updateSound
  have hdst := step_updateSound hc h
  have hlast := run_updateSound hrun hdst
  obtain ⟨timer, hshows, hiff⟩ := ticked_shows hc h hcmd hack hrun hquiet t.tickTime
  have hticked : t.ticked.Shows timer := hshows
  constructor
  · intro hq
    have hshowsDst := hq.shows ht hlast
      (run_shows hrun hdst (shows_of_installs hc h hcmd hack) hquiet)
    rw [hshowsDst.rolledBack_iff, ← PolledTimer.polls_concat,
      PolledTimer.polls_eq_none_iff (show 0 < 30000 by decide)]
    rfl
  · intro hconfirm
    rw [confirm_output ht hlast hconfirm, ← hiff]
    by_cases hw : t.ticked.state = .healthWindow
    · simp [hw, hticked.window_iff.mp hw]
    · simp [hw, not_ne_iff.mp (mt hticked.window_iff.mpr hw)]

end Runs

/-- Pings ten seconds and a bit apart, at 10.0004 s and at 20.0008 s. -/
def sparsePings : List Input :=
  [⟨⟨10000400000, 10000400000, none⟩, ⟨.ping, []⟩⟩, ⟨⟨20000800000, 20000800000, none⟩, ⟨.ping, []⟩⟩]

/-- The first board, pinged twice after an installation at the instant zero. A third ping finds the
window open half a millisecond after its thirty seconds, as the bits are forgotten, and over at
30.0012 s. -/
theorem health_window_expiry_iff_ecuV1 :
    ∃ (c : Step) (tr : List Step) (r : FirmwareRuntime) (soon late : Step),
      c.event.packet.cmd = .flashComplete ∧ c.event.clock.now = 0 ∧ c.output = ack ∧
      (firmware referencePlatform referenceCatalogue).Run c.dst tr r ∧
      tr.map Transition.event = sparsePings ∧
      soon.src = r ∧ soon.dst.update.state ≠ .rolledBack ∧
      soon.event = ⟨⟨30000500000, 30000500000, none⟩, ⟨.ping, []⟩⟩ ∧
      late.src = r ∧ late.dst.update.state = .rolledBack ∧
      late.event = ⟨⟨30001200000, 30001200000, none⟩, ⟨.ping, []⟩⟩ := by
  obtain ⟨r₀, pre, c, hr₀, hrun, hc, hevent, hack, -, -⟩ :=
    exists_installed_ecuV1 referencePlatform referenceCatalogue ⟨0, 0, none⟩
  have hcmd : c.event.packet.cmd = .flashComplete := by rw [hevent]
  have hnow : c.event.clock.now = 0 := by rw [hevent]
  have hpings : (firmware referencePlatform referenceCatalogue).Run c.dst _ _ :=
    TransitionSystem.run_trace (handle referencePlatform referenceCatalogue) c.dst sparsePings
  have hevents := TransitionSystem.map_event_trace (handle referencePlatform referenceCatalogue)
    c.dst sparsePings
  generalize TransitionSystem.trace (handle referencePlatform referenceCatalogue) c.dst
    sparsePings = tr at hpings hevents
  generalize TransitionSystem.after (handle referencePlatform referenceCatalogue) c.dst
    sparsePings = r at hpings
  have hquiet : ∀ u ∈ tr, Step.Quiet u := by
    intro u hu
    have hmem : u.event ∈ sparsePings := hevents ▸ List.mem_map_of_mem hu
    have hping : ∀ input ∈ sparsePings, input.packet.cmd = .ping := by decide
    rw [Step.Quiet, hping _ hmem]
    exact ⟨by decide, by decide⟩
  have hcounted (now : ℕ) : countedMs c tr now =
      wholeUnits nanosPerMilli 0 [10000400000, 20000800000, now] := by
    have hreadings : tr.map Step.tickTime = sparsePings.map fun input => input.clock.tick := by
      rw [← hevents, List.map_map]
      rfl
    rw [countedMs, hnow, hreadings]
    rfl
  have hiff (now : ℕ) := (health_window_expiry_iff ⟨_, _, _, r₀, pre, .newZeroed, hr₀, hrun⟩ hc
    hcmd (by rw [hack]; rfl) hpings hquiet (step_of r ⟨⟨now, now, none⟩, ⟨.ping, []⟩⟩)).1
      ⟨by simp [Step.of], by simp [Step.of]⟩
  have hsoon : ¬ 30000 ≤ countedMs c tr 30000500000 := by
    rw [hcounted]
    decide
  have hlate : 30000 ≤ countedMs c tr 30001200000 := by
    rw [hcounted]
    decide
  exact ⟨c, tr, r, _, _, hcmd, hnow, hack, hpings, hevents, rfl, mt (hiff 30000500000).mp hsoon,
    rfl, rfl, (hiff 30001200000).mpr hlate, rfl⟩

/-! ### Frequent packets -/

/-- Pings half a millisecond apart, from half a millisecond on. -/
def densePings (n : ℕ) : List Input :=
  (List.range n).map fun k => ⟨⟨(k + 1) * 500000, (k + 1) * 500000, none⟩, ⟨.ping, []⟩⟩

/-- The readings of dense pings are half a millisecond apart. -/
theorem dense_isChain {R : ℕ → ℕ → Prop} (h : ∀ k, R (k * 500000) ((k + 1) * 500000)) (n : ℕ) :
    (0 :: ((densePings n).map (fun input => input.clock.tick) ++
      [(n + 1) * 500000])).IsChain R := by
  have hlist : 0 :: ((densePings n).map (fun input => input.clock.tick) ++ [(n + 1) * 500000]) =
      (List.range (n + 2)).map fun k => k * 500000 := by
    rw [List.range_succ_eq_map, List.range_succ]
    simp [densePings, Function.comp_def]
  rw [hlist, List.isChain_map, List.isChain_range]
  exact fun k _ => h k

/-- **Frequent packets keep a window open**: on the first board with a candidate on trial, a ping
every half millisecond for half a minute. The first packet at the end of that time finds the window
open, and a confirmation is accepted then. -/
theorem health_window_outlasted :
    ∃ (c : Step) (tr : List Step) (r : FirmwareRuntime) (now : ℕ),
      Reachable referencePlatform referenceCatalogue c.src ∧
      (firmware referencePlatform referenceCatalogue).Step c ∧
      c.event.packet.cmd = .flashComplete ∧ c.output = ack ∧
      (firmware referencePlatform referenceCatalogue).Run c.dst tr r ∧
      tr.map Transition.event = densePings 59999 ∧
      now = c.event.clock.now + 30000 * nanosPerMilli ∧
      (Step.of referencePlatform referenceCatalogue r ⟨⟨now, now, none⟩, ⟨.ping, []⟩⟩
        ).dst.update.state = .healthWindow ∧
      (Step.of referencePlatform referenceCatalogue r
        ⟨⟨now, now, none⟩, ⟨.confirmBootHealthy, []⟩⟩).output = ack := by
  obtain ⟨r₀, pre, c, hr₀, hrun, hc, hevent, hack, -, -⟩ :=
    exists_installed_ecuV1 referencePlatform referenceCatalogue ⟨0, 0, none⟩
  have hsrc : Reachable referencePlatform referenceCatalogue c.src :=
    ⟨_, _, _, r₀, pre, .newZeroed, hr₀, hrun⟩
  have hrunPings : (firmware referencePlatform referenceCatalogue).Run c.dst _ _ :=
    TransitionSystem.run_trace (handle referencePlatform referenceCatalogue) c.dst
      (densePings 59999)
  have hevents := TransitionSystem.map_event_trace (handle referencePlatform referenceCatalogue)
    c.dst (densePings 59999)
  generalize TransitionSystem.trace (handle referencePlatform referenceCatalogue) c.dst
    (densePings 59999) = tr at hrunPings hevents
  generalize TransitionSystem.after (handle referencePlatform referenceCatalogue) c.dst
    (densePings 59999) = r at hrunPings
  have hquiet : ∀ u ∈ tr, Step.Quiet u := by
    intro u hu
    have hmem : u.event ∈ densePings 59999 := hevents ▸ List.mem_map_of_mem hu
    obtain ⟨k, -, heq⟩ := List.mem_map.mp hmem
    rw [Step.Quiet, ← heq]
    exact ⟨by simp, by simp⟩
  have hzero : countedMs c tr (30000 * nanosPerMilli) = 0 := by
    have hreadings : tr.map Step.tickTime =
        (densePings 59999).map fun input => input.clock.tick := by
      rw [← hevents, List.map_map]
      rfl
    rw [countedMs, hevent, hreadings]
    exact wholeUnits_eq_zero (dense_isChain (fun k => by rw [nanosPerMilli]; omega) 59999)
  have hcmd : c.event.packet.cmd = .flashComplete := by
    rw [hevent]
  obtain ⟨timer, hshows, hiff⟩ := ticked_shows hc hsrc.updateSound hcmd (by rw [hack]; rfl)
    hrunPings hquiet (30000 * nanosPerMilli)
  have hopen : (r.update.tickUpdateHealthWindow (30000 * nanosPerMilli)).state = .healthWindow := by
    rw [hshows.window_iff, Ne, hiff, hzero]
    decide
  have hconfirm := confirm_output (A := referenceCatalogue)
    (step_of r ⟨⟨30000 * nanosPerMilli, 30000 * nanosPerMilli, none⟩, ⟨.confirmBootHealthy, []⟩⟩)
    (run_updateSound hrunPings (step_updateSound hc hsrc.updateSound)) rfl
  refine ⟨c, tr, r, 30000 * nanosPerMilli, hsrc, hc, hcmd, hack, hrunPings, hevents, ?_, hopen, ?_⟩
  · rw [hevent, Nat.zero_add]
  · exact hconfirm.trans (if_pos hopen)

end StEcu
