import StEcu.Foundation.TransitionSystem
import StEcu.Live.RotationalIdle

/-!
# What holds of the rotational idle over whole runs

The runs of the rotational idle are ticks with arbitrary inputs, between which the feature is
enabled and disabled at will. A tick is held back by one of the gates, or ends an activity that has
lasted too long, or is let through; the histogram counts the ticks of the first two kinds by their
reasons.

## Main definitions

* `rotationalIdle`: the runs, `RotationalIdleStep.gateCode`: why a tick is not let through.
* `RotationalIdleRuntime.Running`, `RotationalIdleRuntime.Off`: what holds during an activity, and
  once it has been ended.
* `RotationalIdleStep.Outcome`: what a step can do.

## Main results

* `RotationalIdleStep.outcome`: every step does one of these.
* `rotationalIdle_safe`: the outputs, the gates, when an activity begins, how long it lasts, and
  what the histogram counts.
-/

namespace StEcu

/-- What may happen to the runtime. -/
inductive RotationalIdleEvent
  | setEnabled (enabled : Bool)
  | tick (sampleCounter : UInt32) (egtC engineDemandPct : ℚ) (syncLossCounter : UInt8)
      (protectionActive : Bool)

namespace RotationalIdleRuntime

/-- What an event does. Only a tick reports a sample. -/
def step (r : RotationalIdleRuntime) :
    RotationalIdleEvent → RotationalIdleRuntime × Option RotationalIdleSample
  | .setEnabled enabled => ({ r with enabled }, none)
  | .tick sampleCounter egtC engineDemandPct syncLossCounter protectionActive =>
    let (r, sample) :=
      r.tick sampleCounter egtC engineDemandPct syncLossCounter protectionActive
    (r, some sample)

/-- An activity in progress. -/
structure Running (r : RotationalIdleRuntime) : Prop where
  armed : r.armed = true
  gateReasonCode : r.gateReasonCode = 0
  cutPct : 18 ≤ r.cutPct ∧ r.cutPct ≤ 60
  activeCylinders : r.activeCylinders = 2 ∨ r.activeCylinders = 3
  timerCs : r.timerCs < 900

/-- No activity is in progress. -/
structure Stopped (r : RotationalIdleRuntime) : Prop where
  cutPct : r.cutPct = 0
  activeCylinders : r.activeCylinders = 0
  timerCs : r.timerCs = 0

/-- A runtime that is active is running as it should, and one that is not cuts nothing. -/
structure Sound (r : RotationalIdleRuntime) : Prop where
  running : r.active = true → r.Running
  stopped : r.active = false → r.Stopped

/-- Everything has been ended. -/
structure Off (r : RotationalIdleRuntime) : Prop extends r.Stopped where
  active : r.active = false
  armed : r.armed = false
  activationDelayCs : r.activationDelayCs = 0

/-- The state of a tick that waits for the activation. -/
def waiting (r : RotationalIdleRuntime) : RotationalIdleRuntime :=
  { r with
    armed := true, gateReasonCode := 0
    activationDelayCs := r.activationDelayCs.saturatingAdd 2 }

/-- The count of a gate reason. -/
def slot (r : RotationalIdleRuntime) (code : ℕ) : UInt16 := r.gateReasonHistogram.getD code 0

end RotationalIdleRuntime

open RotationalIdleRuntime

/-- The runs of the rotational idle. -/
def rotationalIdle :
    TransitionSystem RotationalIdleRuntime RotationalIdleEvent (Option RotationalIdleSample) :=
  .ofFun RotationalIdleRuntime.step

/-- The step of an event. -/
abbrev RotationalIdleStep :=
  Transition RotationalIdleRuntime RotationalIdleEvent (Option RotationalIdleSample)

namespace RotationalIdleStep

/-- The step is a tick. -/
def IsTick (t : RotationalIdleStep) : Bool := t.output.isSome

/-- Why a tick is not let through: the first gate that holds it back, or an activity that has lasted
for as long as it may. -/
def gateCode (t : RotationalIdleStep) : Option UInt8 :=
  match t.event with
  | .setEnabled _ => none
  | .tick _ egtC engineDemandPct syncLossCounter protectionActive =>
    if !t.src.enabled then some 1
    else if protectionActive then some 10
    else if syncLossCounter ≠ t.src.lastSyncLossCounter then some 9
    else if egtC < minEgtC then some 3
    else if maxEngineDemandPct < engineDemandPct then some 4
    else if t.src.active ∧ 898 ≤ t.src.timerCs then some 8
    else none

/-- What a step can do. -/
inductive Outcome (t : RotationalIdleStep) : Prop
  | toggled (htick : t.IsTick = false) (hcode : t.gateCode = none)
      (hdst : t.dst = { t.src with enabled := t.dst.enabled })
  | gated (code : UInt8) (htick : t.IsTick = true) (hcode : t.gateCode = some code)
      (hlt : code < 16) (hoff : t.dst.Off) (hgate : t.dst.gateReasonCode = code)
      (hslots : t.dst.gateReasonHistogram =
        t.src.gateReasonHistogram.modify code.toNat (UInt16.saturatingAdd · 1))
      (htimeouts : t.dst.timeoutCount =
        if code = 8 then t.src.timeoutCount.saturatingAdd 1 else t.src.timeoutCount)
  | waited (htick : t.IsTick = true) (hcode : t.gateCode = none) (hsrc : t.src.active = false)
      (hdst : t.dst = t.src.waiting)
  | activated (htick : t.IsTick = true) (hcode : t.gateCode = none) (hsrc : t.src.active = false)
      (hdst : t.dst.active = true) (hrunning : t.dst.Running) (htimer : t.dst.timerCs = 0)
      (hdelay : t.dst.activationDelayCs = t.src.activationDelayCs.saturatingAdd 2)
      (hlong : 20 ≤ t.dst.activationDelayCs)
      (hslots : t.dst.gateReasonHistogram = t.src.gateReasonHistogram)
      (htimeouts : t.dst.timeoutCount = t.src.timeoutCount)
  | ran (htick : t.IsTick = true) (hcode : t.gateCode = none) (hsrc : t.src.active = true)
      (hdst : t.dst.active = true) (hrunning : t.dst.Running)
      (htimer : t.dst.timerCs = t.src.timerCs.saturatingAdd 2)
      (hdelay : t.dst.activationDelayCs = t.src.activationDelayCs)
      (hslots : t.dst.gateReasonHistogram = t.src.gateReasonHistogram)
      (htimeouts : t.dst.timeoutCount = t.src.timeoutCount)

end RotationalIdleStep

/-! ### One step -/

namespace RotationalIdleRuntime

variable (r : RotationalIdleRuntime) (sampleCounter : UInt32) (egtC engineDemandPct : ℚ)

/-- The cut and the cylinders of an activity stay within their bounds, whatever the inputs. -/
theorem advanceScheduler_bounds :
    (18 ≤ (r.advanceScheduler sampleCounter egtC engineDemandPct).cutPct ∧
      (r.advanceScheduler sampleCounter egtC engineDemandPct).cutPct ≤ 60) ∧
      ((r.advanceScheduler sampleCounter egtC engineDemandPct).activeCylinders = 2 ∨
        (r.advanceScheduler sampleCounter egtC engineDemandPct).activeCylinders = 3) := by
  rw [advanceScheduler]
  dsimp only
  refine ⟨?_, ?_⟩
  · generalize (24 : ℚ) + _ + _ + _ = cut
    obtain ⟨hlo, hhi⟩ := clampRat_mem (x := cut) (show (18 : ℚ) ≤ 60 by norm_num)
    obtain ⟨hlo', hhi'⟩ := roundHalfAway_mem (show (0 : ℤ) ≤ 18 by decide)
      (show ((18 : ℤ) : ℚ) ≤ clampRat cut 18 60 by exact_mod_cast hlo)
      (show clampRat cut 18 60 ≤ ((60 : ℤ) : ℚ) by exact_mod_cast hhi)
    rw [UInt8.le_iff_toNat_le, UInt8.le_iff_toNat_le, UInt8.toNat_ofNat']
    change 18 ≤ _ ∧ _ ≤ 60
    omega
  · split_ifs
    · exact .inl rfl
    · exact .inr rfl

/-- The state of a tick of an activity, before its length is looked at. -/
def ticking : RotationalIdleRuntime :=
  { r with
    armed := true, gateReasonCode := 0, timerCs := r.timerCs.saturatingAdd 2
    totalActiveTimeCs := r.totalActiveTimeCs.saturatingAdd 2 }.advanceScheduler sampleCounter egtC
    engineDemandPct

variable {r}

theorem tickArmed_of_inactive (hactive : r.active = false) :
    r.tickArmed sampleCounter egtC engineDemandPct =
      if 20 ≤ r.activationDelayCs.saturatingAdd 2 then
        r.waiting.activate sampleCounter egtC engineDemandPct
      else r.waiting := by
  unfold tickArmed
  exact if_pos (show (!r.active) = true by rw [hactive]; rfl)

theorem tickArmed_of_active (hactive : r.active = true) :
    r.tickArmed sampleCounter egtC engineDemandPct =
      if 900 ≤ r.timerCs.saturatingAdd 2 then
        { r.ticking sampleCounter egtC engineDemandPct with
          timeoutCount := r.timeoutCount.saturatingAdd 1 }.applyGate 8
      else r.ticking sampleCounter egtC engineDemandPct := by
  unfold tickArmed
  exact if_neg (show ¬ (!r.active) = true by rw [hactive]; decide)

theorem syncDelta_pos_iff (counter last : UInt8) : counter - last > 0 ↔ counter ≠ last := by
  have hcounter := counter.toNat_lt
  have hlast := last.toNat_lt
  rw [gt_iff_lt, UInt8.lt_iff_toNat_lt, UInt8.toNat_sub, ne_eq, ← UInt8.toNat_inj]
  change 0 < _ ↔ _
  omega

/-- A tick, with the sync-loss counter it sees compared to the last one. -/
theorem tick_fst (syncLossCounter : UInt8) (protectionActive : Bool)
    (seen : RotationalIdleRuntime)
    (hseen : seen = { r with lastSyncLossCounter := syncLossCounter }) :
    (r.tick sampleCounter egtC engineDemandPct syncLossCounter protectionActive).1 =
      if !r.enabled then seen.applyGate 1
      else if protectionActive then seen.applyGate 10
      else if syncLossCounter ≠ r.lastSyncLossCounter then
        { seen with
          syncGuardEventsTotal := seen.syncGuardEventsTotal.saturatingAdd
            (syncLossCounter - r.lastSyncLossCounter).toUInt16 }.applyGate 9
      else if egtC < minEgtC then seen.applyGate 3
      else if maxEngineDemandPct < engineDemandPct then seen.applyGate 4
      else seen.tickArmed sampleCounter egtC engineDemandPct := by
  subst hseen
  unfold tick
  simp only [syncDelta_pos_iff]

theorem off_applyGate (code : UInt8) : (r.applyGate code).Off where
  cutPct := rfl
  activeCylinders := rfl
  timerCs := rfl
  active := rfl
  armed := rfl
  activationDelayCs := rfl

theorem gateReasonHistogram_applyGate {code : UInt8} (hcode : code < 16) :
    (r.applyGate code).gateReasonHistogram =
      r.gateReasonHistogram.modify code.toNat (UInt16.saturatingAdd · 1) := by
  rw [applyGate, deactivate]
  exact if_pos hcode

end RotationalIdleRuntime

namespace RotationalIdleStep

variable {t : RotationalIdleStep}

theorem gateCode_of_tick {sampleCounter : UInt32} {egtC engineDemandPct : ℚ}
    {syncLossCounter : UInt8} {protectionActive : Bool}
    (hevent : t.event =
      .tick sampleCounter egtC engineDemandPct syncLossCounter protectionActive) :
    t.gateCode =
      if !t.src.enabled then some 1
      else if protectionActive then some 10
      else if syncLossCounter ≠ t.src.lastSyncLossCounter then some 9
      else if egtC < minEgtC then some 3
      else if maxEngineDemandPct < engineDemandPct then some 4
      else if t.src.active ∧ 898 ≤ t.src.timerCs then some 8
      else none := by
  rw [gateCode, hevent]

/-- A tick that a gate holds back. -/
theorem outcome_of_gate {before : RotationalIdleRuntime} {code : UInt8}
    (htick : t.IsTick = true) (hcode : t.gateCode = some code) (hlt : code < 16)
    (hdst : t.dst = before.applyGate code)
    (hslots : before.gateReasonHistogram = t.src.gateReasonHistogram)
    (htimeouts : before.timeoutCount =
      if code = 8 then t.src.timeoutCount.saturatingAdd 1 else t.src.timeoutCount) : t.Outcome := by
  refine .gated code htick hcode hlt ?_ ?_ ?_ ?_
  · rw [hdst]
    exact off_applyGate code
  · rw [hdst]
    rfl
  · rw [hdst, gateReasonHistogram_applyGate hlt, hslots]
  · rw [hdst]
    exact htimeouts

/-- A tick that no gate holds back. -/
theorem outcome_of_tickArmed {sampleCounter : UInt32} {egtC engineDemandPct : ℚ} (h : t.src.Sound)
    (htick : t.IsTick = true)
    (hcode : t.gateCode = if t.src.active ∧ 898 ≤ t.src.timerCs then some 8 else none)
    (hdst : t.dst = t.src.tickArmed sampleCounter egtC engineDemandPct) : t.Outcome := by
  cases hactive : t.src.active with
  | false =>
    have hnone : t.gateCode = none := by
      rw [hcode, hactive]
      exact if_neg fun h => by cases h.1
    rw [tickArmed_of_inactive _ _ _ hactive] at hdst
    split_ifs at hdst with hdelay
    · obtain ⟨hcut, hcylinders⟩ := advanceScheduler_bounds _ sampleCounter egtC engineDemandPct
      refine .activated htick hnone hactive ?_ ?_ ?_ ?_ ?_ ?_ ?_ <;> rw [hdst]
      · rfl
      · exact ⟨rfl, rfl, hcut, hcylinders, show (0 : UInt16) < 900 by decide⟩
      · rfl
      · rfl
      · exact hdelay
      · rfl
      · rfl
    · exact .waited htick hnone hactive hdst
  | true =>
    have htimer : (t.src.timerCs.saturatingAdd 2).toNat = t.src.timerCs.toNat + 2 := by
      have hlt := UInt16.lt_iff_toNat_lt.mp (h.running hactive).timerCs
      change _ < 900 at hlt
      rw [UInt16.toNat_saturatingAdd]
      change min (_ + 2) _ = _
      omega
    have hlong : 900 ≤ t.src.timerCs.saturatingAdd 2 ↔ 898 ≤ t.src.timerCs := by
      rw [UInt16.le_iff_toNat_le, UInt16.le_iff_toNat_le, htimer]
      change 900 ≤ _ ↔ 898 ≤ _
      omega
    rw [tickArmed_of_active _ _ _ hactive] at hdst
    split_ifs at hdst with htimeout
    · rw [if_pos ⟨hactive, hlong.mp htimeout⟩] at hcode
      exact outcome_of_gate htick hcode (by decide) hdst rfl rfl
    · rw [if_neg fun h => htimeout (hlong.mpr h.2)] at hcode
      obtain ⟨hcut, hcylinders⟩ := advanceScheduler_bounds _ sampleCounter egtC engineDemandPct
      refine .ran htick hcode hactive ?_ ?_ ?_ ?_ ?_ ?_ <;> rw [hdst]
      · exact hactive
      · exact ⟨rfl, rfl, hcut, hcylinders, UInt16.not_le.mp htimeout⟩
      · rfl
      · rfl
      · rfl
      · rfl

theorem outcome (h : t.src.Sound) (ht : rotationalIdle.Step t) : t.Outcome := by
  have hstep : t.src.step t.event = (t.dst, t.output) := ht
  cases hevent : t.event with
  | setEnabled enabled =>
    rw [hevent] at hstep
    obtain ⟨hdst, hout⟩ := Prod.mk.inj hstep
    exact .toggled (by rw [IsTick, ← hout]; rfl) (by rw [gateCode, hevent]) (by rw [← hdst])
  | tick sampleCounter egtC engineDemandPct syncLossCounter protectionActive =>
    rw [hevent] at hstep
    obtain ⟨hdst, hout⟩ := Prod.mk.inj hstep
    have htick : t.IsTick = true := by
      rw [IsTick, ← hout]
      rfl
    have hcode := gateCode_of_tick hevent
    have hseen := tick_fst (r := t.src) sampleCounter egtC engineDemandPct syncLossCounter
      protectionActive _ rfl
    rw [show (t.src.tick sampleCounter egtC engineDemandPct syncLossCounter protectionActive).1 =
      t.dst from hdst] at hseen
    split_ifs at hseen hcode with henabled hprotection hsync hegt hdemand hlong
    · exact outcome_of_gate htick hcode (by decide) hseen rfl rfl
    · exact outcome_of_gate htick hcode (by decide) hseen rfl rfl
    · exact outcome_of_gate htick hcode (by decide) hseen rfl rfl
    · exact outcome_of_gate htick hcode (by decide) hseen rfl rfl
    · exact outcome_of_gate htick hcode (by decide) hseen rfl rfl
    · obtain rfl : syncLossCounter = t.src.lastSyncLossCounter := not_not.mp hsync
      exact outcome_of_tickArmed h htick (hcode.trans (if_pos hlong).symm) hseen
    · obtain rfl : syncLossCounter = t.src.lastSyncLossCounter := not_not.mp hsync
      exact outcome_of_tickArmed h htick (hcode.trans (if_neg hlong).symm) hseen

theorem sound_dst (ht : rotationalIdle.Step t) (h : t.src.Sound) : t.dst.Sound := by
  have running (hactive : t.dst.active = true) (hrunning : t.dst.Running) : t.dst.Sound :=
    ⟨fun _ => hrunning, fun hstopped => by rw [hactive] at hstopped; cases hstopped⟩
  have stopped (hactive : t.dst.active = false) (hstopped : t.dst.Stopped) : t.dst.Sound :=
    ⟨fun hrunning => (by rw [hactive] at hrunning; cases hrunning), fun _ => hstopped⟩
  cases outcome h ht with
  | toggled _ _ hdst =>
    rw [hdst]
    exact ⟨fun hactive => have hrunning := h.running hactive
        ⟨hrunning.armed, hrunning.gateReasonCode, hrunning.cutPct, hrunning.activeCylinders,
          hrunning.timerCs⟩,
      fun hactive => have hstopped := h.stopped hactive
        ⟨hstopped.cutPct, hstopped.activeCylinders, hstopped.timerCs⟩⟩
  | gated code _ _ _ hoff => exact stopped hoff.active hoff.toStopped
  | waited _ _ hsrc hdst =>
    have hstopped := h.stopped hsrc
    refine stopped ?_ ?_ <;> rw [hdst]
    · exact hsrc
    · exact ⟨hstopped.cutPct, hstopped.activeCylinders, hstopped.timerCs⟩
  | activated _ _ _ hdst hrunning => exact running hdst hrunning
  | ran _ _ _ hdst hrunning => exact running hdst hrunning

/-- The outputs are nonzero exactly during an activity. -/
theorem outputs_ne_zero_iff {r : RotationalIdleRuntime} (h : r.Sound) :
    (r.cutPct ≠ 0 ∨ r.activeCylinders ≠ 0) ↔ r.active = true := by
  cases hactive : r.active with
  | true =>
    refine iff_of_true (.inl fun hzero => ?_) rfl
    have hle := (h.running hactive).cutPct.1
    rw [hzero] at hle
    exact absurd hle (by decide)
  | false =>
    have hstopped := h.stopped hactive
    rw [hstopped.cutPct, hstopped.activeCylinders]
    decide

/-- A tick that a gate holds back ends everything. -/
theorem off_of_gate (ht : rotationalIdle.Step t) (h : t.src.Sound) {sampleCounter : UInt32}
    {egtC engineDemandPct : ℚ} {syncLossCounter : UInt8} {protectionActive : Bool}
    (hevent : t.event =
      .tick sampleCounter egtC engineDemandPct syncLossCounter protectionActive)
    (hgate : t.src.enabled = false ∨ protectionActive = true ∨
      syncLossCounter ≠ t.src.lastSyncLossCounter ∨ egtC < 780 ∨ 8 < engineDemandPct) :
    t.dst.Off := by
  have hsome : t.gateCode ≠ none := by
    rw [gateCode_of_tick hevent]
    intro hnone
    split_ifs at hnone with henabled hprotection hsync hegt hdemand
    rcases hgate with hgate | hgate | hgate | hgate | hgate
    · exact henabled (by rw [hgate]; rfl)
    · exact hprotection hgate
    · exact hsync hgate
    · exact hegt hgate
    · exact hdemand hgate
  cases outcome h ht with
  | gated _ _ _ _ hoff => exact hoff
  | toggled _ hcode | waited _ hcode | activated _ hcode | ran _ hcode => exact absurd hcode hsome

/-! ### What a history says -/

/-- The ticks of a history. -/
def ticks (tr : List RotationalIdleStep) : List RotationalIdleStep := tr.filter IsTick

theorem ticks_concat_of_tick (tr : List RotationalIdleStep) (htick : t.IsTick = true) :
    ticks (tr ++ [t]) = ticks tr ++ [t] := by
  rw [ticks, List.filter_append, List.filter_singleton, htick]
  rfl

theorem ticks_concat_of_not (tr : List RotationalIdleStep) (htick : t.IsTick = false) :
    ticks (tr ++ [t]) = ticks tr := by
  rw [ticks, List.filter_append, List.filter_singleton, htick]
  exact List.append_nil _

/-- The last `n` ticks of a history have all been let through, for some `n` that covers the
delay. -/
def DelayCovered (tr : List RotationalIdleStep) (r : RotationalIdleRuntime) : Prop :=
  ∃ older recent, ticks tr = older ++ recent ∧ (∀ u ∈ recent, u.gateCode = none) ∧
    r.activationDelayCs.toNat ≤ 2 * recent.length

theorem delayCovered_concat {tr : List RotationalIdleStep} (ht : rotationalIdle.Step t)
    (h : t.src.Sound) (hcovered : DelayCovered tr t.src) : DelayCovered (tr ++ [t]) t.dst := by
  obtain ⟨older, recent, hsplit, hclear, hdelay⟩ := hcovered
  have through (htick : t.IsTick = true) (hcode : t.gateCode = none)
      (hle : t.dst.activationDelayCs.toNat ≤ t.src.activationDelayCs.toNat + 2) :
      DelayCovered (tr ++ [t]) t.dst := by
    refine ⟨older, recent ++ [t], ?_, ?_, ?_⟩
    · rw [ticks_concat_of_tick tr htick, hsplit, List.append_assoc]
    · intro u hu
      rcases List.mem_append.mp hu with hu | hu
      · exact hclear u hu
      · rwa [List.mem_singleton.mp hu]
    · rw [List.length_append, List.length_singleton]
      omega
  have hadd : (t.src.activationDelayCs.saturatingAdd 2).toNat ≤
      t.src.activationDelayCs.toNat + 2 :=
    (UInt16.toNat_saturatingAdd _ _).le.trans (min_le_left _ _)
  cases outcome h ht with
  | toggled htick _ hdst =>
    refine ⟨older, recent, (ticks_concat_of_not tr htick).trans hsplit, hclear, ?_⟩
    rw [hdst]
    exact hdelay
  | gated code htick _ _ hoff =>
    refine ⟨ticks tr ++ [t], [], ?_, fun u hu => (List.not_mem_nil hu).elim, ?_⟩
    · rw [ticks_concat_of_tick tr htick, List.append_nil]
    · rw [hoff.activationDelayCs]
      exact Nat.zero_le _
  | waited htick hcode _ hdst =>
    refine through htick hcode ?_
    rw [hdst]
    exact hadd
  | activated htick hcode _ _ _ _ hdelay' =>
    refine through htick hcode ?_
    rw [hdelay']
    exact hadd
  | ran htick hcode _ _ _ _ hdelay' =>
    refine through htick hcode ?_
    rw [hdelay']
    exact Nat.le_add_right _ 2

/-- An activity begins once the delay has run up. -/
theorem activationDelay_of_onset (ht : rotationalIdle.Step t) (h : t.src.Sound)
    (hsrc : t.src.active = false) (hdst : t.dst.active = true) :
    20 ≤ t.dst.activationDelayCs.toNat := by
  cases outcome h ht with
  | toggled _ _ hsame =>
    rw [hsame] at hdst
    cases hsrc.symm.trans hdst
  | gated _ _ _ _ hoff => cases hoff.active.symm.trans hdst
  | waited _ _ _ hwaits =>
    rw [hwaits] at hdst
    cases hsrc.symm.trans hdst
  | activated _ _ _ _ _ _ _ hlong => exact UInt16.le_iff_toNat_le.mp hlong
  | ran _ _ hactive => cases hsrc.symm.trans hactive

/-- How long an activity has lasted, its first tick included. -/
def activityCs (r : RotationalIdleRuntime) : ℕ := r.timerCs.toNat + if r.active then 2 else 0

/-- A tick that leaves an activity in progress has made it two centiseconds longer. -/
theorem activityCs_dst {n : ℕ} (ht : rotationalIdle.Step t) (h : t.src.Sound)
    (hactive : t.dst.active = true) (hle : 2 * n ≤ activityCs t.src) :
    2 * (n + t.IsTick.toNat) ≤ activityCs t.dst := by
  cases outcome h ht with
  | toggled htick _ hdst =>
    rw [htick, hdst]
    exact hle
  | gated _ _ _ _ hoff =>
    rw [hoff.active] at hactive
    cases hactive
  | waited _ _ hsrc hdst =>
    rw [hdst] at hactive
    cases hsrc.symm.trans hactive
  | activated htick _ hsrc _ _ htimer =>
    rw [activityCs, (h.stopped hsrc).timerCs, hsrc] at hle
    rw [activityCs, htimer, hactive, htick]
    change 2 * (n + 1) ≤ 0 + 2
    change 2 * n ≤ 0 + 0 at hle
    omega
  | ran htick _ hsrc _ _ htimer =>
    have hlt := UInt16.lt_iff_toNat_lt.mp (h.running hsrc).timerCs
    change _ < 900 at hlt
    rw [activityCs, hsrc, if_pos rfl] at hle
    rw [activityCs, htimer, hactive, htick, if_pos rfl, UInt16.toNat_saturatingAdd]
    change 2 * (n + 1) ≤ min (_ + 2) _ + 2
    omega

/-- The histogram counts the ticks that were not let through, by their reasons, and the time-outs
are counted a second time. -/
structure Counted (tr : List RotationalIdleStep) (r : RotationalIdleRuntime) : Prop where
  length : r.gateReasonHistogram.length = 16
  slot : ∀ code : UInt8, code < 16 →
    (r.slot code.toNat).toNat = min (tr.countP fun t => t.gateCode = some code) 0xFFFF
  timeoutCount : r.timeoutCount = r.slot 8
  lt : ∀ t ∈ tr, ∀ code, t.gateCode = some code → code < 16

theorem slot_of_modify {r r' : RotationalIdleRuntime} {code : ℕ} (hlt : code < 16)
    (hlength : r.gateReasonHistogram.length = 16)
    (hslots : r'.gateReasonHistogram =
      r.gateReasonHistogram.modify code (UInt16.saturatingAdd · 1)) (other : ℕ) :
    r'.slot other = if code = other then (r.slot other).saturatingAdd 1 else r.slot other := by
  rw [RotationalIdleRuntime.slot, RotationalIdleRuntime.slot, hslots, List.getD_eq_getElem?_getD,
    List.getElem?_modify, List.getD_eq_getElem?_getD]
  split_ifs with heq
  · subst heq
    rw [List.getElem?_eq_getElem (hlength ▸ hlt)]
    rfl
  · exact congrArg (Option.getD · 0) (id_map _)

theorem counted_concat {tr : List RotationalIdleStep} (ht : rotationalIdle.Step t)
    (h : t.src.Sound) (hcounted : Counted tr t.src) : Counted (tr ++ [t]) t.dst := by
  have hcount (code : UInt8) : (tr ++ [t]).countP (fun t => t.gateCode = some code) =
      tr.countP (fun t => t.gateCode = some code) + if t.gateCode = some code then 1 else 0 := by
    rw [List.countP_append, List.countP_singleton]
    simp only [decide_eq_true_eq]
  have hlast (P : RotationalIdleStep → Prop) (hP : P t) (htr : ∀ u ∈ tr, P u) :
      ∀ u ∈ tr ++ [t], P u := by
    intro u hu
    rcases List.mem_append.mp hu with hu | hu
    · exact htr u hu
    · rwa [List.mem_singleton.mp hu]
  have through (hcode : t.gateCode = none)
      (hslots : t.dst.gateReasonHistogram = t.src.gateReasonHistogram)
      (htimeouts : t.dst.timeoutCount = t.src.timeoutCount) : Counted (tr ++ [t]) t.dst := by
    have hslot (code : ℕ) : t.dst.slot code = t.src.slot code := by
      rw [RotationalIdleRuntime.slot, hslots, RotationalIdleRuntime.slot]
    refine ⟨?_, fun code hlt => ?_, ?_, ?_⟩
    · rw [hslots, hcounted.length]
    · rw [hslot, hcount, hcode, if_neg nofun]
      exact hcounted.slot code hlt
    · rw [htimeouts, hslot, hcounted.timeoutCount]
    · exact hlast _ (fun code h => by rw [hcode] at h; cases h) hcounted.lt
  cases outcome h ht with
  | toggled _ hcode hdst => exact through hcode (by rw [hdst]) (by rw [hdst])
  | gated code htick hcode hlt hoff hgate hslots htimeouts =>
    have hslot := slot_of_modify (UInt8.lt_iff_toNat_lt.mp hlt) hcounted.length hslots
    refine ⟨?_, fun other hother => ?_, ?_, ?_⟩
    · rw [hslots, List.length_modify, hcounted.length]
    · rw [hslot, hcount, hcode]
      by_cases heq : code = other
      · rw [if_pos (congrArg _ heq), if_pos (congrArg _ heq), UInt16.toNat_saturatingAdd,
          hcounted.slot other hother]
        change min (_ + 1) _ = _
        omega
      · rw [if_neg fun h => heq (UInt8.toNat_inj.mp h), if_neg fun h => heq (Option.some.inj h)]
        exact hcounted.slot other hother
    · rw [htimeouts, hslot, hcounted.timeoutCount]
      refine if_congr ?_ rfl rfl
      exact ⟨fun h => congrArg UInt8.toNat h, fun h => UInt8.toNat_inj.mp h⟩
    · refine hlast _ (fun other h => ?_) hcounted.lt
      rw [hcode] at h
      rwa [← Option.some.inj h]
  | waited _ hcode _ hdst => exact through hcode (by rw [hdst]; rfl) (by rw [hdst]; rfl)
  | activated _ hcode _ _ _ _ _ _ hslots htimeouts => exact through hcode hslots htimeouts
  | ran _ hcode _ _ _ _ _ hslots htimeouts => exact through hcode hslots htimeouts

/-- The counts of the reasons add up to the number of all ticks that were not let through. -/
theorem sum_countP_gateCode (tr : List RotationalIdleStep)
    (hlt : ∀ t ∈ tr, ∀ code, t.gateCode = some code → code < 16) :
    ((List.range 16).map fun code => tr.countP fun t => t.gateCode = some (UInt8.ofNat code)).sum =
      tr.countP fun t => t.gateCode.isSome := by
  induction tr with
  | nil => rfl
  | cons t tr ih =>
    have hrest := ih fun u hu => hlt u (List.mem_cons_of_mem t hu)
    simp only [List.countP_cons, List.sum_map_add, hrest, Nat.add_left_cancel_iff]
    cases hcode : t.gateCode with
    | none => rfl
    | some code =>
      have hone : ∀ code < 16, ((List.range 16).map fun other =>
          if decide (some (UInt8.ofNat code) = some (UInt8.ofNat other)) then 1 else 0).sum =
            1 := by
        decide
      have hlast := hone code.toNat (UInt8.lt_iff_toNat_lt.mp (hlt t List.mem_cons_self code hcode))
      rwa [UInt8.ofNat_toNat] at hlast

theorem Counted.sum {tr : List RotationalIdleStep} {r : RotationalIdleRuntime}
    (h : Counted tr r) (hbelow : ∀ n ∈ r.gateReasonHistogram, n < 0xFFFF) :
    (r.gateReasonHistogram.map UInt16.toNat).sum = tr.countP fun t => t.gateCode.isSome := by
  rw [← sum_countP_gateCode tr h.lt]
  refine congrArg List.sum (List.ext_getElem (by simp [h.length]) fun i hi _ => ?_)
  have hlt : i < r.gateReasonHistogram.length := by rwa [List.length_map] at hi
  have hsixteen : i < 16 := h.length ▸ hlt
  have hcode : (UInt8.ofNat i).toNat = i := UInt8.toNat_ofNat_of_lt' (hsixteen.trans (by decide))
  have hslot := h.slot (UInt8.ofNat i) (UInt8.lt_iff_toNat_lt.mpr (by rw [hcode]; exact hsixteen))
  have hunsaturated := UInt16.lt_iff_toNat_lt.mp (hbelow _ (List.getElem_mem hlt))
  rw [hcode, RotationalIdleRuntime.slot, List.getD_eq_getElem?_getD,
    List.getElem?_eq_getElem hlt, Option.getD_some] at hslot
  rw [hslot] at hunsaturated
  rw [List.getElem_map, List.getElem_map, List.getElem_range, hslot]
  change min _ _ < 65535 at hunsaturated
  omega

end RotationalIdleStep

/-! ### Runs -/

theorem rotationalIdle_default : RotationalIdleRuntime.Sound {} :=
  ⟨fun hactive => (by cases hactive), fun _ => ⟨rfl, rfl, rfl⟩⟩

section Runs

variable {s₀ s : RotationalIdleRuntime} {tr : List RotationalIdleStep}

open RotationalIdleStep

theorem rotationalIdle_sound (h : rotationalIdle.Run s₀ tr s) (h₀ : s₀.Sound) : s.Sound :=
  h.invariant h₀ fun _ => sound_dst

theorem rotationalIdle_history (h : rotationalIdle.Run {} tr s) :
    DelayCovered tr s ∧ Counted tr s := by
  induction h with
  | nil =>
    refine ⟨⟨[], [], rfl, fun u hu => (List.not_mem_nil hu).elim, Nat.le_refl 0⟩, rfl,
      fun code hlt => ?_, rfl, fun t ht => (List.not_mem_nil ht).elim⟩
    have hnat : code.toNat < 16 := UInt8.lt_iff_toNat_lt.mp hlt
    rw [RotationalIdleRuntime.slot, List.getD_eq_getElem?_getD, List.getElem?_replicate,
      if_pos hnat]
    rfl
  | @snoc tr s e o s' hrun hs ih =>
    have hsound := rotationalIdle_sound hrun rotationalIdle_default
    exact ⟨delayCovered_concat hs hsound ih.1, counted_concat hs hsound ih.2⟩

theorem rotationalIdle_activity (h : rotationalIdle.Run s₀ tr s) (h₀ : s₀.Sound)
    (hactive : ∀ t ∈ tr, t.dst.active = true) : 2 * (ticks tr).length ≤ activityCs s := by
  induction h with
  | nil => exact Nat.zero_le _
  | @snoc tr s e o s' hrun hs ih =>
    have hlast : s'.active = true := hactive ⟨s, e, o, s'⟩ (by simp)
    have hlen : (ticks (tr ++ [⟨s, e, o, s'⟩])).length =
        (ticks tr).length + (IsTick ⟨s, e, o, s'⟩).toNat := by
      cases htick : IsTick ⟨s, e, o, s'⟩ with
      | true => rw [ticks_concat_of_tick tr htick, List.length_append]; rfl
      | false => rw [ticks_concat_of_not tr htick]; rfl
    rw [hlen]
    exact activityCs_dst hs (rotationalIdle_sound hrun h₀) hlast
      (ih fun t ht => hactive t (List.mem_append_left _ ht))

/-- An activity that has been in progress after each of a run's steps has lasted for at most 450 of
its ticks. -/
theorem rotationalIdle_ticks_le (h : rotationalIdle.Run s₀ tr s) (h₀ : s₀.Sound)
    (hactive : ∀ t ∈ tr, t.dst.active = true) : (ticks tr).length ≤ 450 := by
  have hlong := rotationalIdle_activity h h₀ hactive
  have hsound := rotationalIdle_sound h h₀
  cases hs : s.active with
  | true =>
    have hlt := UInt16.lt_iff_toNat_lt.mp (hsound.running hs).timerCs
    change _ < 900 at hlt
    rw [activityCs, hs, if_pos rfl] at hlong
    omega
  | false =>
    rw [activityCs, (hsound.stopped hs).timerCs, hs] at hlong
    change _ ≤ 0 + 0 at hlong
    omega

end Runs

open RotationalIdleStep

/-- In every run from the default state, whatever the inputs of its ticks, and the feature enabled
and disabled at will in between: the outputs are nonzero exactly during an activity, and stay within
their bounds; a tick that a gate holds back ends everything; an activity begins only with ten ticks
in a row that are let through, the one it begins with included, and is in progress after at most
450 ticks in a row; every slot of the histogram counts its reason and stays at the largest value,
the time-outs are those of slot eight, and as long as no slot is at the largest value, they add up
to the number of ticks that were not let through. -/
theorem rotationalIdle_safe (tr : List RotationalIdleStep) (s : RotationalIdleRuntime)
    (h : rotationalIdle.Run {} tr s) :
    ((s.cutPct ≠ 0 ∨ s.activeCylinders ≠ 0) ↔ s.active = true) ∧
      (s.active = true → s.Running) ∧
      (∀ t ∈ tr, ∀ sampleCounter egtC engineDemandPct syncLossCounter protectionActive,
        t.event = .tick sampleCounter egtC engineDemandPct syncLossCounter protectionActive →
        (t.src.enabled = false ∨ protectionActive = true ∨
          syncLossCounter ≠ t.src.lastSyncLossCounter ∨ egtC < 780 ∨ 8 < engineDemandPct) →
        t.dst.Off) ∧
      (∀ pre t post, tr = pre ++ t :: post → t.src.active = false → t.dst.active = true →
        ∃ older recent, ticks (pre ++ [t]) = older ++ recent ∧ 10 ≤ recent.length ∧
          ∀ u ∈ recent, u.gateCode = none) ∧
      (∀ pre stretch post, tr = pre ++ stretch ++ post → (∀ t ∈ stretch, t.dst.active = true) →
        (ticks stretch).length ≤ 450) ∧
      (∀ code : UInt8, code < 16 → (s.slot code.toNat).toNat =
        min (tr.countP fun t => t.gateCode = some code) 0xFFFF) ∧
      s.timeoutCount = s.slot 8 ∧
      ((∀ n ∈ s.gateReasonHistogram, n < 0xFFFF) →
        (s.gateReasonHistogram.map UInt16.toNat).sum =
          tr.countP fun t => t.gateCode.isSome) := by
  have hsound := rotationalIdle_sound h rotationalIdle_default
  obtain ⟨-, hcounted⟩ := rotationalIdle_history h
  refine ⟨?_, hsound.running, ?_, ?_, ?_, hcounted.slot, hcounted.timeoutCount, ?_⟩
  · exact outputs_ne_zero_iff hsound
  · intro t hmem sampleCounter egtC engineDemandPct syncLossCounter protectionActive
    exact off_of_gate (h.step_of_mem hmem)
      (h.invariant_src rotationalIdle_default (fun _ _ => sound_dst) hmem)
  · rintro pre t post rfl hsrc hdst
    obtain ⟨hpre, ht, -⟩ := h.split_mem
    have hsrcSound := rotationalIdle_sound hpre rotationalIdle_default
    obtain ⟨older, recent, hsplit, hclear, hdelay⟩ :=
      delayCovered_concat ht hsrcSound (rotationalIdle_history hpre).1
    have hlong := activationDelay_of_onset ht hsrcSound hsrc hdst
    exact ⟨older, recent, hsplit, by omega, hclear⟩
  · rintro pre stretch post rfl hactive
    obtain ⟨m, hleft, -⟩ := h.split
    obtain ⟨m', hpre, hstretch⟩ := hleft.split
    exact rotationalIdle_ticks_le hstretch (rotationalIdle_sound hpre rotationalIdle_default)
      hactive
  · exact hcounted.sum

/-- Ten ticks on a hot idling engine, and the activity begins. -/
theorem rotationalIdle_safe_onset :
    (TransitionSystem.after RotationalIdleRuntime.step {}
      (List.replicate 10 (.tick 0 840 4 0 false))).Running :=
  (rotationalIdle_safe _ _ (TransitionSystem.run_trace RotationalIdleRuntime.step {}
    (List.replicate 10 (.tick 0 840 4 0 false)))).2.1 (by decide)

end StEcu
