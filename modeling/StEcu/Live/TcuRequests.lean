import StEcu.Foundation.TransitionSystem
import StEcu.Live.Tcu

/-!
# The life of a shift request

A shift request is started by a tick and lives on through the ticks after it, until it completes,
faults, or loses its link. The state machine is driven by the counter of the live samples and by its
own wrapping counters, and nothing is assumed of either: the ticks of a run may carry any sample
counters in any order.

## Main definitions

* `ExternalTcuRuntime.Active`, `ExternalTcuRuntime.Resting`, `ExternalTcuRuntime.Sound`: what holds
  during a request and between two.
* `ExternalTcuRuntime.Progress`: what a tick can do.
* `tcu`: the runs of the controller; `TcuStep.Starts`, `TcuStep.Completes`, `TcuStep.Faults`,
  `TcuStep.LosesLink`.

## Main results

* `ExternalTcuRuntime.tick_progress`: every tick keeps the invariant and does one of these.
* `tcu_requests`: the invariant, how long a request lives, and how it ends.
-/

namespace StEcu

namespace ExternalTcuRuntime

/-- A request in progress. Its age and its timer add up to what the timer started with. -/
structure Active (t : ExternalTcuRuntime) : Prop where
  stateCode : t.stateCode = 1 ∨ t.stateCode = 2 ∨ t.stateCode = 3
  requestedGear : 1 ≤ t.requestedGear ∧ t.requestedGear ≤ 6
  shiftFaultCode : t.shiftFaultCode = 0
  shiftResultCode : t.shiftResultCode = 0
  age_even : t.requestAgeCs.toNat % 2 = 0
  age_le : t.requestAgeCs.toNat ≤ 60
  age_add_timer : t.requestAgeCs.toNat + t.shiftTimerCs.toNat =
    if t.shiftRequestCounter % 5 = 0 then 70 else 36

/-- No request is in progress. -/
structure Resting (t : ExternalTcuRuntime) : Prop where
  shiftTimerCs : t.shiftTimerCs = 0
  requestAgeCs : t.requestAgeCs = 0
  stateCode : t.stateCode = 0 ∨ t.stateCode = 4 ∨ t.stateCode = 5 ∨ t.stateCode = 6
  holdTicks : t.holdTicks ≤ 8

/-- What holds of a runtime, with a shift under way and without one. -/
structure Sound (t : ExternalTcuRuntime) : Prop where
  active : t.shiftActive = true → t.Active
  resting : t.shiftActive = false → t.Resting

/-- The link is online but for the first samples of each period. -/
def LinkOnline (sampleCounter : UInt32) : Prop := 12 ≤ sampleCounter % 240

instance (sampleCounter : UInt32) : Decidable (LinkOnline sampleCounter) :=
  inferInstanceAs (Decidable (12 ≤ sampleCounter % 240))

/-- What a tick can do to the request. -/
inductive Progress (sampleCounter : UInt32) (t t' : ExternalTcuRuntime) : Prop
  | rested (hsrc : t.shiftActive = false) (hdst : t'.shiftActive = false)
      (hcounter : t'.shiftRequestCounter = t.shiftRequestCounter)
      (hack : t'.ackCounter = t.ackCounter)
  | started (hsrc : t.shiftActive = false) (hdst : t'.shiftActive = true)
      (hlink : LinkOnline sampleCounter)
      (hcounter : t'.shiftRequestCounter = t.shiftRequestCounter + 1)
      (hack : t'.ackCounter = t.ackCounter) (hage : t'.requestAgeCs.toNat = 2)
  | advanced (hsrc : t.shiftActive = true) (hdst : t'.shiftActive = true)
      (hlink : LinkOnline sampleCounter)
      (hcounter : t'.shiftRequestCounter = t.shiftRequestCounter)
      (hack : t'.ackCounter = t.ackCounter)
      (hage : t'.requestAgeCs.toNat = t.requestAgeCs.toNat + 2)
  | completed (hsrc : t.shiftActive = true) (hdst : t'.shiftActive = false)
      (hlink : LinkOnline sampleCounter)
      (hcounter : t'.shiftRequestCounter = t.shiftRequestCounter)
      (hack : t'.ackCounter = t.ackCounter + 1) (hfault : t'.shiftFaultCode = 0)
      (hresult : t'.shiftResultCode = 1)
  | faulted (hsrc : t.shiftActive = true) (hdst : t'.shiftActive = false)
      (hlink : LinkOnline sampleCounter)
      (hcounter : t'.shiftRequestCounter = t.shiftRequestCounter)
      (hack : t'.ackCounter = t.ackCounter)
      (hfault : t'.shiftFaultCode ∈ ([2, 3, 4, 6, 7, 8] : List UInt8))
  | linkLost (hsrc : t.shiftActive = true) (hdst : t'.shiftActive = false)
      (hlink : ¬ LinkOnline sampleCounter)
      (hcounter : t'.shiftRequestCounter = t.shiftRequestCounter)
      (hack : t'.ackCounter = t.ackCounter) (hfault : t'.shiftFaultCode = 1)

variable {t : ExternalTcuRuntime} {sampleCounter : UInt32}

/-! ### One tick -/

theorem Active.sound (hactive : t.shiftActive = true) (h : t.Active) : t.Sound :=
  ⟨fun _ => h, fun hresting => by rw [hactive] at hresting; cases hresting⟩

theorem Resting.sound (hresting : t.shiftActive = false) (h : t.Resting) : t.Sound :=
  ⟨fun hactive => (by rw [hresting] at hactive; cases hactive), fun _ => h⟩

theorem resting_raiseFault {faultCode stateCode resultCode : UInt8} {clearGear : Bool}
    (hstate : stateCode = 5 ∨ stateCode = 6) :
    (t.raiseFault faultCode stateCode resultCode clearGear).Resting where
  shiftTimerCs := rfl
  requestAgeCs := rfl
  stateCode := .inr (.inr hstate)
  holdTicks := UInt8.le_refl 8

/-- A request that has just been started. -/
theorem active_startShiftRequest (t : ExternalTcuRuntime) : t.startShiftRequest.Active where
  stateCode := .inl rfl
  requestedGear := by
    have hgear : ((t.shiftRequestCounter + 1) % 6 + 1).toNat =
        (t.shiftRequestCounter + 1).toNat % 6 + 1 := by
      rw [UInt8.toNat_add, UInt8.toNat_mod]
      change ((t.shiftRequestCounter + 1).toNat % 6 + 1) % 256 = _
      omega
    rw [startShiftRequest, UInt8.le_iff_toNat_le, UInt8.le_iff_toNat_le, hgear]
    change 1 ≤ _ ∧ _ ≤ 6
    omega
  shiftFaultCode := rfl
  shiftResultCode := rfl
  age_even := rfl
  age_le := Nat.zero_le 60
  age_add_timer := by
    rw [startShiftRequest]
    dsimp only
    split_ifs <;> rfl

/-- A request one tick older, before it is looked at. -/
def aged (t : ExternalTcuRuntime) : ExternalTcuRuntime :=
  { t with
    requestAgeCs := t.requestAgeCs.saturatingAdd 2
    stateCode := if 18 ≤ t.requestAgeCs.saturatingAdd 2 then 3
      else if 8 ≤ t.requestAgeCs.saturatingAdd 2 then 2 else t.stateCode
    shiftTimerCs := t.shiftTimerCs.saturatingSub 2 }

/-- A request whose age has not run into the timeout, and whose timer has not run out, goes on. -/
theorem Active.aged (h : t.Active) (hage : ¬ timeoutRequestCs ≤ t.aged.requestAgeCs)
    (htimer : t.aged.shiftTimerCs ≠ 0) :
    t.aged.Active ∧ t.aged.requestAgeCs.toNat = t.requestAgeCs.toNat + 2 := by
  have heven := h.age_even
  have hle := h.age_le
  have holder : t.aged.requestAgeCs.toNat = t.requestAgeCs.toNat + 2 := by
    refine (UInt16.toNat_saturatingAdd _ _).trans ?_
    change min (t.requestAgeCs.toNat + 2) 0xFFFF = _
    omega
  have hless : t.aged.shiftTimerCs.toNat = t.shiftTimerCs.toNat - 2 :=
    UInt16.toNat_saturatingSub _ _
  have hlt : t.requestAgeCs.toNat + 2 < 62 := by
    rw [UInt16.le_iff_toNat_le, holder] at hage
    exact Nat.lt_of_not_le hage
  have hpos : t.shiftTimerCs.toNat - 2 ≠ 0 := by
    rw [← hless]
    exact fun hzero => htimer (UInt16.toNat_inj.mp hzero)
  refine ⟨⟨?_, h.requestedGear, h.shiftFaultCode, h.shiftResultCode, by omega, by omega, ?_⟩,
    holder⟩
  · rw [ExternalTcuRuntime.aged]
    dsimp only
    split_ifs
    · exact .inr (.inr rfl)
    · exact .inr (.inl rfl)
    · exact h.stateCode
  · rw [holder, hless]
    refine Eq.trans ?_ h.age_add_timer
    omega

/-- The step of a request, in terms of the aged one. -/
theorem stepActiveShift_eq (t : ExternalTcuRuntime) (rx tx : Bool) : t.stepActiveShift rx tx =
    if t.shiftRequestCounter % 5 ≠ 0 ∧ !rx ∧ 10 ≤ t.aged.requestAgeCs then
      t.aged.raiseFault 7 5 5 false
    else if t.shiftRequestCounter % 5 ≠ 0 ∧ !tx ∧ 14 ≤ t.aged.requestAgeCs then
      t.aged.raiseFault 8 5 5 false
    else if t.shiftRequestCounter % 11 = 0 ∧ 14 ≤ t.aged.requestAgeCs then
      t.aged.raiseFault 4 5 4 false
    else if t.shiftRequestCounter % 7 = 0 ∧ 10 ≤ t.aged.requestAgeCs then
      t.aged.raiseFault 3 5 3 false
    else if timeoutRequestCs ≤ t.aged.requestAgeCs then
      { t.aged with shiftTimeoutCounter := t.shiftTimeoutCounter + 1 }.raiseFault 2 5 2 true
    else if 46 ≤ t.aged.requestAgeCs ∧ t.shiftRequestCounter % 13 = 0 then
      t.aged.raiseFault 6 5 5 false
    else if t.aged.shiftTimerCs = 0 then
      { t.aged with
        shiftActive := false, shiftResultCode := 1, stateCode := 4
        ackCounter := t.ackCounter + 1, requestedGear := 0, requestAgeCs := 0
        holdTicks := resultHoldTicks }
    else t.aged := rfl

/-- A request in progress faults, completes, or goes on. -/
theorem stepActiveShift_progress (hactive : t.shiftActive = true) (h : t.Active)
    (hlink : LinkOnline sampleCounter) (rx tx : Bool) :
    (t.stepActiveShift rx tx).Sound ∧ Progress sampleCounter t (t.stepActiveShift rx tx) := by
  have hfault (faulty : ExternalTcuRuntime) (fault result : UInt8) (clearGear : Bool)
      (hcounter : faulty.shiftRequestCounter = t.shiftRequestCounter)
      (hack : faulty.ackCounter = t.ackCounter)
      (hcode : fault ∈ ([2, 3, 4, 6, 7, 8] : List UInt8)) :
      (faulty.raiseFault fault 5 result clearGear).Sound ∧
        Progress sampleCounter t (faulty.raiseFault fault 5 result clearGear) :=
    ⟨(resting_raiseFault (.inl rfl)).sound rfl,
      .faulted hactive rfl hlink hcounter hack hcode⟩
  rw [stepActiveShift_eq]
  split_ifs with h₇ h₈ h₄ h₃ h₂ h₆ hdone
  · exact hfault _ 7 _ _ rfl rfl (by decide)
  · exact hfault _ 8 _ _ rfl rfl (by decide)
  · exact hfault _ 4 _ _ rfl rfl (by decide)
  · exact hfault _ 3 _ _ rfl rfl (by decide)
  · exact hfault _ 2 _ _ rfl rfl (by decide)
  · exact hfault _ 6 _ _ rfl rfl (by decide)
  · exact ⟨Resting.sound rfl ⟨hdone, rfl, .inr (.inl rfl), UInt8.le_refl 8⟩,
      .completed hactive rfl hlink rfl rfl h.shiftFaultCode rfl⟩
  · obtain ⟨hgoes, hage⟩ := h.aged h₂ hdone
    exact ⟨hgoes.sound hactive, .advanced hactive hactive hlink rfl rfl hage⟩

theorem startShiftRequest_aged_timer (t : ExternalTcuRuntime) :
    t.startShiftRequest.aged.shiftTimerCs ≠ 0 := by
  rw [aged, startShiftRequest]
  dsimp only
  split_ifs <;> decide

/-- In the tick that starts it, a request only grows two centiseconds old. -/
theorem stepActiveShift_startShiftRequest (t : ExternalTcuRuntime) (rx tx : Bool) :
    (t.startShiftRequest.stepActiveShift rx tx) = t.startShiftRequest.aged := by
  have hage : t.startShiftRequest.aged.requestAgeCs = 2 := rfl
  have hyoung (age : UInt16) (h : 2 < age) : ¬ age ≤ t.startShiftRequest.aged.requestAgeCs := by
    rw [hage, UInt16.not_le]
    exact h
  rw [stepActiveShift_eq, if_neg fun h => hyoung 10 (by decide) h.2.2,
    if_neg fun h => hyoung 14 (by decide) h.2.2, if_neg fun h => hyoung 14 (by decide) h.2,
    if_neg fun h => hyoung 10 (by decide) h.2,
    if_neg (hyoung timeoutRequestCs (by decide)), if_neg fun h => hyoung 46 (by decide) h.1,
    if_neg (startShiftRequest_aged_timer t)]

theorem tickOffline_progress (h : t.Sound) (hlink : ¬ LinkOnline sampleCounter) :
    t.tickOffline.Sound ∧ Progress sampleCounter t t.tickOffline := by
  have hhold (hold : UInt8) (hle : hold ≤ 8) : max hold 2 ≤ 8 := by
    change (if hold ≤ 2 then 2 else hold) ≤ 8
    split_ifs
    · decide
    · exact hle
  rw [tickOffline]
  cases hactive : t.shiftActive with
  | true =>
    rw [Bool.true_or, if_pos rfl]
    exact ⟨Resting.sound rfl ⟨rfl, rfl, .inr (.inr (.inr rfl)), hhold 8 (UInt8.le_refl 8)⟩,
      .linkLost hactive rfl hlink rfl rfl rfl⟩
  | false =>
    have hrest := h.resting hactive
    split_ifs
    · exact ⟨Resting.sound rfl ⟨rfl, rfl, .inr (.inr (.inr rfl)), hhold 8 (UInt8.le_refl 8)⟩,
        .rested hactive rfl rfl rfl⟩
    · exact ⟨Resting.sound rfl ⟨rfl, rfl, .inr (.inr (.inr rfl)), hhold _ hrest.holdTicks⟩,
        .rested hactive rfl rfl rfl⟩

theorem Resting.clearToIdle (h : t.Resting) : t.clearToIdle.Resting :=
  ⟨h.shiftTimerCs, rfl, .inl rfl, h.holdTicks⟩

theorem tickOnline_of_active (hactive : t.shiftActive = true) (hstate : t.stateCode ≠ 6) :
    t.tickOnline sampleCounter = t.stepActiveShift t.rxStreamFresh t.txStreamFresh := by
  simp [tickOnline, hactive, hstate]

/-- An online tick between two requests starts one, counts down the hold, or leaves the state as
it is, after the offline state has been cleared. -/
theorem tickOnline_of_resting (hactive : t.shiftActive = false) (cleared : ExternalTcuRuntime)
    (hcleared : cleared = if t.stateCode = 6 ∧ t.holdTicks = 0 then t.clearToIdle else t) :
    t.tickOnline sampleCounter =
      if cleared.holdTicks = 0 ∧ sampleCounter % 30 = 1 then
        cleared.startShiftRequest.stepActiveShift cleared.rxStreamFresh cleared.txStreamFresh
      else if cleared.holdTicks > 0 then
        let held := { cleared with holdTicks := cleared.holdTicks - 1 }
        if held.holdTicks = 0 ∧ held.stateCode ≠ 6 then held.clearToIdle else held
      else cleared := by
  have hinactive : cleared.shiftActive = false := by
    rw [hcleared]
    split_ifs <;> exact hactive
  unfold tickOnline
  rw [← hcleared]
  by_cases hstart : cleared.holdTicks = 0 ∧ sampleCounter % 30 = 1
  · have hdue : (!cleared.shiftActive) = true ∧ cleared.holdTicks = 0 ∧ sampleCounter % 30 = 1 :=
      ⟨by rw [hinactive]; rfl, hstart⟩
    simp only [if_pos hstart, if_pos hdue]
    exact if_pos rfl
  · have hdue : ¬ ((!cleared.shiftActive) = true ∧ cleared.holdTicks = 0 ∧
        sampleCounter % 30 = 1) := fun h => hstart h.2
    simp only [if_neg hstart, if_neg hdue]
    exact if_neg (by rw [hinactive]; decide)

theorem tickOnline_progress (h : t.Sound) (hlink : LinkOnline sampleCounter) :
    (t.tickOnline sampleCounter).Sound ∧
      Progress sampleCounter t (t.tickOnline sampleCounter) := by
  cases hactive : t.shiftActive with
  | true =>
    have hrequest := h.active hactive
    have hstate : t.stateCode ≠ 6 := by
      rcases hrequest.stateCode with h | h | h <;> rw [h] <;> decide
    rw [tickOnline_of_active hactive hstate]
    exact stepActiveShift_progress hactive hrequest hlink _ _
  | false =>
    have hrest := h.resting hactive
    rw [tickOnline_of_resting hactive _ rfl]
    generalize hcleared : (if t.stateCode = 6 ∧ t.holdTicks = 0 then t.clearToIdle else t) = cleared
    obtain ⟨hrest', hinactive, hcounter, hack⟩ : cleared.Resting ∧
        cleared.shiftActive = false ∧ cleared.shiftRequestCounter = t.shiftRequestCounter ∧
        cleared.ackCounter = t.ackCounter := by
      rw [← hcleared]
      split_ifs
      · exact ⟨hrest.clearToIdle, hactive, rfl, rfl⟩
      · exact ⟨hrest, hactive, rfl, rfl⟩
    have hheld : cleared.holdTicks - 1 ≤ 8 ∨ ¬ cleared.holdTicks > 0 := by
      by_cases hzero : cleared.holdTicks > 0
      · refine .inl ?_
        have hle := hrest'.holdTicks
        rw [UInt8.le_iff_toNat_le, UInt8.toNat_sub_of_le _ _ (UInt8.lt_iff_toNat_lt.mp hzero)]
        rw [UInt8.le_iff_toNat_le] at hle
        exact (Nat.sub_le _ _).trans hle
      · exact .inr hzero
    have hkept (next : ExternalTcuRuntime) (hnext : next.Resting)
        (hsame : next.shiftActive = cleared.shiftActive ∧
          next.shiftRequestCounter = cleared.shiftRequestCounter ∧
          next.ackCounter = cleared.ackCounter) : next.Sound ∧ Progress sampleCounter t next :=
      ⟨hnext.sound (hsame.1.trans hinactive), .rested hactive (hsame.1.trans hinactive)
        (hsame.2.1.trans hcounter) (hsame.2.2.trans hack)⟩
    dsimp only
    split_ifs with hstart hhold hidle
    · have hyoung := active_startShiftRequest cleared
      obtain ⟨haged, hage⟩ := hyoung.aged (show ¬ timeoutRequestCs ≤ 2 by decide)
        (startShiftRequest_aged_timer cleared)
      rw [stepActiveShift_startShiftRequest]
      exact ⟨haged.sound rfl, .started hactive rfl hlink (congrArg (· + 1) hcounter) hack hage⟩
    · exact hkept _ ⟨hrest'.shiftTimerCs, rfl, .inl rfl, hheld.resolve_right (not_not_intro hhold)⟩
        ⟨rfl, rfl, rfl⟩
    · exact hkept _ ⟨hrest'.shiftTimerCs, hrest'.requestAgeCs, hrest'.stateCode,
        hheld.resolve_right (not_not_intro hhold)⟩ ⟨rfl, rfl, rfl⟩
    · exact hkept _ hrest' ⟨rfl, rfl, rfl⟩

/-- The state once the freshness of the two streams has been looked at. -/
def refreshed (t : ExternalTcuRuntime) (sampleCounter : UInt32) : ExternalTcuRuntime :=
  { t with
    rxStreamFresh := (computeStreamFreshness sampleCounter (12 ≤ sampleCounter % 240)).1
    txStreamFresh := (computeStreamFreshness sampleCounter (12 ≤ sampleCounter % 240)).2 }

theorem tick_of_online (t : ExternalTcuRuntime) (hlink : LinkOnline sampleCounter) :
    t.tick sampleCounter = (((t.refreshed sampleCounter).tickOnline sampleCounter),
      ((t.refreshed sampleCounter).tickOnline sampleCounter).sample true) := by
  have hon : decide (12 ≤ sampleCounter % 240) = true := decide_eq_true hlink
  rw [tick, refreshed, hon]
  rfl

theorem tick_of_offline (t : ExternalTcuRuntime) (hlink : ¬ LinkOnline sampleCounter) :
    t.tick sampleCounter = ((t.refreshed sampleCounter).tickOffline,
      ((t.refreshed sampleCounter).tickOffline).sample false) := by
  have hoff : decide (12 ≤ sampleCounter % 240) = false := decide_eq_false hlink
  rw [tick, refreshed, hoff]
  rfl

theorem Sound.refreshed (h : t.Sound) (sampleCounter : UInt32) :
    (t.refreshed sampleCounter).Sound where
  active hactive :=
    have hrequest := h.active hactive
    ⟨hrequest.stateCode, hrequest.requestedGear, hrequest.shiftFaultCode, hrequest.shiftResultCode,
      hrequest.age_even, hrequest.age_le, hrequest.age_add_timer⟩
  resting hactive :=
    have hrest := h.resting hactive
    ⟨hrest.shiftTimerCs, hrest.requestAgeCs, hrest.stateCode, hrest.holdTicks⟩

theorem Progress.of_refreshed {t' : ExternalTcuRuntime}
    (h : Progress sampleCounter (t.refreshed sampleCounter) t') : Progress sampleCounter t t' := by
  cases h with
  | rested hsrc hdst hcounter hack => exact .rested hsrc hdst hcounter hack
  | started hsrc hdst hlink hcounter hack hage => exact .started hsrc hdst hlink hcounter hack hage
  | advanced hsrc hdst hlink hcounter hack hage =>
    exact .advanced hsrc hdst hlink hcounter hack hage
  | completed hsrc hdst hlink hcounter hack hfault hresult =>
    exact .completed hsrc hdst hlink hcounter hack hfault hresult
  | faulted hsrc hdst hlink hcounter hack hfault =>
    exact .faulted hsrc hdst hlink hcounter hack hfault
  | linkLost hsrc hdst hlink hcounter hack hfault =>
    exact .linkLost hsrc hdst hlink hcounter hack hfault

/-- Every tick keeps the invariant, and does one of the things a tick can do. -/
theorem tick_progress (h : t.Sound) (sampleCounter : UInt32) :
    (t.tick sampleCounter).1.Sound ∧ Progress sampleCounter t (t.tick sampleCounter).1 := by
  have hfresh := h.refreshed sampleCounter
  by_cases hlink : LinkOnline sampleCounter
  · rw [tick_of_online t hlink]
    exact (tickOnline_progress hfresh hlink).imp_right Progress.of_refreshed
  · rw [tick_of_offline t hlink]
    exact (tickOffline_progress hfresh hlink).imp_right Progress.of_refreshed

/-- Without a request in progress, no reduction of the torque is reported. -/
theorem Resting.sample (h : t.Resting) (hactive : t.shiftActive = false) (linkOnline : Bool) :
    (t.sample linkOnline).torqueReductionPct = 0 ∧
      (t.sample linkOnline).torqueReductionTimerCs = 0 := by
  refine ⟨if_neg ?_, h.shiftTimerCs⟩
  rw [hactive]
  rintro ⟨⟨⟩, -⟩

theorem tickOffline_stateCode (t : ExternalTcuRuntime) : t.tickOffline.stateCode = 6 := by
  rw [tickOffline]
  split_ifs <;> rfl

theorem tickOffline_streams (t : ExternalTcuRuntime) :
    t.tickOffline.rxStreamFresh = t.rxStreamFresh ∧
      t.tickOffline.txStreamFresh = t.txStreamFresh := by
  rw [tickOffline]
  split_ifs <;> exact ⟨rfl, rfl⟩

theorem sample_statusFlags_eq_zero (hrx : t.rxStreamFresh = false) (htx : t.txStreamFresh = false)
    (hactive : t.shiftActive = false) : (t.sample false).statusFlags = 0 := by
  simp [sample, hrx, htx, hactive]

/-- A tick without a link reports the offline state, and neither a gear nor an intervention. -/
theorem tick_sample_of_offline (t : ExternalTcuRuntime) (hlink : ¬ LinkOnline sampleCounter) :
    (t.tick sampleCounter).2.stateCode = 6 ∧ (t.tick sampleCounter).2.requestedGear = 0 ∧
      (t.tick sampleCounter).2.statusFlags = 0 ∧
      (t.tick sampleCounter).2.torqueReductionPct = 0 ∧
      (t.tick sampleCounter).2.torqueReductionTimerCs = 0 := by
  have hoff : decide (12 ≤ sampleCounter % 240) = false := decide_eq_false hlink
  have hstreams := tickOffline_streams (t.refreshed sampleCounter)
  have hstale : computeStreamFreshness sampleCounter false = (false, false) := rfl
  rw [refreshed, hoff, hstale] at hstreams
  rw [tick_of_offline t hlink, refreshed, hoff, hstale]
  exact ⟨tickOffline_stateCode _, rfl, sample_statusFlags_eq_zero hstreams.1 hstreams.2 rfl, rfl,
    rfl⟩

end ExternalTcuRuntime

/-- The runs of the controller: the events are the sample counters it is ticked with. -/
def tcu : TransitionSystem ExternalTcuRuntime UInt32 TransmissionSample :=
  .ofFun ExternalTcuRuntime.tick

/-- The step of a tick. -/
abbrev TcuStep := Transition ExternalTcuRuntime UInt32 TransmissionSample

namespace TcuStep

variable (t : TcuStep)

/-- The tick requests a shift. -/
def Starts : Bool := t.dst.shiftRequestCounter = t.src.shiftRequestCounter + 1

/-- The tick ends a shift with success. -/
def Completes : Bool :=
  t.src.shiftActive && !t.dst.shiftActive && t.dst.ackCounter = t.src.ackCounter + 1 &&
    t.dst.shiftFaultCode = 0 && t.dst.shiftResultCode = 1

/-- The tick ends a shift with a fault, the link being there. -/
def Faults : Bool :=
  t.src.shiftActive && !t.dst.shiftActive && t.dst.ackCounter = t.src.ackCounter &&
    ExternalTcuRuntime.LinkOnline t.event &&
    t.dst.shiftFaultCode ∈ ([2, 3, 4, 6, 7, 8] : List UInt8)

/-- The tick ends a shift because the link is gone. -/
def LosesLink : Bool :=
  t.src.shiftActive && !t.dst.shiftActive && t.dst.ackCounter = t.src.ackCounter &&
    !ExternalTcuRuntime.LinkOnline t.event && t.dst.shiftFaultCode = 1

end TcuStep

open ExternalTcuRuntime

theorem sound_default : Sound {} :=
  Resting.sound rfl ⟨rfl, rfl, .inl rfl, by decide⟩

section Runs

variable {s₀ s : ExternalTcuRuntime} {tr : List TcuStep} {t : TcuStep}

theorem tcu_step_progress (ht : tcu.Step t) (h : t.src.Sound) :
    t.dst.Sound ∧ Progress t.event t.src t.dst := by
  have hdst : (t.src.tick t.event).1 = t.dst := congrArg Prod.fst ht
  rw [← hdst]
  exact tick_progress h t.event

theorem tcu_step_sound (ht : tcu.Step t) (h : t.src.Sound) : t.dst.Sound :=
  (tcu_step_progress ht h).1

theorem counter_ne_add_one (n : UInt8) : n ≠ n + 1 := by
  intro hn
  have hnat := congrArg UInt8.toNat hn
  rw [UInt8.toNat_add] at hnat
  change n.toNat = (n.toNat + 1) % 256 at hnat
  omega

/-- A tick that starts a request enters it; one that completes, faults or loses its link leaves it;
every other tick stays on its side. -/
theorem tcu_balance (ht : tcu.Step t) (h : t.src.Sound) :
    t.src.shiftActive.toNat + t.Starts.toNat =
      ([TcuStep.Completes, TcuStep.Faults, TcuStep.LosesLink].map fun leave =>
        (leave t).toNat).sum + t.dst.shiftActive.toNat := by
  have hne := counter_ne_add_one
  have hne' (n : UInt8) : n + 1 ≠ n := (hne n).symm
  cases (tcu_step_progress ht h).2 with
  | rested hsrc hdst hcounter hack =>
    simp [TcuStep.Starts, TcuStep.Completes, TcuStep.Faults, TcuStep.LosesLink, hsrc, hdst,
      hcounter, hne]
  | started hsrc hdst hlink hcounter hack hage =>
    simp [TcuStep.Starts, TcuStep.Completes, TcuStep.Faults, TcuStep.LosesLink, hsrc, hdst,
      hcounter]
  | advanced hsrc hdst hlink hcounter hack hage =>
    simp [TcuStep.Starts, TcuStep.Completes, TcuStep.Faults, TcuStep.LosesLink, hsrc, hdst,
      hcounter, hne]
  | completed hsrc hdst hlink hcounter hack hfault hresult =>
    simp [TcuStep.Starts, TcuStep.Completes, TcuStep.Faults, TcuStep.LosesLink, hsrc, hdst,
      hcounter, hack, hfault, hresult, hne, hne']
  | faulted hsrc hdst hlink hcounter hack hfault =>
    have hfaults : t.Faults = true := by
      simpa [TcuStep.Faults, hsrc, hdst, hack, hlink] using hfault
    simp [TcuStep.Starts, TcuStep.Completes, TcuStep.LosesLink, hsrc, hdst, hcounter, hack, hlink,
      hfaults, hne]
  | linkLost hsrc hdst hlink hcounter hack hfault =>
    simp [TcuStep.Starts, TcuStep.Completes, TcuStep.Faults, TcuStep.LosesLink, hsrc, hdst,
      hcounter, hack, hlink, hfault, hne]

/-- A request that has been in progress for all ticks of a run is two centiseconds older for each
of them. -/
theorem tcu_age (h : tcu.Run s₀ tr s) (h₀ : s₀.Sound)
    (hactive : ∀ t ∈ tr, t.dst.shiftActive = true) : 2 * tr.length ≤ s.requestAgeCs.toNat := by
  induction h with
  | nil => exact Nat.zero_le _
  | @snoc tr s e o s' hrun hs ih =>
    have hlen := ih fun t ht => hactive t (List.mem_append_left _ ht)
    have hlast : s'.shiftActive = true := hactive ⟨s, e, o, s'⟩ (by simp)
    have hsound : s.Sound := hrun.invariant h₀ fun _ => tcu_step_sound
    rw [List.length_append, List.length_singleton]
    cases (tcu_step_progress hs hsound).2 with
    | started hsrc hdst hlink hcounter hack hage =>
      rw [(hsound.resting hsrc).requestAgeCs] at hlen
      have hyoung : s'.requestAgeCs.toNat = 2 := hage
      have hzero : (0 : UInt16).toNat = 0 := rfl
      omega
    | advanced hsrc hdst hlink hcounter hack hage =>
      have holder : s'.requestAgeCs.toNat = s.requestAgeCs.toNat + 2 := hage
      omega
    | rested hsrc hdst => rw [hlast] at hdst; cases hdst
    | completed hsrc hdst => rw [hlast] at hdst; cases hdst
    | faulted hsrc hdst => rw [hlast] at hdst; cases hdst
    | linkLost hsrc hdst => rw [hlast] at hdst; cases hdst

/-- A request that has been in progress after each of a run's ticks has lived for at most thirty. -/
theorem tcu_length_le (h : tcu.Run s₀ tr s) (h₀ : s₀.Sound)
    (hactive : ∀ t ∈ tr, t.dst.shiftActive = true) : tr.length ≤ 30 := by
  have hage := tcu_age h h₀ hactive
  cases hs : s.shiftActive with
  | true =>
    have hle := (h.invariant h₀ fun _ => tcu_step_sound).active hs |>.age_le
    omega
  | false =>
    rw [((h.invariant h₀ fun _ => tcu_step_sound).resting hs).requestAgeCs] at hage
    have hzero : (0 : UInt16).toNat = 0 := rfl
    omega

/-- What a tick reports is read off the state it leaves. -/
theorem tcu_output (ht : tcu.Step t) : ∃ linkOnline, t.output = t.dst.sample linkOnline := by
  have hdst : (t.src.tick t.event).1 = t.dst := congrArg Prod.fst ht
  have hout : (t.src.tick t.event).2 = t.output := congrArg Prod.snd ht
  rw [← hdst, ← hout]
  exact ⟨12 ≤ t.event % 240, rfl⟩

/-- Only a tick without a request in progress starts one. -/
theorem tcu_starts (ht : tcu.Step t) (h : t.src.Sound) (hstart : t.Starts = true) :
    t.src.shiftActive = false ∧ t.dst.shiftActive = true := by
  have hcounter : t.dst.shiftRequestCounter = t.src.shiftRequestCounter + 1 :=
    of_decide_eq_true hstart
  have hsame (hkept : t.dst.shiftRequestCounter = t.src.shiftRequestCounter) : False :=
    counter_ne_add_one _ (hkept.symm.trans hcounter)
  cases (tcu_step_progress ht h).2 with
  | started hsrc hdst => exact ⟨hsrc, hdst⟩
  | rested _ _ hkept | advanced _ _ _ hkept | completed _ _ _ hkept | faulted _ _ _ hkept
  | linkLost _ _ _ hkept => exact (hsame hkept).elim

end Runs

/-- In every run from the default state, whatever the sample counters it is ticked with: what holds
during a request and between two; a request is in progress after at most thirty ticks in a row, so
that with the tick that ends it, it takes thirty-one; without a request no reduction of the torque
is reported; a tick without a link reports the offline state, and neither a gear nor an
intervention; and between two starts that follow each other, exactly one tick completes the request,
faults it, or loses its link. -/
theorem tcu_requests (tr : List TcuStep) (s : ExternalTcuRuntime) (h : tcu.Run {} tr s) :
    (s.shiftActive = true → s.Active) ∧ (s.shiftActive = false → s.Resting) ∧
      (∀ pre stretch post, tr = pre ++ stretch ++ post →
        (∀ t ∈ stretch, t.dst.shiftActive = true) → stretch.length ≤ 30) ∧
      (∀ t ∈ tr, t.dst.shiftActive = false →
        t.output.torqueReductionPct = 0 ∧ t.output.torqueReductionTimerCs = 0) ∧
      (∀ t ∈ tr, ¬ LinkOnline t.event →
        t.output.stateCode = 6 ∧ t.output.requestedGear = 0 ∧ t.output.statusFlags = 0 ∧
          t.output.torqueReductionPct = 0 ∧ t.output.torqueReductionTimerCs = 0) ∧
      ∀ pre t₁ mid t₂ post, tr = pre ++ t₁ :: (mid ++ t₂ :: post) →
        t₁.Starts = true → t₂.Starts = true → (∀ t ∈ mid, t.Starts = false) →
          mid.countP TcuStep.Completes + mid.countP TcuStep.Faults +
            mid.countP TcuStep.LosesLink = 1 := by
  have hsound : s.Sound := h.invariant sound_default fun _ => tcu_step_sound
  refine ⟨hsound.active, hsound.resting, ?_, ?_, ?_, ?_⟩
  · rintro pre stretch post rfl hactive
    obtain ⟨m, hleft, -⟩ := h.split
    obtain ⟨m', hpre, hstretch⟩ := hleft.split
    exact tcu_length_le hstretch (hpre.invariant sound_default fun _ => tcu_step_sound) hactive
  · intro t ht hactive
    have hsrc := h.invariant_src sound_default (fun _ _ => tcu_step_sound) ht
    have hstep := h.step_of_mem ht
    have hrest := (tcu_step_sound hstep hsrc).resting hactive
    obtain ⟨linkOnline, hout⟩ := tcu_output hstep
    rw [hout]
    exact hrest.sample hactive linkOnline
  · intro t ht hlink
    have hout : (t.src.tick t.event).2 = t.output := congrArg Prod.snd (h.step_of_mem ht)
    rw [← hout]
    exact tick_sample_of_offline t.src hlink
  · rintro pre t₁ mid t₂ post rfl hstart₁ hstart₂ hmid
    obtain ⟨hpre, ht₁, hrest⟩ := h.split_mem
    obtain ⟨hbetween, ht₂, -⟩ := hrest.split_mem
    have hsrc₁ : t₁.src.Sound := hpre.invariant sound_default fun _ => tcu_step_sound
    have hdst₁ : t₁.dst.Sound := tcu_step_sound ht₁ hsrc₁
    have hsrc₂ : t₂.src.Sound := hbetween.invariant hdst₁ fun _ => tcu_step_sound
    have hbalance := hbetween.countP_balance (fun x => x.shiftActive.toNat) TcuStep.Starts
      [TcuStep.Completes, TcuStep.Faults, TcuStep.LosesLink] fun t ht hstep =>
        tcu_balance hstep (hbetween.invariant_src hdst₁ (fun _ _ => tcu_step_sound) ht)
    have hnone : mid.countP TcuStep.Starts = 0 :=
      List.countP_eq_zero.mpr fun t ht => by simp [hmid t ht]
    rw [hnone, (tcu_starts ht₁ hsrc₁ hstart₁).2, (tcu_starts ht₂ hsrc₂ hstart₂).1] at hbalance
    simp only [List.map_cons, List.map_nil, List.sum_cons, List.sum_nil, Bool.toNat_true,
      Bool.toNat_false] at hbalance
    omega

/-- The thirty-first sample starts a request, which is still in progress three samples later. -/
theorem tcu_requests_first :
    (TransitionSystem.after tick {} [31, 32, 33, 34]).Active ∧
      (TransitionSystem.after tick {} [31, 32, 33, 34]).requestAgeCs = 8 :=
  ⟨(tcu_requests _ _ (TransitionSystem.run_trace tick {} [31, 32, 33, 34])).1 (by decide),
    by decide⟩

end StEcu
