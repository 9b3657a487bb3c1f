import StEcu.Transport.Activity
import StEcu.Transport.Reference

/-!
# The time base of the live samples

The clock of the runtime is the counter of its live samples, twenty milliseconds each. The counter
runs around, but the milliseconds are its saturating product: from the sample 214748365 on, the
clock stands still until the counter runs around.

## Main definitions

* `Step.timestampMs`: the time of a live frame, as the host reads it.
* `framesSinceStart`: the live frames since the last start of a log session.
* `TimeBase`: the frames of a run are twenty milliseconds apart, and an active session has lasted
  for twenty milliseconds a frame.

## Main results

* `run_clocked`: what the counters hold after every run.
* `time_base_iff`: the clock is right in a run of at most 214748364 live frames, and in no longer
  one.
-/

namespace StEcu

namespace Step

/-- The step takes a live sample. -/
def samples (t : Step) : Bool := t.event.packet.cmd = .getLiveData

/-- The step starts a log session. -/
def startsLog (t : Step) : Bool := t.event.packet.cmd = .logStart

/-- The first field of a live frame. -/
def timestampMs (t : Step) : UInt32 := u32OfBe (t.output.payload.take 4)

end Step

/-- The live frames built since the last start of a log session. -/
def framesSinceStart (tr : List Step) : ℕ :=
  tr.foldl (fun frames t => if t.startsLog then 0 else frames + t.samples.toNat) 0

/-- The last sample whose time in milliseconds, and that of all before it, fits into 32 bits. -/
def lastTimedSample : ℕ := 214748364

/-- The time of a sample. -/
def sampleMs (sample : ℕ) : UInt32 := (UInt32.ofNat sample).saturatingMul 20

/-- Consecutive live frames are twenty milliseconds apart on the clock of 32 bits, and in every
state of an active session that has lasted for less than 2 ^ 32 milliseconds, the log status has
twenty milliseconds for each live frame since the start. -/
structure TimeBase (P : Platform) (A : Catalogue) (r₀ : FirmwareRuntime) (tr : List Step) :
    Prop where
  frames : ∀ pre t₁ mid t₂ post, tr = pre ++ t₁ :: (mid ++ t₂ :: post) →
    t₁.samples = true → t₂.samples = true → (∀ t ∈ mid, t.samples = false) →
    t₂.timestampMs = t₁.timestampMs + 20
  elapsed : ∀ pre post r, tr = pre ++ post → (firmware P A).Run r₀ pre r →
    r.log.active = true → 20 * framesSinceStart pre < 2 ^ 32 →
    (r.log.logStatusPayload r.live.currentRuntimeMs).elapsedMs.toNat = 20 * framesSinceStart pre

/-! ### The clock -/

theorem toNat_sampleMs {sample : ℕ} (h : sample ≤ lastTimedSample) :
    (sampleMs sample).toNat = 20 * sample := by
  rw [lastTimedSample] at h
  rw [sampleMs, UInt32.toNat_saturatingMul, UInt32.toNat_ofNat', Nat.mod_eq_of_lt (by omega)]
  change min (sample * 20) _ = _
  omega

/-- As long as the clock runs, a sample is twenty milliseconds after the one before it. -/
theorem sampleMs_succ {sample : ℕ} (h : sample + 1 ≤ lastTimedSample) :
    sampleMs (sample + 1) = sampleMs sample + 20 := by
  have hlast : lastTimedSample = 214748364 := rfl
  rw [← UInt32.toNat_inj, UInt32.toNat_add, toNat_sampleMs h, toNat_sampleMs (by omega)]
  change _ = (_ + 20) % 2 ^ 32
  omega

/-- After the last timed sample, it stands still. -/
theorem sampleMs_succ_lastTimedSample :
    sampleMs (lastTimedSample + 1) ≠ sampleMs lastTimedSample + 20 := by
  decide

/-! ### What a step does to the counters -/

/-- What the counters hold after a history: the number of live frames, and the number of those
before the start of the active session. -/
structure Clocked (tr : List Step) (r : FirmwareRuntime) : Prop where
  counter : r.live.liveSampleCounter = UInt32.ofNat (tr.countP Step.samples)
  started : r.log.active = true → r.log.startedSampleCounter =
    UInt32.ofNat (tr.countP Step.samples - framesSinceStart tr)
  le : framesSinceStart tr ≤ tr.countP Step.samples

variable {P : Platform} {A : Catalogue} {t : Step} {tr : List Step}

theorem countP_samples_concat (tr : List Step) (t : Step) :
    (tr ++ [t]).countP Step.samples = tr.countP Step.samples + t.samples.toNat := by
  rw [List.countP_append, List.countP_singleton]
  cases t.samples <;> rfl

theorem framesSinceStart_concat (tr : List Step) (t : Step) : framesSinceStart (tr ++ [t]) =
    if t.startsLog then 0 else framesSinceStart tr + t.samples.toNat := by
  rw [framesSinceStart, List.foldl_append]
  rfl

/-! ### The time of a frame -/

section Frames

theorem timestampMs_actuatorStage (P : Platform) (config : ActuatorRuntimeConfig) (shifting : Bool)
    (frame : LiveDataFrame) :
    (actuatorStage P config shifting frame).timestampMs = frame.timestampMs := by
  obtain ⟨_, _, _, _, _, heq⟩ := actuatorStage_eq P config shifting frame
  rw [heq]

theorem timestampMs_widebandStage (sample : WidebandSample) (frame : LiveDataFrame) :
    (widebandStage sample frame).timestampMs = frame.timestampMs := by
  obtain ⟨_, _, heq⟩ := widebandStage_eq sample frame
  rw [heq]

theorem timestampMs_protectionStage (state : ProtectionState) (action : ProtectionAction)
    (frame : LiveDataFrame) :
    (protectionStage state action frame).timestampMs = frame.timestampMs := by
  obtain ⟨_, _, heq⟩ := protectionStage_eq state action frame
  rw [heq]
  cases action <;> rfl

theorem timestampMs_rotationalStage (sample : RotationalIdleSample) (frame : LiveDataFrame) :
    (rotationalStage sample frame).timestampMs = frame.timestampMs := by
  obtain ⟨_, heq⟩ := rotationalStage_eq sample frame
  rw [heq]

/-- A live frame has the time of the sample it is. -/
theorem timestampMs_buildLiveDataFrame (P : Platform) (live : LiveState) (page0 : Option Bytes) :
    (buildLiveDataFrame P live page0).2.timestampMs =
      (live.liveSampleCounter + 1).saturatingMul 20 := by
  rw [buildLiveDataFrame]
  obtain ⟨tcuRuntime, tcu⟩ := live.tcuRuntime.tick (live.liveSampleCounter + 1)
  dsimp only
  refine (timestampMs_rotationalStage _ _).trans ?_
  refine (timestampMs_protectionStage _ _ _).trans ?_
  exact (timestampMs_widebandStage _ _).trans (timestampMs_actuatorStage _ _ _ _)

/-- The time is the first field of a frame. -/
theorem take_encode_frame (frame : LiveDataFrame) :
    frame.encode.take 4 = u32ToBe frame.timestampMs := by
  have hprefix : u32ToBe frame.timestampMs <+: frame.encode := by
    unfold LiveDataFrame.encode
    repeat first
      | with_reducible exact List.prefix_rfl
      | apply List.prefix_append_of_prefix
  have htake := List.prefix_iff_eq_take.mp hprefix
  rw [length_u32ToBe] at htake
  exact htake.symm

end Frames

/-! ### Steps and runs -/

theorem not_samples (hcmd : t.event.packet.cmd ≠ .getLiveData) : t.samples = false :=
  decide_eq_false hcmd

theorem not_startsLog (hcmd : t.event.packet.cmd ≠ .logStart) : t.startsLog = false :=
  decide_eq_false hcmd

theorem DataLog.active_stop (log : DataLog) (nowMs : UInt32) : (log.stop nowMs).active = false := by
  rw [DataLog.stop]
  dsimp only
  split_ifs with hactive
  · simpa using hactive
  · rfl
  · rfl

theorem DataLog.startedSampleCounter_stop (log : DataLog) (nowMs : UInt32) :
    (log.stop nowMs).startedSampleCounter = log.startedSampleCounter := by
  rw [DataLog.stop]
  dsimp only
  split_ifs <;> rfl

/-- A step that neither samples nor starts a session. -/
theorem Clocked.keep (h : Clocked tr t.src)
    (hcmd : t.event.packet.cmd ∉ [Cmd.getLiveData, .logStart])
    (hcounter : t.dst.live.liveSampleCounter = t.src.live.liveSampleCounter)
    (hactive : t.dst.log.active = true → t.src.log.active = true)
    (hstarted : t.dst.log.startedSampleCounter = t.src.log.startedSampleCounter) :
    Clocked (tr ++ [t]) t.dst := by
  simp only [List.mem_cons, List.not_mem_nil, or_false, not_or] at hcmd
  have hcount : (tr ++ [t]).countP Step.samples = tr.countP Step.samples := by
    rw [countP_samples_concat, not_samples hcmd.1]
    rfl
  have hsince : framesSinceStart (tr ++ [t]) = framesSinceStart tr := by
    rw [framesSinceStart_concat, not_startsLog hcmd.2, not_samples hcmd.1]
    rfl
  refine ⟨?_, fun hon => ?_, ?_⟩
  · rw [hcounter, hcount, h.counter]
  · rw [hstarted, hcount, hsince, h.started (hactive hon)]
  · rw [hcount, hsince]
    exact h.le

/-- A live sample is counted once. -/
theorem Clocked.sample (h : Clocked tr t.src) (hcmd : t.event.packet.cmd = .getLiveData)
    (hcounter : t.dst.live.liveSampleCounter = t.src.live.liveSampleCounter + 1)
    (hactive : t.dst.log.active = true → t.src.log.active = true)
    (hstarted : t.dst.log.startedSampleCounter = t.src.log.startedSampleCounter) :
    Clocked (tr ++ [t]) t.dst := by
  have hcount : (tr ++ [t]).countP Step.samples = tr.countP Step.samples + 1 := by
    rw [countP_samples_concat, show t.samples = true from decide_eq_true hcmd]
    rfl
  have hsince : framesSinceStart (tr ++ [t]) = framesSinceStart tr + 1 := by
    rw [framesSinceStart_concat, not_startsLog (by rw [hcmd]; decide),
      show t.samples = true from decide_eq_true hcmd]
    rfl
  refine ⟨?_, fun hon => ?_, ?_⟩
  · rw [hcounter, hcount, h.counter, UInt32.ofNat_add]
    rfl
  · rw [hstarted, hcount, hsince, Nat.add_sub_add_right]
    exact h.started (hactive hon)
  · rw [hcount, hsince]
    exact Nat.add_le_add_right h.le 1

/-- A session starts at the count of the samples before it. -/
theorem Clocked.start (h : Clocked tr t.src) (hcmd : t.event.packet.cmd = .logStart)
    (hcounter : t.dst.live.liveSampleCounter = t.src.live.liveSampleCounter)
    (hstarted : t.dst.log.startedSampleCounter = t.src.live.liveSampleCounter) :
    Clocked (tr ++ [t]) t.dst := by
  have hcount : (tr ++ [t]).countP Step.samples = tr.countP Step.samples := by
    rw [countP_samples_concat, not_samples (by rw [hcmd]; decide)]
    rfl
  have hsince : framesSinceStart (tr ++ [t]) = 0 := by
    rw [framesSinceStart_concat, show t.startsLog = true from decide_eq_true hcmd]
    rfl
  refine ⟨?_, fun _ => ?_, ?_⟩
  · rw [hcounter, hcount, h.counter]
  · rw [hstarted, hcount, hsince, h.counter]
    rfl
  · rw [hsince]
    exact Nat.zero_le _

/-- **What a step does to the counters.** -/
theorem step_clocked (ht : (firmware P A).Step t) (hs : t.src.Sound P) (h : Clocked tr t.src) :
    Clocked (tr ++ [t]) t.dst := by
  cases step_activity ht hs with
  | other hcmd hsame =>
    refine h.keep (fun hmem => ?_) (congrArg _ hsame.live_eq) ?_ ?_
    · simp only [List.mem_cons, List.not_mem_nil, or_false] at hmem
      rcases hmem with hmem | hmem <;> rw [hmem] at hcmd <;> cases hcmd
    · rw [hsame.log_eq]
      exact id
    · rw [hsame.log_eq]
      rfl
  | rejected hcmd hnack hdst =>
    refine h.keep (fun hmem => ?_) ?_ ?_ ?_
    · simp only [List.mem_cons, List.not_mem_nil, or_false] at hmem
      rcases hmem with hmem | hmem <;> rw [hmem] at hcmd <;> cases hcmd
    · rw [hdst]
      rfl
    · rw [hdst]
      exact id
    · rw [hdst]
      rfl
  | sampled hcmd hdst =>
    obtain ⟨_, _, _, _, hlog⟩ := t.src.log.appendLogSample_eq P
      (t.src.sampleLiveData P).1.live.currentRuntimeMs (t.src.sampleLiveData P).2
    have hlog' : t.dst.log = _ := (congrArg FirmwareRuntime.log hdst).trans hlog
    refine h.sample hcmd ?_ (fun hon => ?_) ?_
    · rw [hdst]
      rfl
    · rw [hlog'] at hon
      exact hon
    · rw [hlog']
  | logStarted hcmd hdst =>
    obtain ⟨_, _, _, _, _, hlog⟩ := t.src.log.start_eq t.src.live.liveSampleCounter
      t.src.live.currentRuntimeMs
    have hlog' : t.dst.log = _ := (congrArg FirmwareRuntime.log hdst).trans hlog
    refine h.start hcmd ?_ ?_
    · rw [hdst]
      rfl
    · rw [hlog']
  | logStopped hcmd hdst =>
    refine h.keep (by rw [hcmd]; decide) (by rw [hdst]; rfl) (fun hon => ?_) ?_
    · rw [hdst] at hon
      exact absurd hon (by rw [Bool.not_eq_true]; exact DataLog.active_stop _ _)
    · rw [hdst]
      exact DataLog.startedSampleCounter_stop _ _
  | logbookReset hcmd _ hdst | rtcSynced _ hcmd _ _ hdst | tableWritten _ _ _ hcmd _ _ _ _ hdst
  | cellWritten _ _ _ _ hcmd _ hdst | codesCleared hcmd hdst =>
    refine h.keep (by rw [hcmd]; decide) ?_ ?_ ?_ <;> rw [hdst]
    · rfl
    · exact id
    · rfl
  | outputTested audit hcmd _ hdst =>
    refine h.keep (by rw [hcmd]; decide) ?_ ?_ ?_ <;> rw [hdst] <;> cases audit
    all_goals first | rfl | exact id

theorem FirmwareRuntime.live_of_newWithStore {identity : FirmwareIdentity} {simulator : Bool}
    {s : ConfigStore} {r : FirmwareRuntime}
    (h : FirmwareRuntime.newWithStore P identity simulator s = some r) : r.live = {} := by
  rw [newWithStore] at h
  dsimp only at h
  split at h
  · cases h
  · rw [← Option.some.inj h]

/-- What the counters hold after every run of a new board. -/
theorem run_clocked {identity : FirmwareIdentity} {simulator : Bool} {s : ConfigStore}
    {r₀ r : FirmwareRuntime} {tr : List Step} (hs : ReachableStore P A s)
    (hboot : FirmwareRuntime.newWithStore P identity simulator s = some r₀)
    (hrun : (firmware P A).Run r₀ tr r) : Clocked tr r := by
  have hsound : r₀.Sound P := (FirmwareRuntime.booted_of_newWithStore hs.wellFormed hboot).sound
  induction hrun with
  | nil =>
    refine ⟨?_, fun hon => ?_, Nat.le_refl 0⟩
    · rw [FirmwareRuntime.live_of_newWithStore hboot]
      rfl
    · rw [(FirmwareRuntime.fresh_of_newWithStore hboot).2.1] at hon
      cases hon
  | snoc hprefix hstep ih => exact step_clocked hstep (run_sound hprefix hsound) ih

/-- The time of a frame is that of its sample, by the number of frames before it. -/
theorem timestampMs_eq (ht : (firmware P A).Step t) (hs : t.src.Sound P) (h : Clocked tr t.src)
    (hsamples : t.samples = true) : t.timestampMs = sampleMs (tr.countP Step.samples + 1) := by
  have hcmd : t.event.packet.cmd = .getLiveData := of_decide_eq_true hsamples
  have houtput : t.output = ⟨.liveData, (t.src.sampleLiveData P).2.encode⟩ := by
    cases step_activity ht hs with
    | sampled _ _ hanswer => exact hanswer
    | other hother | rejected hother => rw [hcmd] at hother; cases hother
    | logStarted hother | logStopped hother | logbookReset hother | rtcSynced _ hother
    | outputTested _ hother | tableWritten _ _ _ hother | cellWritten _ _ _ _ hother
    | codesCleared hother => cases hcmd.symm.trans hother
  rw [Step.timestampMs, houtput, take_encode_frame, u32OfBe_u32ToBe]
  refine (timestampMs_buildLiveDataFrame _ _ _).trans ?_
  rw [h.counter, sampleMs, UInt32.ofNat_add]
  rfl

/-- The element of a list with a given number of such elements before it. -/
theorem exists_of_lt_countP {α : Type} {p : α → Bool} {l : List α} {k : ℕ} (h : k < l.countP p) :
    ∃ pre a post, l = pre ++ a :: post ∧ p a = true ∧ pre.countP p = k := by
  induction l generalizing k with
  | nil => exact absurd h (Nat.not_lt_zero k)
  | cons a l ih =>
    rw [List.countP_cons] at h
    cases ha : p a with
    | false =>
      rw [ha] at h
      obtain ⟨pre, b, post, rfl, hb, hcount⟩ := ih h
      refine ⟨a :: pre, b, post, rfl, hb, ?_⟩
      rw [List.countP_cons, ha]
      exact hcount
    | true =>
      cases k with
      | zero => exact ⟨[], a, l, rfl, ha, rfl⟩
      | succ k =>
        rw [ha, if_pos rfl] at h
        obtain ⟨pre, b, post, rfl, hb, hcount⟩ := ih (Nat.lt_of_succ_lt_succ h)
        refine ⟨a :: pre, b, post, rfl, hb, ?_⟩
        rw [List.countP_cons, ha, if_pos rfl, hcount]

/-- The elapsed time of an active session. -/
theorem Clocked.elapsed {r : FirmwareRuntime} (h : Clocked tr r) (hactive : r.log.active = true)
    (hfew : tr.countP Step.samples ≤ lastTimedSample) :
    (r.log.logStatusPayload r.live.currentRuntimeMs).elapsedMs.toNat =
      20 * framesSinceStart tr := by
  have hle := h.le
  have hstarted : (r.log.startedSampleCounter.saturatingMul 20).toNat =
      20 * (tr.countP Step.samples - framesSinceStart tr) := by
    rw [h.started hactive]
    exact toNat_sampleMs (by omega)
  have hnow : r.live.currentRuntimeMs.toNat = 20 * tr.countP Step.samples := by
    rw [LiveState.currentRuntimeMs, h.counter]
    exact toNat_sampleMs hfew
  change (r.log.currentLogElapsedMs _).toNat = _
  rw [DataLog.currentLogElapsedMs, if_pos hactive, UInt32.toNat_saturatingSub, hstarted, hnow]
  omega

section Runs

variable {identity : FirmwareIdentity} {simulator : Bool} {s : ConfigStore}
  {r₀ r : FirmwareRuntime}

/-- The times of two consecutive frames, by the number of frames before them. -/
theorem timestampMs_consecutive (hs : ReachableStore P A s)
    (hboot : FirmwareRuntime.newWithStore P identity simulator s = some r₀) {t₁ t₂ : Step}
    {pre mid post : List Step} (hrun : (firmware P A).Run r₀ (pre ++ t₁ :: (mid ++ t₂ :: post)) r)
    (hsamples₁ : t₁.samples = true) (hsamples₂ : t₂.samples = true)
    (hmid : mid.countP Step.samples = 0) :
    t₁.timestampMs = sampleMs (pre.countP Step.samples + 1) ∧
      t₂.timestampMs = sampleMs (pre.countP Step.samples + 1 + 1) := by
  have hsound : r₀.Sound P := (FirmwareRuntime.booted_of_newWithStore hs.wellFormed hboot).sound
  obtain ⟨hpre, ht₁, hrest⟩ := hrun.split_mem
  obtain ⟨hbetween, ht₂, -⟩ := hrest.split_mem
  have hbefore : (firmware P A).Run r₀ (pre ++ [t₁] ++ mid) t₂.src :=
    (hpre.append (.single ht₁)).append hbetween
  have hcount : (pre ++ [t₁] ++ mid).countP Step.samples = pre.countP Step.samples + 1 := by
    rw [List.countP_append, hmid, countP_samples_concat, hsamples₁]
    rfl
  refine ⟨timestampMs_eq ht₁ (run_sound hpre hsound) (run_clocked hs hboot hpre) hsamples₁, ?_⟩
  rw [timestampMs_eq ht₂ (run_sound hbefore hsound) (run_clocked hs hboot hbefore) hsamples₂,
    hcount]

theorem timeBase_of_le (hs : ReachableStore P A s)
    (hboot : FirmwareRuntime.newWithStore P identity simulator s = some r₀)
    (hrun : (firmware P A).Run r₀ tr r) (hfew : tr.countP Step.samples ≤ lastTimedSample) :
    TimeBase P A r₀ tr where
  frames pre t₁ mid t₂ post htr hsamples₁ hsamples₂ hmid := by
    subst htr
    have hnone : mid.countP Step.samples = 0 :=
      List.countP_eq_zero.mpr fun t ht => by simp [hmid t ht]
    obtain ⟨h₁, h₂⟩ := timestampMs_consecutive hs hboot hrun hsamples₁ hsamples₂ hnone
    rw [h₁, h₂]
    refine sampleMs_succ (le_trans ?_ hfew)
    rw [List.countP_append, List.countP_cons_of_pos hsamples₁, List.countP_append,
      List.countP_cons_of_pos hsamples₂]
    omega
  elapsed pre post r' htr hpre hactive _ := by
    refine (run_clocked hs hboot hpre).elapsed hactive (le_trans ?_ hfew)
    rw [htr, List.countP_append]
    exact Nat.le_add_right _ _

/-- In a longer run, the frames around the last timed sample are not twenty milliseconds apart. -/
theorem not_timeBase (hs : ReachableStore P A s)
    (hboot : FirmwareRuntime.newWithStore P identity simulator s = some r₀)
    (hrun : (firmware P A).Run r₀ tr r) (hmany : lastTimedSample < tr.countP Step.samples) :
    ¬ TimeBase P A r₀ tr := by
  intro h
  have hlast : lastTimedSample = 214748363 + 1 := rfl
  obtain ⟨pre, t₁, rest, rfl, hsamples₁, hpre⟩ :=
    exists_of_lt_countP (k := 214748363) (show 214748363 < tr.countP Step.samples by omega)
  rw [List.countP_append, List.countP_cons_of_pos hsamples₁, hpre] at hmany
  obtain ⟨mid, t₂, post, rfl, hsamples₂, hmid⟩ :=
    exists_of_lt_countP (k := 0) (show 0 < rest.countP Step.samples by omega)
  obtain ⟨h₁, h₂⟩ := timestampMs_consecutive hs hboot hrun hsamples₁ hsamples₂ hmid
  have happart := h.frames pre t₁ mid t₂ post rfl hsamples₁ hsamples₂ fun t ht =>
    Bool.eq_false_iff.mpr (List.countP_eq_zero.mp hmid t ht)
  rw [h₁, h₂, hpre, ← hlast] at happart
  exact sampleMs_succ_lastTimedSample happart

/-- **The time base.** In every run, consecutive live frames are twenty milliseconds apart and an
active session has lasted for twenty milliseconds a frame, if and only if the run has at most
214748364 live frames. -/
theorem time_base_iff (hs : ReachableStore P A s)
    (hboot : FirmwareRuntime.newWithStore P identity simulator s = some r₀)
    (hrun : (firmware P A).Run r₀ tr r) :
    TimeBase P A r₀ tr ↔ tr.countP Step.samples ≤ lastTimedSample :=
  ⟨fun h => not_lt.mp fun hmany => not_timeBase hs hboot hrun hmany h,
    timeBase_of_le hs hboot hrun⟩

end Runs

/-- A run of live samples. -/
theorem exists_run_samples (r₀ : FirmwareRuntime) (samples : ℕ) : ∃ tr r,
    (firmware P A).Run r₀ tr r ∧
      tr.map (fun t => t.event.packet) = List.replicate samples ⟨.getLiveData, []⟩ ∧
      tr.countP Step.samples = samples := by
  have hrun := TransitionSystem.run_trace (handle P A) r₀
    ((List.replicate samples ⟨.getLiveData, []⟩).map fun packet => ⟨⟨0, 0, none⟩, packet⟩)
  have hpackets := congrArg (List.map Input.packet) (TransitionSystem.map_event_trace (handle P A)
    r₀ ((List.replicate samples ⟨.getLiveData, []⟩).map fun packet => ⟨⟨0, 0, none⟩, packet⟩))
  rw [List.map_map, List.map_map] at hpackets
  have hlive := hpackets.trans (List.map_id _)
  refine ⟨_, _, hrun, hlive, ?_⟩
  have hcount := congrArg (List.countP fun packet => decide (packet.cmd = .getLiveData)) hlive
  rw [List.countP_map, List.countP_replicate, if_pos (by decide)] at hcount
  exact hcount

/-- **The clock stops.** After 214748365 live samples, which are seven weeks, the last two frames of
a new board are not twenty milliseconds apart. -/
theorem time_base_stops : ∃ r₀ tr r,
    FirmwareRuntime.newWithStore referencePlatform .ecuV1 false (.newZeroed referencePlatform) =
      some r₀ ∧
    (firmware referencePlatform referenceCatalogue).Run r₀ tr r ∧
    tr.map (fun t => t.event.packet) = List.replicate 214748365 ⟨.getLiveData, []⟩ ∧
    ¬ TimeBase referencePlatform referenceCatalogue r₀ tr := by
  obtain ⟨r₀, hboot, -⟩ := exists_reachable_new (P := referencePlatform) (A := referenceCatalogue)
    .ecuV1 false
  obtain ⟨tr, r, hrun, hpackets, hcount⟩ := exists_run_samples (P := referencePlatform)
    (A := referenceCatalogue) r₀ 214748365
  refine ⟨r₀, tr, r, hboot, hrun, hpackets, not_timeBase .newZeroed hboot hrun ?_⟩
  rw [hcount]
  exact Nat.lt_succ_self 214748364

/-- A new board that takes two live samples. -/
theorem time_base_iff_ecuV1 : ∃ r₀ tr r,
    FirmwareRuntime.newWithStore referencePlatform .ecuV1 false (.newZeroed referencePlatform) =
      some r₀ ∧
    (firmware referencePlatform referenceCatalogue).Run r₀ tr r ∧
    tr.map (fun t => t.event.packet) = List.replicate 2 ⟨.getLiveData, []⟩ ∧
    TimeBase referencePlatform referenceCatalogue r₀ tr := by
  obtain ⟨r₀, hboot, -⟩ := exists_reachable_new (P := referencePlatform) (A := referenceCatalogue)
    .ecuV1 false
  obtain ⟨tr, r, hrun, hpackets, hcount⟩ := exists_run_samples (P := referencePlatform)
    (A := referenceCatalogue) r₀ 2
  refine ⟨r₀, tr, r, hboot, hrun, hpackets, (time_base_iff .newZeroed hboot hrun).mpr ?_⟩
  rw [hcount]
  decide

end StEcu
