import Mathlib.Data.List.Chain
import StEcu.Foundation.Checked
import StEcu.Foundation.TransitionSystem

/-!
# Anti-lag

Ignition retard and fuel enrichment during overrun (`src/antilag.rs`). Their intensity follows the
throttle through a low pass; a second path, for corners, retards the ignition by a fixed amount. The
configuration may be changed between two calls. A call with the mode that disables the system clears
all but the flag of the second path.

## Main definitions

* `AlsConfig`, `AlsState`, `AntiLagController.update`.
* `AlsSound`: what a call leaves behind.
* `AlsCall.Rolls`: a call that sets the flag of the second path.

## Main results

* `AntiLagController.exists_update`: a call always has a result.
* `als_step`: what one call preserves.
* `als_sound_iff_isChain`: all calls of a run are sound if and only if none that disables the system
  comes right after one that sets this flag.
-/

namespace StEcu

/-- What anti-lag may use to keep the turbine spinning. -/
inductive AlsMode
  | disabled
  | ignitionRetard
  | fuelEnrich
  | combined
  deriving DecidableEq, Repr

/-- The settings of anti-lag: what it uses and how much of it, and when. -/
structure AlsConfig where
  mode : AlsMode := .combined
  maxRetardDeg : ℚ := 20
  maxEnrichPct : ℚ := 30
  tpsStartPct : ℚ := 5
  tpsFullPct : ℚ := 1 / 2
  minCltC : ℚ := 60
  maxMapKpa : ℚ := 180
  minRpm : UInt16 := 2000
  maxRpm : UInt16 := 6500
  rollingAlsEnabled : Bool := false
  ralTpsThresholdPct : ℚ := 15
  ralMinSpeedKmh : ℚ := 40
  ralRetardDeg : ℚ := 10
  deriving DecidableEq, Repr

/-- What anti-lag does after a call. -/
structure AlsState where
  active : Bool := false
  rollingAlsActive : Bool := false
  intensity : ℚ := 0
  retardAppliedDeg : ℚ := 0
  fuelEnrichPct : ℚ := 0
  activationCounter : UInt32 := 0
  deriving DecidableEq, Repr

/-- What a call of the controller is told. -/
structure AlsInputs where
  rpm : ℚ
  tpsPct : ℚ
  mapKpa : ℚ
  cltC : ℚ
  vssKmh : ℚ
  deriving DecidableEq, Repr

namespace AlsConfig

variable (config : AlsConfig) (state : AlsState) (inputs : AlsInputs)

/-- The conditions for standard anti-lag. -/
def Overrun : Prop :=
  ((config.minRpm.toNat : ℚ) ≤ inputs.rpm ∧ inputs.rpm ≤ (config.maxRpm.toNat : ℚ)) ∧
    inputs.mapKpa < config.maxMapKpa ∧ config.minCltC ≤ inputs.cltC ∧
    inputs.tpsPct < config.tpsStartPct

instance : Decidable (config.Overrun inputs) :=
  inferInstanceAs (Decidable ((_ ∧ _) ∧ _ ∧ _ ∧ _))

/-- The conditions for rolling anti-lag. -/
def RalConditions : Prop :=
  config.rollingAlsEnabled = true ∧ config.ralMinSpeedKmh ≤ inputs.vssKmh ∧
    inputs.tpsPct < config.ralTpsThresholdPct ∧ (config.minRpm.toNat : ℚ) ≤ inputs.rpm

instance : Decidable (config.RalConditions inputs) :=
  inferInstanceAs (Decidable (_ ∧ _ ∧ _ ∧ _))

/-- How far the throttle is closed, from 0 at the start position to 1 at the full one. -/
def intensityRaw : Option ℚ :=
  if inputs.tpsPct ≤ config.tpsFullPct then some 1
  else if config.tpsStartPct ≤ inputs.tpsPct then some 0
  else do
    return 1 - (← checkedDiv (inputs.tpsPct - config.tpsFullPct)
      (config.tpsStartPct - config.tpsFullPct))

/-- The filtered intensity, which decays outside overrun and is cut to zero below one percent. -/
def nextIntensity : Option ℚ :=
  if config.Overrun inputs then do
    return state.intensity * (8 / 10) + (← config.intensityRaw inputs) * (2 / 10)
  else
    let intensity := state.intensity * (9 / 10)
    some (if intensity < 1 / 100 then 0 else intensity)

/-- The retard of the modes that retard, at least that of rolling anti-lag while it is active. -/
def retardAppliedDeg (intensity : ℚ) (rollingAlsActive : Bool) : ℚ :=
  match config.mode with
  | .ignitionRetard | .combined =>
    max (config.maxRetardDeg * intensity) (if rollingAlsActive then config.ralRetardDeg else 0)
  | _ => 0

/-- The enrichment of the modes that enrich. -/
def fuelEnrichPct (intensity : ℚ) : ℚ :=
  match config.mode with
  | .fuelEnrich | .combined => config.maxEnrichPct * intensity
  | _ => 0

end AlsConfig

/-- The controller, which has nothing but its settings. -/
structure AntiLagController where
  config : AlsConfig

/-- One call of the controller, which does nothing while it is disabled. -/
def AntiLagController.update (controller : AntiLagController) (state : AlsState)
    (inputs : AlsInputs) : Option AlsState :=
  let config := controller.config
  if config.mode = .disabled then
    -- the flag of rolling anti-lag is left as it is
    some { state with active := false, intensity := 0, retardAppliedDeg := 0, fuelEnrichPct := 0 }
  else do
    let intensity ← config.nextIntensity state inputs
    let rollingAlsActive := decide (config.RalConditions inputs)
    return {
      active := decide (config.Overrun inputs)
      rollingAlsActive
      intensity
      retardAppliedDeg := config.retardAppliedDeg intensity rollingAlsActive
      fuelEnrichPct := config.fuelEnrichPct intensity
      activationCounter :=
        if config.Overrun inputs then state.activationCounter + 1 else state.activationCounter }

/-! ### A call -/

section Call

variable {config : AlsConfig} {state : AlsState} {inputs : AlsInputs}

/-- The ramp is not divided by an empty range of the throttle. -/
theorem exists_intensityRaw (config : AlsConfig) (inputs : AlsInputs) :
    ∃ raw, config.intensityRaw inputs = some raw ∧ 0 ≤ raw ∧ raw ≤ 1 := by
  rw [AlsConfig.intensityRaw]
  split_ifs with hfull hstart
  · exact ⟨1, rfl, zero_le_one, le_rfl⟩
  · exact ⟨0, rfl, le_rfl, zero_le_one⟩
  · have hpos : 0 < config.tpsStartPct - config.tpsFullPct := by linarith
    rw [checkedDiv_eq hpos.ne']
    refine ⟨_, rfl, ?_, ?_⟩
    · rw [sub_nonneg, div_le_one hpos]
      linarith
    · rw [sub_le_self_iff]
      exact div_nonneg (by linarith) hpos.le

theorem exists_nextIntensity (config : AlsConfig) (state : AlsState) (inputs : AlsInputs) :
    ∃ intensity, config.nextIntensity state inputs = some intensity ∧
      (0 ≤ state.intensity ∧ state.intensity ≤ 1 → 0 ≤ intensity ∧ intensity ≤ 1) := by
  obtain ⟨raw, hraw, hmem⟩ := exists_intensityRaw config inputs
  rw [AlsConfig.nextIntensity, hraw]
  split
  · exact ⟨_, rfl, fun h => ⟨by linarith, by linarith⟩⟩
  · refine ⟨_, rfl, fun h => ?_⟩
    split
    · exact ⟨le_rfl, zero_le_one⟩
    · exact ⟨by linarith, by linarith⟩

theorem retardAppliedDeg_le (hmax : 0 ≤ config.maxRetardDeg) {intensity : ℚ} (h : intensity ≤ 1)
    (rollingAlsActive : Bool) : config.retardAppliedDeg intensity rollingAlsActive ≤
      max config.maxRetardDeg config.ralRetardDeg := by
  have hzero := hmax.trans (le_max_left config.maxRetardDeg config.ralRetardDeg)
  have hmul : config.maxRetardDeg * intensity ≤ max config.maxRetardDeg config.ralRetardDeg :=
    (mul_le_of_le_one_right hmax h).trans (le_max_left _ _)
  have hral : (if rollingAlsActive then config.ralRetardDeg else 0) ≤
      max config.maxRetardDeg config.ralRetardDeg := by
    split
    · exact le_max_right _ _
    · exact hzero
  rw [AlsConfig.retardAppliedDeg]
  split
  · exact max_le hmul hral
  · exact max_le hmul hral
  · exact hzero

theorem fuelEnrichPct_le (hmax : 0 ≤ config.maxEnrichPct) {intensity : ℚ} (h : intensity ≤ 1) :
    config.fuelEnrichPct intensity ≤ config.maxEnrichPct := by
  have hmul := mul_le_of_le_one_right hmax h
  rw [AlsConfig.fuelEnrichPct]
  split
  · exact hmul
  · exact hmul
  · exact hmax

/-- **A call always has a result**: it does not divide by zero. -/
theorem AntiLagController.exists_update (controller : AntiLagController) (state : AlsState)
    (inputs : AlsInputs) : ∃ next, controller.update state inputs = some next := by
  obtain ⟨intensity, hintensity, -⟩ := exists_nextIntensity controller.config state inputs
  rw [update]
  dsimp only
  split
  · exact ⟨_, rfl⟩
  · rw [hintensity]
    exact ⟨_, rfl⟩

end Call

/-! ### Runs -/

/-- A call of the update; the configuration may change from call to call. -/
structure AlsCall where
  config : AlsConfig
  inputs : AlsInputs
  deriving DecidableEq, Repr

/-- The calls of the controller, each with its own settings. -/
def antiLag : TransitionSystem AlsState AlsCall Unit where
  Step t := AntiLagController.update ⟨t.event.config⟩ t.src t.event.inputs = some t.dst

instance : DecidablePred antiLag.Step := fun _ => inferInstanceAs (Decidable (_ = _))

/-- The step of a call. -/
abbrev AlsStep := Transition AlsState AlsCall Unit

/-- What a call leaves behind: the outputs are within the limits of its configuration, and nothing
is left of them if it disables the system. -/
structure AlsSound (t : AlsStep) : Prop where
  intensity : 0 ≤ t.dst.intensity ∧ t.dst.intensity ≤ 1
  retard : t.dst.retardAppliedDeg ≤ max t.event.config.maxRetardDeg t.event.config.ralRetardDeg
  enrich : t.dst.fuelEnrichPct ≤ t.event.config.maxEnrichPct
  disabled : t.event.config.mode = .disabled →
    (t.dst.active = false ∧ t.dst.rollingAlsActive = false) ∧
      t.dst.intensity = 0 ∧ t.dst.retardAppliedDeg = 0 ∧ t.dst.fuelEnrichPct = 0

namespace AlsCall

/-- The call finds anti-lag switched off. -/
def Disables (call : AlsCall) : Prop := call.config.mode = .disabled

/-- The call sets the flag of rolling anti-lag. -/
def Rolls (call : AlsCall) : Prop :=
  ¬ call.Disables ∧ call.config.RalConditions call.inputs

instance (call : AlsCall) : Decidable call.Disables := inferInstanceAs (Decidable (_ = _))

instance (call : AlsCall) : Decidable call.Rolls := inferInstanceAs (Decidable (_ ∧ _))

/-- No call that disables the system comes right after one that sets the flag. -/
def ReleasedFirst (calls : List AlsCall) : Prop :=
  calls.IsChain fun call next => ¬ (call.Rolls ∧ next.Disables)

instance (calls : List AlsCall) : Decidable (ReleasedFirst calls) :=
  inferInstanceAs (Decidable (calls.IsChain _))

end AlsCall

section Runs

variable {start state : AlsState} {t : AlsStep} {tr : List AlsStep}

theorem dst_of_disables (ht : antiLag.Step t) (h : t.event.Disables) : t.dst =
    { t.src with active := false, intensity := 0, retardAppliedDeg := 0, fuelEnrichPct := 0 } := by
  have heq : AntiLagController.update ⟨t.event.config⟩ t.src t.event.inputs = some _ := if_pos h
  exact Option.some.inj (Eq.trans (Eq.symm ht) heq)

theorem dst_of_not_disables (ht : antiLag.Step t) (h : ¬ t.event.Disables) :
    ∃ intensity, (0 ≤ t.src.intensity ∧ t.src.intensity ≤ 1 → 0 ≤ intensity ∧ intensity ≤ 1) ∧
      t.dst.intensity = intensity ∧
      t.dst.rollingAlsActive = decide (t.event.config.RalConditions t.event.inputs) ∧
      t.dst.retardAppliedDeg =
        t.event.config.retardAppliedDeg intensity t.dst.rollingAlsActive ∧
      t.dst.fuelEnrichPct = t.event.config.fuelEnrichPct intensity := by
  obtain ⟨intensity, hintensity, hmem⟩ :=
    exists_nextIntensity t.event.config t.src t.event.inputs
  have heq : AntiLagController.update ⟨t.event.config⟩ t.src t.event.inputs = some t.dst := ht
  have hmode : ¬ t.event.config.mode = .disabled := h
  simp only [AntiLagController.update, if_neg hmode, hintensity, Option.bind_eq_bind,
    Option.bind_some] at heq
  obtain heq := Option.some.inj heq
  rw [← heq]
  exact ⟨intensity, hmem, rfl, rfl, rfl, rfl⟩

/-- **What one call preserves**, and when it leaves nothing behind that it should not. -/
theorem als_step (hmax : 0 ≤ t.event.config.maxRetardDeg ∧ 0 ≤ t.event.config.maxEnrichPct)
    (ht : antiLag.Step t) (h : 0 ≤ t.src.intensity ∧ t.src.intensity ≤ 1) :
    (0 ≤ t.dst.intensity ∧ t.dst.intensity ≤ 1) ∧
      (AlsSound t ↔ (t.src.rollingAlsActive = true → ¬ t.event.Disables)) ∧
      (t.dst.rollingAlsActive = true ↔
        t.event.Rolls ∨ t.src.rollingAlsActive = true ∧ t.event.Disables) := by
  by_cases hmode : t.event.Disables
  · have hdst := dst_of_disables ht hmode
    have hrolling : t.dst.rollingAlsActive = t.src.rollingAlsActive := by rw [hdst]
    have hintensity : 0 ≤ t.dst.intensity ∧ t.dst.intensity ≤ 1 := by
      rw [hdst]
      exact ⟨le_rfl, zero_le_one⟩
    refine ⟨hintensity, ?_, ?_⟩
    · rw [imp_not_comm, forall_prop_of_true hmode, ← hrolling, Bool.not_eq_true]
      refine ⟨fun hsound => (hsound.disabled hmode).1.2, fun hoff => ⟨hintensity, ?_, ?_, ?_⟩⟩
      · rw [hdst]
        exact hmax.1.trans (le_max_left _ _)
      · rw [hdst]
        exact hmax.2
      · rw [hdst] at hoff ⊢
        exact fun _ => ⟨⟨rfl, hoff⟩, rfl, rfl, rfl⟩
    · rw [hrolling, and_iff_left hmode, or_iff_right fun hrolls => hrolls.1 hmode]
  · obtain ⟨intensity, hmem, hintensity, hrolling, hretard, henrich⟩ :=
      dst_of_not_disables ht hmode
    obtain ⟨hlow, hhigh⟩ := hmem h
    rw [← hintensity] at hlow hhigh hretard henrich
    refine ⟨⟨hlow, hhigh⟩, iff_of_true ⟨⟨hlow, hhigh⟩, ?_, ?_, ?_⟩ fun _ => hmode, ?_⟩
    · rw [hretard]
      exact retardAppliedDeg_le hmax.1 hhigh _
    · rw [henrich]
      exact fuelEnrichPct_le hmax.2 hhigh
    · exact fun hdisabled => absurd hdisabled hmode
    · rw [hrolling, decide_eq_true_iff, AlsCall.Rolls, and_iff_right hmode,
        or_iff_left fun hdisabled => hmode hdisabled.2]

/-- From any flag, all calls are sound if and only if none that disables the system finds it. -/
theorem forall_sound_iff
    (hmax : ∀ t ∈ tr, 0 ≤ t.event.config.maxRetardDeg ∧ 0 ≤ t.event.config.maxEnrichPct)
    (h : antiLag.Run start tr state) (hstart : 0 ≤ start.intensity ∧ start.intensity ≤ 1) :
    (∀ t ∈ tr, AlsSound t) ↔
      (start.rollingAlsActive = true →
        ∀ call ∈ (tr.map Transition.event).head?, ¬ call.Disables) ∧
      AlsCall.ReleasedFirst (tr.map Transition.event) := by
  induction tr generalizing start with
  | nil => simp [AlsCall.ReleasedFirst]
  | cons t tr ih =>
    obtain ⟨rfl, ht, hrest⟩ := h.of_cons
    rw [List.forall_mem_cons] at hmax
    obtain ⟨hintensity, hsound, hrolling⟩ := als_step hmax.1 ht hstart
    rw [List.forall_mem_cons, ih hmax.2 hrest hintensity, hsound, hrolling, AlsCall.ReleasedFirst,
      AlsCall.ReleasedFirst, List.map_cons, List.isChain_cons]
    simp only [List.head?_cons, Option.mem_def, Option.some.injEq, forall_eq']
    -- a call that finds the flag and does not disable the system leaves its own
    constructor
    · rintro ⟨hfound, hnext, hchain⟩
      exact ⟨hfound, fun next hnext' ⟨hrolls, hdis⟩ => hnext (.inl hrolls) next hnext' hdis, hchain⟩
    · rintro ⟨hfound, hnext, hchain⟩
      refine ⟨hfound, ?_, hchain⟩
      rintro (hrolls | ⟨hflag, hdis⟩) next hnext' hdis'
      · exact hnext next hnext' ⟨hrolls, hdis'⟩
      · exact hfound hflag hdis

/-- **Anti-lag over a run.** All calls of a run from the default state are sound if and only if none
that disables the system comes right after one that sets the flag of rolling anti-lag. No call
divides by zero. -/
theorem als_sound_iff_isChain
    (hmax : ∀ t ∈ tr, 0 ≤ t.event.config.maxRetardDeg ∧ 0 ≤ t.event.config.maxEnrichPct)
    (h : antiLag.Run {} tr state) :
    ((∀ t ∈ tr, AlsSound t) ↔ AlsCall.ReleasedFirst (tr.map Transition.event)) ∧
      ∀ call : AlsCall, ∃ next,
        AntiLagController.update ⟨call.config⟩ state call.inputs = some next := by
  refine ⟨?_, fun call => AntiLagController.exists_update _ _ _⟩
  rw [forall_sound_iff hmax h ⟨le_rfl, zero_le_one⟩]
  exact and_iff_right fun hrolling => absurd hrolling (by decide)

end Runs

/-- A call at a warm engine, with rolling anti-lag enabled. -/
def warmAlsCall (mode : AlsMode) (tpsPct vssKmh : ℚ) : AlsCall where
  config := { mode, rollingAlsEnabled := true }
  inputs := ⟨3500, tpsPct, 130, 80, vssKmh⟩

/-- A corner that sets the flag of rolling anti-lag; the flag is still set after a call that
disables the system. -/
theorem rolling_after_disabled : ∃ tr state, antiLag.Run {} tr state ∧
    tr.map Transition.event = [warmAlsCall .combined 10 80, warmAlsCall .disabled 10 80] ∧
    state.rollingAlsActive = true ∧ ¬ ∀ t ∈ tr, AlsSound t := by
  have h₁ : antiLag.Step ⟨{}, warmAlsCall .combined 10 80, (),
      { rollingAlsActive := true, retardAppliedDeg := 10 }⟩ := by
    decide +kernel
  have h₂ : antiLag.Step ⟨{ rollingAlsActive := true, retardAppliedDeg := 10 },
      warmAlsCall .disabled 10 80, (), { rollingAlsActive := true }⟩ := by
    decide +kernel
  refine ⟨_, _, .cons h₁ (.single h₂), rfl, rfl, fun hsound => ?_⟩
  have hlast := ((hsound _ (.tail _ (.head _))).disabled rfl).1.2
  cases hlast

/-- A corner, overrun at a standstill, and the call that disables the system. -/
theorem als_sound_warm : ∃ tr state, antiLag.Run {} tr state ∧
    tr.map Transition.event =
      [warmAlsCall .combined 10 80, warmAlsCall .combined 1 0, warmAlsCall .disabled 1 0] ∧
    ∀ t ∈ tr, AlsSound t := by
  have h₁ : antiLag.Step ⟨{}, warmAlsCall .combined 10 80, (),
      { rollingAlsActive := true, retardAppliedDeg := 10 }⟩ := by
    decide +kernel
  have h₂ : antiLag.Step ⟨{ rollingAlsActive := true, retardAppliedDeg := 10 },
      warmAlsCall .combined 1 0, (), ⟨true, false, 8 / 45, 32 / 9, 16 / 3, 1⟩⟩ := by
    decide +kernel
  have h₃ : antiLag.Step ⟨⟨true, false, 8 / 45, 32 / 9, 16 / 3, 1⟩, warmAlsCall .disabled 1 0, (),
      { activationCounter := 1 }⟩ := by
    decide +kernel
  have hrun : antiLag.Run {} [_, _, _] { activationCounter := 1 } :=
    .cons h₁ (.cons h₂ (.single h₃))
  have hmax (mode : AlsMode) (tpsPct vssKmh : ℚ) :
      0 ≤ (warmAlsCall mode tpsPct vssKmh).config.maxRetardDeg ∧
        0 ≤ (warmAlsCall mode tpsPct vssKmh).config.maxEnrichPct := by
    norm_num [warmAlsCall]
  refine ⟨_, _, hrun, rfl, (als_sound_iff_isChain ?_ hrun).1.mpr (by decide +kernel)⟩
  simp only [List.forall_mem_cons, List.not_mem_nil, false_imp_iff, implies_true, hmax,
    and_self]

end StEcu
