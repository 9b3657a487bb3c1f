import StEcu.Foundation.TransitionSystem
import StEcu.Fuel.Calculator

/-!
# The trims in the fuel calculation

The short-term trim is moved within its limits while the oxygen sensor is followed, and is kept as
it is otherwise. It starts at zero, outside its limits.

## Main definitions

* `LtftMap.Trimmed`: the cells of a map of rationals are within their authority.
* `fuel`: the calls of the calculation, one after the other.
* `FuelSound`: what a call leaves behind.
* `FuelPrimed`: what a call must find so that it leaves this behind.
* `FuelConfig.FirstCloses`: the first call that matters follows the oxygen sensor.

## Main results

* `exists_calculate`: a call always has a result, and what is known of it.
* `fuel_step`: what one call preserves.
* `fuel_trim_iff`: all calls of a run leave the trims within their limits if and only if the first
  one that does not cut the fuel off follows the oxygen sensor.
-/

namespace StEcu

/-! ### The long-term trims -/

namespace LtftMap

/-- The cells are at most 25 % from one. -/
def Trimmed (map : LtftMap ℚ) : Prop :=
  ∀ i j c, cellAt map.cells i j = some c → 75 / 100 ≤ c ∧ c ≤ 125 / 100

variable {map next : LtftMap ℚ}

theorem trimmed_default : (default : LtftMap ℚ).Trimmed := by
  intro i j c hc
  obtain rfl := eq_of_cellAt_replicate hc
  norm_num

theorem learn_mem (cell stft learnRate : ℚ) :
    75 / 100 ≤ learn cell stft learnRate ∧ learn cell stft learnRate ≤ 125 / 100 := by
  simp only [learn, Rat.cast_id]
  exact ⟨le_min (le_max_right _ _) (by norm_num), min_le_right _ _⟩

theorem Trimmed.exists_update (h : map.Trimmed) (rpm mapKpa stft learnRate : ℚ) :
    ∃ next, map.update rpm mapKpa stft learnRate = some next ∧ next.Trimmed := by
  obtain ⟨i, i', rf, j, j', lf, cell, -, -, hi, hj, hupdate⟩ :=
    map.update_eq rpm mapKpa stft learnRate
  exact ⟨_, hupdate, forall_cellAt_setCell h (learn_mem cell stft learnRate) hi hj⟩

theorem Trimmed.exists_get (h : map.Trimmed) (rpm mapKpa : ℚ) :
    ∃ v, map.get rpm mapKpa = some v ∧ 75 / 100 ≤ v ∧ v ≤ 125 / 100 := by
  obtain ⟨ri, ri1, rf, li, li1, lf, c00, c10, c01, c11, -, -, hrf, hlf, h00, h10, h01, h11, hget⟩ :=
    map.get_eq rpm mapKpa
  exact ⟨_, hget, bilinear4_mem (h _ _ _ h00) (h _ _ _ h10) (h _ _ _ h01) (h _ _ _ h11) hrf hlf⟩

end LtftMap

/-! ### A call -/

section Call

variable {calculator : FuelCalculator} {inputs : FuelInputs}

theorem exists_closedLoop (h : calculator.ltftMap.Trimmed) (stft : ℚ) (inputs : FuelInputs) :
    ∃ ltftMap, calculator.closedLoop stft inputs = some (ltftMap,
      if calculator.config.ClosedLoop inputs then calculator.config.nextStft inputs stft
      else stft) ∧ ltftMap.Trimmed := by
  rw [FuelCalculator.closedLoop]
  split
  · dsimp only
    split
    · obtain ⟨ltftMap, hupdate, htrimmed⟩ := h.exists_update inputs.rpm inputs.mapKpa
        (calculator.config.nextStft inputs stft) (1 / 1000)
      rw [hupdate]
      exact ⟨ltftMap, rfl, htrimmed⟩
    · exact ⟨_, rfl, h⟩
  · exact ⟨_, rfl, h⟩

/-- **A call that does not cut the fuel off** has a result. -/
theorem exists_calculate (sqrt : ℚ → ℚ) (state : FuelState)
    (hafr : 0 < calculator.config.stoichAfr)
    (hlambda : 0 < calculator.config.targetLambda) (htrimmed : calculator.ltftMap.Trimmed)
    (hiat : -(27315 / 100) < inputs.iatC) (hdfco : ¬ calculator.config.Dfco inputs) :
    ∃ next nextState, calculator.calculate sqrt state inputs = some (next, nextState) ∧
      next.config = calculator.config ∧ next.ltftMap.Trimmed ∧ nextState.dfcoActive = false ∧
      nextState.stft = (if calculator.config.ClosedLoop inputs
        then calculator.config.nextStft inputs state.stft else state.stft) ∧
      (75 / 100 ≤ nextState.ltft ∧ nextState.ltft ≤ 125 / 100) ∧
      (0 ≤ nextState.dutyPct ∧ nextState.dutyPct ≤ 100) ∧ 0 ≤ nextState.finalPwMs := by
  obtain ⟨ve, hve⟩ := calculator.veTable.exists_interpolate inputs.rpm inputs.mapKpa
  obtain ⟨basePwMs, hbase⟩ := FuelCalculator.exists_basePulseWidthMs hafr hlambda hiat ve
  obtain ⟨correctionIat, hcorrection⟩ := FuelCalculator.exists_iatCorrection sqrt hiat
  obtain ⟨ltftMap, hloop, hmap⟩ := exists_closedLoop htrimmed state.stft inputs
  obtain ⟨ltft, hget, hltft⟩ := hmap.exists_get inputs.rpm inputs.mapKpa
  obtain ⟨wallState, correctedPw, hwall⟩ :=
    calculator.exists_wallWetting state.wallState inputs basePwMs
  simp only [FuelCalculator.calculate, if_neg hdfco, hve, hbase, hcorrection, hloop, hget, hwall,
    Option.bind_eq_bind, Option.bind_some]
  generalize hfinal : max (_ + injectorDeadTimeMs _ _) 0 = finalPwMs
  obtain ⟨dutyPct, hduty, hmem⟩ := FuelCalculator.exists_dutyPct calculator.config inputs
    finalPwMs
  rw [hduty, Option.bind_some]
  exact ⟨_, _, rfl, rfl, hmap, rfl, rfl, hltft, hmem, hfinal ▸ le_max_right _ _⟩

end Call

/-! ### Runs -/

/-- A calculator with its state, before or after a call. -/
abbrev FuelPoint := FuelCalculator × FuelState

/-- The calculations, each of which finds the state that the last one left. -/
def fuel (sqrt : ℚ → ℚ) : TransitionSystem FuelPoint FuelInputs Unit where
  Step t := t.src.1.calculate sqrt t.src.2 t.event = some t.dst

/-- What a call leaves behind. A call that cuts the fuel off changes nothing else; after any other
call the trims are within their limits. -/
structure FuelSound (config : FuelConfig) (t : Transition FuelPoint FuelInputs Unit) : Prop where
  cutOff : t.dst.2.dfcoActive = true →
    t.dst = (t.src.1, { t.src.2 with dfcoActive := true, finalPwMs := 0, dutyPct := 0 })
  trim : t.dst.2.dfcoActive = false →
    (1 - config.stftLimitPct / 100) * (75 / 100) ≤ t.dst.2.stft * t.dst.2.ltft ∧
      t.dst.2.stft * t.dst.2.ltft ≤ (1 + config.stftLimitPct / 100) * (125 / 100)
  duty : t.dst.2.dfcoActive = false → 0 ≤ t.dst.2.dutyPct ∧ t.dst.2.dutyPct ≤ 100
  pulse : t.dst.2.dfcoActive = false → 0 ≤ t.dst.2.finalPwMs

/-- The fuel is cut off, or the oxygen sensor is followed, or it was before. -/
def FuelPrimed (config : FuelConfig) (t : Transition FuelPoint FuelInputs Unit) : Prop :=
  config.Dfco t.event ∨ config.ClosedLoop t.event ∨ t.src.2.stft ≠ 0

/-- The first call that does not cut the fuel off follows the oxygen sensor. -/
def FuelConfig.FirstCloses (config : FuelConfig) (calls : List FuelInputs) : Prop :=
  ∀ inputs, calls.find? (fun inputs => ¬ config.Dfco inputs) = some inputs →
    config.ClosedLoop inputs

/-- The long-term trims are within their authority, and the short-term trim is within its limits
once it is not zero. -/
structure FuelCoherent (config : FuelConfig) (point : FuelPoint) : Prop where
  sameConfig : point.1.config = config
  trimmed : point.1.ltftMap.Trimmed
  stft : point.2.stft = 0 ∨
    1 - config.stftLimitPct / 100 ≤ point.2.stft ∧ point.2.stft ≤ 1 + config.stftLimitPct / 100

section Runs

variable {sqrt : ℚ → ℚ} {config : FuelConfig} {point start : FuelPoint}
  {t : Transition FuelPoint FuelInputs Unit} {tr : List (Transition FuelPoint FuelInputs Unit)}

theorem nextStft_mem (hlimit : 0 < config.stftLimitPct) (inputs : FuelInputs) (stft : ℚ) :
    1 - config.stftLimitPct / 100 ≤ config.nextStft inputs stft ∧
      config.nextStft inputs stft ≤ 1 + config.stftLimitPct / 100 :=
  ⟨le_min (le_max_right _ _) (by linarith), min_le_right _ _⟩

/-- Two trims within their limits, and what is left of one that is zero. -/
theorem trim_mem_iff {s l limit : ℚ} (hlimit : limit ≤ 50 / 100)
    (hs : s = 0 ∨ 1 - limit ≤ s ∧ s ≤ 1 + limit) (hl : 75 / 100 ≤ l ∧ l ≤ 125 / 100) :
    ((1 - limit) * (75 / 100) ≤ s * l ∧ s * l ≤ (1 + limit) * (125 / 100)) ↔ s ≠ 0 := by
  constructor
  · rintro ⟨hlow, -⟩ rfl
    rw [zero_mul] at hlow
    linarith
  · intro hne
    obtain ⟨hlow, hhigh⟩ := hs.resolve_left hne
    exact ⟨mul_le_mul hlow hl.1 (by norm_num) (by linarith),
      mul_le_mul hhigh hl.2 (by linarith) (by linarith)⟩

/-- A call that cuts the fuel off. -/
theorem dst_of_dfco (ht : (fuel sqrt).Step t) (h : FuelCoherent config t.src)
    (hdfco : config.Dfco t.event) :
    t.dst = (t.src.1, { t.src.2 with dfcoActive := true, finalPwMs := 0, dutyPct := 0 }) := by
  have hcall : t.src.1.calculate sqrt t.src.2 t.event = some (t.src.1, _) :=
    FuelCalculator.calculate_of_dfco (h.sameConfig.symm ▸ hdfco)
  exact Option.some.inj (Eq.trans (Eq.symm ht) hcall)

/-- Any other call. -/
theorem dst_of_not_dfco (hafr : 0 < config.stoichAfr) (hlambda : 0 < config.targetLambda)
    (ht : (fuel sqrt).Step t) (hiat : -(27315 / 100) < t.event.iatC)
    (h : FuelCoherent config t.src) (hdfco : ¬ config.Dfco t.event) :
    (t.dst.1.config = config ∧ t.dst.1.ltftMap.Trimmed) ∧ t.dst.2.dfcoActive = false ∧
      t.dst.2.stft = (if config.ClosedLoop t.event then config.nextStft t.event t.src.2.stft
        else t.src.2.stft) ∧
      (75 / 100 ≤ t.dst.2.ltft ∧ t.dst.2.ltft ≤ 125 / 100) ∧
      (0 ≤ t.dst.2.dutyPct ∧ t.dst.2.dutyPct ≤ 100) ∧ 0 ≤ t.dst.2.finalPwMs := by
  obtain rfl := h.sameConfig
  obtain ⟨next, nextState, hcall, hconfig, htrimmed, hactive, hrest⟩ :=
    exists_calculate sqrt t.src.2 hafr hlambda h.trimmed hiat hdfco
  obtain hdst : t.dst = (next, nextState) := Option.some.inj (Eq.trans (Eq.symm ht) hcall)
  rw [hdst]
  exact ⟨⟨hconfig, htrimmed⟩, hactive, hrest⟩

/-- **What one call preserves, and when it leaves the trims within their limits.** -/
theorem fuel_step (hlimit : 0 < config.stftLimitPct ∧ config.stftLimitPct ≤ 50)
    (hafr : 0 < config.stoichAfr) (hlambda : 0 < config.targetLambda) (ht : (fuel sqrt).Step t)
    (hiat : -(27315 / 100) < t.event.iatC) (h : FuelCoherent config t.src) :
    FuelCoherent config t.dst ∧ (FuelSound config t ↔ FuelPrimed config t) ∧
      (t.dst.2.stft ≠ 0 ↔ ¬ config.Dfco t.event ∧ config.ClosedLoop t.event ∨
        t.src.2.stft ≠ 0) := by
  by_cases hdfco : config.Dfco t.event
  · have hdst := dst_of_dfco ht h hdfco
    have hactive : t.dst.2.dfcoActive = true := by rw [hdst]
    have hsound : FuelSound config t := by
      refine ⟨fun _ => hdst, fun hoff => ?_, fun hoff => ?_, fun hoff => ?_⟩ <;>
        exact absurd (hactive.symm.trans hoff) (by decide)
    refine ⟨?_, iff_of_true hsound (.inl hdfco), ?_⟩
    · rw [hdst]
      exact ⟨h.sameConfig, h.trimmed, h.stft⟩
    · rw [hdst, or_iff_right fun hloop => hloop.1 hdfco]
  · obtain ⟨⟨hconfig, htrimmed⟩, hactive, hstft, hltft, hduty, hpulse⟩ :=
      dst_of_not_dfco hafr hlambda ht hiat h hdfco
    have hmem := nextStft_mem hlimit.1 t.event t.src.2.stft
    have hpos : 0 < 1 - config.stftLimitPct / 100 := by linarith
    have hstftMem : t.dst.2.stft = 0 ∨
        1 - config.stftLimitPct / 100 ≤ t.dst.2.stft ∧
          t.dst.2.stft ≤ 1 + config.stftLimitPct / 100 := by
      rw [hstft]
      split
      · exact .inr hmem
      · exact h.stft
    have hne : t.dst.2.stft ≠ 0 ↔ config.ClosedLoop t.event ∨ t.src.2.stft ≠ 0 := by
      rw [hstft]
      split
      · next hloop => exact iff_of_true (hpos.trans_le hmem.1).ne' (.inl hloop)
      · next hloop => exact (or_iff_right hloop).symm
    refine ⟨⟨hconfig, htrimmed, hstftMem⟩, ?_, by rw [hne, and_iff_right hdfco]⟩
    rw [FuelPrimed, or_iff_right hdfco, ← hne, ← trim_mem_iff (by linarith) hstftMem hltft]
    refine ⟨fun hsound => hsound.trim hactive, fun htrim => ?_⟩
    refine ⟨fun hcut => ?_, fun _ => htrim, fun _ => hduty, fun _ => hpulse⟩
    exact absurd (hcut.symm.trans hactive) (by decide)

theorem forall_primed_of_ne_zero (hlimit : 0 < config.stftLimitPct ∧ config.stftLimitPct ≤ 50)
    (hafr : 0 < config.stoichAfr) (hlambda : 0 < config.targetLambda)
    (h : (fuel sqrt).Run start tr point) (hiat : ∀ t ∈ tr, -(27315 / 100) < t.event.iatC)
    (hstart : FuelCoherent config start) (hne : start.2.stft ≠ 0) :
    ∀ t ∈ tr, FuelPrimed config t := by
  intro t ht
  have hsrc := h.invariant_src (I := fun p => FuelCoherent config p ∧ p.2.stft ≠ 0) ⟨hstart, hne⟩
    (fun u hu hs hI => by
      obtain ⟨hcoherent, -, hiff⟩ := fuel_step hlimit hafr hlambda hs (hiat u hu) hI.1
      exact ⟨hcoherent, hiff.mpr (.inr hI.2)⟩) ht
  exact .inr (.inr hsrc.2)

/-- From a trim of zero, the calls find the trim as they must if and only if the first one that
does not cut the fuel off moves it. -/
theorem forall_primed_iff (hlimit : 0 < config.stftLimitPct ∧ config.stftLimitPct ≤ 50)
    (hafr : 0 < config.stoichAfr) (hlambda : 0 < config.targetLambda)
    (h : (fuel sqrt).Run start tr point) (hiat : ∀ t ∈ tr, -(27315 / 100) < t.event.iatC)
    (hstart : FuelCoherent config start) (hzero : start.2.stft = 0) :
    (∀ t ∈ tr, FuelPrimed config t) ↔ config.FirstCloses (tr.map Transition.event) := by
  induction tr generalizing start with
  | nil => simp [FuelConfig.FirstCloses]
  | cons t tr ih =>
    obtain ⟨rfl, ht, hrest⟩ := h.of_cons
    rw [List.forall_mem_cons] at hiat
    obtain ⟨hcoherent, -, hstft⟩ := fuel_step hlimit hafr hlambda ht hiat.1 hstart
    rw [List.forall_mem_cons, FuelConfig.FirstCloses, List.map_cons, List.find?_cons]
    by_cases hdfco : config.Dfco t.event
    · have hdst : t.dst.2.stft = 0 := by
        rw [dst_of_dfco ht hstart hdfco]
        exact hzero
      simp only [hdfco, not_true, decide_false]
      rw [ih hrest hiat.2 hcoherent hdst, and_iff_right (.inl hdfco)]
      rfl
    · simp only [hdfco, not_false_iff, decide_true, Option.some.injEq, forall_eq']
      refine ⟨fun hprimed => ?_, fun hloop => ⟨.inr (.inl hloop), ?_⟩⟩
      · exact (hprimed.1.resolve_left hdfco).resolve_right (not_not.mpr hzero)
      · exact forall_primed_of_ne_zero hlimit hafr hlambda hrest hiat.2 hcoherent
          (hstft.mpr (.inl ⟨hdfco, hloop⟩))

/-- **The trims over a run.** A calculator that starts new leaves the trims within their limits
after every call if and only if the first call that does not cut the fuel off follows the oxygen
sensor. No call divides by zero. -/
theorem fuel_trim_iff (hlimit : 0 < config.stftLimitPct ∧ config.stftLimitPct ≤ 50)
    (hafr : 0 < config.stoichAfr) (hlambda : 0 < config.targetLambda)
    (h : (fuel sqrt).Run (.new config, {}) tr point)
    (hiat : ∀ t ∈ tr, -(27315 / 100) < t.event.iatC) :
    ((∀ t ∈ tr, FuelSound config t) ↔ config.FirstCloses (tr.map Transition.event)) ∧
      ∀ inputs, -(27315 / 100) < inputs.iatC →
        ∃ next, point.1.calculate sqrt point.2 inputs = some next := by
  have hstart : FuelCoherent config (.new config, {}) := ⟨rfl, LtftMap.trimmed_default, .inl rfl⟩
  have hI (t) (ht : t ∈ tr) (hs : (fuel sqrt).Step t) (hsrc : FuelCoherent config t.src) :
      FuelCoherent config t.dst :=
    (fuel_step hlimit hafr hlambda hs (hiat t ht) hsrc).1
  constructor
  · rw [← forall_primed_iff hlimit hafr hlambda h hiat hstart rfl]
    refine forall₂_congr fun t ht => ?_
    exact (fuel_step hlimit hafr hlambda (h.step_of_mem ht) (hiat t ht)
      (h.invariant_src hstart hI ht)).2.1
  · intro inputs hinputs
    have hend := h.invariant_of_mem hstart hI
    by_cases hdfco : config.Dfco inputs
    · exact ⟨_, FuelCalculator.calculate_of_dfco (hend.sameConfig.symm ▸ hdfco)⟩
    · obtain ⟨next, nextState, hcall, -⟩ := exists_calculate sqrt point.2
        (hend.sameConfig.symm ▸ hafr) (hend.sameConfig.symm ▸ hlambda) hend.trimmed hinputs
        (hend.sameConfig.symm ▸ hdfco)
      exact ⟨_, hcall⟩

/-- An idling engine, with a mixture that the oxygen sensor shows. -/
def idle (lambdaMeasured : ℚ) : FuelInputs where
  rpm := 900
  mapKpa := 40
  baroKpa := 101
  cltC := 90
  iatC := 25
  flexPct := 0
  vbatt := 14
  tpsPct := 3
  lambdaMeasured := lambdaMeasured
  dtMs := 10

/-- A sensor that shows a mixture out of range at the first call: the trim is zero, and what is left
of the pulse is the dead time of the injector. -/
theorem trimmed_to_zero : ∃ tr point, (fuel fun _ => 1).Run (.new {}, {}) tr point ∧
    tr.map Transition.event = [idle 2] ∧ point.2.dfcoActive = false ∧
    point.2.stft * point.2.ltft = 0 ∧ point.2.finalPwMs = 7 / 10 ∧
    ¬ ∀ t ∈ tr, FuelSound {} t := by
  have hcall : ((FuelCalculator.new {}).calculate (fun _ => 1) {} (idle 2)).map
      (fun p => (p.2.dfcoActive, p.2.stft * p.2.ltft, p.2.finalPwMs)) =
        some (false, 0, 7 / 10) := by
    decide +kernel
  obtain ⟨point, hpoint, heq⟩ := Option.map_eq_some_iff.mp hcall
  simp only [Prod.mk.injEq] at heq
  obtain ⟨hactive, htrim, hpulse⟩ := heq
  refine ⟨_, _, .single (t := ⟨(.new {}, {}), idle 2, (), point⟩) hpoint, rfl, hactive, htrim,
    hpulse, fun hsound => ?_⟩
  have hlow := ((hsound _ (.head _)).trim hactive).1
  rw [htrim] at hlow
  norm_num at hlow

/-- A sensor that shows the target at the first call. -/
theorem fuel_trim_iff_idle : ∃ tr point, (fuel fun _ => 1).Run (.new {}, {}) tr point ∧
    tr.map Transition.event = [idle 1] ∧ ∀ t ∈ tr, FuelSound {} t := by
  have hcall : ((FuelCalculator.new {}).calculate (fun _ => 1) {} (idle 1)).isSome := by
    decide +kernel
  obtain ⟨point, hpoint⟩ := Option.isSome_iff_exists.mp hcall
  have hrun : (fuel fun _ => 1).Run (.new {}, {}) [⟨(.new {}, {}), idle 1, (), point⟩] point :=
    .single (t := ⟨(.new {}, {}), idle 1, (), point⟩) hpoint
  have hiat : -(27315 / 100) < (idle 1).iatC := by decide +kernel
  have hfirst : FuelConfig.FirstCloses {} [idle 1] := by
    intro inputs hinputs
    obtain rfl : idle 1 = inputs := Option.some.inj hinputs
    decide +kernel
  refine ⟨_, _, hrun, rfl, (fuel_trim_iff (by decide +kernel) (by decide +kernel)
    (by decide +kernel) hrun fun t ht => ?_).1.mpr hfirst⟩
  obtain rfl := List.mem_singleton.mp ht
  exact hiat

end Runs

end StEcu
