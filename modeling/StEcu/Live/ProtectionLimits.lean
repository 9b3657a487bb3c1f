import Mathlib.Tactic.Linarith
import Mathlib.Tactic.NormNum
import StEcu.Live.Protection

/-!
# What the protection limits honour

Every limit of a configuration has a threshold and an action of its own. Checking the readings
raises one flag for each kind of limit and returns the most severe action among those of the
violated thresholds. The check of the exhaust temperatures reads the first of the two thresholds
only, and compares the higher of the two temperatures with it.

## Main definitions

* `ProtectionConfig.violated`: the thresholds that their own sensors violate.
* `ProtectionConfig.Honoured`: every flag, the action and the enrichment are those of the violated
  thresholds, whatever the state was before.
* `ProtectionConfig.FirstStandsForBoth`: what the readings and the exhaust thresholds must be like
  for the first threshold to stand for both.

## Main results

* `protection_honoured_iff`: a configuration is honoured if and only if the first exhaust threshold
  stands for both.
-/

namespace StEcu

/-! ### Severity -/

namespace ProtectionAction

theorem severity_injective : Function.Injective severity := by
  intro a b h
  cases a <;> cases b <;> first | rfl | cases h

theorem severity_escalate (a b : ProtectionAction) :
    (a.escalate b).severity = max a.severity b.severity := by
  rw [escalate]
  split_ifs <;> omega

/-- The most severe action of a number of thresholds, or none if there is none. -/
structure MostSevere (action : ProtectionAction) (thresholds : List ProtectionThreshold) :
    Prop where
  eq_none : thresholds = [] → action = none
  mem : thresholds ≠ [] → action ∈ thresholds.map ProtectionThreshold.actionType
  le : ∀ threshold ∈ thresholds, threshold.actionType.severity ≤ action.severity

end ProtectionAction

/-- The severity of the most severe action of a number of thresholds. -/
def maxSeverity : List ProtectionThreshold → ℕ
  | [] => 0
  | threshold :: thresholds => max threshold.actionType.severity (maxSeverity thresholds)

theorem maxSeverity_append (as bs : List ProtectionThreshold) :
    maxSeverity (as ++ bs) = max (maxSeverity as) (maxSeverity bs) := by
  induction as with
  | nil => rw [List.nil_append, maxSeverity, Nat.zero_max]
  | cons a as ih => rw [List.cons_append, maxSeverity, ih, maxSeverity, Nat.max_assoc]

theorem severity_le_maxSeverity {thresholds : List ProtectionThreshold}
    {threshold : ProtectionThreshold} (h : threshold ∈ thresholds) :
    threshold.actionType.severity ≤ maxSeverity thresholds := by
  induction thresholds with
  | nil => cases h
  | cons a as ih =>
    rw [maxSeverity]
    rcases List.mem_cons.mp h with rfl | h
    · exact Nat.le_max_left _ _
    · exact (ih h).trans (Nat.le_max_right _ _)

/-- The largest severity is the severity of one of the actions. -/
theorem exists_severity_eq {thresholds : List ProtectionThreshold} (h : thresholds ≠ []) :
    ∃ threshold ∈ thresholds, threshold.actionType.severity = maxSeverity thresholds := by
  induction thresholds with
  | nil => exact absurd rfl h
  | cons a as ih =>
    rw [maxSeverity]
    rcases as.eq_nil_or_concat with rfl | ⟨as', b, rfl⟩
    · exact ⟨a, List.mem_singleton_self a, (Nat.max_zero _).symm⟩
    · obtain ⟨threshold, hmem, heq⟩ := ih (by simp)
      rcases Nat.le_total a.actionType.severity (maxSeverity (as'.concat b)) with hle | hle
      · exact ⟨threshold, List.mem_cons_of_mem a hmem, by rw [heq, Nat.max_eq_right hle]⟩
      · exact ⟨a, List.mem_cons_self, by rw [Nat.max_eq_left hle]⟩

/-- An action is the most severe one if and only if it has the largest severity, since no two
actions are equally severe. -/
theorem mostSevere_iff {action : ProtectionAction} {thresholds : List ProtectionThreshold} :
    action.MostSevere thresholds ↔ action.severity = maxSeverity thresholds := by
  constructor
  · intro h
    rcases eq_or_ne thresholds [] with rfl | hne
    · rw [h.eq_none rfl]
      rfl
    · obtain ⟨worst, hworst, hmax⟩ := exists_severity_eq hne
      obtain ⟨threshold, hmem, rfl⟩ := List.mem_map.mp (h.mem hne)
      exact Nat.le_antisymm (severity_le_maxSeverity hmem) (hmax ▸ h.le worst hworst)
  · intro h
    refine ⟨?_, fun hne => ?_, fun threshold hmem => h ▸ severity_le_maxSeverity hmem⟩
    · rintro rfl
      exact ProtectionAction.severity_injective h
    · obtain ⟨worst, hworst, hmax⟩ := exists_severity_eq hne
      rw [ProtectionAction.severity_injective (h.trans hmax.symm)]
      exact List.mem_map_of_mem hworst

namespace ProtectionConfig

variable (config : ProtectionConfig) (inputs : ProtectionInputs)

/-! ### The violated thresholds -/

/-- The violated thresholds, the exhaust temperatures left out. -/
def otherViolated : List ProtectionThreshold :=
  (if config.rpmMax.action < inputs.rpm then [config.rpmMax] else []) ++
    (if config.mapMaxKpa.action < inputs.mapKpa then [config.mapMaxKpa] else []) ++
    (if inputs.oilPressureKpa < config.oilMinKpa.action then [config.oilMinKpa] else []) ++
    (if config.cltMaxC.action < inputs.coolantC then [config.cltMaxC] else []) ++
    (if config.afrLeanLimit.action < inputs.afr ∧ inputs.afr < 20 then [config.afrLeanLimit]
      else [])

/-- The thresholds that their own sensors violate. -/
def violated : List ProtectionThreshold :=
  config.otherViolated inputs ++
    (if config.egt1MaxC.action < inputs.egt1C then [config.egt1MaxC] else []) ++
    (if config.egt2MaxC.action < inputs.egt2C then [config.egt2MaxC] else [])

/-- One evaluation honours the configuration: each flag says whether its own sensor violates its own
threshold, and the action is the most severe one of the violated thresholds. -/
structure HonouredBy (state : ProtectionState) (action : ProtectionAction) : Prop where
  rpm : state.rpmProtect = true ↔ config.rpmMax.action < inputs.rpm
  map : state.mapProtect = true ↔ config.mapMaxKpa.action < inputs.mapKpa
  oil : state.oilProtect = true ↔ inputs.oilPressureKpa < config.oilMinKpa.action
  coolant : state.coolantProtect = true ↔ config.cltMaxC.action < inputs.coolantC
  afr : state.afrProtect = true ↔ config.afrLeanLimit.action < inputs.afr ∧ inputs.afr < 20
  egt : state.egtProtect = true ↔
    config.egt1MaxC.action < inputs.egt1C ∨ config.egt2MaxC.action < inputs.egt2C
  mostSevere : action.MostSevere (config.violated inputs)
  activeAction : state.activeAction = action
  enrichment : 1 ≤ state.fuelEnrichFactor ∧ state.fuelEnrichFactor ≤ 14 / 10

/-- The configuration is honoured from every state, and what the state was is forgotten; the counter
of cut events belongs to others. -/
structure Honoured : Prop where
  honoured : ∀ state, config.HonouredBy inputs (config.evaluate state inputs).1
    (config.evaluate state inputs).2
  forgets : ∀ state state', config.evaluate state' inputs =
    ({ (config.evaluate state inputs).1 with overrevCutEvents := state'.overrevCutEvents },
      (config.evaluate state inputs).2)

/-- The first exhaust threshold, compared with the higher temperature, has the same outcome as the
two thresholds compared with their own temperatures: the second temperature does not raise it while
it keeps to its own, and where it violates its own the first one is raised too, and the second one
has no action that makes a difference. -/
def FirstStandsForBoth : Prop :=
  if config.egt2MaxC.action < inputs.egt2C then
    config.egt1MaxC.action < max inputs.egt1C inputs.egt2C ∧
      let others := max config.egt1MaxC.actionType.severity
        (maxSeverity (config.otherViolated inputs))
      if config.egt1MaxC.action < inputs.egt1C then config.egt2MaxC.actionType.severity ≤ others
      else others = max config.egt2MaxC.actionType.severity
        (maxSeverity (config.otherViolated inputs))
  else inputs.egt2C ≤ config.egt1MaxC.action ∨ config.egt1MaxC.action < inputs.egt1C

/-! ### The evaluation -/

variable {config inputs}

theorem severity_ite_escalate (c : Prop) [Decidable c] (threshold : ProtectionThreshold)
    (worst : ProtectionAction) :
    (if c then worst.escalate threshold.actionType else worst).severity =
      max worst.severity (maxSeverity (if c then [threshold] else [])) := by
  split_ifs
  · rw [ProtectionAction.severity_escalate, maxSeverity, maxSeverity, Nat.max_zero]
  · rw [maxSeverity, Nat.max_zero]

/-- The action of an evaluation has the largest severity of the other violated thresholds and of the
first exhaust threshold, if the higher temperature violates this. -/
theorem severity_evaluate (state : ProtectionState) :
    (config.evaluate state inputs).2.severity =
      max (maxSeverity (config.otherViolated inputs))
        (maxSeverity (if config.egt1MaxC.action < max inputs.egt1C inputs.egt2C
          then [config.egt1MaxC] else [])) := by
  have hnone : ProtectionAction.none.severity = 0 := rfl
  rw [evaluate]
  simp only [severity_ite_escalate, decide_eq_true_eq, hnone, Nat.zero_max, otherViolated,
    maxSeverity_append]

theorem enrichment_evaluate (state : ProtectionState) :
    1 ≤ (config.evaluate state inputs).1.fuelEnrichFactor ∧
      (config.evaluate state inputs).1.fuelEnrichFactor ≤ 14 / 10 := by
  rw [evaluate]
  dsimp only
  -- each stage adds something positive and stays below its bound
  generalize hclt : (if decide (config.cltMaxC.action < inputs.coolantC) = true
    then min (1 + (inputs.coolantC - config.cltMaxC.action) * (5 / 100)) (13 / 10)
    else (1 : ℚ)) = clt
  have hclt' : 1 ≤ clt ∧ clt ≤ 13 / 10 := by
    rw [← hclt]
    split_ifs with h
    · rw [decide_eq_true_eq] at h
      exact ⟨le_min (by linarith) (by norm_num), min_le_right _ _⟩
    · norm_num
  generalize hafr : (if decide (config.afrLeanLimit.action < inputs.afr ∧ inputs.afr < 20) = true
    then min (clt + (inputs.afr - config.afrLeanLimit.action) * (1 / 10)) (13 / 10)
    else clt) = afr
  have hafr' : 1 ≤ afr ∧ afr ≤ 13 / 10 := by
    rw [← hafr]
    split_ifs with h
    · rw [decide_eq_true_eq] at h
      exact ⟨le_min (by linarith [h.1]) (by norm_num), min_le_right _ _⟩
    · exact hclt'
  split_ifs with h
  · rw [decide_eq_true_eq] at h
    exact ⟨le_min (by linarith) (by norm_num), min_le_right _ _⟩
  · exact ⟨hafr'.1, by linarith⟩

/-- The flag of the exhaust temperatures and the severity of the action are all that can differ. -/
theorem honoured_iff_egt : config.Honoured inputs ↔
    (config.egt1MaxC.action < max inputs.egt1C inputs.egt2C ↔
      config.egt1MaxC.action < inputs.egt1C ∨ config.egt2MaxC.action < inputs.egt2C) ∧
    max (maxSeverity (config.otherViolated inputs))
        (maxSeverity (if config.egt1MaxC.action < max inputs.egt1C inputs.egt2C
          then [config.egt1MaxC] else [])) =
      maxSeverity (config.violated inputs) := by
  constructor
  · intro h
    have hnow := h.honoured {}
    refine ⟨?_, ?_⟩
    · rw [← hnow.egt]
      exact decide_eq_true_iff.symm
    · rw [← severity_evaluate {}, ← mostSevere_iff]
      exact hnow.mostSevere
  · rintro ⟨hegt, haction⟩
    refine ⟨fun state => ?_, fun state state' => rfl⟩
    exact {
      rpm := decide_eq_true_iff
      map := decide_eq_true_iff
      oil := decide_eq_true_iff
      coolant := decide_eq_true_iff
      afr := decide_eq_true_iff
      egt := decide_eq_true_iff.trans hegt
      mostSevere := mostSevere_iff.mpr ((severity_evaluate state).trans haction)
      activeAction := rfl
      enrichment := enrichment_evaluate state }

end ProtectionConfig

open ProtectionConfig

/-- **Which configurations are honoured.** The flags, the action and the enrichment are those that
the configuration asks for if and only if the first exhaust threshold stands for both. -/
theorem protection_honoured_iff (config : ProtectionConfig) (inputs : ProtectionInputs) :
    config.Honoured inputs ↔ config.FirstStandsForBoth inputs := by
  rw [honoured_iff_egt, FirstStandsForBoth, violated, maxSeverity_append, maxSeverity_append,
    ← not_lt (a := config.egt1MaxC.action) (b := inputs.egt2C)]
  generalize maxSeverity (config.otherViolated inputs) = others
  by_cases hsecond : config.egt2MaxC.action < inputs.egt2C
  · by_cases hfirst : config.egt1MaxC.action < inputs.egt1C
    · simp only [lt_max_iff, hsecond, hfirst, if_true, maxSeverity, true_or, true_and]
      omega
    · by_cases hraised : config.egt1MaxC.action < inputs.egt2C
      · simp only [lt_max_iff, hsecond, hfirst, hraised, if_true, if_false, maxSeverity, or_true,
          true_and]
        omega
      · -- the flag is not set although the second temperature violates its threshold
        simp [hsecond, hfirst, hraised]
  · by_cases hfirst : config.egt1MaxC.action < inputs.egt1C
    · simp [hsecond, hfirst, maxSeverity]
    · -- the flag is set exactly if the second temperature violates the first threshold
      by_cases hraised : config.egt1MaxC.action < inputs.egt2C
      · simp [hsecond, hfirst, hraised]
      · simp [hsecond, hfirst, hraised, maxSeverity]

/-- A hot second cylinder bank below the first threshold and within the limits otherwise. -/
def hotSecondBank : ProtectionInputs where
  rpm := 3000
  mapKpa := 120
  oilPressureKpa := 300
  coolantC := 85
  afr := 147 / 10
  egt1C := 800
  egt2C := 950

/-- A second exhaust threshold below the first one is not honoured. -/
theorem second_exhaust_threshold_ignored :
    ¬ ({ egt2MaxC := ⟨800, 900, .shutdown⟩ } : ProtectionConfig).Honoured hotSecondBank := by
  intro h
  have hegt := (h.honoured {}).egt.mpr (.inr (by norm_num [hotSecondBank]))
  rw [ProtectionConfig.evaluate] at hegt
  norm_num [hotSecondBank] at hegt

end StEcu
