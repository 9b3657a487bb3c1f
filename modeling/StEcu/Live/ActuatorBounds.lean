import Mathlib.Tactic.NormNum
import StEcu.Live.Actuator

/-!
# The bounds of the actuator settings

The settings of page 0 are brought into their bounds. Two dwell times that are closer than 0.1 ms
are moved apart: the maximum up, and where it stands at its bound already, the minimum down.

## Main definitions

* `ActuatorRuntimeConfig.Sanitized`: the bounds of the settings.
* `ActuatorSane`: the settings of a page are in their bounds, and so is the dwell under all
  conditions.
* `CrowdsUpperBound`: the smaller dwell time of a page is less than 0.1 ms below the bound of 10 ms.

## Main results

* `orderDwell_bounds`: what moving the dwell times apart achieves.
* `actuator_sane_iff`: the settings of a page are in their bounds if and only if its smaller dwell
  time is not too close to the upper bound.
-/

namespace StEcu

/-- The bounds that the settings are brought into; the dwell times are ordered, so that the dwell
can be clamped between them. -/
structure ActuatorRuntimeConfig.Sanitized (config : ActuatorRuntimeConfig) : Prop where
  cylinders : 1 ≤ config.cylinders ∧ config.cylinders ≤ 16
  injectorFlowCcMin : 50 ≤ config.injectorFlowCcMin
  injectorDeadtime14vMs : 5 / 100 ≤ config.injectorDeadtime14vMs ∧ config.injectorDeadtime14vMs ≤ 8
  dwellMinMs : 1 / 2 ≤ config.dwellMinMs
  dwellFixedMs : config.dwellMinMs ≤ config.dwellFixedMs ∧ config.dwellFixedMs ≤ config.dwellMaxMs
  dwellMaxMs : config.dwellMaxMs ≤ 10
  gap : 1 / 10 ≤ config.dwellMaxMs - config.dwellMinMs

/-- The settings of a page are in their bounds. Under all conditions the dwell is clamped between
bounds that are in order, and stays between them. -/
structure ActuatorSane (P : Platform) (payload : Bytes) : Prop where
  sanitized : (parsePage0ActuatorConfig payload).Sanitized
  ordered : (parsePage0ActuatorConfig payload).dwellMinMs ≤
    (parsePage0ActuatorConfig payload).dwellMaxMs
  bounded : ∀ vbatt coolantC,
    let dwell := (dwellForConditionsMs P (parsePage0ActuatorConfig payload) vbatt coolantC).2
    (parsePage0ActuatorConfig payload).dwellMinMs ≤ dwell ∧
      dwell ≤ (parsePage0ActuatorConfig payload).dwellMaxMs

/-- The page is read, and its smaller dwell time is above 9.9 ms and below 10 ms. -/
def CrowdsUpperBound (payload : Bytes) : Prop :=
  39 < payload.length ∧ payload.take 4 = page0Magic ∧ payload.getD 4 0 = page0Version ∧
    9900 < min (readBeU16 payload 38).toNat (readBeU16 payload 36).toNat ∧
    min (readBeU16 payload 38).toNat (readBeU16 payload 36).toNat < 10000

/-! ### The dwell times -/

theorem clampDwell_eq (x : ℚ) : clampDwell x = max (1 / 2) (min x 10) := by
  norm_num [clampDwell, clampRat, actuatorDwellBoundsMs]

theorem clampDwell_mem (x : ℚ) : 1 / 2 ≤ clampDwell x ∧ clampDwell x ≤ 10 := by
  rw [clampDwell_eq]
  exact clampRat_mem (by norm_num)

/-- A dwell time that is not too small is only cut off at the upper bound. -/
theorem clampDwell_of_le {x : ℚ} (h : 1 / 2 ≤ x) : clampDwell x = min x 10 := by
  rw [clampDwell_eq, max_eq_right (le_min h (by norm_num))]

section OrderDwell

variable {fixedMs minMs maxMs : ℚ}

theorem orderDwell_swap (h : maxMs < minMs) :
    orderDwell fixedMs minMs maxMs = orderDwell fixedMs maxMs minMs := by
  rw [orderDwell, orderDwell, if_pos h, if_neg (not_lt.mpr h.le)]

theorem orderDwell_of_gap (fixedMs : ℚ) (h : minMs + 1 / 10 ≤ maxMs) :
    orderDwell fixedMs minMs maxMs = (clampRat fixedMs minMs maxMs, minMs, maxMs) := by
  rw [orderDwell, if_neg (by linarith)]
  dsimp only
  rw [if_neg (by linarith)]

/-- Two dwell times at the upper bound: the minimum is moved down. -/
theorem orderDwell_top (fixedMs : ℚ) :
    orderDwell fixedMs 10 10 = (clampRat fixedMs (99 / 10) 10, 99 / 10, 10) := by
  norm_num [orderDwell, clampDwell_eq, actuatorDwellBoundsMs]

/-- Two dwell times too close: the maximum is moved up, no further than to the upper bound. -/
theorem orderDwell_of_close (fixedMs : ℚ) (hmin : 1 / 2 ≤ minMs) (htop : minMs < 10)
    (h : minMs ≤ maxMs) (hclose : maxMs < minMs + 1 / 10) : orderDwell fixedMs minMs maxMs =
      (clampRat fixedMs minMs (min (minMs + 1 / 10) 10), minMs, min (minMs + 1 / 10) 10) := by
  have hlt : minMs < min (minMs + 1 / 10) 10 := lt_min (by linarith) htop
  rw [orderDwell, if_neg (not_lt.mpr h)]
  dsimp only
  rw [if_pos (by linarith), clampDwell_of_le (by linarith), if_neg (not_le.mpr hlt)]

/-- **The dwell times moved apart.** They are in order and in the bounds, and 0.1 ms apart unless
the smaller one was just below the upper bound. -/
theorem orderDwell_bounds (fixedMs : ℚ) (hmin : 1 / 2 ≤ minMs ∧ minMs ≤ 10)
    (hmax : 1 / 2 ≤ maxMs ∧ maxMs ≤ 10) :
    ∃ lower upper, orderDwell fixedMs minMs maxMs = (clampRat fixedMs lower upper, lower, upper) ∧
      1 / 2 ≤ lower ∧ lower ≤ upper ∧ upper ≤ 10 ∧
      (1 / 10 ≤ upper - lower ↔ ¬ (99 / 10 < min minMs maxMs ∧ min minMs maxMs < 10)) := by
  wlog h : minMs ≤ maxMs generalizing minMs maxMs
  · rw [orderDwell_swap (not_le.mp h), min_comm]
    exact this hmax hmin (not_le.mp h).le
  rw [min_eq_left h]
  rcases le_or_gt (minMs + 1 / 10) maxMs with hgap | hclose
  · refine ⟨minMs, maxMs, orderDwell_of_gap fixedMs hgap, hmin.1, h, hmax.2, ?_⟩
    refine iff_of_true (by linarith) ?_
    rintro ⟨hcrowd, -⟩
    linarith [hmax.2]
  rcases hmin.2.eq_or_lt with htop | htop
  · obtain rfl : maxMs = 10 := le_antisymm hmax.2 (htop ▸ h)
    rw [htop, orderDwell_top]
    exact ⟨_, _, rfl, by norm_num⟩
  · refine ⟨_, _, orderDwell_of_close fixedMs hmin.1 htop h hclose, hmin.1,
      le_min (by linarith) hmin.2, min_le_right _ _, ?_⟩
    rw [le_sub_iff_add_le, le_min_iff]
    constructor
    · rintro ⟨-, hle⟩ ⟨hcrowd, -⟩
      linarith
    · intro hfar
      have hle : minMs ≤ 99 / 10 := not_lt.mp fun hcrowd => hfar ⟨hcrowd, htop⟩
      constructor <;> linarith

end OrderDwell

/-! ### The settings of a page -/

section Page

variable {P : Platform} {payload : Bytes} {config : ActuatorRuntimeConfig}

theorem sanitized_default : ActuatorRuntimeConfig.Sanitized {} where
  cylinders := by decide
  injectorFlowCcMin := by norm_num
  injectorDeadtime14vMs := by norm_num
  dwellMinMs := by norm_num
  dwellFixedMs := by norm_num
  dwellMaxMs := by norm_num
  gap := by norm_num

/-- Where the limits of the dwell are in order, it stays between them. -/
theorem dwellForConditionsMs_mem (hlo : 1 / 2 ≤ config.dwellMinMs)
    (h : config.dwellMinMs ≤ config.dwellMaxMs) (hhi : config.dwellMaxMs ≤ 10)
    (vbatt coolantC : ℚ) : config.dwellMinMs ≤ (dwellForConditionsMs P config vbatt coolantC).2 ∧
      (dwellForConditionsMs P config vbatt coolantC).2 ≤ config.dwellMaxMs := by
  rw [dwellForConditionsMs]
  dsimp only
  generalize config.dwellFixedMs * _ + _ = requested
  obtain ⟨hlower, hupper⟩ := clampRat_mem (x := requested) h
  rw [clampDwell_of_le (hlo.trans hlower), min_eq_left (hupper.trans hhi)]
  exact ⟨hlower, hupper⟩

/-- The smaller dwell time of a page, in microseconds, just below the upper bound. -/
theorem clampDwell_raw_crowds_iff (m n : ℕ) :
    (99 / 10 < min (clampDwell (m / 1000)) (clampDwell (n / 1000)) ∧
      min (clampDwell (m / 1000)) (clampDwell (n / 1000)) < 10) ↔
    9900 < min m n ∧ min m n < 10000 := by
  have hlt (raw : ℕ) : 99 / 10 < clampDwell (raw / 1000) ↔ 9900 < raw := by
    have hraw : (99 / 10 : ℚ) < raw / 1000 ↔ 9900 < raw := by
      rw [lt_div_iff₀ (by norm_num), ← Nat.cast_lt (α := ℚ)]
      norm_num
    rw [clampDwell_eq, lt_max_iff, lt_min_iff, hraw]
    norm_num
  have hgt (raw : ℕ) : clampDwell (raw / 1000) < 10 ↔ raw < 10000 := by
    have hraw : (raw / 1000 : ℚ) < 10 ↔ raw < 10000 := by
      rw [div_lt_iff₀ (by norm_num), ← Nat.cast_lt (α := ℚ)]
      norm_num
    rw [clampDwell_eq, max_lt_iff, min_lt_iff, hraw]
    norm_num
  rw [lt_min_iff, min_lt_iff, hlt, hlt, hgt, hgt, lt_min_iff, min_lt_iff]

/-- The settings of a page that is read: the dwell times are in order and in the bounds, and the
settings are in their bounds as far as the dwell times are apart. -/
theorem sanitized_of_read (hlen : 39 < payload.length) (hmagic : payload.take 4 = page0Magic)
    (hversion : payload.getD 4 0 = page0Version) :
    1 / 2 ≤ (parsePage0ActuatorConfig payload).dwellMinMs ∧
      (parsePage0ActuatorConfig payload).dwellMinMs ≤
        (parsePage0ActuatorConfig payload).dwellMaxMs ∧
      (parsePage0ActuatorConfig payload).dwellMaxMs ≤ 10 ∧
      ((parsePage0ActuatorConfig payload).Sanitized ↔ ¬ CrowdsUpperBound payload) := by
  obtain ⟨lower, upper, hdwell, hlo, hle, hhi, hgap⟩ := orderDwell_bounds
    (clampDwell ((readBeU16 payload 34).toNat / 1000))
    (clampDwell_mem ((readBeU16 payload 38).toNat / 1000))
    (clampDwell_mem ((readBeU16 payload 36).toNat / 1000))
  have hfixed := clampRat_mem (x := clampDwell ((readBeU16 payload 34).toNat / 1000)) hle
  rw [clampDwell_raw_crowds_iff] at hgap
  rw [CrowdsUpperBound, and_iff_right hlen, and_iff_right hmagic, and_iff_right hversion, ← hgap,
    parsePage0ActuatorConfig, if_neg (not_le.mpr hlen),
    if_neg (not_or.mpr ⟨not_not.mpr hmagic, not_not.mpr hversion⟩)]
  dsimp only
  rw [hdwell]
  refine ⟨hlo, hle, hhi, fun h => h.gap, fun h => ⟨?_, ?_, ?_, hlo, hfixed, hhi, h⟩⟩
  · dsimp only
    generalize payload.getD 5 0 = cylinders
    split
    · decide
    · next h0 =>
      have hpos : 1 ≤ cylinders := UInt8.pos_iff_ne_zero.mpr h0
      have hmin : min cylinders 16 = if cylinders ≤ 16 then cylinders else 16 := rfl
      rw [hmin]
      split
      · next hle => exact ⟨hpos, hle⟩
      · decide
  · dsimp only
    split <;> linarith
  · dsimp only
    split
    · exact clampRat_mem (by norm_num [actuatorDeadtimeBoundsMs])
    · norm_num

theorem parsePage0ActuatorConfig_of_not_read (h : ¬ (39 < payload.length ∧
    payload.take 4 = page0Magic ∧ payload.getD 4 0 = page0Version)) :
    parsePage0ActuatorConfig payload = {} := by
  rw [parsePage0ActuatorConfig]
  split
  · rfl
  · next hlen =>
    rw [if_pos]
    by_contra hread
    rw [not_or, not_not, not_not] at hread
    exact h ⟨not_le.mp hlen, hread⟩

/-- **The settings of a page.** They are in their bounds, and the clamps of the dwell in order, if
and only if the page does not crowd the dwell times under the upper bound. -/
theorem actuator_sane_iff (P : Platform) (payload : Bytes) :
    ActuatorSane P payload ↔ ¬ CrowdsUpperBound payload := by
  by_cases h : 39 < payload.length ∧ payload.take 4 = page0Magic ∧
    payload.getD 4 0 = page0Version
  · obtain ⟨hlo, hle, hhi, hsane⟩ := sanitized_of_read h.1 h.2.1 h.2.2
    exact ⟨fun hs => hsane.mp hs.sanitized,
      fun hc => ⟨hsane.mpr hc, hle, dwellForConditionsMs_mem hlo hle hhi⟩⟩
  · have hdefault := parsePage0ActuatorConfig_of_not_read h
    refine iff_of_true ⟨?_, ?_, ?_⟩ fun hc => h ⟨hc.1, hc.2.1, hc.2.2.1⟩ <;> rw [hdefault]
    · exact sanitized_default
    · norm_num
    · exact dwellForConditionsMs_mem (by norm_num) (by norm_num) (by norm_num)

/-- Both dwell times at 9.95 ms. -/
def crowdedPage : Bytes :=
  page0Magic ++ [page0Version] ++ List.replicate 31 0 ++ u16ToBe 9950 ++ u16ToBe 9950

/-- The maximum is moved up to 10 ms only, and the dwell times are 0.05 ms apart. -/
theorem crowded_page_not_sane : (parsePage0ActuatorConfig crowdedPage).dwellMinMs = 995 / 100 ∧
    (parsePage0ActuatorConfig crowdedPage).dwellMaxMs = 10 ∧
    ∀ P, ¬ ActuatorSane P crowdedPage := by
  have hmin : (parsePage0ActuatorConfig crowdedPage).dwellMinMs = 995 / 100 := by decide +kernel
  have hmax : (parsePage0ActuatorConfig crowdedPage).dwellMaxMs = 10 := by decide +kernel
  refine ⟨hmin, hmax, fun P h => ?_⟩
  have hgap := h.sanitized.gap
  rw [hmin, hmax] at hgap
  norm_num at hgap

end Page

end StEcu
