import Mathlib.Algebra.Order.Field.Basic
import Mathlib.Analysis.Convex.Basic
import Mathlib.Order.Monotone.Basic
import Mathlib.Tactic.Linarith

/-!
# Piecewise linear curves

A curve through finitely many points, given by its breakpoints and its values at them: between two
breakpoints it is linear, and outside all of them it is constant. A position on it is a pair of
neighbouring points with the fraction of the way from the one to the other.

## Main definitions

* `lerp`: the mean of two values.
* `Located`: where a value lies among the breakpoints.

## Main results

* `lerp_mem`: a mean lies between the bounds of its values.
* `exists_bracket`: a value after the first breakpoint and before the last one lies between two
  neighbours, whatever the breakpoints are.
* `Located.lerp_node`: at a breakpoint the curve has the value of the breakpoint.
* `Located.lerp_mono`: a curve through increasing values is increasing.
-/

variable {k : Type*} [Field k]

/-- The mean of two values, a fraction of the way from the one to the other. -/
def lerp (a b t : k) : k := (1 - t) * a + t * b

@[simp] theorem lerp_zero (a b : k) : lerp a b 0 = a := by simp [lerp]

theorem lerp_neg (a b t : k) : lerp (-a) (-b) t = -lerp a b t := by
  simp only [lerp]
  ring

variable [LinearOrder k]

/-- Where a value lies among `n` breakpoints: before the first one, or after the last one, or
between two neighbours. -/
inductive Located (n : ℕ) (breakpoint : ℕ → k) (v : k) : ℕ → ℕ → k → Prop
  | below (h : v ≤ breakpoint 0) : Located n breakpoint v 0 0 0
  | above (h : breakpoint (n - 1) ≤ v) : Located n breakpoint v (n - 1) (n - 1) 0
  | between (i : ℕ) (hi : i + 1 < n) (hlower : breakpoint i ≤ v) (hupper : v < breakpoint (i + 1)) :
      Located n breakpoint v i (i + 1)
        ((v - breakpoint i) / (breakpoint (i + 1) - breakpoint i))

omit [Field k] in
/-- A value after the first breakpoint and before the last one lies between two neighbours. -/
theorem exists_bracket (breakpoint : ℕ → k) {n : ℕ} {v : k} (hlow : breakpoint 0 < v)
    (hhigh : v < breakpoint (n - 1)) :
    ∃ i, i + 1 < n ∧ breakpoint i ≤ v ∧ v < breakpoint (i + 1) := by
  classical
  have hex : ∃ i, v < breakpoint i := ⟨n - 1, hhigh⟩
  obtain ⟨i, hi⟩ : ∃ i, Nat.find hex = i + 1 :=
    Nat.exists_eq_succ_of_ne_zero fun h => lt_asymm hlow (h ▸ Nat.find_spec hex)
  have hle : i + 1 ≤ n - 1 := hi ▸ Nat.find_min' hex hhigh
  exact ⟨i, by omega, not_lt.mp (Nat.find_min hex (by omega)), hi ▸ Nat.find_spec hex⟩

variable [IsStrictOrderedRing k]

theorem lerp_mem {a b t lo hi : k} (ha : lo ≤ a ∧ a ≤ hi) (hb : lo ≤ b ∧ b ≤ hi)
    (ht : 0 ≤ t ∧ t ≤ 1) : lo ≤ lerp a b t ∧ lerp a b t ≤ hi :=
  convex_Icc lo hi ha hb (sub_nonneg.mpr ht.2) ht.1 (sub_add_cancel 1 t)

theorem lerp_le_lerp {a b a' b' t : k} (ha : a ≤ a') (hb : b ≤ b') (ht : 0 ≤ t ∧ t ≤ 1) :
    lerp a b t ≤ lerp a' b' t :=
  add_le_add (mul_le_mul_of_nonneg_left ha (sub_nonneg.mpr ht.2))
    (mul_le_mul_of_nonneg_left hb ht.1)

/-- Between increasing values, further on is higher. -/
theorem lerp_le_lerp_right {a b t t' : k} (hab : a ≤ b) (ht : t ≤ t') :
    lerp a b t ≤ lerp a b t' := by
  have h : lerp a b t' - lerp a b t = (t' - t) * (b - a) := by
    simp only [lerp]
    ring
  exact sub_nonneg.mp (h ▸ mul_nonneg (sub_nonneg.mpr ht) (sub_nonneg.mpr hab))

namespace Located

variable {n i j i' j' m : ℕ} {breakpoint y : ℕ → k} {v v' t t' : k}

theorem mem (hn : 0 < n) (h : Located n breakpoint v i j t) :
    (i < n ∧ j < n) ∧ 0 ≤ t ∧ t ≤ 1 := by
  cases h with
  | below h => exact ⟨⟨hn, hn⟩, le_rfl, zero_le_one⟩
  | above h => exact ⟨⟨by omega, by omega⟩, le_rfl, zero_le_one⟩
  | between i hi hlower hupper =>
    have hpos : 0 < breakpoint (i + 1) - breakpoint i := sub_pos.mpr (hlower.trans_lt hupper)
    exact ⟨⟨by omega, hi⟩, div_nonneg (sub_nonneg.mpr hlower) hpos.le,
      (div_le_one hpos).mpr (sub_le_sub_right hupper.le _)⟩

section Sorted

variable (hbreakpoint : StrictMonoOn breakpoint (Set.Iio n))
include hbreakpoint

omit [IsStrictOrderedRing k] in
/-- A breakpoint lies at its own point. -/
theorem at_node (hm : m < n) (h : Located n breakpoint (breakpoint m) i j t) : i = m ∧ t = 0 := by
  cases h with
  | below h =>
    have hle := (hbreakpoint.le_iff_le hm (show 0 < n by omega)).mp h
    exact ⟨by omega, rfl⟩
  | above h =>
    have hle := (hbreakpoint.le_iff_le (show n - 1 < n by omega) hm).mp h
    exact ⟨by omega, rfl⟩
  | between i hi hlower hupper =>
    have hle := (hbreakpoint.le_iff_le (show i < n by omega) hm).mp hlower
    have hlt := (hbreakpoint.lt_iff_lt hm hi).mp hupper
    obtain rfl : i = m := by omega
    exact ⟨rfl, by rw [sub_self, zero_div]⟩

omit [IsStrictOrderedRing k] in
/-- At a breakpoint the curve has the value of the breakpoint. -/
theorem lerp_node (hm : m < n) (h : Located n breakpoint (breakpoint m) i j t) :
    lerp (y i) (y j) t = y m := by
  obtain ⟨rfl, rfl⟩ := h.at_node hbreakpoint hm
  exact lerp_zero _ _

variable (hy : MonotoneOn y (Set.Iio n))
include hy

/-- Up to a breakpoint the curve is not above the value of the breakpoint. -/
theorem lerp_le_of_le (hm : m < n) (h : Located n breakpoint v i j t) (hv : v ≤ breakpoint m) :
    lerp (y i) (y j) t ≤ y m := by
  cases h with
  | below h =>
    rw [lerp_zero]
    exact hy (show 0 < n by omega) hm (Nat.zero_le m)
  | above h =>
    rw [lerp_zero]
    exact hy (show n - 1 < n by omega) hm
      ((hbreakpoint.le_iff_le (show n - 1 < n by omega) hm).mp (h.trans hv))
  | between i hi hlower hupper =>
    have hi' : i < n := by omega
    have hle := (hbreakpoint.le_iff_le hi' hm).mp (hlower.trans hv)
    rcases hle.eq_or_lt with rfl | hlt
    · rw [le_antisymm hv hlower, sub_self, zero_div, lerp_zero]
    · have hmem := (between i hi hlower hupper).mem (by omega)
      exact (lerp_mem ⟨le_rfl, hy hi' hm hle⟩ ⟨hy hi' hi (Nat.le_succ i), hy hi hm hlt⟩ hmem.2).2

/-- **A curve through increasing values is increasing.** -/
theorem lerp_mono (hn : 0 < n) (h : Located n breakpoint v i j t)
    (h' : Located n breakpoint v' i' j' t') (hle : v ≤ v') :
    lerp (y i) (y j) t ≤ lerp (y i') (y j') t' := by
  obtain ⟨⟨hi, hj⟩, ht⟩ := h.mem hn
  cases h' with
  | below h' =>
    rw [lerp_zero]
    exact h.lerp_le_of_le hbreakpoint hy hn (hle.trans h')
  | above h' =>
    have hlast {l : ℕ} (hl : l < n) : y l ≤ y (n - 1) :=
      hy hl (show n - 1 < n by omega) (by omega)
    have hmin {l : ℕ} (hl : l < n) : y 0 ≤ y l := hy hn hl (Nat.zero_le l)
    rw [lerp_zero]
    exact (lerp_mem ⟨hmin hi, hlast hi⟩ ⟨hmin hj, hlast hj⟩ ht).2
  | between i' hi' hlower' hupper' =>
    have hlt' : i' < n := by omega
    have hstep : y i' ≤ y (i' + 1) := hy hlt' hi' (Nat.le_succ i')
    have hmem' := ((between i' hi' hlower' hupper').mem hn).2
    by_cases hv : v ≤ breakpoint i'
    · exact (h.lerp_le_of_le hbreakpoint hy hlt' hv).trans
        (lerp_mem ⟨le_rfl, hstep⟩ ⟨hstep, le_rfl⟩ hmem').1
    -- both values lie between the same two breakpoints
    · rw [not_le] at hv
      cases h with
      | below h =>
        have hfirst := hbreakpoint.monotoneOn hn hlt' (Nat.zero_le i')
        exact absurd (hv.trans_le (h.trans hfirst)) (lt_irrefl _)
      | above h =>
        have hlast := hbreakpoint.monotoneOn hi' (show n - 1 < n by omega) (by omega)
        exact absurd (hupper'.trans_le (hlast.trans (h.trans hle))) (lt_irrefl _)
      | between i hi hlower hupper =>
        have hle' := (hbreakpoint.lt_iff_lt (show i < n by omega) hi').mp
          (hlower.trans_lt (hle.trans_lt hupper'))
        have hge := (hbreakpoint.lt_iff_lt hlt' hi).mp (hv.trans hupper)
        obtain rfl : i = i' := by omega
        refine lerp_le_lerp_right hstep (div_le_div_of_nonneg_right (sub_le_sub_right hle _) ?_)
        exact sub_nonneg.mpr (hlower.trans hupper.le)

omit hy in
/-- A curve through decreasing values is decreasing. -/
theorem lerp_anti (hy : AntitoneOn y (Set.Iio n)) (hn : 0 < n) (h : Located n breakpoint v i j t)
    (h' : Located n breakpoint v' i' j' t') (hle : v ≤ v') :
    lerp (y i') (y j') t' ≤ lerp (y i) (y j) t := by
  have hmono := h.lerp_mono hbreakpoint hy.neg hn h' hle
  simp only [lerp_neg] at hmono
  exact neg_le_neg_iff.mp hmono

end Sorted

end Located
