import Mathlib.Algebra.Order.Monoid.Unbundled.Basic
import Mathlib.Data.List.Induction
import Mathlib.Order.Lattice

/-!
# Bursts of timed attempts

A rate limiter that counts attempts, and after `bound` of them waits for a whole `window`, lets
attempts through in bursts. This file proves what the time stamps of the attempts then look like:
no half-open window of that length holds more than `bound` of them.

The time stamps are listed oldest first. The last burst, to which the next attempt may still belong,
is kept apart from the others.

## Main definitions

* `countWithin`: the number of time stamps in a half-open window.
* `Bursts`: attempts in bursts; no window holds more of them than a burst.

## Main results

* `Bursts.attempt`, `Bursts.restart`: what a limiter does keeps the attempts in bursts.
-/

section Window

variable {τ : Type*} [LinearOrder τ] [Add τ]

/-- The number of time stamps from `start` on and before `start + window`. -/
def countWithin (window start : τ) (times : List τ) : ℕ :=
  times.countP fun t => start ≤ t ∧ t < start + window

variable {window start : τ} {earlier later : List τ}

theorem countWithin_append (window start : τ) (earlier later : List τ) :
    countWithin window start (earlier ++ later) =
      countWithin window start earlier + countWithin window start later :=
  List.countP_append

theorem countWithin_le_length (window start : τ) (times : List τ) :
    countWithin window start times ≤ times.length :=
  List.countP_le_length

theorem countWithin_eq_zero_iff {times : List τ} :
    countWithin window start times = 0 ↔ ∀ t ∈ times, start ≤ t → start + window ≤ t := by
  simp only [countWithin, List.countP_eq_zero, decide_eq_true_eq, not_and, not_lt]

/-- A window meets at most one of two lists that are a whole window apart. -/
theorem countWithin_append_le [AddRightMono τ]
    (hgap : ∀ s ∈ earlier, ∀ t ∈ later, s + window ≤ t) (start : τ) :
    countWithin window start (earlier ++ later) ≤
      max (countWithin window start earlier) (countWithin window start later) := by
  rw [countWithin_append]
  by_cases hempty : countWithin window start earlier = 0
  · rw [hempty, Nat.zero_add]
    exact le_max_right _ _
  · -- a time stamp of the earlier list is in the window, so the later list begins behind it
    rw [countWithin_eq_zero_iff] at hempty
    push Not at hempty
    obtain ⟨s, hs, hstart, -⟩ := hempty
    have hlater : countWithin window start later = 0 := countWithin_eq_zero_iff.mpr fun t ht _ =>
      (add_le_add_left hstart window).trans (hgap s hs t ht)
    rw [hlater, Nat.add_zero]
    exact le_max_left _ _

end Window

/-- Attempts in bursts: `current` is the last burst, and `earlier` are all attempts before it, from
which every attempt of the last burst is a whole window away. -/
structure Bursts {τ : Type*} [LinearOrder τ] [Add τ] (window : τ) (bound : ℕ)
    (earlier current : List τ) : Prop where
  fits : current.length ≤ bound
  gap : ∀ s ∈ earlier, ∀ t ∈ current, s + window ≤ t
  within : ∀ start, countWithin window start (earlier ++ current) ≤ bound

namespace Bursts

variable {τ : Type*} [LinearOrder τ] [Add τ] {window : τ} {bound : ℕ} {earlier current : List τ}

theorem nil (window : τ) (bound : ℕ) : Bursts window bound [] [] where
  fits := Nat.zero_le _
  gap _ hs := nomatch hs
  within _ := Nat.zero_le _

/-- One more attempt in the last burst. -/
theorem attempt [AddRightMono τ] (h : Bursts window bound earlier current)
    (hroom : current.length < bound) {now : τ} (hgap : ∀ s ∈ earlier, s + window ≤ now) :
    Bursts window bound earlier (current ++ [now]) := by
  have hfits : (current ++ [now]).length ≤ bound := by
    rw [List.length_append]
    exact hroom
  have hgap' : ∀ s ∈ earlier, ∀ t ∈ current ++ [now], s + window ≤ t := by
    intro s hs t ht
    rcases List.mem_append.mp ht with ht | ht
    · exact h.gap s hs t ht
    · rw [List.mem_singleton.mp ht]
      exact hgap s hs
  refine ⟨hfits, hgap', fun start => (countWithin_append_le hgap' start).trans (max_le ?_ ?_)⟩
  · have hall := h.within start
    rw [countWithin_append] at hall
    exact (Nat.le_add_right _ _).trans hall
  · exact (countWithin_le_length _ _ _).trans hfits

/-- The last burst is over; the next attempt begins another. -/
theorem restart (h : Bursts window bound earlier current) :
    Bursts window bound (earlier ++ current) [] where
  fits := Nat.zero_le _
  gap _ _ t ht := nomatch ht
  within start := by
    rw [List.append_nil]
    exact h.within start

end Bursts
