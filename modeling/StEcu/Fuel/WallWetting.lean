import StEcu.Foundation.Checked

/-!
# Wall wetting

Fuel that stays on the walls of the intake port and evaporates from there (`src/fuel.rs`). The pulse
width stands for the mass that is injected.
-/

namespace StEcu

/-- The fuel on the walls. -/
structure WallWettingState where
  filmMassMg : ℚ := 0
  deriving DecidableEq, Repr

namespace WallWettingState

/-- The film after a pulse, and the pulse width that makes up for it. -/
def update (state : WallWettingState) (basePwMs tauMs x dtMs : ℚ) :
    Option (WallWettingState × ℚ) := do
  let mInj := basePwMs
  let safeTau := max tauMs (1 / 4)
  let evap := (← checkedDiv state.filmMassMg safeTau) * dtMs
  let deposit := (1 - clampRat x 0 1) * mInj
  let cylinderFuel := clampRat x 0 1 * mInj + evap
  let filmMassMg := max (state.filmMassMg - evap + deposit) 0
  let denom := max (max cylinderFuel (basePwMs * (1 / 100))) (1 / 1000)
  if 1 / 1000 < basePwMs then
    let ratio ← checkedDiv (basePwMs * basePwMs) denom
    let corrected ← checkedClamp ratio (basePwMs * (1 / 2)) (basePwMs * 3)
    return ({ filmMassMg }, corrected)
  else return ({ filmMassMg }, basePwMs)

/-- Nothing is divided by zero, and the clamp is in order. -/
theorem exists_update (state : WallWettingState) (basePwMs tauMs x dtMs : ℚ) :
    ∃ next correctedPw, state.update basePwMs tauMs x dtMs = some (next, correctedPw) := by
  have htau : max tauMs (1 / 4) ≠ 0 := (lt_max_of_lt_right (by norm_num)).ne'
  have hdenom (y : ℚ) : max y (1 / 1000) ≠ 0 := (lt_max_of_lt_right (by norm_num)).ne'
  rw [update]
  simp only [checkedDiv_eq htau, Option.bind_eq_bind, Option.bind_some]
  split
  · next hbase =>
    rw [checkedDiv_eq (hdenom _), Option.bind_some, checkedClamp_eq (by linarith), Option.bind_some]
    exact ⟨_, _, rfl⟩
  · exact ⟨_, _, rfl⟩

end WallWettingState

/-- The time constant of the film: longer for a cold engine, and never below 0.25 ms. -/
def wallWettingTau (cltC baseTauMs : ℚ) : ℚ :=
  let factor :=
    if cltC < 20 then 1 + (20 - cltC) / 20 else max (1 - (cltC - 20) / 80) (5 / 10)
  max (baseTauMs * factor) (25 / 100)

end StEcu
