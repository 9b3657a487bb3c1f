import Mathlib.Data.Rat.Floor
import Mathlib.Tactic.Linarith

/-!
# Floats without rounding

The values that a 32-bit float can stand for, with exact arithmetic on the finite ones. The
infinities and the NaN are as in floating point: the larger and the smaller of two values are taken
without regard to a NaN. A zero has no sign.

## Main definitions

* `ExactFloat`, with its arithmetic, its order, `max`, `min` and `clamp`.
* `ExactFloat.ofBits`: the value of a 32-bit word.
* `ExactFloat.Within`: a finite value between two bounds.

## Main results

* `ExactFloat.within_clamp`: any value is brought between bounds, a NaN among them.
* `ExactFloat.finite_of_add`, `ExactFloat.finite_of_mul`: a finite result comes from finite values.
-/

/-- Numbers without rounding, with infinities and a value that is no number. -/
inductive ExactFloat
  | finite (x : ℚ)
  | infinity (negative : Bool)
  | nan
  deriving DecidableEq, Repr

namespace ExactFloat

instance : RatCast ExactFloat := ⟨finite⟩

/-- Addition: infinities of two signs make a NaN. -/
def add : ExactFloat → ExactFloat → ExactFloat
  | finite x, finite y => finite (x + y)
  | nan, _ => nan
  | _, nan => nan
  | infinity s, infinity t => if s = t then infinity s else nan
  | infinity s, finite _ => infinity s
  | finite _, infinity t => infinity t

/-- An infinity times a rational: zero makes a NaN. -/
def scaleInfinity (negative : Bool) (x : ℚ) : ExactFloat :=
  if x = 0 then nan else infinity (negative != decide (x < 0))

/-- The product. -/
def mul : ExactFloat → ExactFloat → ExactFloat
  | finite x, finite y => finite (x * y)
  | nan, _ => nan
  | _, nan => nan
  | infinity s, infinity t => infinity (s != t)
  | infinity s, finite y => scaleInfinity s y
  | finite x, infinity t => scaleInfinity t x

/-- The opposite. -/
def neg : ExactFloat → ExactFloat
  | finite x => finite (-x)
  | infinity s => infinity !s
  | nan => nan

/-- Division: by zero it makes an infinity, of zero by zero a NaN. -/
def div : ExactFloat → ExactFloat → ExactFloat
  | finite x, finite y =>
    if y = 0 then if x = 0 then nan else infinity (decide (x < 0)) else finite (x / y)
  | nan, _ => nan
  | _, nan => nan
  | infinity _, infinity _ => nan
  | infinity s, finite y => infinity (s != decide (y < 0))
  | finite _, infinity _ => finite 0

/-- The order: a NaN is not less than anything. -/
def less : ExactFloat → ExactFloat → Bool
  | finite x, finite y => decide (x < y)
  | nan, _ => false
  | _, nan => false
  | infinity s, infinity t => s && !t
  | infinity s, finite _ => s
  | finite _, infinity t => !t

/-- The larger of two values; a NaN is passed over. -/
def maximum : ExactFloat → ExactFloat → ExactFloat
  | nan, y => y
  | x, nan => x
  | finite x, finite y => finite (max x y)
  | infinity false, _ => infinity false
  | _, infinity false => infinity false
  | infinity true, y => y
  | x, infinity true => x

/-- The smaller of two values; a NaN is passed over. -/
def minimum : ExactFloat → ExactFloat → ExactFloat
  | nan, y => y
  | x, nan => x
  | finite x, finite y => finite (min x y)
  | infinity true, _ => infinity true
  | _, infinity true => infinity true
  | infinity false, y => y
  | x, infinity false => x

instance : NatCast ExactFloat := ⟨fun n => finite n⟩
instance : Zero ExactFloat := ⟨finite 0⟩
instance : One ExactFloat := ⟨finite 1⟩
instance : Add ExactFloat := ⟨add⟩
instance : Mul ExactFloat := ⟨mul⟩
instance : Sub ExactFloat := ⟨fun v w => add v (neg w)⟩
instance : Div ExactFloat := ⟨div⟩
instance : Max ExactFloat := ⟨maximum⟩
instance : Min ExactFloat := ⟨minimum⟩
instance : LT ExactFloat := ⟨fun v w => less v w = true⟩
instance : LE ExactFloat := ⟨fun v w => v < w ∨ v = w ∧ v ≠ nan⟩
instance : DecidableLT ExactFloat := fun v w => inferInstanceAs (Decidable (less v w = true))
instance : DecidableLE ExactFloat := fun v w =>
  inferInstanceAs (Decidable (v < w ∨ v = w ∧ v ≠ nan))

/-- A value, brought between bounds that are in order; a NaN is kept. -/
def clamp (v lo hi : ExactFloat) : ExactFloat := if v < lo then lo else if hi < v then hi else v

/-- The sum of values, from the first to the last. -/
def total (vs : List ExactFloat) : ExactFloat := vs.foldl (· + ·) 0

/-- The value of a word: a sign, eight bits of exponent and a fraction of 23 bits. -/
def ofBits (word : UInt32) : ExactFloat :=
  let negative := word.toNat.testBit 31
  let exponent : ℕ := word.toNat / 2 ^ 23 % 256
  let fraction : ℕ := word.toNat % 2 ^ 23
  let sign : ℚ := if negative then -1 else 1
  if exponent = 255 then if fraction = 0 then infinity negative else nan
  else if exponent = 0 then finite (sign * fraction * 2 ^ (-149 : ℤ))
  else finite (sign * (2 ^ 23 + fraction) * 2 ^ ((exponent : ℤ) - 150))

/-- A finite value between two bounds. -/
def Within (lo hi : ℚ) (v : ExactFloat) : Prop := ∃ x, v = finite x ∧ lo ≤ x ∧ x ≤ hi

variable {lo hi : ℚ}

@[simp] theorem finite_add (x y : ℚ) : finite x + finite y = finite (x + y) := rfl
@[simp] theorem finite_mul (x y : ℚ) : finite x * finite y = finite (x * y) := rfl
theorem ratCast_eq (x : ℚ) : (x : ExactFloat) = finite x := rfl

/-- A finite sum has finite summands. -/
theorem finite_of_add {v w : ExactFloat} {z : ℚ} (h : v + w = finite z) :
    ∃ x y, v = finite x ∧ w = finite y := by
  change add v w = finite z at h
  cases v with
  | finite x =>
    cases w with
    | finite y => exact ⟨x, y, rfl, rfl⟩
    | infinity t => cases h
    | nan => cases h
  | infinity s =>
    cases w with
    | finite y => cases h
    | infinity t =>
      rw [add] at h
      split at h <;> cases h
    | nan => cases h
  | nan => cases w <;> cases h

/-- A finite multiple comes from a finite value. -/
theorem finite_of_mul {v : ExactFloat} {y z : ℚ} (h : v * (y : ExactFloat) = finite z) :
    ∃ x, v = finite x := by
  change mul v (finite y) = finite z at h
  cases v with
  | finite x => exact ⟨x, rfl⟩
  | infinity s =>
    rw [mul, scaleInfinity] at h
    split at h <;> cases h
  | nan => cases h

/-- **Any value is brought between bounds.** -/
theorem within_clamp (h : lo ≤ hi) (v : ExactFloat) :
    Within lo hi (min (max v (lo : ExactFloat)) (hi : ExactFloat)) := by
  change Within lo hi (minimum (maximum v (finite lo)) (finite hi))
  cases v with
  | finite x => exact ⟨min (max x lo) hi, rfl, le_min (le_max_right _ _) h, min_le_right _ _⟩
  | infinity s =>
    cases s with
    | false => exact ⟨hi, rfl, h, le_rfl⟩
    | true => exact ⟨min lo hi, rfl, le_min le_rfl h, min_le_right _ _⟩
  | nan => exact ⟨min lo hi, rfl, le_min le_rfl h, min_le_right _ _⟩

end ExactFloat
