import Mathlib.Data.Int.Log
import Mathlib.Tactic.Linarith
import StEcu.Foundation.FixedPoint

/-!
# 32-bit floats

The floats of 32 bits with their rounding: a result is the float nearest to the exact rational, with
ties to the even significand, and an infinity where that is too large. A NaN has no payload.

## Main definitions

* `Binary32`, `Binary32.Representable`: the floats, and the magnitudes of the finite ones.
* `Binary32.roundMagnitude`, `Binary32.ofRat`: rounding.
* `Binary32.sub`, `Binary32.mul`, `Binary32.div`, `Binary32.round`, `Binary32.max`,
  `Binary32.castTo`, `Binary32.toBits`.

## Main results

* `Binary32.representable_roundMagnitude`, `Binary32.roundMagnitude_of_representable`: rounding
  reaches the magnitudes of floats, and fixes them.
* `Binary32.one_le_castTo_max_one`.
-/

/-- The magnitudes of the finite floats. -/
def Binary32.Representable (x : ℚ) : Prop :=
  ∃ (m : ℕ) (e : ℤ), m < 2 ^ 24 ∧ -149 ≤ e ∧ e ≤ 104 ∧ x = m * 2 ^ e

/-- The values of the format: numbers with their sign, so that there are two zeros, and the two
kinds of values that are no numbers. -/
inductive Binary32
  | finite (negative : Bool) (magnitude : ℚ) (representable : Binary32.Representable magnitude)
  | infinity (negative : Bool)
  | nan
  deriving DecidableEq

namespace Binary32

/-! ### Rounding -/

/-- The exponent of the last bit of the significand. -/
def lastPlace (x : ℚ) : ℤ := max (Int.log 2 x - 23) (-149)

/-- A magnitude rounded to the nearest one with enough places, ties to the even one. -/
def roundMagnitude (x : ℚ) : ℚ := roundHalfEven (x / 2 ^ lastPlace x) * 2 ^ lastPlace x

theorem le_lastPlace (x : ℚ) : -149 ≤ lastPlace x := le_max_right _ _

theorem two_zpow_pos (e : ℤ) : (0 : ℚ) < 2 ^ e := zpow_pos (by norm_num) e

/-- A significand has at most 24 bits. -/
theorem div_lastPlace_lt {x : ℚ} : x / 2 ^ lastPlace x < 2 ^ 24 := by
  rw [div_lt_iff₀ (two_zpow_pos _)]
  calc x < 2 ^ (Int.log 2 x + 1) := Int.lt_zpow_succ_log_self (by decide) x
    _ ≤ 2 ^ (24 + lastPlace x) := by
      refine zpow_le_zpow_right₀ (by norm_num) ?_
      have : Int.log 2 x - 23 ≤ lastPlace x := le_max_left _ _
      omega
    _ = 2 ^ 24 * 2 ^ lastPlace x := by
      rw [zpow_add₀ (by norm_num)]
      norm_num

/-- Above the smallest exponent the significand has all its 24 bits. -/
theorem le_div_lastPlace {x : ℚ} (hx : 0 < x) (h : -149 < lastPlace x) :
    2 ^ 23 ≤ x / 2 ^ lastPlace x := by
  have hlast : lastPlace x = Int.log 2 x - 23 := by
    rw [lastPlace] at h ⊢
    omega
  rw [le_div_iff₀ (two_zpow_pos _)]
  calc (2 : ℚ) ^ 23 * 2 ^ lastPlace x = 2 ^ Int.log 2 x := by
        rw [hlast, ← zpow_natCast, ← zpow_add₀ (by norm_num)]
        congr 1
        omega
    _ ≤ x := Int.zpow_log_le_self (by decide) hx

theorem Representable.nonneg {x : ℚ} (hx : Representable x) : 0 ≤ x := by
  obtain ⟨m, e, -, -, -, rfl⟩ := hx
  exact mul_nonneg m.cast_nonneg (two_zpow_pos e).le

theorem Representable.lt {x : ℚ} (hx : Representable x) : x < 2 ^ 128 := by
  obtain ⟨m, e, hm, -, he, rfl⟩ := hx
  calc (m : ℚ) * 2 ^ e < 2 ^ 24 * 2 ^ e := mul_lt_mul_of_pos_right (mod_cast hm) (two_zpow_pos e)
    _ ≤ 2 ^ 24 * 2 ^ (104 : ℤ) := by
      gcongr
      norm_num
    _ = 2 ^ 128 := by norm_num

/-- Rounding reaches the magnitude of a float, unless that overflows. -/
theorem representable_roundMagnitude {x : ℚ} (hx : 0 ≤ x) (hlt : roundMagnitude x < 2 ^ 128) :
    Representable (roundMagnitude x) := by
  obtain ⟨n, hn⟩ := Int.eq_ofNat_of_zero_le <|
    (Int.floor_nonneg.mpr (div_nonneg hx (two_zpow_pos _).le)).trans
      (le_roundHalfEven (x / 2 ^ lastPlace x))
  have hround : roundMagnitude x = n * 2 ^ lastPlace x := by
    rw [roundMagnitude, hn, Int.cast_natCast]
  have hfloor : ⌊x / 2 ^ lastPlace x⌋ < 2 ^ 24 := Int.floor_lt.mpr (mod_cast div_lastPlace_lt)
  have hle : n ≤ 2 ^ 24 := by
    have := roundHalfEven_le (x / 2 ^ lastPlace x)
    omega
  -- an exponent above the largest one overflows
  have hexp : ∀ {m : ℕ} {e : ℤ}, 2 ^ 23 ≤ m → roundMagnitude x = m * 2 ^ e → e ≤ 104 := by
    intro m e hm heq
    by_contra! h
    refine absurd hlt (not_lt.mpr ?_)
    calc (2 : ℚ) ^ 128 = (2 ^ 23 : ℕ) * 2 ^ (105 : ℤ) := by norm_num
      _ ≤ m * 2 ^ e := by
        gcongr
        · norm_num
        · omega
      _ = roundMagnitude x := heq.symm
  rcases Nat.lt_or_ge n (2 ^ 24) with hlt24 | hge
  · refine ⟨n, lastPlace x, hlt24, le_lastPlace x, ?_, hround⟩
    rcases hx.eq_or_lt with rfl | hpos
    · simp [lastPlace]
    by_cases hlast : -149 < lastPlace x
    · refine hexp ?_ hround
      have hsignificand : 2 ^ 23 ≤ ⌊x / 2 ^ lastPlace x⌋ :=
        Int.le_floor.mpr (mod_cast le_div_lastPlace hpos hlast)
      have := le_roundHalfEven (x / 2 ^ lastPlace x)
      omega
    · omega
  · have hn24 : n = 2 ^ 24 := le_antisymm hle hge
    have hcarry : roundMagnitude x = (2 ^ 23 : ℕ) * 2 ^ (lastPlace x + 1) := by
      rw [hround, hn24, zpow_add₀ (by norm_num)]
      push_cast
      ring
    exact ⟨2 ^ 23, lastPlace x + 1, by norm_num, by linarith [le_lastPlace x],
      hexp le_rfl hcarry, hcarry⟩

/-- Rounding fixes the magnitudes of floats. -/
theorem roundMagnitude_of_representable {x : ℚ} (hx : Representable x) : roundMagnitude x = x := by
  obtain ⟨m, e, hm, hlo, -, rfl⟩ := hx
  rcases Nat.eq_zero_or_pos m with rfl | hpos
  · simp [roundMagnitude, roundHalfEven]
  have hx : (0 : ℚ) < m * 2 ^ e := mul_pos (mod_cast hpos) (two_zpow_pos e)
  have hlog : Int.log 2 ((m : ℚ) * 2 ^ e) < 24 + e := by
    refine (Int.lt_zpow_iff_log_lt (by decide) hx).mp ?_
    rw [zpow_add₀ (by norm_num)]
    exact mul_lt_mul_of_pos_right (mod_cast hm) (two_zpow_pos e)
  have hlast : lastPlace (m * 2 ^ e) ≤ e := max_le (by omega) hlo
  obtain ⟨k, hk⟩ := Int.eq_ofNat_of_zero_le (sub_nonneg.mpr hlast)
  have hint : (m : ℚ) * 2 ^ e / 2 ^ lastPlace (m * 2 ^ e) = ((m * 2 ^ k : ℕ) : ℤ) := by
    rw [mul_div_assoc, ← zpow_sub₀ (by norm_num), hk]
    push_cast
    rw [zpow_natCast]
  rw [roundMagnitude, hint, roundHalfEven_intCast, ← hint, div_mul_cancel₀ _ (two_zpow_pos _).ne']

/-- The nearest float to the magnitude of a rational, with a sign of its own. -/
def withSign (negative : Bool) (x : ℚ) : Binary32 :=
  if h : roundMagnitude |x| < 2 ^ 128 then
    finite negative (roundMagnitude |x|) (representable_roundMagnitude (abs_nonneg x) h)
  else infinity negative

/-- The nearest float; zero is positive. -/
def ofRat (x : ℚ) : Binary32 := withSign (decide (x < 0)) x

instance (n : ℕ) : OfNat Binary32 n := ⟨ofRat n⟩

/-- A magnitude that is that of a float is not rounded. -/
theorem ofRat_of_representable {x : ℚ} (hx : Representable x) : ofRat x = finite false x hx := by
  have hround : roundMagnitude |x| = x := by
    rw [abs_of_nonneg hx.nonneg, roundMagnitude_of_representable hx]
  rw [ofRat, withSign, dif_pos (hround.symm ▸ hx.lt), decide_eq_false (not_lt.mpr hx.nonneg)]
  simp only [hround]

/-! ### Arithmetic -/

/-- The value of a finite float. -/
def signed (negative : Bool) (magnitude : ℚ) : ℚ := if negative then -magnitude else magnitude

/-- The difference, as the sum with the opposite sign. -/
def sub : Binary32 → Binary32 → Binary32
  | nan, _ | _, nan => nan
  | infinity s, infinity t => if s = t then nan else infinity s
  | infinity s, finite .. => infinity s
  | finite .., infinity t => infinity !t
  | finite s x _, finite t y _ =>
    let difference := signed s x - signed t y
    -- only minus zero less zero is minus zero
    if difference = 0 then withSign (s && !t) 0 else ofRat difference

/-- The product. -/
def mul : Binary32 → Binary32 → Binary32
  | nan, _ | _, nan => nan
  | infinity s, infinity t => infinity (s ^^ t)
  | infinity s, finite t x _ | finite t x _, infinity s => if x = 0 then nan else infinity (s ^^ t)
  | finite s x _, finite t y _ => withSign (s ^^ t) (x * y)

/-- The quotient. -/
def div : Binary32 → Binary32 → Binary32
  | nan, _ | _, nan => nan
  | infinity _, infinity _ => nan
  | infinity s, finite t _ _ => infinity (s ^^ t)
  | finite s _ _, infinity t => withSign (s ^^ t) 0
  | finite s x _, finite t y _ =>
    if y ≠ 0 then withSign (s ^^ t) (x / y) else if x = 0 then nan else infinity (s ^^ t)

instance : Sub Binary32 := ⟨sub⟩

instance : Mul Binary32 := ⟨mul⟩

instance : Div Binary32 := ⟨div⟩

/-- The nearest integral float, and away from zero halfway between two. -/
def round : Binary32 → Binary32
  | finite s x _ => withSign s (roundHalfAway x)
  | x => x

/-- The larger one of two floats, and the other one of a NaN. -/
def max : Binary32 → Binary32 → Binary32
  | nan, y => y
  | x, nan => x
  | infinity true, y => y
  | x, infinity true => x
  | infinity false, _ | _, infinity false => infinity false
  | finite s x hx, finite t y hy => if signed s x < signed t y then finite t y hy else finite s x hx

/-- The truncation to an unsigned integer, which stays at the ends of its range. -/
def castTo (limit : ℕ) : Binary32 → ℕ
  | nan | infinity true => 0
  | infinity false => limit
  | finite s x _ => min ⌊signed s x⌋₊ limit

/-- The bit pattern; that of the quiet NaN for a NaN. -/
def toBits : Binary32 → UInt32
  | nan => 0x7FC00000
  | infinity negative => if negative then 0xFF800000 else 0x7F800000
  | finite negative x _ =>
    let sign := if negative then 2 ^ 31 else 0
    -- the exponent field counts the last places from the smallest one, and the leading bit of a
    -- significand of 24 bits carries into it
    if x = 0 then UInt32.ofNat sign
    else
      let significand := ⌊x / 2 ^ lastPlace x⌋₊
      UInt32.ofNat (sign + (lastPlace x + 149).toNat * 2 ^ 23 + significand)

example : toBits 1 = 0x3F800000 := by decide +kernel

example : toBits (ofRat (29 / 20)) = 0x3FB9999A := by decide +kernel

example : toBits (1 / 3) = 0x3EAAAAAB := by decide +kernel

/-- The smallest float of a 24-bit significand, and the largest one of fewer bits. -/
example : (ofRat (2 ^ (-126 : ℤ))).toBits = 0x00800000 ∧
    (ofRat (2 ^ (-126 : ℤ) - 2 ^ (-149 : ℤ))).toBits = 0x007FFFFF := by decide +kernel

/-! ### Truncation of a float that is at least one -/

theorem representable_one : Representable 1 := ⟨1, 0, by norm_num⟩

theorem one_eq : (1 : Binary32) = finite false 1 representable_one := by
  rw [← ofRat_of_representable representable_one]
  exact congrArg ofRat Nat.cast_one

theorem castTo_le (x : Binary32) (limit : ℕ) : x.castTo limit ≤ limit := by
  cases x with
  | nan => exact Nat.zero_le limit
  | infinity negative => cases negative <;> simp [castTo]
  | finite negative x hx => exact min_le_right _ _

theorem one_le_castTo_max_one (x : Binary32) {limit : ℕ} (hlimit : 1 ≤ limit) :
    1 ≤ (x.max 1).castTo limit := by
  have hone : 1 ≤ (finite false 1 representable_one).castTo limit := by
    simpa [castTo, signed] using hlimit
  rw [one_eq]
  cases x with
  | nan => exact hone
  | infinity negative =>
    cases negative
    · exact hlimit
    · exact hone
  | finite negative x hx =>
    rw [max]
    split_ifs with h
    · exact hone
    · refine le_min (Nat.le_floor ?_) hlimit
      simpa [signed] using h

end Binary32
