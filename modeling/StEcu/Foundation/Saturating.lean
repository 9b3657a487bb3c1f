import Mathlib.Order.Basic
import Mathlib.Tactic.SplitIfs

/-!
# Saturating arithmetic of fixed-width integers

`saturatingAdd` and `saturatingMul` stay at the largest value of the width where the result does not
fit; `saturatingSub` stays at zero. The lemmas give the values as natural numbers.

The readings of a counter that runs around are compared at the end: a saturating difference of two
of them is the time that passed if the counter did not run around in between, and zero if it did.
-/

namespace UInt8

/-- The sum, cut off at the largest byte. -/
def saturatingAdd (a b : UInt8) : UInt8 := UInt8.ofNat (min (a.toNat + b.toNat) 0xFF)

theorem toNat_saturatingAdd (a b : UInt8) :
    (a.saturatingAdd b).toNat = min (a.toNat + b.toNat) 0xFF := by
  rw [saturatingAdd, UInt8.toNat_ofNat']
  omega

/-- The difference, cut off at zero. -/
def saturatingSub (a b : UInt8) : UInt8 := UInt8.ofNat (a.toNat - b.toNat)

theorem toNat_saturatingSub (a b : UInt8) : (a.saturatingSub b).toNat = a.toNat - b.toNat := by
  rw [saturatingSub, UInt8.toNat_ofNat']
  have := a.toNat_lt
  omega

end UInt8

namespace UInt16

/-- The sum, cut off at the largest word. -/
def saturatingAdd (a b : UInt16) : UInt16 := UInt16.ofNat (min (a.toNat + b.toNat) 0xFFFF)

theorem toNat_saturatingAdd (a b : UInt16) :
    (a.saturatingAdd b).toNat = min (a.toNat + b.toNat) 0xFFFF := by
  rw [saturatingAdd, UInt16.toNat_ofNat']
  omega

/-- The product, cut off at the largest word. -/
def saturatingMul (a b : UInt16) : UInt16 := UInt16.ofNat (min (a.toNat * b.toNat) 0xFFFF)

/-- The difference, cut off at zero. -/
def saturatingSub (a b : UInt16) : UInt16 := if a < b then 0 else a - b

theorem toNat_saturatingSub (a b : UInt16) : (a.saturatingSub b).toNat = a.toNat - b.toNat := by
  rw [saturatingSub]
  split_ifs with h
  · have hlt := UInt16.lt_iff_toNat_lt.mp h
    rw [UInt16.toNat_zero]
    omega
  · exact UInt16.toNat_sub_of_le _ _ (UInt16.not_lt.mp h)

end UInt16

namespace UInt32

/-- The sum, cut off at the largest word. -/
def saturatingAdd (a b : UInt32) : UInt32 := UInt32.ofNat (min (a.toNat + b.toNat) 0xFFFFFFFF)

theorem toNat_saturatingAdd (a b : UInt32) :
    (a.saturatingAdd b).toNat = min (a.toNat + b.toNat) 0xFFFFFFFF := by
  rw [saturatingAdd, UInt32.toNat_ofNat']
  omega

/-- The difference, cut off at zero. -/
def saturatingSub (a b : UInt32) : UInt32 := if a < b then 0 else a - b

theorem toNat_saturatingSub (a b : UInt32) : (a.saturatingSub b).toNat = a.toNat - b.toNat := by
  rw [saturatingSub]
  split_ifs with h
  · have hlt := UInt32.lt_iff_toNat_lt.mp h
    rw [UInt32.toNat_zero]
    omega
  · exact UInt32.toNat_sub_of_le _ _ (UInt32.not_lt.mp h)

/-- The product, cut off at the largest word. -/
def saturatingMul (a b : UInt32) : UInt32 := UInt32.ofNat (min (a.toNat * b.toNat) 0xFFFFFFFF)

theorem toNat_saturatingMul (a b : UInt32) :
    (a.saturatingMul b).toNat = min (a.toNat * b.toNat) 0xFFFFFFFF := by
  rw [saturatingMul, UInt32.toNat_ofNat']
  omega

end UInt32

namespace UInt64

/-- The sum, cut off at the largest word. -/
def saturatingAdd (a b : UInt64) : UInt64 :=
  UInt64.ofNat (min (a.toNat + b.toNat) 0xFFFFFFFFFFFFFFFF)

theorem toNat_saturatingAdd (a b : UInt64) :
    (a.saturatingAdd b).toNat = min (a.toNat + b.toNat) 0xFFFFFFFFFFFFFFFF := by
  rw [saturatingAdd, UInt64.toNat_ofNat']
  omega

end UInt64

/-! ### Readings of a counter that runs around -/

section Laps

variable {period earlier later : ℕ}

theorem Nat.mod_sub_mod_of_div_eq (hlap : later / period = earlier / period) :
    later % period - earlier % period = later - earlier := by
  have hlater := Nat.div_add_mod later period
  have hearlier := Nat.div_add_mod earlier period
  rw [hlap] at hlater
  omega

/-- Less than a whole round apart, and not in the same round. -/
theorem Nat.mod_lt_mod_of_div_ne (hle : earlier ≤ later) (hnear : later - earlier < period)
    (hlap : later / period ≠ earlier / period) : later % period < earlier % period := by
  have hlater := Nat.div_add_mod later period
  have hearlier := Nat.div_add_mod earlier period
  have hgrow : earlier / period ≤ later / period := Nat.div_le_div_right hle
  have hnext : later / period ≤ earlier / period + 1 := by
    have hpos : 0 < period := by omega
    rw [← Nat.add_div_right _ hpos]
    exact Nat.div_le_div_right (by omega)
  rw [show later / period = earlier / period + 1 by omega, Nat.mul_add] at hlater
  omega

end Laps
