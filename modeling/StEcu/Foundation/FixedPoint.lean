import Mathlib.Data.Rat.Floor
import Mathlib.Tactic.Linarith
import StEcu.Foundation.BigEndian

/-!
# Rationals as fixed-point integers

Clamping, rounding half away from zero and half to even, and the big-endian bytes of a rational that
is scaled, rounded and clamped to the range of an 8-bit or 16-bit integer.
-/

/-- The nearest value of an interval. -/
def clampRat (x lo hi : ℚ) : ℚ := max lo (min x hi)

theorem clampRat_mem {x lo hi : ℚ} (h : lo ≤ hi) : lo ≤ clampRat x lo hi ∧ clampRat x lo hi ≤ hi :=
  ⟨le_max_left _ _, max_le h (min_le_right _ _)⟩

/-- The nearest integer, and away from zero halfway between two. -/
def roundHalfAway (x : ℚ) : ℤ := if 0 ≤ x then ⌊x + 1 / 2⌋ else ⌈x - 1 / 2⌉

theorem roundHalfAway_mem {x : ℚ} {lo hi : ℤ} (hpos : 0 ≤ lo) (hlo : lo ≤ x) (hhi : x ≤ hi) :
    lo ≤ roundHalfAway x ∧ roundHalfAway x ≤ hi := by
  have hx : 0 ≤ x := le_trans (by exact_mod_cast hpos) hlo
  rw [roundHalfAway, if_pos hx]
  refine ⟨Int.le_floor.mpr (by linarith), Int.lt_add_one_iff.mp (Int.floor_lt.mpr ?_)⟩
  push_cast
  linarith

/-- The nearest integer, and the even one halfway between two. -/
def roundHalfEven (x : ℚ) : ℤ :=
  if x - ⌊x⌋ < 1 / 2 then ⌊x⌋
  else if 1 / 2 < x - ⌊x⌋ then ⌊x⌋ + 1
  else if ⌊x⌋ % 2 = 0 then ⌊x⌋ else ⌊x⌋ + 1

theorem le_roundHalfEven (x : ℚ) : ⌊x⌋ ≤ roundHalfEven x := by
  rw [roundHalfEven]
  split_ifs <;> omega

theorem roundHalfEven_le (x : ℚ) : roundHalfEven x ≤ ⌊x⌋ + 1 := by
  rw [roundHalfEven]
  split_ifs <;> omega

@[simp] theorem roundHalfAway_intCast (n : ℤ) : roundHalfAway n = n := by
  rw [roundHalfAway]
  split
  · exact Int.floor_eq_iff.mpr (by constructor <;> linarith)
  · exact Int.ceil_eq_iff.mpr (by constructor <;> linarith)

@[simp] theorem roundHalfEven_intCast (n : ℤ) : roundHalfEven n = n := by
  simp [roundHalfEven]

/-- A scaled value rounded and clamped to an integer interval. -/
def scaleRound (scale x : ℚ) (lo hi : ℤ) : ℤ := max lo (min (roundHalfAway (x * scale)) hi)

/-- Two's complement. -/
def i16ToBe (n : ℤ) : List UInt8 := u16ToBe (UInt16.ofNat (n % 65536).toNat)

/-- A value as an unsigned word, in units of its scale. -/
def scaledU16 (scale x : ℚ) : List UInt8 :=
  u16ToBe (UInt16.ofNat (scaleRound scale x 0 65535).toNat)

/-- A value as a signed word, in units of its scale. -/
def scaledI16 (scale x : ℚ) : List UInt8 := i16ToBe (scaleRound scale x (-32768) 32767)

/-- A value as an unsigned byte, in units of its scale. -/
def scaledU8 (scale x : ℚ) : List UInt8 := [UInt8.ofNat (scaleRound scale x 0 255).toNat]

/-- A value as a signed byte, in units of its scale. -/
def scaledI8 (scale x : ℚ) : List UInt8 :=
  [UInt8.ofNat (scaleRound scale x (-128) 127 % 256).toNat]

/-- The truncation of a rational to an unsigned 16-bit integer. -/
def ratToU16 (x : ℚ) : UInt16 := UInt16.ofNat (max 0 (min ⌊x⌋ 65535)).toNat

/-- The truncation of a rational to an unsigned 8-bit integer. -/
def ratToU8 (x : ℚ) : UInt8 := UInt8.ofNat (max 0 (min ⌊x⌋ 255)).toNat

theorem ratToU8_le {x : ℚ} {n : UInt8} (h : x ≤ n.toNat) : ratToU8 x ≤ n := by
  have hfloor : ⌊x⌋ ≤ n.toNat := Int.floor_le_iff.mpr (h.trans_lt (by push_cast; linarith))
  rw [UInt8.le_iff_toNat_le, ratToU8, UInt8.toNat_ofNat']
  omega

/-- The truncation of a rational to an unsigned integer of `w` bits. -/
def ratToUsize (w : ℕ) (x : ℚ) : ℕ := min ⌊x⌋.toNat (2 ^ w - 1)
