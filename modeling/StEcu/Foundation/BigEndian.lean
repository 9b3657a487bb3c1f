import Mathlib.Algebra.Group.Nat.Defs
import Mathlib.Data.List.Induction

/-!
# Big-endian bytes and slices

Fixed-width unsigned integers as big-endian byte strings, and the slices `xs[i..j]` by which a
parser reads them back. The widths used are 16, 32 and 64 bits; all three are instances of
`beBytes` and `ofBe`.

## Main definitions

* `beBytes`, `ofBe`: natural numbers as big-endian bytes and back.
* `u16ToBe`, `u32ToBe`, `u64ToBe` and `u16OfBe`, `u32OfBe`, `u64OfBe`.
* `slice`: the elements of a list from one position up to another.

## Main results

* `ofBe_beBytes`: bytes are read back, as far as they hold the number.
* `beBytes_ofBe`: a number is written as the bytes that it was read from.
* `take_append_slice`: consecutive slices make up the list.
-/

/-- The `k` low bytes of `n`, most significant first. -/
def beBytes : ℕ → ℕ → List UInt8
  | 0, _ => []
  | k + 1, n => beBytes k (n / 256) ++ [UInt8.ofNat n]

/-- The number whose big-endian bytes are `bs`. -/
def ofBe (bs : List UInt8) : ℕ := bs.foldl (fun n b => n * 256 + b.toNat) 0

@[simp] theorem length_beBytes (k n : ℕ) : (beBytes k n).length = k := by
  induction k generalizing n with
  | zero => rfl
  | succ k ih => simp [beBytes, ih]

@[simp] theorem ofBe_append_singleton (bs : List UInt8) (b : UInt8) :
    ofBe (bs ++ [b]) = ofBe bs * 256 + b.toNat := by
  simp [ofBe]

theorem ofBe_beBytes (k n : ℕ) : ofBe (beBytes k n) = n % 256 ^ k := by
  induction k generalizing n with
  | zero => simp [beBytes, ofBe, Nat.mod_one]
  | succ k ih =>
    have hpow : 256 ^ (k + 1) = 256 * 256 ^ k := Nat.pow_succ'
    rw [beBytes, ofBe_append_singleton, ih, UInt8.toNat_ofNat', hpow, Nat.mod_mul]
    omega

theorem ofBe_lt (bs : List UInt8) : ofBe bs < 256 ^ bs.length := by
  induction bs using List.reverseRecOn with
  | nil => decide
  | append_singleton bs b ih =>
    have hb := b.toNat_lt
    rw [ofBe_append_singleton, List.length_append, List.length_singleton, Nat.pow_succ]
    omega

theorem beBytes_ofBe (bs : List UInt8) : beBytes bs.length (ofBe bs) = bs := by
  induction bs using List.reverseRecOn with
  | nil => rfl
  | append_singleton bs b ih =>
    have hb := b.toNat_lt
    have hhead : (ofBe bs * 256 + b.toNat) / 256 = ofBe bs := by omega
    have hlast : UInt8.ofNat (ofBe bs * 256 + b.toNat) = b := by
      apply UInt8.toNat.inj
      rw [UInt8.toNat_ofNat']
      omega
    rw [ofBe_append_singleton, List.length_append, List.length_singleton, beBytes, hhead, ih, hlast]

/-! ### The three widths -/

/-- The two bytes of a word, the high one first. -/
def u16ToBe (n : UInt16) : List UInt8 := beBytes 2 n.toNat

/-- The four bytes of a word, the highest first. -/
def u32ToBe (n : UInt32) : List UInt8 := beBytes 4 n.toNat

/-- The eight bytes of a word, the highest first. -/
def u64ToBe (n : UInt64) : List UInt8 := beBytes 8 n.toNat

/-- The word of two bytes. -/
def u16OfBe (bs : List UInt8) : UInt16 := UInt16.ofNat (ofBe bs)

/-- The word of four bytes. -/
def u32OfBe (bs : List UInt8) : UInt32 := UInt32.ofNat (ofBe bs)

/-- The word of eight bytes. -/
def u64OfBe (bs : List UInt8) : UInt64 := UInt64.ofNat (ofBe bs)

@[simp] theorem length_u16ToBe (n : UInt16) : (u16ToBe n).length = 2 := length_beBytes ..
@[simp] theorem length_u32ToBe (n : UInt32) : (u32ToBe n).length = 4 := length_beBytes ..
@[simp] theorem length_u64ToBe (n : UInt64) : (u64ToBe n).length = 8 := length_beBytes ..

@[simp] theorem u16OfBe_u16ToBe (n : UInt16) : u16OfBe (u16ToBe n) = n := by
  apply UInt16.toNat.inj
  rw [u16OfBe, u16ToBe, ofBe_beBytes, UInt16.toNat_ofNat']
  have := n.toNat_lt
  omega

@[simp] theorem u32OfBe_u32ToBe (n : UInt32) : u32OfBe (u32ToBe n) = n := by
  apply UInt32.toNat.inj
  rw [u32OfBe, u32ToBe, ofBe_beBytes, UInt32.toNat_ofNat']
  have := n.toNat_lt
  omega

@[simp] theorem u64OfBe_u64ToBe (n : UInt64) : u64OfBe (u64ToBe n) = n := by
  apply UInt64.toNat.inj
  rw [u64OfBe, u64ToBe, ofBe_beBytes, UInt64.toNat_ofNat']
  have := n.toNat_lt
  omega

theorem u16ToBe_u16OfBe {bs : List UInt8} (h : bs.length = 2) : u16ToBe (u16OfBe bs) = bs := by
  have hlt : ofBe bs < 2 ^ 16 := by
    have hle := ofBe_lt bs
    rwa [h] at hle
  rw [u16ToBe, u16OfBe, UInt16.toNat_ofNat', Nat.mod_eq_of_lt hlt, ← h, beBytes_ofBe]

theorem u32ToBe_u32OfBe {bs : List UInt8} (h : bs.length = 4) : u32ToBe (u32OfBe bs) = bs := by
  have hlt : ofBe bs < 2 ^ 32 := by
    have hle := ofBe_lt bs
    rwa [h] at hle
  rw [u32ToBe, u32OfBe, UInt32.toNat_ofNat', Nat.mod_eq_of_lt hlt, ← h, beBytes_ofBe]

/-! ### Bytes by shifts -/

theorem and_byte (n : ℕ) : n &&& 0xFF = n % 256 := Nat.and_two_pow_sub_one_eq_mod n 8

theorem toNat_high_byte (n : UInt16) : ((n >>> 8) &&& 0xFF).toUInt8.toNat = n.toNat / 256 := by
  have hn := n.toNat_lt
  simp only [UInt16.toNat_toUInt8, UInt16.toNat_and, UInt16.toNat_shiftRight, UInt16.reduceToNat,
    and_byte, Nat.shiftRight_eq_div_pow, Nat.reduceMod]
  omega

theorem toNat_low_byte (n : UInt16) : (n &&& 0xFF).toUInt8.toNat = n.toNat % 256 := by
  simp [and_byte]

/-- Two bytes joined to a number. -/
theorem shiftLeft_or_byte (a b : UInt8) :
    (a.toNat <<< 8) ||| b.toNat = a.toNat * 256 + b.toNat := by
  rw [← Nat.shiftLeft_add_eq_or_of_lt b.toNat_lt, Nat.shiftLeft_eq]

theorem toNat_shiftLeft_or_byte (a b : UInt8) :
    ((a.toUInt16 <<< 8) ||| b.toUInt16).toNat = a.toNat * 256 + b.toNat := by
  have ha := a.toNat_lt
  have hshift : (a.toUInt16 <<< 8).toNat = a.toNat <<< 8 := by
    simp only [UInt16.toNat_shiftLeft, UInt8.toNat_toUInt16, UInt16.reduceToNat, Nat.shiftLeft_eq,
      Nat.reduceMod]
    omega
  rw [UInt16.toNat_or, hshift, UInt8.toNat_toUInt16, shiftLeft_or_byte]

/-! ### Slices -/

variable {α : Type*}

/-- The elements of `xs` at the positions `i`, …, `j - 1`. -/
def slice (xs : List α) (i j : ℕ) : List α := (xs.take j).drop i

theorem length_slice {xs : List α} {i j : ℕ} (h : j ≤ xs.length) :
    (slice xs i j).length = j - i := by
  rw [slice, List.length_drop, List.length_take, Nat.min_eq_left h]

theorem take_append_slice (xs : List α) {i j : ℕ} (h : i ≤ j) :
    xs.take i ++ slice xs i j = xs.take j := by
  have htake : xs.take i = (xs.take j).take i := by rw [List.take_take, Nat.min_eq_left h]
  rw [slice, htake, List.take_append_drop]

theorem take_append_getD (xs : List α) {i : ℕ} (h : i < xs.length) (a : α) :
    xs.take i ++ [xs.getD i a] = xs.take (i + 1) := by
  rw [List.take_add_one, List.getD_eq_getElem?_getD, List.getElem?_eq_getElem h]
  rfl
