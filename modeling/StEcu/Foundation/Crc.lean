import Mathlib.Algebra.Group.Nat.Defs
import Mathlib.Data.List.Induction
import Mathlib.Logic.Function.Iterate

/-!
# Cyclic redundancy checks

A reflected cyclic redundancy check of any width, with any polynomial: a shift register that takes
the bits of a message one after the other, least significant bit first. The register is linear in
exclusive or, and where the polynomial has its top coefficient a shift loses nothing.

Hence no change of a message within as many consecutive bits as the register is wide, here counted
in whole bytes, leaves the register as it was.

## Main definitions

* `crcShift`, `crcByte`, `crcRegister`: the register after a bit, a byte and a message.
* `leNat`: the number with the given little-endian bytes.
* `AgreeOutside`: two messages that are the same outside a window.

## Main results

* `crcRegister_eq_iterate`: a message no longer than the register is fed like one word.
* `crcRegister_ne_of_agreeOutside`: a change within the width of the register is noticed.
-/

/-! ### Little-endian numbers -/

/-- The number whose little-endian bytes are `bs`. -/
def leNat : List UInt8 → ℕ
  | [] => 0
  | b :: bs => 2 ^ 8 * leNat bs + b.toNat

theorem leNat_lt (bs : List UInt8) : leNat bs < 2 ^ (8 * bs.length) := by
  induction bs with
  | nil => decide
  | cons b bs ih =>
    have hb := b.toNat_lt
    rw [leNat, List.length_cons, Nat.mul_succ, Nat.pow_add]
    omega

theorem leNat_inj {bs cs : List UInt8} (hlen : bs.length = cs.length) (h : leNat bs = leNat cs) :
    bs = cs := by
  induction bs generalizing cs with
  | nil => exact (List.eq_nil_of_length_eq_zero hlen.symm).symm
  | cons b bs ih =>
    cases cs with
    | nil => cases hlen
    | cons c cs =>
      have hb := b.toNat_lt
      have hc := c.toNat_lt
      rw [leNat, leNat] at h
      have hhead : b = c := UInt8.toNat_inj.mp (by omega)
      have htail : leNat bs = leNat cs := by omega
      rw [hhead, ih (Nat.succ.inj hlen) htail]

/-! ### The register -/

section Register

variable {w : ℕ} (poly : BitVec w)

/-- The register after one bit. -/
def crcShift (c : BitVec w) : BitVec w := if c.getLsbD 0 then (c >>> 1) ^^^ poly else c >>> 1

/-- The register after a byte. -/
def crcByte (c : BitVec w) (byte : UInt8) : BitVec w :=
  (crcShift poly)^[8] (c ^^^ BitVec.ofNat w byte.toNat)

/-- The register after a message. -/
def crcRegister (c : BitVec w) (bytes : List UInt8) : BitVec w := bytes.foldl (crcByte poly) c

@[simp] theorem crcRegister_nil (c : BitVec w) : crcRegister poly c [] = c := rfl

@[simp] theorem crcRegister_cons (c : BitVec w) (b : UInt8) (bs : List UInt8) :
    crcRegister poly c (b :: bs) = crcRegister poly (crcByte poly c b) bs := rfl

theorem crcRegister_append (c : BitVec w) (bs cs : List UInt8) :
    crcRegister poly c (bs ++ cs) = crcRegister poly (crcRegister poly c bs) cs :=
  List.foldl_append

/-! ### Linearity -/

/-- The shift is linear: a bit of the polynomial enters where exactly one of the low bits is set. -/
theorem crcShift_xor (a b : BitVec w) :
    crcShift poly (a ^^^ b) = crcShift poly a ^^^ crcShift poly b := by
  rw [crcShift, crcShift, crcShift, BitVec.getLsbD_xor, BitVec.ushiftRight_xor_distrib]
  apply BitVec.eq_of_getLsbD_eq
  intro i hi
  by_cases ha : a.getLsbD 0 <;> by_cases hb : b.getLsbD 0 <;>
    simp only [ha, hb, Bool.xor_self, Bool.xor_false, Bool.false_xor, Bool.false_eq_true,
      ↓reduceIte, BitVec.getLsbD_xor] <;>
    cases (a >>> 1).getLsbD i <;> cases (b >>> 1).getLsbD i <;> cases poly.getLsbD i <;> rfl

theorem iterate_crcShift_xor (k : ℕ) (a b : BitVec w) :
    (crcShift poly)^[k] (a ^^^ b) = (crcShift poly)^[k] a ^^^ (crcShift poly)^[k] b := by
  induction k generalizing a b with
  | zero => rfl
  | succ k ih => rw [Function.iterate_succ_apply, crcShift_xor, ih]; rfl

/-- A register with its lowest bit clear only moves down. -/
theorem crcShift_ofNat_two_mul {n : ℕ} (h : 2 * n < 2 ^ w) :
    crcShift poly (BitVec.ofNat w (2 * n)) = BitVec.ofNat w n := by
  have hlow : (BitVec.ofNat w (2 * n)).getLsbD 0 = false := by
    simp [BitVec.getLsbD_ofNat]
  rw [crcShift, if_neg (by simp [hlow])]
  apply BitVec.eq_of_toNat_eq
  rw [BitVec.toNat_ushiftRight, BitVec.toNat_ofNat, BitVec.toNat_ofNat, Nat.mod_eq_of_lt h,
    Nat.mod_eq_of_lt (by omega), Nat.shiftRight_eq_div_pow]
  omega

theorem iterate_crcShift_ofNat (k : ℕ) {n : ℕ} (h : 2 ^ k * n < 2 ^ w) :
    (crcShift poly)^[k] (BitVec.ofNat w (2 ^ k * n)) = BitVec.ofNat w n := by
  induction k with
  | zero => rw [Nat.pow_zero, Nat.one_mul, Function.iterate_zero_apply]
  | succ k ih =>
    have hpow : 2 ^ (k + 1) * n = 2 * (2 ^ k * n) := by rw [Nat.pow_succ', Nat.mul_assoc]
    rw [hpow] at h ⊢
    rw [Function.iterate_succ_apply, crcShift_ofNat_two_mul poly h]
    exact ih (by omega)

/-! ### Nothing is lost -/

/-- A byte of the message fits in front of a word that has been moved up. -/
theorem ofNat_two_pow_mul_add (n : ℕ) {k m : ℕ} (hm : m < 2 ^ k) :
    BitVec.ofNat w (2 ^ k * n + m) = BitVec.ofNat w m ^^^ BitVec.ofNat w (2 ^ k * n) := by
  apply BitVec.eq_of_getLsbD_eq
  intro i hi
  rw [BitVec.getLsbD_xor, BitVec.getLsbD_ofNat, BitVec.getLsbD_ofNat, BitVec.getLsbD_ofNat,
    Nat.testBit_two_pow_mul_add n hm, Nat.testBit_two_pow_mul]
  by_cases hik : i < k
  · simp [hik, Nat.not_le.mpr hik]
  · have hhigh : m.testBit i = false :=
      Nat.testBit_lt_two_pow
        (Nat.lt_of_lt_of_le hm (Nat.pow_le_pow_right (by decide) (Nat.not_lt.mp hik)))
    simp [hik, Nat.not_lt.mp hik, hhigh]

/-- A message that is no longer than the register is fed like one word: all of it at once, and then
the shifts. -/
theorem crcRegister_eq_iterate (c : BitVec w) {bytes : List UInt8} (h : 8 * bytes.length ≤ w) :
    crcRegister poly c bytes =
      (crcShift poly)^[8 * bytes.length] (c ^^^ BitVec.ofNat w (leNat bytes)) := by
  induction bytes generalizing c with
  | nil => simp [leNat]
  | cons b bs ih =>
    rw [List.length_cons] at h
    have hlt : 2 ^ 8 * leNat bs < 2 ^ w := by
      have hle : 2 ^ (8 + 8 * bs.length) ≤ 2 ^ w := Nat.pow_le_pow_right (by decide) (by omega)
      have := leNat_lt bs
      rw [Nat.pow_add] at hle
      omega
    have hword : c ^^^ BitVec.ofNat w (leNat (b :: bs)) =
        c ^^^ BitVec.ofNat w b.toNat ^^^ BitVec.ofNat w (2 ^ 8 * leNat bs) := by
      rw [leNat, ofNat_two_pow_mul_add _ b.toNat_lt, BitVec.xor_assoc]
    rw [crcRegister_cons, ih _ (by omega), hword, List.length_cons, Nat.mul_succ,
      Function.iterate_add_apply, iterate_crcShift_xor poly 8 _ (BitVec.ofNat w _),
      iterate_crcShift_ofNat poly 8 hlt, crcByte]

variable {poly} (hpoly : poly.msb = true)
include hpoly

/-- Only the register zero is shifted to zero: the polynomial leaves its top coefficient. -/
theorem crcShift_eq_zero {c : BitVec w} (h : crcShift poly c = 0#w) : c = 0#w := by
  rw [crcShift] at h
  split at h
  next hlow =>
    have hmsb := congrArg BitVec.msb h
    have hw : 0 < w := by
      by_contra hw
      obtain rfl : w = 0 := by omega
      simp [BitVec.msb, BitVec.getMsbD] at hpoly
    simp [BitVec.msb_xor, hpoly, BitVec.msb_ushiftRight] at hmsb
  next hlow =>
    apply BitVec.eq_of_getLsbD_eq
    intro i hi
    cases i with
    | zero => simpa using hlow
    | succ i =>
      have hbit := congrArg (fun v => v.getLsbD i) h
      simpa [BitVec.getLsbD_ushiftRight, Nat.add_comm] using hbit

theorem crcShift_injective : Function.Injective (crcShift poly) := by
  intro a b h
  have hxor : crcShift poly (a ^^^ b) = 0#w := by rw [crcShift_xor, h, BitVec.xor_self]
  exact BitVec.xor_eq_zero_iff.mp (crcShift_eq_zero hpoly hxor)

theorem crcByte_injective (b : UInt8) : Function.Injective fun c => crcByte poly c b :=
  fun _ _ h => (BitVec.xor_left_inj _).mp ((crcShift_injective hpoly).iterate 8 h)

/-- Two registers that differ still do so after the same message. -/
theorem crcRegister_injective (bytes : List UInt8) :
    Function.Injective fun c => crcRegister poly c bytes := by
  induction bytes with
  | nil => exact fun _ _ h => h
  | cons b bs ih => exact ih.comp (crcByte_injective hpoly b)

/-- Two messages of one length, no longer than the register, leave different registers. -/
theorem crcRegister_inj {c : BitVec w} {bs cs : List UInt8} (hlen : bs.length = cs.length)
    (hw : 8 * bs.length ≤ w) (h : crcRegister poly c bs = crcRegister poly c cs) : bs = cs := by
  rw [crcRegister_eq_iterate poly c hw, crcRegister_eq_iterate poly c (hlen ▸ hw), hlen] at h
  have hword := (BitVec.xor_right_inj _).mp ((crcShift_injective hpoly).iterate _ h)
  have hlt (ds : List UInt8) (hds : 8 * ds.length ≤ w) : leNat ds < 2 ^ w :=
    Nat.lt_of_lt_of_le (leNat_lt ds) (Nat.pow_le_pow_right (by decide) hds)
  have hnat := congrArg BitVec.toNat hword
  rw [BitVec.toNat_ofNat, BitVec.toNat_ofNat, Nat.mod_eq_of_lt (hlt bs hw),
    Nat.mod_eq_of_lt (hlt cs (hlen ▸ hw))] at hnat
  exact leNat_inj hlen hnat

end Register

/-! ### Changes within a window -/

/-- Two lists of one length that are the same outside the window of `k` elements from `i` on. -/
structure AgreeOutside {α : Type*} (i k : ℕ) (xs ys : List α) : Prop where
  length_eq : xs.length = ys.length
  getElem?_eq : ∀ j, j < i ∨ i + k ≤ j → xs[j]? = ys[j]?

namespace AgreeOutside

variable {α : Type*} {i k : ℕ} {xs ys : List α} (h : AgreeOutside i k xs ys)
include h

theorem take (n : ℕ) : AgreeOutside i k (xs.take n) (ys.take n) where
  length_eq := by rw [List.length_take, List.length_take, h.length_eq]
  getElem?_eq j hj := by
    by_cases hjn : j < n
    · rw [List.getElem?_take_of_lt hjn, List.getElem?_take_of_lt hjn, h.getElem?_eq j hj]
    · rw [List.getElem?_take_eq_none (by omega), List.getElem?_take_eq_none (by omega)]

theorem drop (n : ℕ) : AgreeOutside (i - n) k (xs.drop n) (ys.drop n) where
  length_eq := by rw [List.length_drop, List.length_drop, h.length_eq]
  getElem?_eq j hj := by
    rw [List.getElem?_drop, List.getElem?_drop, h.getElem?_eq (n + j) (by omega)]

theorem append_right (zs : List α) : AgreeOutside i k (xs ++ zs) (ys ++ zs) where
  length_eq := by rw [List.length_append, List.length_append, h.length_eq]
  getElem?_eq j hj := by
    rw [List.getElem?_append, List.getElem?_append, h.length_eq, h.getElem?_eq j hj]

theorem take_eq (n : ℕ) (hn : n ≤ i) : xs.take n = ys.take n := by
  refine List.ext_getElem? fun j => ?_
  by_cases hj : j < n
  · rw [List.getElem?_take_of_lt hj, List.getElem?_take_of_lt hj, h.getElem?_eq j (by omega)]
  · rw [List.getElem?_take_eq_none (by omega), List.getElem?_take_eq_none (by omega)]

theorem drop_eq (n : ℕ) (hn : i + k ≤ n) : xs.drop n = ys.drop n := by
  refine List.ext_getElem? fun j => ?_
  rw [List.getElem?_drop, List.getElem?_drop, h.getElem?_eq (n + j) (by omega)]

theorem mono {l : ℕ} (hkl : k ≤ l) : AgreeOutside i l xs ys where
  length_eq := h.length_eq
  getElem?_eq j hj := h.getElem?_eq j (by omega)

/-- The common front, the two windows and the common rest. -/
theorem exists_split : ∃ front ms ns rest, xs = front ++ ms ++ rest ∧ ys = front ++ ns ++ rest ∧
    ms.length = ns.length ∧ ms.length ≤ k := by
  refine ⟨xs.take i, (xs.drop i).take k, (ys.drop i).take k, xs.drop (i + k), ?_, ?_, ?_, ?_⟩
  · rw [List.append_assoc, ← List.drop_drop, List.take_append_drop, List.take_append_drop]
  · rw [h.take_eq i (Nat.le_refl i), h.drop_eq (i + k) (Nat.le_refl _), List.append_assoc,
      ← List.drop_drop, List.take_append_drop, List.take_append_drop]
  · simp only [List.length_take, List.length_drop, h.length_eq]
  · rw [List.length_take]
    exact Nat.min_le_left ..

end AgreeOutside

/-- A change of a single element. -/
theorem agreeOutside_set {α : Type*} (xs : List α) (i : ℕ) (a : α) :
    AgreeOutside i 1 xs (xs.set i a) where
  length_eq := List.length_set.symm
  getElem?_eq j hj := by rw [List.getElem?_set_ne (by omega)]

/-- **Bursts are noticed.** A change of a message within a window no longer than the register leaves
another register. -/
theorem crcRegister_ne_of_agreeOutside {w i k : ℕ} {poly c : BitVec w} {xs ys : List UInt8}
    (hpoly : poly.msb = true) (h : AgreeOutside i k xs ys) (hk : 8 * k ≤ w) (hne : xs ≠ ys) :
    crcRegister poly c xs ≠ crcRegister poly c ys := by
  obtain ⟨front, ms, ns, rest, rfl, rfl, hlen, hle⟩ := h.exists_split
  intro heq
  rw [crcRegister_append, crcRegister_append, crcRegister_append, crcRegister_append] at heq
  have hwindow := crcRegister_injective hpoly rest heq
  exact hne (by rw [crcRegister_inj hpoly hlen (by omega) hwindow])
