import Mathlib.NumberTheory.Multiplicity

/-!
# Linear congruential generators

A generator that goes from `x` to `a * x + c`, modulo a power of two. Where `a - 1` is a multiple of
four and `c` is odd, its period is the whole modulus: no value comes back before all others were
there.

## Main definitions

* `lcg`: one step.

## Main results

* `iterate_lcg`: many steps at once.
* `two_pow_dvd_geomSum_iff`: a geometric sum is divisible by as many twos as its length.
* `iterate_lcg_modEq_iff`: two values are the same modulo `2 ^ k` exactly where their places are.
-/

/-- One step of a generator. -/
def lcg {R : Type*} [CommRing R] (a c x : R) : R := a * x + c

section Iterate

variable {R : Type*} [CommRing R] (a c x : R)

/-- **Many steps at once.** The first step adds `(a - 1) * x + c`; each one adds `a` times as much
as the one before. -/
theorem iterate_lcg (n : ℕ) :
    (lcg a c)^[n] x = x + (∑ i ∈ Finset.range n, a ^ i) * ((a - 1) * x + c) := by
  induction n with
  | zero => simp
  | succ n ih =>
    have hsum : ∑ i ∈ Finset.range (n + 1), a ^ i = a * ∑ i ∈ Finset.range n, a ^ i + 1 := by
      rw [Finset.sum_range_succ', Finset.mul_sum, pow_zero]
      simp only [pow_succ']
    rw [Function.iterate_succ_apply', ih, lcg, hsum]
    ring

end Iterate

variable {a c : ℤ} {k : ℕ}

/-- **A geometric sum is divisible by as many twos as its length.** -/
theorem two_pow_dvd_geomSum_iff (ha : 4 ∣ a - 1) (n : ℕ) :
    2 ^ k ∣ ∑ i ∈ Finset.range n, a ^ i ↔ 2 ^ k ∣ (n : ℤ) := by
  rcases eq_or_ne a 1 with rfl | hne
  · simp
  have hodd : ¬2 ∣ a := by omega
  have hsplit : emultiplicity 2 (∑ i ∈ Finset.range n, a ^ i) + emultiplicity 2 (a - 1) =
      emultiplicity 2 (n : ℤ) + emultiplicity 2 (a - 1) := by
    have hpow := Int.two_pow_sub_pow' n ha hodd
    rw [one_pow] at hpow
    rw [← emultiplicity_mul Int.prime_two, geom_sum_mul, hpow, add_comm]
  have hfinite : emultiplicity 2 (a - 1) ≠ ⊤ := by
    rw [← finiteMultiplicity_iff_emultiplicity_ne_top, Int.finiteMultiplicity_iff]
    exact ⟨by decide, sub_ne_zero.mpr hne⟩
  rw [pow_dvd_iff_le_emultiplicity, pow_dvd_iff_le_emultiplicity,
    ENat.add_left_injective_of_ne_top hfinite hsplit]

/-- A value comes back after a multiple of the modulus, and not before. -/
theorem iterate_lcg_modEq_self_iff (ha : 4 ∣ a - 1) (hc : ¬2 ∣ c) (x : ℤ) (n : ℕ) :
    (lcg a c)^[n] x ≡ x [ZMOD 2 ^ k] ↔ 2 ^ k ∣ n := by
  have hodd : ¬2 ∣ (a - 1) * x + c := by
    have heven : 2 ∣ (a - 1) * x := Dvd.dvd.mul_right (by omega) x
    exact fun hdvd => hc ((Int.dvd_add_right heven).mp hdvd)
  have hstrip : 2 ^ k ∣ (∑ i ∈ Finset.range n, a ^ i) * ((a - 1) * x + c) ↔
      2 ^ k ∣ ∑ i ∈ Finset.range n, a ^ i :=
    ⟨Int.prime_two.pow_dvd_of_dvd_mul_right k hodd, fun h => h.mul_right _⟩
  rw [Int.modEq_comm, Int.modEq_iff_dvd, iterate_lcg, add_sub_cancel_left, hstrip,
    two_pow_dvd_geomSum_iff ha]
  norm_cast

/-- **The period is the whole modulus.** -/
theorem iterate_lcg_modEq_iff (ha : 4 ∣ a - 1) (hc : ¬2 ∣ c) (x : ℤ) (i j : ℕ) :
    (lcg a c)^[i] x ≡ (lcg a c)^[j] x [ZMOD 2 ^ k] ↔ i ≡ j [MOD 2 ^ k] := by
  rcases le_total i j with h | h
  · obtain ⟨n, rfl⟩ := Nat.exists_eq_add_of_le h
    rw [Int.modEq_comm, add_comm i n, Function.iterate_add_apply, iterate_lcg_modEq_self_iff ha hc,
      Nat.modEq_iff_dvd' (Nat.le_add_left i n), Nat.add_sub_cancel]
  · obtain ⟨n, rfl⟩ := Nat.exists_eq_add_of_le h
    rw [add_comm j n, Function.iterate_add_apply, iterate_lcg_modEq_self_iff ha hc, Nat.ModEq.comm,
      Nat.modEq_iff_dvd' (Nat.le_add_left j n), Nat.add_sub_cancel]

/-- A machine whose steps are those of a generator, up to the modulus, stays with it. -/
theorem iterate_modEq_lcg {σ : Type*} {m : ℤ} (value : σ → ℤ) {next : σ → σ}
    (h : ∀ s, value (next s) ≡ lcg a c (value s) [ZMOD m]) (s : σ) (n : ℕ) :
    value (next^[n] s) ≡ (lcg a c)^[n] (value s) [ZMOD m] := by
  induction n with
  | zero => rfl
  | succ n ih =>
    rw [Function.iterate_succ_apply', Function.iterate_succ_apply']
    exact (h _).trans ((ih.mul_left a).add_right c)
