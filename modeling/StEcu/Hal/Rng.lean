import StEcu.Crypto.FlashAuth
import StEcu.Crypto.TuneEncryption
import StEcu.Foundation.ByteBuffer
import StEcu.Foundation.Lcg
import StEcu.Foundation.TransitionSystem
import StEcu.Hal.Common

/-!
# The identities of the controllers

The random number generator (`H743Rng` in `src/hal/h743.rs`) and the identity that it makes from
eight numbers, as bytes and as digits (`TuneKey::ecu_id_hex` in `src/crypto.rs`). Off the target the
numbers are those of a linear congruential generator with the full period, so its identities repeat,
but not before all of its numbers were used.

## Main definitions

* `H743Rng`: `randomU32`, `generateEcuId`.
* `TuneKey.ecuIdHex`.

## Main results

* `hexPairs_ecuIdHex`: the digits are read back.
* `H743Rng.iterate_next_eq_iff`: the counter takes every value before one comes back.
* `H743Rng.ecu_ids_repeat`: which identities of one generator are the same.
-/

namespace StEcu

/-- The state of the generator. -/
structure H743Rng where
  entropyCounter : UInt32 := 0xDEADBEEF
  deriving DecidableEq, Repr

namespace H743Rng

/-- The counter after one number. -/
def next (counter : UInt32) : UInt32 := counter * 1664525 + 1013904223

/-- The number, and the generator that is left. -/
def randomU32 (rng : H743Rng) : HalResult (UInt32 × H743Rng) :=
  let entropyCounter := next rng.entropyCounter
  .ok (entropyCounter, { entropyCounter })

/-- The numbers of some chunks of four bytes, one after the other. -/
def fillChunks : ℕ → H743Rng → HalResult (Bytes × H743Rng)
  | 0, rng => .ok ([], rng)
  | chunks + 1, rng => do
    let (r, rng) ← rng.randomU32
    let (rest, rng) ← fillChunks chunks rng
    return (u32ToBe r ++ rest, rng)

/-- An identity of eight words of the generator. -/
def generateEcuId (rng : H743Rng) : HalResult (Bytes × H743Rng) := fillChunks 8 rng

/-- The identities that one generator makes. -/
def ecuIds : TransitionSystem H743Rng Unit Bytes where
  Step t := t.src.generateEcuId = .ok (t.output, t.dst)

end H743Rng

/-- The hexadecimal digits, in lower case. -/
def hexDigits : Vector UInt8 16 :=
  #v[0x30, 0x31, 0x32, 0x33, 0x34, 0x35, 0x36, 0x37, 0x38, 0x39, 0x61, 0x62, 0x63, 0x64, 0x65, 0x66]

theorem shiftRight_four_lt (byte : UInt8) : (byte >>> 4).toNat < 16 := by
  have hlt := byte.toNat_lt
  rw [UInt8.toNat_shiftRight, Nat.shiftRight_eq_div_pow]
  exact Nat.div_lt_of_lt_mul hlt

theorem and_fifteen_lt (byte : UInt8) : (byte &&& 0xf).toNat < 16 := by
  rw [UInt8.toNat_and]
  exact Nat.lt_succ_of_le Nat.and_le_right

/-- The digit of the high half of a byte. -/
def highDigit (byte : UInt8) : UInt8 := hexDigits.get ⟨(byte >>> 4).toNat, shiftRight_four_lt byte⟩

/-- The digit of the low half of a byte. -/
def lowDigit (byte : UInt8) : UInt8 := hexDigits.get ⟨(byte &&& 0xf).toNat, and_fifteen_lt byte⟩

/-- The identity of a board in hexadecimal. -/
def TuneKey.ecuIdHex (key : TuneKey) : Bytes :=
  key.ecuId.flatMap fun byte => [highDigit byte, lowDigit byte]

/-! ### The digits -/

theorem hexPair_table : ∀ n < 256,
    hexPair (highDigit (UInt8.ofNat n)) (lowDigit (UInt8.ofNat n)) = some (UInt8.ofNat n) := by
  decide +kernel

/-- **The digits are read back.** -/
theorem hexPairs_ecuIdHex (key : TuneKey) : hexPairs key.ecuIdHex = some key.ecuId := by
  rw [TuneKey.ecuIdHex]
  induction key.ecuId with
  | nil => rfl
  | cons byte bytes ih =>
    have hpair := hexPair_table byte.toNat byte.toNat_lt
    rw [UInt8.ofNat_toNat] at hpair
    rw [List.flatMap_cons, List.cons_append, List.cons_append, List.nil_append, hexPairs, hpair, ih]

theorem ecuIdHex_inj {key key' : TuneKey} :
    key.ecuIdHex = key'.ecuIdHex ↔ key.ecuId = key'.ecuId := by
  constructor
  · intro h
    have hread := congrArg hexPairs h
    rwa [hexPairs_ecuIdHex, hexPairs_ecuIdHex, Option.some_inj] at hread
  · intro h
    rw [TuneKey.ecuIdHex, TuneKey.ecuIdHex, h]

/-! ### The numbers -/

namespace H743Rng

/-- The identity that is made at a counter. -/
def ecuIdAt (counter : UInt32) : Bytes :=
  ByteCursor.wordBytes ((List.range 8).map fun i => next^[i + 1] counter)

theorem next_modEq (counter : UInt32) : ((next counter).toNat : ℤ) ≡
    lcg 1664525 1013904223 (counter.toNat : ℤ) [ZMOD 2 ^ 32] := by
  have hfactor : (1664525 : UInt32).toNat = 1664525 := rfl
  have hsummand : (1013904223 : UInt32).toNat = 1013904223 := rfl
  have hnat : (next counter).toNat = (1664525 * counter.toNat + 1013904223) % 2 ^ 32 := by
    rw [next, UInt32.toNat_add, UInt32.toNat_mul, hfactor, hsummand, Nat.mod_add_mod,
      Nat.mul_comm]
  rw [hnat, lcg, Int.natCast_mod, Int.natCast_pow, Int.natCast_add, Int.natCast_mul]
  exact Int.mod_modEq _ _

theorem eq_iff_modEq (x y : UInt32) : x = y ↔ (x.toNat : ℤ) ≡ (y.toNat : ℤ) [ZMOD 2 ^ 32] := by
  have hx := x.toNat_lt
  have hy := y.toNat_lt
  rw [← UInt32.toNat_inj, Int.ModEq]
  omega

/-- **The counter takes every value before one comes back.** -/
theorem iterate_next_eq_iff (counter : UInt32) (m n : ℕ) :
    next^[m] counter = next^[n] counter ↔ m ≡ n [MOD 2 ^ 32] := by
  have hleft := iterate_modEq_lcg (fun x : UInt32 => (x.toNat : ℤ)) next_modEq counter m
  have hright := iterate_modEq_lcg (fun x : UInt32 => (x.toNat : ℤ)) next_modEq counter n
  rw [eq_iff_modEq, ← iterate_lcg_modEq_iff (a := 1664525) (c := 1013904223) (by norm_num)
    (by norm_num) (counter.toNat : ℤ)]
  exact ⟨fun h => hleft.symm.trans (h.trans hright), fun h => hleft.trans (h.trans hright.symm)⟩

theorem map_iterate_range {α : Type} (f : α → α) (a : α) (n : ℕ) :
    (List.range (n + 1)).map (fun i => f^[i + 1] a) =
      f a :: (List.range n).map fun i => f^[i + 1] (f a) := by
  rw [List.range_succ_eq_map, List.map_cons, List.map_map]
  rfl

theorem wordBytes_cons (word : UInt32) (words : List UInt32) :
    ByteCursor.wordBytes (word :: words) = u32ToBe word ++ ByteCursor.wordBytes words := by
  rw [ByteCursor.wordBytes, ByteCursor.wordBytes, List.flatMap_cons]

theorem fillChunks_succ (chunks : ℕ) (rng : H743Rng) : rng.fillChunks (chunks + 1) =
    (fillChunks chunks ⟨next rng.entropyCounter⟩).bind fun (rest, rng') =>
      .ok (u32ToBe (next rng.entropyCounter) ++ rest, rng') := by
  rw [fillChunks, randomU32]
  rfl

theorem fillChunks_eq (chunks : ℕ) (rng : H743Rng) : rng.fillChunks chunks =
    .ok (ByteCursor.wordBytes ((List.range chunks).map fun i => next^[i + 1] rng.entropyCounter),
      ⟨next^[chunks] rng.entropyCounter⟩) := by
  induction chunks generalizing rng with
  | zero => rfl
  | succ chunks ih =>
    obtain ⟨counter⟩ := rng
    have hrest := ih ⟨next counter⟩
    dsimp only at hrest ⊢
    rw [fillChunks_succ]
    dsimp only
    rw [hrest, map_iterate_range, wordBytes_cons, Function.iterate_succ_apply, Except.bind]

theorem generateEcuId_eq (rng : H743Rng) : rng.generateEcuId =
    .ok (ecuIdAt rng.entropyCounter, ⟨next^[8] rng.entropyCounter⟩) := by
  rw [generateEcuId, fillChunks_eq, ecuIdAt]

theorem length_ecuIdAt (counter : UInt32) : (ecuIdAt counter).length = 32 := by
  rw [ecuIdAt, ByteCursor.length_wordBytes, List.length_map, List.length_range]

/-- The first number of an identity decides where the generator was. -/
theorem next_eq_of_ecuIdAt {counter counter' : UInt32} (h : ecuIdAt counter = ecuIdAt counter') :
    next counter = next counter' := by
  have hfirst (c : UInt32) : u32OfBe ((ecuIdAt c).take 4) = next c := by
    rw [ecuIdAt, List.range_succ_eq_map, List.map_cons, ByteCursor.wordBytes, List.flatMap_cons,
      List.take_left' (length_u32ToBe _), u32OfBe_u32ToBe, Nat.zero_add, Function.iterate_one]
  rw [← hfirst counter, ← hfirst counter', h]

/-! ### Runs -/

variable {rng rng' : H743Rng} {tr : List (Transition H743Rng Unit Bytes)}

theorem eq_of_step {t : Transition H743Rng Unit Bytes} (h : ecuIds.Step t) :
    ecuIdAt t.src.entropyCounter = t.output ∧
      next^[8] t.src.entropyCounter = t.dst.entropyCounter := by
  obtain ⟨hid, hleft⟩ := Prod.mk.inj (Except.ok.inj ((generateEcuId_eq t.src).symm.trans h))
  exact ⟨hid, congrArg entropyCounter hleft⟩

/-- The identities of a run, and the generator that is left. -/
theorem ids_of_run (h : ecuIds.Run rng tr rng') :
    tr.map Transition.output =
      (List.range tr.length).map (fun i => ecuIdAt (next^[8 * i] rng.entropyCounter)) ∧
    rng'.entropyCounter = next^[8 * tr.length] rng.entropyCounter := by
  induction h with
  | nil => exact ⟨rfl, rfl⟩
  | snoc _ hs ih =>
    obtain ⟨hids, hcounter⟩ := ih
    obtain ⟨hid, hleft⟩ := eq_of_step hs
    rw [List.length_append, List.length_singleton]
    constructor
    · rw [List.map_append, hids, List.range_succ, List.map_append, List.map_singleton,
        List.map_singleton, ← hcounter, hid]
    · rw [← hleft, hcounter, Nat.mul_succ, Nat.add_comm, Function.iterate_add_apply]

theorem eight_mul_modEq_iff (i j : ℕ) : 8 * i ≡ 8 * j [MOD 2 ^ 32] ↔ i ≡ j [MOD 2 ^ 29] := by
  rw [Nat.ModEq, Nat.ModEq]
  omega

/-- **Which identities of a generator are the same**: those that are a multiple of `2 ^ 29` places
apart, whatever the generator started from. It is back where it started after as many. The digits of
an identity are read back as its bytes. -/
theorem ecu_ids_repeat (h : ecuIds.Run rng tr rng') :
    (∀ i j id id', (tr.map Transition.output)[i]? = some id →
      (tr.map Transition.output)[j]? = some id' →
      ((TuneEncryption.newH743 id).key.ecuIdHex = (TuneEncryption.newH743 id').key.ecuIdHex ↔
        i ≡ j [MOD 2 ^ 29])) ∧
    (∀ id ∈ tr.map Transition.output, id.length = 32 ∧
      hexPairs (TuneEncryption.newH743 id).key.ecuIdHex = some id) ∧
    (rng' = rng ↔ 2 ^ 29 ∣ tr.length) ∧
    ∃ id after, rng'.generateEcuId = .ok (id, after) := by
  obtain ⟨hids, hcounter⟩ := ids_of_run h
  have hplace {i : ℕ} {id : Bytes} (hi : (tr.map Transition.output)[i]? = some id) :
      id = ecuIdAt (next^[8 * i] rng.entropyCounter) := by
    rw [hids, List.getElem?_map, Option.map_eq_some_iff] at hi
    obtain ⟨k, hk, rfl⟩ := hi
    obtain ⟨_, rfl⟩ := List.getElem?_eq_some_iff.mp hk
    rw [List.getElem_range]
  refine ⟨fun i j id id' hi hj => ?_, fun id hid => ⟨?_, hexPairs_ecuIdHex _⟩, ?_,
    _, _, generateEcuId_eq rng'⟩
  · rw [ecuIdHex_inj, ← eight_mul_modEq_iff]
    change id = id' ↔ _
    rw [hplace hi, hplace hj]
    constructor
    · intro hsame
      have hnext := next_eq_of_ecuIdAt hsame
      rw [← Function.iterate_succ_apply' next, ← Function.iterate_succ_apply' next,
        iterate_next_eq_iff] at hnext
      exact Nat.ModEq.add_right_cancel' 1 hnext
    · intro hmod
      rw [(iterate_next_eq_iff _ _ _).mpr hmod]
  · obtain ⟨i, hi⟩ := List.mem_iff_getElem?.mp hid
    rw [hplace hi, length_ecuIdAt]
  · have hback : rng' = rng ↔ next^[8 * tr.length] rng.entropyCounter =
        next^[8 * 0] rng.entropyCounter := by
      rw [← hcounter]
      exact ⟨fun heq => congrArg entropyCounter heq, fun heq => congrArg mk heq⟩
    rw [hback, iterate_next_eq_iff, eight_mul_modEq_iff, Nat.modEq_zero_iff_dvd]

/-- The first two identities after a reset are not the same. -/
theorem ecu_ids_repeat_fresh : ∃ tr rng', ecuIds.Run {} tr rng' ∧ tr.length = 2 ∧
    ∀ id id', (tr.map Transition.output)[0]? = some id →
      (tr.map Transition.output)[1]? = some id' →
      (TuneEncryption.newH743 id).key.ecuIdHex ≠ (TuneEncryption.newH743 id').key.ecuIdHex := by
  obtain ⟨id₁, rng₁, h₁⟩ := (ecu_ids_repeat (.nil : ecuIds.Run {} [] {})).2.2.2
  have hrun₁ : ecuIds.Run {} [⟨{}, (), id₁, rng₁⟩] rng₁ :=
    .single (t := ⟨{}, (), id₁, rng₁⟩) h₁
  obtain ⟨id₂, rng₂, h₂⟩ := (ecu_ids_repeat hrun₁).2.2.2
  have hrun₂ := hrun₁.append (.single (t := ⟨rng₁, (), id₂, rng₂⟩) h₂)
  refine ⟨_, rng₂, hrun₂, rfl, fun id id' hid hid' hsame => ?_⟩
  have hmod := ((ecu_ids_repeat hrun₂).1 0 1 id id' hid hid').mp hsame
  exact absurd hmod (by decide)

end H743Rng

end StEcu
