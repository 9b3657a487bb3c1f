import Mathlib.Tactic.Linarith
import StEcu.Foundation.FixedPoint

/-!
# Layouts of fixed-point fields

A fixed-point format writes a rational as a big-endian integer, scaled, rounded and clamped to the
range of its width, and reads it back. A layout is a table of the fields of a record, each with its
offset and its format. Where the fields lie one behind the other, writing a record field by field
and reading it at the offsets are inverse to each other.

## Main definitions

* `FixedFormat`: a width, a sign and a scale, with `FixedFormat.write` and `FixedFormat.read`.
* `FixedFormat.Fits`: the values that a format keeps.
* `RecordField`, `Tiles`: the fields of a record, one behind the other.
* `writeFields`: a record written field by field.

## Main results

* `FixedFormat.read_write`, `FixedFormat.write_read`.
* `Tiles.bytes_writeFields`: each field stands at its offset.
* `Tiles.flatMap_bytes`: a byte string is cut at the offsets.
-/

/-! ### Formats -/

/-- A big-endian integer of some bytes, a multiple of the value that it stands for. -/
structure FixedFormat where
  width : ℕ
  signed : Bool
  scale : ℕ
  scale_pos : 0 < scale := by decide

namespace FixedFormat

variable {F : FixedFormat} {x : ℚ}

/-- An unsigned integer of some bytes, with a scale. -/
def unsigned (width scale : ℕ) (h : 0 < scale := by decide) : FixedFormat :=
  ⟨width, false, scale, h⟩

/-- An integer of some bytes in two's complement, with a scale. -/
def twos (width scale : ℕ) (h : 0 < scale := by decide) : FixedFormat := ⟨width, true, scale, h⟩

/-- The number of values that a field has. -/
def modulus (F : FixedFormat) : ℕ := 256 ^ F.width

/-- The least integer of a format. -/
def lo (F : FixedFormat) : ℤ := if F.signed then -(F.modulus / 2) else 0

/-- The greatest integer of a format. -/
def hi (F : FixedFormat) : ℤ := if F.signed then (F.modulus - 1) / 2 else F.modulus - 1

/-- Scales, rounds and clamps; a negative integer is in two's complement. -/
def write (F : FixedFormat) (x : ℚ) : List UInt8 :=
  beBytes F.width (scaleRound F.scale x F.lo F.hi % F.modulus).toNat

/-- The integer of some bytes. -/
def ofBytes (F : FixedFormat) (bs : List UInt8) : ℤ :=
  if F.signed then (ofBe bs : ℤ).bmod F.modulus else ofBe bs

/-- The value that the bytes of a field stand for. -/
def read (F : FixedFormat) (bs : List UInt8) : ℚ := F.ofBytes bs / F.scale

/-- The scaled value is an integer in the range of the format. -/
def Fits (F : FixedFormat) (x : ℚ) : Prop := ∃ n : ℤ, x * F.scale = n ∧ F.lo ≤ n ∧ n ≤ F.hi

/-- An unsigned format without a scale fits every number of its width. -/
theorem fits_unsigned {width n : ℕ} (h : n < 256 ^ width) : (unsigned width 1).Fits n := by
  refine ⟨n, by simp [unsigned], Int.natCast_nonneg n, ?_⟩
  change (n : ℤ) ≤ (256 ^ width : ℕ) - 1
  omega

theorem modulus_pos (F : FixedFormat) : 0 < F.modulus := by
  rw [modulus]
  positivity

@[simp] theorem length_write (F : FixedFormat) (x : ℚ) : (F.write x).length = F.width :=
  length_beBytes ..

theorem write_of_scaled {n : ℤ} (hn : x * F.scale = n) (hlo : F.lo ≤ n) (hhi : n ≤ F.hi) :
    F.write x = beBytes F.width (n % F.modulus).toNat := by
  rw [write, scaleRound, hn, roundHalfAway_intCast, min_eq_left hhi, max_eq_right hlo]

theorem ofBe_write {n : ℤ} (hn : x * F.scale = n) (hlo : F.lo ≤ n) (hhi : n ≤ F.hi) :
    (ofBe (F.write x) : ℤ) = n % F.modulus := by
  have hpos : (0 : ℤ) < F.modulus := by exact_mod_cast F.modulus_pos
  rw [write_of_scaled hn hlo hhi, ofBe_beBytes, ← modulus, Int.natCast_mod,
    Int.toNat_of_nonneg (Int.emod_nonneg _ hpos.ne'), Int.emod_emod]

/-- **A value that fits is read back.** -/
theorem read_write (h : F.Fits x) : F.read (F.write x) = x := by
  obtain ⟨n, hn, hlo, hhi⟩ := h
  have hscale : (F.scale : ℚ) ≠ 0 := by exact_mod_cast F.scale_pos.ne'
  have hint : F.ofBytes (F.write x) = n := by
    rw [ofBytes, ofBe_write hn hlo hhi]
    rw [lo] at hlo
    rw [hi] at hhi
    split <;> rename_i hsigned
    · rw [if_pos hsigned] at hlo hhi
      rw [Int.emod_bmod, Int.bmod_eq_of_le hlo (by omega)]
    · rw [if_neg hsigned] at hlo hhi
      exact Int.emod_eq_of_lt hlo (by omega)
  rw [read, hint, div_eq_iff hscale, hn]

theorem ofBe_lt_modulus {bs : List UInt8} (h : bs.length = F.width) : ofBe bs < F.modulus := by
  rw [modulus, ← h]
  exact ofBe_lt bs

theorem ofBytes_mem {bs : List UInt8} (h : bs.length = F.width) :
    F.lo ≤ F.ofBytes bs ∧ F.ofBytes bs ≤ F.hi := by
  have hpos := F.modulus_pos
  have hlt := ofBe_lt_modulus h
  rw [ofBytes, lo, hi]
  split
  · have := Int.le_bmod (x := ofBe bs) hpos
    have := Int.bmod_lt (x := ofBe bs) hpos
    omega
  · omega

theorem ofBytes_emod (F : FixedFormat) {bs : List UInt8} (h : bs.length = F.width) :
    (F.ofBytes bs % F.modulus).toNat = ofBe bs := by
  have hlt := ofBe_lt_modulus h
  rw [ofBytes]
  have hmod : (ofBe bs : ℤ) % F.modulus = ofBe bs := Int.emod_eq_of_lt (by omega) (by omega)
  split
  · rw [Int.bmod_emod, hmod, Int.toNat_natCast]
  · rw [hmod, Int.toNat_natCast]

theorem read_mul_scale (F : FixedFormat) {bs : List UInt8} : F.read bs * F.scale = F.ofBytes bs :=
  div_mul_cancel₀ _ (by exact_mod_cast F.scale_pos.ne')

/-- **Bytes that are read are written back.** -/
theorem write_read {bs : List UInt8} (h : bs.length = F.width) : F.write (F.read bs) = bs := by
  obtain ⟨hlo, hhi⟩ := ofBytes_mem h
  rw [write_of_scaled F.read_mul_scale hlo hhi, ofBytes_emod F h, ← h, beBytes_ofBe]

/-! ### Integers of one and two bytes -/

theorem beBytes_mod (k n : ℕ) : beBytes k (n % 256 ^ k) = beBytes k n := by
  have h := beBytes_ofBe (beBytes k n)
  rwa [length_beBytes, ofBe_beBytes] at h

theorem u16ToBe_ofNat (n : ℕ) : u16ToBe (UInt16.ofNat n) = beBytes 2 n := by
  rw [u16ToBe, UInt16.toNat_ofNat', ← beBytes_mod 2 n]
  rfl

theorem write_unsigned (width k : ℕ) (h : 0 < k) (x : ℚ) : (unsigned width k h).write x =
    beBytes width (scaleRound k x 0 ((256 ^ width : ℕ) - 1)).toNat := by
  have hnonneg : 0 ≤ scaleRound k x 0 ((256 ^ width : ℕ) - 1) := le_max_left _ _
  change beBytes width (scaleRound k x 0 ((256 ^ width : ℕ) - 1) % (256 ^ width : ℕ)).toNat = _
  rw [Int.toNat_emod hnonneg (Int.natCast_nonneg _), Int.toNat_natCast, beBytes_mod]

theorem write_unsigned_two (k : ℕ) (h : 0 < k) (x : ℚ) :
    (unsigned 2 k h).write x = scaledU16 k x := by
  rw [write_unsigned, scaledU16, u16ToBe_ofNat]
  rfl

theorem write_unsigned_one (k : ℕ) (h : 0 < k) (x : ℚ) :
    (unsigned 1 k h).write x = scaledU8 k x := by
  rw [write_unsigned]
  rfl

theorem write_twos (width k : ℕ) (h : 0 < k) (x : ℚ) : (twos width k h).write x =
    beBytes width (scaleRound k x (-((256 ^ width : ℕ) / 2)) (((256 ^ width : ℕ) - 1) / 2) %
      (256 ^ width : ℕ)).toNat := rfl

theorem write_twos_two (k : ℕ) (h : 0 < k) (x : ℚ) : (twos 2 k h).write x = scaledI16 k x := by
  rw [write_twos, scaledI16, i16ToBe, u16ToBe_ofNat]
  norm_num

theorem write_twos_one (k : ℕ) (h : 0 < k) (x : ℚ) : (twos 1 k h).write x = scaledI8 k x := by
  rw [write_twos, scaledI8]
  norm_num [beBytes]

/-- An integer in the range is written as it is. -/
theorem write_unsigned_natCast (width n : ℕ) (h : 0 < 1) (hn : n < 256 ^ width) :
    (unsigned width 1 h).write n = beBytes width n := by
  have hpos : 0 < 256 ^ width := by positivity
  have hround : scaleRound 1 n 0 ((256 ^ width : ℕ) - 1) = n := by
    rw [scaleRound, mul_one]
    have := roundHalfAway_intCast n
    rw [Int.cast_natCast] at this
    rw [this]
    omega
  rw [write_unsigned, Nat.cast_one, hround, Int.toNat_natCast]

theorem write_u32 (h : 0 < 1) (w : UInt32) : (unsigned 4 1 h).write w.toNat = u32ToBe w :=
  write_unsigned_natCast 4 _ h w.toNat_lt

theorem scaledU16_toNat (w : UInt16) : scaledU16 1 w.toNat = u16ToBe w := by
  have h := write_unsigned_two 1 one_pos w.toNat
  rw [Nat.cast_one] at h
  rw [← h, write_unsigned_natCast 2 _ one_pos w.toNat_lt, u16ToBe]

theorem scaledU8_toNat (b : UInt8) : scaledU8 1 b.toNat = [b] := by
  have h := write_unsigned_one 1 one_pos b.toNat
  rw [Nat.cast_one] at h
  rw [← h, write_unsigned_natCast 1 _ one_pos b.toNat_lt]
  simp [beBytes]

theorem scaledU8_zero : scaledU8 1 0 = [0] := scaledU8_toNat 0

theorem read_unsigned (width k : ℕ) (h : 0 < k) (bs : List UInt8) :
    (unsigned width k h).read bs = (ofBe bs : ℚ) / k := by
  simp [read, ofBytes, unsigned]

theorem read_twos (width k : ℕ) (h : 0 < k) (bs : List UInt8) :
    (twos width k h).read bs = ((ofBe bs : ℤ).bmod (256 ^ width) : ℚ) / k := by
  simp [read, ofBytes, twos, modulus]

end FixedFormat

/-! ### Layouts -/

/-- A field of a record: its offset, its format and its value. -/
structure RecordField (σ : Type) where
  offset : ℕ
  format : FixedFormat
  value : σ → ℚ

section Layout

variable {σ : Type} {fields : List (RecordField σ)} {field : RecordField σ} {p q : ℕ}

/-- The fields lie one behind the other from `p` to `q`. -/
def Tiles : List (RecordField σ) → ℕ → ℕ → Prop
  | [], p, q => p = q
  | field :: fields, p, q => field.offset = p ∧ Tiles fields (p + field.format.width) q

instance Tiles.decidable : (fields : List (RecordField σ)) → (p q : ℕ) →
    Decidable (Tiles fields p q)
  | [], p, q => inferInstanceAs (Decidable (p = q))
  | field :: fields, p, q =>
    have := Tiles.decidable fields (p + field.format.width) q
    inferInstanceAs (Decidable (field.offset = p ∧ Tiles fields (p + field.format.width) q))

/-- The record written field by field. -/
def writeFields (fields : List (RecordField σ)) (s : σ) : List UInt8 :=
  fields.flatMap fun field => field.format.write (field.value s)

/-- The bytes of a field. -/
def RecordField.bytes (field : RecordField σ) (bs : List UInt8) : List UInt8 :=
  (bs.drop field.offset).take field.format.width

theorem Tiles.le (h : Tiles fields p q) : p ≤ q := by
  induction fields generalizing p with
  | nil => exact h.le
  | cons field fields ih => exact (Nat.le_add_right _ _).trans (ih h.2)

theorem Tiles.offset_add_le (h : Tiles fields p q) (hf : field ∈ fields) :
    field.offset + field.format.width ≤ q := by
  induction fields generalizing p with
  | nil => cases hf
  | cons first fields ih =>
    obtain ⟨hfirst, hrest⟩ := h
    rcases List.mem_cons.mp hf with rfl | hf
    · exact hfirst ▸ hrest.le
    · exact ih hrest hf

theorem Tiles.length_writeFields (h : Tiles fields p q) (s : σ) :
    p + (writeFields fields s).length = q := by
  induction fields generalizing p with
  | nil => exact h
  | cons field fields ih =>
    rw [writeFields, List.flatMap_cons, List.length_append, FixedFormat.length_write,
      ← Nat.add_assoc]
    exact ih h.2

theorem Tiles.length_bytes {bs : List UInt8} (h : Tiles fields p bs.length)
    (hf : field ∈ fields) : (field.bytes bs).length = field.format.width := by
  have := h.offset_add_le hf
  rw [RecordField.bytes, List.length_take, List.length_drop]
  omega

/-- The fields stand at their offsets. -/
theorem Tiles.bytes_append {pre : List UInt8} (h : Tiles fields pre.length q)
    (hf : field ∈ fields) (s : σ) :
    field.bytes (pre ++ writeFields fields s) = field.format.write (field.value s) := by
  induction fields generalizing pre with
  | nil => cases hf
  | cons first fields ih =>
    obtain ⟨hfirst, hrest⟩ := h
    rw [writeFields, List.flatMap_cons, ← List.append_assoc]
    rcases List.mem_cons.mp hf with rfl | hf
    · rw [RecordField.bytes, hfirst, List.append_assoc, List.drop_left,
        List.take_left' (FixedFormat.length_write ..)]
    · exact ih (by simpa using hrest) hf

/-- **A record written field by field has each field at its offset.** -/
theorem Tiles.bytes_writeFields (h : Tiles fields 0 q) (hf : field ∈ fields) (s : σ) :
    field.bytes (writeFields fields s) = field.format.write (field.value s) :=
  Tiles.bytes_append (q := q) (by exact h : Tiles fields ([] : List UInt8).length q) hf s

/-- **A byte string is cut at the offsets.** -/
theorem Tiles.flatMap_bytes {bs : List UInt8} (h : Tiles fields p bs.length) :
    fields.flatMap (RecordField.bytes · bs) = bs.drop p := by
  induction fields generalizing p with
  | nil =>
    obtain rfl : p = bs.length := h
    rw [List.flatMap_nil, List.drop_length]
  | cons field fields ih =>
    obtain ⟨rfl, hrest⟩ := h
    rw [List.flatMap_cons, ih hrest, RecordField.bytes, ← List.drop_drop, List.take_append_drop]

/-- A record whose fields are read from the offsets is written as it was. -/
theorem Tiles.writeFields_eq {bs : List UInt8} (h : Tiles fields 0 bs.length) {s : σ}
    (hf : ∀ field ∈ fields, field.format.write (field.value s) = field.bytes bs) :
    writeFields fields s = bs := by
  rw [writeFields, List.flatMap_congr hf, h.flatMap_bytes, List.drop_zero]

end Layout
