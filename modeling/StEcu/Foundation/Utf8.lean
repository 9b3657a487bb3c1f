import Mathlib.Data.List.Basic
import Mathlib.Data.Nat.Digits.Defs

/-!
# Strings as UTF-8 byte strings

`utf8` gives the bytes of a string and `fromUtf8` reads bytes back, failing on bytes that are not
valid UTF-8. They are inverse to each other where `fromUtf8` succeeds. A character below 128 is one
byte, and only such characters have bytes below 128.
-/

/-- The UTF-8 bytes of a string. -/
def utf8 (s : String) : List UInt8 := s.toUTF8.data.toList

/-- The string with the given UTF-8 bytes, if they are valid UTF-8. -/
def fromUtf8 (bs : List UInt8) : Option String := String.fromUTF8? ⟨bs.toArray⟩

@[simp] theorem fromUtf8_utf8 (s : String) : fromUtf8 (utf8 s) = some s := by
  have hs : (⟨(utf8 s).toArray⟩ : ByteArray) = s.toByteArray := by simp [utf8]
  rw [fromUtf8, hs, String.fromUTF8?, dif_pos s.isValidUTF8]
  rfl

theorem utf8_of_fromUtf8 {bs : List UInt8} {s : String} (h : fromUtf8 bs = some s) :
    utf8 s = bs := by
  rw [fromUtf8, String.fromUTF8?] at h
  split at h
  · obtain rfl := Option.some.inj h
    rfl
  · cases h

/-! ### Lengths -/

theorem length_utf8 (s : String) : (utf8 s).length = s.utf8ByteSize := by
  rw [utf8, ← String.size_toByteArray]
  rfl

@[simp] theorem length_utf8_append (s t : String) :
    (utf8 (s ++ t)).length = (utf8 s).length + (utf8 t).length := by
  rw [length_utf8, length_utf8, length_utf8, String.utf8ByteSize_append]

/-- A character takes at most four bytes. -/
theorem length_utf8_ofList_le (l : List Char) : (utf8 (String.ofList l)).length ≤ 4 * l.length := by
  induction l with
  | nil => exact Nat.le_refl 0
  | cons c l ih =>
    have hc := c.utf8Size_le_four
    rw [String.ofList_cons, length_utf8_append, length_utf8 (String.singleton c),
      String.utf8ByteSize_singleton, List.length_cons]
    omega

theorem length_utf8_le (s : String) : (utf8 s).length ≤ 4 * s.length := by
  have h := length_utf8_ofList_le s.toList
  rwa [String.ofList_toList, String.length_toList] at h

/-- A number below a power of ten has at most so many digits. -/
theorem length_utf8_toString_le {n k : ℕ} (hk : 0 < k) (h : n < 10 ^ k) :
    (utf8 (toString n)).length ≤ 4 * k :=
  (length_utf8_le _).trans (Nat.mul_le_mul_left 4 (Nat.repr_length n k hk h))

/-! ### Characters of one byte -/

/-- The bytes are those of the characters. -/
theorem utf8_eq_flatMap (s : String) : utf8 s = s.toList.flatMap String.utf8EncodeChar := by
  have hs : s.toByteArray = (s.toList.flatMap String.utf8EncodeChar).toByteArray := by
    rw [← String.utf8Encode_toList, List.utf8Encode]
  rw [utf8, String.toUTF8, hs, List.data_toByteArray]

/-- A character below 128 is one byte. -/
theorem utf8EncodeChar_of_lt {c : Char} (h : c.toNat < 128) :
    String.utf8EncodeChar c = [UInt8.ofNat c.toNat] := by
  unfold String.utf8EncodeChar
  exact if_pos (Nat.le_of_lt_succ h)

/-- The bytes of the other characters are not below 128. -/
theorem le_of_mem_utf8EncodeChar {c : Char} (h : 128 ≤ c.toNat) :
    ∀ b ∈ String.utf8EncodeChar c, 128 ≤ b.toNat := by
  intro b hb
  have hsmall : ¬ c.val.toNat ≤ 0x7F := Nat.not_le.mpr h
  have hbyte (x k n : ℕ) (hk : 128 ≤ k) (hn : 0 < n) (hkn : k + n ≤ 256)
    (hx : b = UInt8.ofNat (x % n + k)) : 128 ≤ b.toNat := by
    have := Nat.mod_lt x hn
    rw [hx, UInt8.toNat_ofNat_of_lt' (by simp only [UInt8.size]; omega)]
    omega
  unfold String.utf8EncodeChar at hb
  dsimp only at hb
  rw [if_neg hsmall] at hb
  split_ifs at hb <;> simp only [List.mem_cons, List.not_mem_nil, or_false] at hb
  · rcases hb with hb | hb <;> exact hbyte _ _ _ (by decide) (by decide) (by decide) hb
  · rcases hb with hb | hb | hb <;> exact hbyte _ _ _ (by decide) (by decide) (by decide) hb
  · rcases hb with hb | hb | hb | hb <;> exact hbyte _ _ _ (by decide) (by decide) (by decide) hb

/-- A string of characters below 128 has a byte for each. -/
theorem utf8_of_lt {s : String} (h : ∀ c ∈ s.toList, c.toNat < 128) :
    utf8 s = s.toList.map fun c => UInt8.ofNat c.toNat := by
  rw [utf8_eq_flatMap, List.map_eq_flatMap]
  exact List.flatMap_congr fun c hc => utf8EncodeChar_of_lt (h c hc)

/-- Where all bytes are below 128, all characters are. -/
theorem lt_of_utf8 {s : String} (h : ∀ b ∈ utf8 s, b.toNat < 128) :
    ∀ c ∈ s.toList, c.toNat < 128 := by
  intro c hc
  by_contra hlarge
  obtain ⟨b, hb⟩ := List.exists_mem_of_ne_nil _ (String.utf8EncodeChar_ne_nil (c := c))
  have hmem : b ∈ utf8 s := by
    rw [utf8_eq_flatMap]
    exact List.mem_flatMap.mpr ⟨c, hc, hb⟩
  exact absurd (h b hmem) (Nat.not_lt.mpr (le_of_mem_utf8EncodeChar (Nat.not_lt.mp hlarge) b hb))
