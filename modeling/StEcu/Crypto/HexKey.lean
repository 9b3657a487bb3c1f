import StEcu.Crypto.FlashAuth

/-!
# The grammar of the hexadecimal key

The public key of the build is written in hexadecimal (`parse_hex_32_bytes` in `src/transport.rs`).
The parser takes the trimmed string in chunks of two bytes and reads each of them as a number. The
number of a chunk may have a plus sign in place of its first digit.

## Main definitions

* `IsHexKey`, `lowerHex`: 64 hexadecimal digits, and the digits of a byte string.
* `HexKeyRead`: the parser accepts the strings of 64 digits and reads these digits.
* `SignedHexKey`: a string of 64 characters with a plus sign in place of a digit.

## Main results

* `isSome_parseHex32Bytes_iff`: what the parser accepts.
* `hex_key_iff`: the parser keeps to its grammar but for the strings with a sign.
-/

namespace StEcu

/-- A hexadecimal digit, in either case. -/
def isHexDigit (c : Char) : Bool :=
  '0' ≤ c && c ≤ '9' || 'a' ≤ c && c ≤ 'f' || 'A' ≤ c && c ≤ 'F'

/-- Exactly 64 hexadecimal digits. -/
structure IsHexKey (t : String) : Prop where
  length : t.toList.length = 64
  digits : ∀ c ∈ t.toList, isHexDigit c = true

/-- The digits of a byte string, in lower case. -/
def lowerHex (bytes : Bytes) : List Char :=
  bytes.flatMap fun b => [Nat.digitChar (b.toNat / 16), Nat.digitChar (b.toNat % 16)]

/-- The parser reads the trimmed string exactly where that is 64 digits, and gives the bytes that
have these digits. -/
structure HexKeyRead (s : String) : Prop where
  accepts : (∃ bytes, parseHex32Bytes s = some bytes) ↔ IsHexKey (trimmed s)
  digits : ∀ bytes, parseHex32Bytes s = some bytes →
    lowerHex bytes = (trimmed s).toList.map Char.toLower

/-! ### Chunks -/

/-- Two characters that stand for a number: two digits, or a plus sign and a digit. -/
structure IsNumber (chunk : Char × Char) : Prop where
  first : chunk.1 = '+' ∨ isHexDigit chunk.1 = true
  second : isHexDigit chunk.2 = true

/-- The characters of the chunks. -/
def chars (chunks : List (Char × Char)) : List Char :=
  chunks.flatMap fun chunk => [chunk.1, chunk.2]

/-- A string of 32 numbers, with a sign in one of them. -/
def SignedHexKey (t : String) : Prop := ∃ chunks, t.toList = chars chunks ∧ chunks.length = 32 ∧
  (∀ chunk ∈ chunks, IsNumber chunk) ∧ ∃ chunk ∈ chunks, chunk.1 = '+'

/-- The byte of an ASCII character. -/
def byteOf (c : Char) : UInt8 := UInt8.ofNat c.toNat

theorem hexDigit_table : ∀ n < 128, (hexDigit (byteOf (Char.ofNat n))).isSome =
    isHexDigit (Char.ofNat n) ∧ (byteOf (Char.ofNat n) = 0x2B ↔ Char.ofNat n = '+') ∧
    ∀ d ∈ hexDigit (byteOf (Char.ofNat n)),
      d < 16 ∧ Nat.digitChar d.toNat = (Char.ofNat n).toLower := by
  decide +kernel

section Characters

variable {c c₁ c₂ : Char} {b b₁ b₂ d v : UInt8}

/-- What the table says of a character. -/
theorem hexDigit_byteOf (hc : c.toNat < 128) : (hexDigit (byteOf c)).isSome = isHexDigit c ∧
    (byteOf c = 0x2B ↔ c = '+') ∧
    ∀ d ∈ hexDigit (byteOf c), d < 16 ∧ Nat.digitChar d.toNat = c.toLower := by
  have h := hexDigit_table c.toNat hc
  rwa [Char.ofNat_toNat] at h

theorem lt_of_isHexDigit (h : isHexDigit c = true) : c.toNat < 128 := by
  simp only [isHexDigit, Bool.or_eq_true, Bool.and_eq_true, decide_eq_true_eq, Char.le_def,
    UInt32.le_iff_toNat_le] at h
  rw [Char.toNat]
  rcases h with (⟨-, h⟩ | ⟨-, h⟩) | ⟨-, h⟩ <;> exact h.trans_lt (by decide)

theorem lt_of_hexDigit (h : hexDigit b = some d) : b.toNat < 128 := by
  simp only [hexDigit, UInt8.le_iff_toNat_le] at h
  split_ifs at h with h₁ h₂ h₃
  · exact h₁.2.trans_lt (by decide)
  · exact h₂.2.trans_lt (by decide)
  · exact h₃.2.trans_lt (by decide)

/-- The bytes of a chunk that is read are those of characters below 128. -/
theorem lt_of_hexPair (h : hexPair b₁ b₂ = some v) : b₁.toNat < 128 ∧ b₂.toNat < 128 := by
  rw [hexPair] at h
  split_ifs at h with hplus
  · rw [hplus]
    exact ⟨by decide, lt_of_hexDigit h⟩
  · split at h
    · next h₁ h₂ => exact ⟨lt_of_hexDigit h₁, lt_of_hexDigit h₂⟩
    · cases h

theorem isSome_hexPair_iff (h₁ : c₁.toNat < 128) (h₂ : c₂.toNat < 128) :
    (hexPair (byteOf c₁) (byteOf c₂)).isSome = true ↔ IsNumber (c₁, c₂) := by
  rw [hexPair]
  by_cases hplus : byteOf c₁ = 0x2B
  · rw [if_pos hplus, (hexDigit_byteOf h₂).1]
    exact ⟨fun h => ⟨.inl ((hexDigit_byteOf h₁).2.1.mp hplus), h⟩, IsNumber.second⟩
  · have hne : c₁ ≠ '+' := fun h => hplus ((hexDigit_byteOf h₁).2.1.mpr h)
    have hnumber : IsNumber (c₁, c₂) ↔ isHexDigit c₁ = true ∧ isHexDigit c₂ = true :=
      ⟨fun h => ⟨h.first.resolve_left hne, h.second⟩, fun h => ⟨.inr h.1, h.2⟩⟩
    rw [if_neg hplus, hnumber, ← (hexDigit_byteOf h₁).1, ← (hexDigit_byteOf h₂).1]
    cases hexDigit (byteOf c₁) <;> cases hexDigit (byteOf c₂) <;> simp

/-- The digits of a number of two digits. -/
theorem digits_of_hexPair (h₁ : isHexDigit c₁ = true) (h₂ : isHexDigit c₂ = true)
    (h : hexPair (byteOf c₁) (byteOf c₂) = some v) :
    [Nat.digitChar (v.toNat / 16), Nat.digitChar (v.toNat % 16)] = [c₁.toLower, c₂.toLower] := by
  have hlt₁ := lt_of_isHexDigit h₁
  have hlt₂ := lt_of_isHexDigit h₂
  have hplus : byteOf c₁ ≠ 0x2B := by
    rw [Ne, (hexDigit_byteOf hlt₁).2.1]
    rintro rfl
    cases h₁
  rw [hexPair, if_neg hplus] at h
  split at h
  · next d₁ d₂ hd₁ hd₂ =>
    obtain rfl := Option.some.inj h
    obtain ⟨hd₁, hchar₁⟩ := (hexDigit_byteOf hlt₁).2.2 d₁ hd₁
    obtain ⟨hd₂, hchar₂⟩ := (hexDigit_byteOf hlt₂).2.2 d₂ hd₂
    rw [UInt8.lt_iff_toNat_lt] at hd₁ hd₂
    change d₁.toNat < 16 at hd₁
    change d₂.toNat < 16 at hd₂
    have hvalue : (d₁ * 16 + d₂).toNat = d₁.toNat * 16 + d₂.toNat := by
      rw [UInt8.toNat_add, UInt8.toNat_mul]
      change (d₁.toNat * 16 % 256 + d₂.toNat) % 256 = _
      omega
    rw [hvalue, show (d₁.toNat * 16 + d₂.toNat) / 16 = d₁.toNat by omega,
      show (d₁.toNat * 16 + d₂.toNat) % 16 = d₂.toNat by omega, hchar₁, hchar₂]
  · cases h

end Characters

/-! ### Strings -/

section Strings

variable {chunks : List (Char × Char)}

theorem IsNumber.lt {chunk : Char × Char} (h : IsNumber chunk) :
    chunk.1.toNat < 128 ∧ chunk.2.toNat < 128 := by
  refine ⟨?_, lt_of_isHexDigit h.second⟩
  rcases h.first with hplus | hdigit
  · rw [hplus]
    decide
  · exact lt_of_isHexDigit hdigit

theorem length_chars (chunks : List (Char × Char)) :
    (chars chunks).length = 2 * chunks.length := by
  induction chunks with
  | nil => rfl
  | cons chunk chunks ih =>
    change (chars chunks).length + 2 = 2 * (chunks.length + 1)
    omega

/-- What is true of the characters of chunks. -/
theorem forall_mem_chars {P : Char → Prop} :
    (∀ c ∈ chars chunks, P c) ↔ ∀ chunk ∈ chunks, P chunk.1 ∧ P chunk.2 := by
  simp only [chars, List.forall_mem_flatMap, List.forall_mem_cons, List.not_mem_nil,
    IsEmpty.forall_iff, implies_true, and_true]

/-- A list of even length is made of chunks. -/
theorem exists_chars_eq {l : List Char} {n : ℕ} (h : l.length = 2 * n) :
    ∃ chunks, l = chars chunks ∧ chunks.length = n := by
  induction n generalizing l with
  | zero => exact ⟨[], List.eq_nil_of_length_eq_zero h, rfl⟩
  | succ n ih =>
    match l, h with
    | c₁ :: c₂ :: rest, h =>
      obtain ⟨chunks, rfl, hlength⟩ := @ih rest (by simp at h; omega)
      exact ⟨(c₁, c₂) :: chunks, rfl, by rw [List.length_cons, hlength]⟩
    | [_], h => simp at h; omega
    | [], h => simp at h

/-- Chunks are read where each of them is a number. -/
theorem isSome_hexPairs_iff (h : ∀ c ∈ chars chunks, c.toNat < 128) :
    (hexPairs ((chars chunks).map byteOf)).isSome = true ↔ ∀ chunk ∈ chunks, IsNumber chunk := by
  induction chunks with
  | nil => simp [chars, hexPairs]
  | cons chunk chunks ih =>
    rw [forall_mem_chars, List.forall_mem_cons] at h
    obtain ⟨⟨hfirst, hsecond⟩, hrest⟩ := h
    rw [List.forall_mem_cons, ← ih (forall_mem_chars.mpr hrest),
      ← isSome_hexPair_iff hfirst hsecond]
    change (hexPairs (byteOf chunk.1 :: byteOf chunk.2 ::
      (chars chunks).map byteOf)).isSome = true ↔ _
    rw [hexPairs]
    cases hexPair (byteOf chunk.1) (byteOf chunk.2) <;>
      cases hexPairs ((chars chunks).map byteOf) <;> simp

/-- The digits of chunks of two digits. -/
theorem lowerHex_of_hexPairs (h : ∀ c ∈ chars chunks, isHexDigit c = true) {bytes : Bytes}
    (hread : hexPairs ((chars chunks).map byteOf) = some bytes) :
    lowerHex bytes = (chars chunks).map Char.toLower := by
  induction chunks generalizing bytes with
  | nil =>
    obtain rfl := Option.some.inj hread
    rfl
  | cons chunk chunks ih =>
    rw [forall_mem_chars, List.forall_mem_cons] at h
    obtain ⟨⟨hfirst, hsecond⟩, hrest⟩ := h
    change hexPairs (byteOf chunk.1 :: byteOf chunk.2 :: (chars chunks).map byteOf) = _ at hread
    rw [hexPairs] at hread
    split at hread
    · next v rest hv hbytes =>
      obtain rfl := Option.some.inj hread
      have hdigits := digits_of_hexPair hfirst hsecond hv
      have hlower := ih (forall_mem_chars.mpr hrest) hbytes
      rw [lowerHex] at hlower
      rw [lowerHex, List.flatMap_cons, hdigits, hlower]
      rfl
    · cases hread

/-- Chunks that are read are those of characters below 128. -/
theorem lt_of_hexPairs {bs out : Bytes} (heven : bs.length % 2 = 0) (h : hexPairs bs = some out) :
    ∀ b ∈ bs, b.toNat < 128 := by
  induction bs using hexPairs.induct generalizing out with
  | case1 b₁ b₂ rest v bytes hrest hv ih =>
    obtain ⟨h₁, h₂⟩ := lt_of_hexPair hv
    have hbytes := ih (by simp at heven; omega) hrest
    intro b hb
    simp only [List.mem_cons] at hb
    rcases hb with rfl | rfl | hb
    · exact h₁
    · exact h₂
    · exact hbytes b hb
  | case2 b₁ b₂ rest hnone =>
    rw [hexPairs] at h
    split at h
    · next v bytes hv hrest => exact (hnone v bytes hv hrest).elim
    · cases h
  | case3 bs hshort =>
    match bs, heven, hshort with
    | [], _, _ => exact nofun
    | [_], heven, _ => simp at heven
    | b₁ :: b₂ :: rest, _, hshort => exact (hshort b₁ b₂ rest rfl).elim

/-- **What the parser accepts**: 32 numbers of two characters. -/
theorem isSome_parseHex32Bytes_iff (s : String) : (parseHex32Bytes s).isSome = true ↔
    ∃ chunks, (trimmed s).toList = chars chunks ∧ chunks.length = 32 ∧
      ∀ chunk ∈ chunks, IsNumber chunk := by
  rw [parseHex32Bytes]
  constructor
  · intro h
    split_ifs at h with hlength
    · cases h
    · rw [not_not] at hlength
      obtain ⟨bytes, hbytes⟩ := Option.isSome_iff_exists.mp h
      have hlt := lt_of_utf8 (lt_of_hexPairs (by rw [hlength]) hbytes)
      have hutf8 : utf8 (trimmed s) = (trimmed s).toList.map byteOf := utf8_of_lt hlt
      rw [hutf8, List.length_map] at hlength
      obtain ⟨chunks, hchars, hcount⟩ := exists_chars_eq (n := 32) hlength
      rw [hutf8, hchars, isSome_hexPairs_iff (hchars ▸ hlt)] at h
      exact ⟨chunks, hchars, hcount, h⟩
  · rintro ⟨chunks, hchars, hcount, hnumbers⟩
    have hlt : ∀ c ∈ (trimmed s).toList, c.toNat < 128 := by
      rw [hchars]
      exact forall_mem_chars.mpr fun chunk hchunk => (hnumbers chunk hchunk).lt
    have hutf8 : utf8 (trimmed s) = (trimmed s).toList.map byteOf := utf8_of_lt hlt
    rw [hutf8, if_neg (by rw [List.length_map, hchars, length_chars, hcount]; decide), hchars,
      isSome_hexPairs_iff (hchars ▸ hlt)]
    exact hnumbers

/-- A key of 64 digits is 32 numbers without a sign. -/
theorem isHexKey_iff {t : String} (hchars : t.toList = chars chunks) (hcount : chunks.length = 32)
    (hnumbers : ∀ chunk ∈ chunks, IsNumber chunk) :
    IsHexKey t ↔ ∀ chunk ∈ chunks, chunk.1 ≠ '+' := by
  constructor
  · rintro ⟨-, hdigits⟩ chunk hchunk hplus
    have hdigit := (forall_mem_chars.mp (hchars ▸ hdigits) chunk hchunk).1
    rw [hplus] at hdigit
    cases hdigit
  · intro hplain
    refine ⟨by rw [hchars, length_chars, hcount], ?_⟩
    rw [hchars, forall_mem_chars]
    intro chunk hchunk
    have hnumber := hnumbers chunk hchunk
    exact ⟨hnumber.first.resolve_left (hplain chunk hchunk), hnumber.second⟩

/-- The numbers of a key of 64 digits. -/
theorem IsHexKey.exists_chars {t : String} (h : IsHexKey t) :
    ∃ chunks, t.toList = chars chunks ∧ chunks.length = 32 ∧ ∀ chunk ∈ chunks, IsNumber chunk := by
  obtain ⟨chunks, hchars, hcount⟩ := exists_chars_eq (n := 32) h.length
  refine ⟨chunks, hchars, hcount, fun chunk hchunk => ?_⟩
  obtain ⟨hfirst, hsecond⟩ := forall_mem_chars.mp (hchars ▸ h.digits) chunk hchunk
  exact ⟨.inr hfirst, hsecond⟩

/-- The digits of a key are read as they stand. -/
theorem IsHexKey.lowerHex_eq {s : String} (h : IsHexKey (trimmed s)) {bytes : Bytes}
    (hread : parseHex32Bytes s = some bytes) :
    lowerHex bytes = (trimmed s).toList.map Char.toLower := by
  obtain ⟨chunks, hchars, -, -⟩ := h.exists_chars
  have hutf8 : utf8 (trimmed s) = (trimmed s).toList.map byteOf :=
    utf8_of_lt fun c hc => lt_of_isHexDigit (h.digits c hc)
  rw [parseHex32Bytes] at hread
  split_ifs at hread
  rw [hutf8, hchars] at hread
  rw [hchars]
  exact lowerHex_of_hexPairs (hchars ▸ h.digits) hread

end Strings

/-- **When the parser keeps to the grammar**: where the trimmed string is not 32 numbers with a sign
among them. -/
theorem hex_key_iff (s : String) : HexKeyRead s ↔ ¬ SignedHexKey (trimmed s) := by
  have hsome : (∃ bytes, parseHex32Bytes s = some bytes) ↔ _ :=
    Option.isSome_iff_exists.symm.trans (isSome_parseHex32Bytes_iff s)
  constructor
  · rintro ⟨haccepts, -⟩ ⟨chunks, hchars, hcount, hnumbers, chunk, hchunk, hplus⟩
    have hkey := haccepts.mp (hsome.mpr ⟨chunks, hchars, hcount, hnumbers⟩)
    exact (isHexKey_iff hchars hcount hnumbers).mp hkey chunk hchunk hplus
  · intro hsigned
    have hkey : (∃ bytes, parseHex32Bytes s = some bytes) → IsHexKey (trimmed s) := by
      intro h
      obtain ⟨chunks, hchars, hcount, hnumbers⟩ := hsome.mp h
      refine (isHexKey_iff hchars hcount hnumbers).mpr fun chunk hchunk hplus => hsigned ?_
      exact ⟨chunks, hchars, hcount, hnumbers, chunk, hchunk, hplus⟩
    refine ⟨⟨hkey, fun h => hsome.mpr h.exists_chars⟩, fun bytes hread => ?_⟩
    exact (hkey ⟨bytes, hread⟩).lowerHex_eq hread

/-- A key with a sign in place of its first digit. -/
def signedKey : String := "+a00000000000000000000000000000000000000000000000000000000000000"

/-- The key is accepted, although its first character is no digit. -/
theorem signed_key_accepted : parseHex32Bytes signedKey = some (0x0A :: List.replicate 31 0) ∧
    ¬ HexKeyRead signedKey := by
  have hread : parseHex32Bytes signedKey = some (0x0A :: List.replicate 31 0) := by
    decide +kernel
  refine ⟨hread, fun h => ?_⟩
  have hdigit := (h.accepts.mp ⟨_, hread⟩).digits '+' (by decide +kernel)
  cases hdigit

end StEcu
