import StEcu.Foundation.BigEndian

/-!
# AES-256 in Galois/counter mode

The block cipher with 256-bit keys, and the authenticated mode for nonces of 12 bytes: a message is
masked with the encryptions of successive counter blocks, and a tag of 16 bytes, a polynomial hash
of the associated data and of the masked message, is put behind it.

That decrypting undoes encrypting needs nothing of the cipher but that it is a function: the mask is
the same both times, and so is the tag.

## Main definitions

* `Aes.encryptBlock`: the block cipher.
* `AesGcm.keystream`, `AesGcm.ghash`, `AesGcm.tag`.
* `AesGcm.encrypt`, `AesGcm.decrypt`.

## Main results

* `AesGcm.length_encrypt`, `AesGcm.decrypt_encrypt`.
-/

/-- A byte string combined with another by exclusive or, as far as that goes. -/
def xorBytes : List UInt8 → List UInt8 → List UInt8
  | x :: xs, y :: ys => (x ^^^ y) :: xorBytes xs ys
  | xs, _ => xs

@[simp] theorem length_xorBytes (xs ys : List UInt8) : (xorBytes xs ys).length = xs.length := by
  fun_induction xorBytes xs ys with
  | case1 x xs y ys ih => rw [List.length_cons, List.length_cons, ih]
  | case2 xs ys => rfl

@[simp] theorem xorBytes_xorBytes (xs ys : List UInt8) : xorBytes (xorBytes xs ys) ys = xs := by
  fun_induction xorBytes xs ys with
  | case1 x xs y ys ih =>
    rw [xorBytes, ih, UInt8.xor_assoc, UInt8.xor_self, UInt8.xor_zero]
  | case2 xs ys h => rw [xorBytes.eq_2 xs ys h]

namespace Aes

/-! ### The block cipher -/

/-- Multiplication by `x` in the field of 256 elements, whose elements are numbers here. -/
def xtime (a : ℕ) : ℕ := if 2 * a < 256 then 2 * a else (2 * a) ^^^ 0x11B

/-- Multiplication by the low bits of an element, as many as a counter says. -/
def mulBits : ℕ → ℕ → ℕ → ℕ
  | 0, _, _ => 0
  | n + 1, a, b => (b % 2 * a) ^^^ mulBits n (xtime a) (b / 2)

/-- The product of two bytes as polynomials. -/
def mul (a b : ℕ) : ℕ := mulBits 8 a b

/-- The inverse in the field, by raising to the power 254; zero for zero. -/
def inv (a : ℕ) : ℕ :=
  let a2 := mul a a
  let a4 := mul a2 a2
  let a8 := mul a4 a4
  let a16 := mul a8 a8
  let a32 := mul a16 a16
  let a64 := mul a32 a32
  let a128 := mul a64 a64
  mul a2 (mul a4 (mul a8 (mul a16 (mul a32 (mul a64 a128)))))

/-- A byte rotated to the left. -/
def rotl (a n : ℕ) : ℕ := a * 2 ^ n % 256 + a / 2 ^ (8 - n)

/-- The substitution box. -/
def sbox (a : UInt8) : UInt8 :=
  let b := inv a.toNat
  UInt8.ofNat (b ^^^ rotl b 1 ^^^ rotl b 2 ^^^ rotl b 3 ^^^ rotl b 4 ^^^ 0x63)

/-- Each byte of the state through the S-box. -/
def subBytes (s : List UInt8) : List UInt8 := s.map sbox

/-- The rows of the state shifted, the state being kept column by column. -/
def shiftRows (s : List UInt8) : List UInt8 :=
  [0, 5, 10, 15, 4, 9, 14, 3, 8, 13, 2, 7, 12, 1, 6, 11].map fun i => s.getD i 0

/-- One column of the state times the matrix of the cipher. -/
def mixColumn (a b c d : ℕ) : List UInt8 :=
  [mul a 2 ^^^ mul b 3 ^^^ c ^^^ d, a ^^^ mul b 2 ^^^ mul c 3 ^^^ d,
    a ^^^ b ^^^ mul c 2 ^^^ mul d 3, mul a 3 ^^^ b ^^^ c ^^^ mul d 2].map UInt8.ofNat

/-- Each column of the state mixed. -/
def mixColumns (s : List UInt8) : List UInt8 :=
  (List.range 4).flatMap fun i =>
    let row j := (s.getD (4 * i + j) 0).toNat
    mixColumn (row 0) (row 1) (row 2) (row 3)

/-- A word of the key turned by one byte. -/
def rotWord (w : List UInt8) : List UInt8 := w.drop 1 ++ w.take 1

/-- The next 32 bytes of the key schedule. -/
def nextKeyGroup (rcon : ℕ) (group : List UInt8) : List UInt8 :=
  let word i := slice group (4 * i) (4 * i + 4)
  let w0 := xorBytes (xorBytes (word 0) (subBytes (rotWord (word 7)))) [UInt8.ofNat rcon, 0, 0, 0]
  let w1 := xorBytes (word 1) w0
  let w2 := xorBytes (word 2) w1
  let w3 := xorBytes (word 3) w2
  let w4 := xorBytes (word 4) (subBytes w3)
  let w5 := xorBytes (word 5) w4
  let w6 := xorBytes (word 6) w5
  let w7 := xorBytes (word 7) w6
  w0 ++ w1 ++ w2 ++ w3 ++ w4 ++ w5 ++ w6 ++ w7

/-- The key schedule, for a number of groups after the key itself. -/
def keySchedule : ℕ → ℕ → List UInt8 → List UInt8
  | 0, _, group => group
  | n + 1, rcon, group => group ++ keySchedule n (xtime rcon) (nextKeyGroup rcon group)

/-- The key of a round. -/
def roundKey (schedule : List UInt8) (round : ℕ) : List UInt8 :=
  slice schedule (16 * round) (16 * round + 16)

/-- The encryption of a block of 16 bytes under a key of 32. -/
def encryptBlock (key block : List UInt8) : List UInt8 :=
  let schedule := keySchedule 7 1 key
  let middle := (List.range 13).foldl
    (fun s i => xorBytes (mixColumns (shiftRows (subBytes s))) (roundKey schedule (i + 1)))
    (xorBytes block (roundKey schedule 0))
  xorBytes (shiftRows (subBytes middle)) (roundKey schedule 14)

end Aes

namespace AesGcm

/-! ### The mode -/

/-- One step of the multiplication of two blocks for each bit of the first, from the highest. -/
def mulBlockBits : ℕ → ℕ → ℕ → ℕ → ℕ
  | 0, _, z, _ => z
  | n + 1, x, z, v =>
    mulBlockBits n x (if x.testBit n then z ^^^ v else z)
      (if v.testBit 0 then (v >>> 1) ^^^ (0xE1 <<< 120) else v >>> 1)

/-- The product of two blocks in the field of GHASH. -/
def mulBlock (x y : ℕ) : ℕ := mulBlockBits 128 x 0 y

/-- The blocks of a byte string, the last one filled up with zeros. -/
def blocks (bytes : List UInt8) : List ℕ :=
  (List.range ((bytes.length + 15) / 16)).map fun i =>
    let block := slice bytes (16 * i) (16 * i + 16)
    ofBe (block ++ List.replicate (16 - block.length) 0)

/-- The polynomial hash of the associated data and a masked message. -/
def ghash (h : ℕ) (aad masked : List UInt8) : ℕ :=
  (blocks aad ++ blocks masked ++ [(8 * aad.length) <<< 64 + 8 * masked.length]).foldl
    (fun y block => mulBlock (y ^^^ block) h) 0

/-- The block of a counter, behind the nonce. -/
def counterBlock (nonce : List UInt8) (i : ℕ) : List UInt8 := nonce ++ beBytes 4 i

/-- The mask of a message of a given length: the counter blocks from the second on, encrypted. -/
def keystream (key nonce : List UInt8) (length : ℕ) : List UInt8 :=
  (List.range ((length + 15) / 16)).flatMap fun i =>
    Aes.encryptBlock key (counterBlock nonce (i + 2))

/-- The tag of a masked message and its associated data. -/
def tag (key nonce masked aad : List UInt8) : List UInt8 :=
  let h := ofBe (Aes.encryptBlock key (List.replicate 16 0))
  beBytes 16 (ghash h aad masked ^^^ ofBe (Aes.encryptBlock key (counterBlock nonce 1)))

/-- The masked message with its tag behind it. -/
def encrypt (key nonce message aad : List UInt8) : List UInt8 :=
  let masked := xorBytes message (keystream key nonce message.length)
  masked ++ tag key nonce masked aad

/-- The message, if the tag is right. -/
def decrypt (key nonce ciphertext aad : List UInt8) : Option (List UInt8) :=
  let length := ciphertext.length - 16
  let masked := ciphertext.take length
  if ciphertext.length < 16 then none
  else if ciphertext.drop length = tag key nonce masked aad then
    some (xorBytes masked (keystream key nonce length))
  else none

variable (key nonce message aad : List UInt8)

@[simp] theorem length_tag (masked : List UInt8) : (tag key nonce masked aad).length = 16 := by
  rw [tag, length_beBytes]

@[simp] theorem length_encrypt :
    (encrypt key nonce message aad).length = message.length + 16 := by
  rw [encrypt, List.length_append, length_xorBytes, length_tag]

/-- **Decrypting undoes encrypting.** -/
theorem decrypt_encrypt : decrypt key nonce (encrypt key nonce message aad) aad = some message := by
  have hlong : ¬ (encrypt key nonce message aad).length < 16 := by
    rw [length_encrypt]
    omega
  have hlen : (encrypt key nonce message aad).length - 16 = message.length := by
    rw [length_encrypt]
    omega
  rw [decrypt, if_neg hlong, hlen, encrypt, List.take_left' (length_xorBytes _ _),
    List.drop_left' (length_xorBytes _ _), if_pos rfl, xorBytes_xorBytes]

/-- A zero block under the zero key, with an empty nonce field and no associated data. -/
example : encrypt (List.replicate 32 0) (List.replicate 12 0) (List.replicate 16 0) [] =
    [0xCE, 0xA7, 0x40, 0x3D, 0x4D, 0x60, 0x6B, 0x6E, 0x07, 0x4E, 0xC5, 0xD3, 0xBA, 0xF3, 0x9D, 0x18,
      0xD0, 0xD1, 0xC8, 0xA7, 0x99, 0x99, 0x6B, 0xF0, 0x26, 0x5B, 0x98, 0xB5, 0xD4, 0x8A, 0xB9,
      0x19] := by
  decide +kernel

end AesGcm
