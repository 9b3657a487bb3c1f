import StEcu.Foundation.BigEndian

/-!
# Readers of byte strings

A reader goes through a byte string from a position and either returns a value and the position
behind it, or rejects its input, or indexes a byte that is not there. Some steps check that the
bytes are there and reject the input otherwise (`get`, `require`, `lengthIs`, `atEnd`); the others
index without a check, as `xs[i]` does in a language that stops the program on a bad index.

Two notions say what a reader does. `SafeAt` says that it never indexes past the end, given how many
bytes are left; `Reads` says that it reads one value back from one byte string, given what follows
that string. Both have one rule for each step, so that a proof about a reader goes through it line
by line.

## Main definitions

* `ByteReader`: readers, with the steps `byte`, `u16`, `u32`, `slice`, `rest`, `get`, `require`,
  `lengthIs`, `hasLength`, `endsAfter`, `atEnd`, `ofOption`, `times`.
* `ByteReader.SafeAt`, `ByteReader.Takes`, `ByteReader.Reads`, `ByteReader.ReadsBehind`.

## Main results

* `ByteReader.SafeAt.run`: a safe reader accepts its input or rejects it.
* `ByteReader.Reads.run`: a reader that reads a value back, up to the end, accepts its input.
-/

/-- Why a reader stops without a value. -/
inductive ReadFault (ε : Type)
  | rejected (error : ε)
  | outOfBounds
  deriving DecidableEq, Repr

/-- A reader of byte strings: from the bytes and a position to a value and the next position. -/
structure ByteReader (ε α : Type) where
  read : List UInt8 → ℕ → Except (ReadFault ε) (α × ℕ)

namespace ByteReader

variable {ε α β : Type}

instance : Monad (ByteReader ε) where
  pure a := ⟨fun _ i => .ok (a, i)⟩
  bind m f := ⟨fun bs i =>
    match m.read bs i with
    | .ok (a, j) => (f a).read bs j
    | .error fault => .error fault⟩

/-- Reads a byte string from its start. -/
def run (m : ByteReader ε α) (bs : List UInt8) : Except (ReadFault ε) α :=
  match m.read bs 0 with
  | .ok (a, _) => .ok a
  | .error fault => .error fault

/-! ### Steps -/

/-- The reader that fails with an error. -/
def reject (e : ε) : ByteReader ε α := ⟨fun _ _ => .error (.rejected e)⟩

/-- A value, or an error if there is none. -/
def ofOption (e : ε) : Option α → ByteReader ε α
  | some a => pure a
  | none => reject e

/-- Whether the whole byte string has a given length. -/
def hasLength (n : ℕ) : ByteReader ε Bool := ⟨fun bs i => .ok (bs.length == n, i)⟩

/-- Whether exactly `n` bytes are left. -/
def endsAfter (n : ℕ) : ByteReader ε Bool := ⟨fun bs i => .ok (bs.length == i + n, i)⟩

/-- Rejects the input unless `n` more bytes are there. -/
def require (n : ℕ) (e : ε) : ByteReader ε Unit := ⟨fun bs i =>
  if bs.length < i + n then .error (.rejected e) else .ok ((), i)⟩

/-- Rejects the input unless it has a given length in all. -/
def lengthIs (n : ℕ) (e : ε) : ByteReader ε Unit := ⟨fun bs i =>
  if bs.length ≠ n then .error (.rejected e) else .ok ((), i)⟩

/-- Rejects the input unless everything has been read. -/
def atEnd (e : ε) : ByteReader ε Unit := ⟨fun bs i =>
  if i ≠ bs.length then .error (.rejected e) else .ok ((), i)⟩

/-- The next byte, rejecting the input where there is none. -/
def get (e : ε) : ByteReader ε UInt8 := ⟨fun bs i =>
  match bs[i]? with
  | some b => .ok (b, i + 1)
  | none => .error (.rejected e)⟩

/-- The next byte, without a check. -/
def byte : ByteReader ε UInt8 := ⟨fun bs i =>
  match bs[i]? with
  | some b => .ok (b, i + 1)
  | none => .error .outOfBounds⟩

/-- The next `n` bytes, without a check. -/
def slice (n : ℕ) : ByteReader ε (List UInt8) := ⟨fun bs i =>
  if i + n ≤ bs.length then .ok ((bs.drop i).take n, i + n) else .error .outOfBounds⟩

/-- All bytes that are left, without a check. -/
def rest : ByteReader ε (List UInt8) := ⟨fun bs i =>
  if i ≤ bs.length then .ok (bs.drop i, bs.length) else .error .outOfBounds⟩

/-- Two bytes as a word. -/
def u16 : ByteReader ε UInt16 := do
  let b₀ ← byte
  let b₁ ← byte
  return u16OfBe [b₀, b₁]

/-- Four bytes as a word. -/
def u32 : ByteReader ε UInt32 := do
  let b₀ ← byte
  let b₁ ← byte
  let b₂ ← byte
  let b₃ ← byte
  return u32OfBe [b₀, b₁, b₂, b₃]

/-- A byte with its sign. -/
def i8 : ByteReader ε ℤ := do
  let b ← byte
  return (b.toNat : ℤ).bmod 256

/-- Two bytes with their sign. -/
def i16 : ByteReader ε ℤ := do
  let w ← u16
  return (w.toNat : ℤ).bmod 65536

/-- Goes past `n` bytes without reading them. -/
def skip (n : ℕ) : ByteReader ε Unit := ⟨fun _ i => .ok ((), i + n)⟩

/-- Reads a number of values one after the other. -/
def times : ℕ → ByteReader ε α → ByteReader ε (List α)
  | 0, _ => pure []
  | n + 1, m => do
    let a ← m
    let as ← times n m
    return a :: as

/-- Reads a vector of values one after the other. -/
def vector (m : ByteReader ε α) : (n : ℕ) → ByteReader ε (Vector α n)
  | 0 => pure #v[]
  | n + 1 => do
    let as ← vector m n
    let a ← m
    return as.push a

/-! ### One step at a time -/

section Read

variable {e : ε} {m : ByteReader ε α} {f : α → ByteReader ε β} {bs : List UInt8} {p n : ℕ}

theorem read_bind_ok {a : α} {q : ℕ} (h : m.read bs p = .ok (a, q)) :
    (m >>= f).read bs p = (f a).read bs q := by
  change (match m.read bs p with
    | .ok (a, q) => (f a).read bs q
    | .error fault => .error fault) = _
  rw [h]

theorem read_bind_error {fault : ReadFault ε} (h : m.read bs p = .error fault) :
    (m >>= f).read bs p = .error fault := by
  change (match m.read bs p with
    | .ok (a, q) => (f a).read bs q
    | .error fault => .error fault) = _
  rw [h]

theorem read_bind (m : ByteReader ε α) (f : α → ByteReader ε β) (bs : List UInt8) (p : ℕ) :
    (m >>= f).read bs p = match m.read bs p with
      | .ok (a, q) => (f a).read bs q
      | .error fault => .error fault := by
  cases h : m.read bs p with
  | ok r => rw [read_bind_ok h]
  | error fault => rw [read_bind_error h]

theorem bind_assoc {γ : Type} (m : ByteReader ε α) (f : α → ByteReader ε β)
    (g : β → ByteReader ε γ) : m >>= f >>= g = m >>= fun a => f a >>= g := by
  suffices hread : (m >>= f >>= g).read = (m >>= fun a => f a >>= g).read from
    congrArg ByteReader.mk hread
  funext bs p
  simp only [read_bind]
  cases m.read bs p <;> rfl

theorem read_pure (a : α) (bs : List UInt8) (p : ℕ) :
    (pure a : ByteReader ε α).read bs p = .ok (a, p) := rfl

theorem read_byte (hp : p < bs.length) : (byte (ε := ε)).read bs p = .ok (bs[p], p + 1) := by
  simp only [byte, List.getElem?_eq_getElem hp]

theorem take_drop_succ (hp : p < bs.length) (n : ℕ) :
    (bs.drop p).take (n + 1) = bs[p] :: (bs.drop (p + 1)).take n := by
  rw [List.drop_eq_getElem_cons hp, List.take_succ_cons]

theorem read_u16 (hp : p + 1 < bs.length) :
    (u16 (ε := ε)).read bs p = .ok (u16OfBe ((bs.drop p).take 2), p + 2) := by
  rw [u16, read_bind_ok (read_byte (by omega)), read_bind_ok (read_byte hp), read_pure,
    take_drop_succ (by omega), take_drop_succ hp, List.take_zero]

theorem read_u32 (hp : p + 3 < bs.length) :
    (u32 (ε := ε)).read bs p = .ok (u32OfBe ((bs.drop p).take 4), p + 4) := by
  rw [u32, read_bind_ok (read_byte (by omega)), read_bind_ok (read_byte (by omega)),
    read_bind_ok (read_byte (by omega)), read_bind_ok (read_byte hp), read_pure,
    take_drop_succ (by omega), take_drop_succ (by omega), take_drop_succ (by omega),
    take_drop_succ hp, List.take_zero]

theorem read_i8 (hp : p < bs.length) :
    (i8 (ε := ε)).read bs p = .ok ((bs[p].toNat : ℤ).bmod 256, p + 1) := by
  rw [i8, read_bind_ok (read_byte hp), read_pure]

theorem read_i16 (hp : p + 1 < bs.length) :
    (i16 (ε := ε)).read bs p =
      .ok (((u16OfBe ((bs.drop p).take 2)).toNat : ℤ).bmod 65536, p + 2) := by
  rw [i16, read_bind_ok (read_u16 hp), read_pure]

theorem read_skip (k : ℕ) : (skip k : ByteReader ε Unit).read bs p = .ok ((), p + k) := rfl

theorem read_get (hp : p < bs.length) : (get e).read bs p = .ok (bs[p], p + 1) := by
  simp only [get, List.getElem?_eq_getElem hp]

theorem read_get_of_le (hp : bs.length ≤ p) : (get e).read bs p = .error (.rejected e) := by
  simp only [get, List.getElem?_eq_none hp]

theorem read_require :
    (require n e).read bs p = if bs.length < p + n then .error (.rejected e) else .ok ((), p) := rfl

theorem read_lengthIs :
    (lengthIs n e).read bs p = if bs.length ≠ n then .error (.rejected e) else .ok ((), p) := rfl

theorem read_atEnd :
    (atEnd e).read bs p = if p ≠ bs.length then .error (.rejected e) else .ok ((), p) := rfl

end Read

/-! ### Staying inside -/

/-- The outcomes of a reader that stays inside `len` bytes and rejects with one error only. -/
inductive Fine (e : ε) (len : ℕ) : Except (ReadFault ε) (α × ℕ) → Prop
  | ok (a : α) {q : ℕ} (h : q ≤ len) : Fine e len (.ok (a, q))
  | rejected : Fine e len (.error (.rejected e))

/-- From position `p`, with at least `n` bytes left, the reader never indexes past the end. -/
def SafeAt (e : ε) (p n : ℕ) (m : ByteReader ε α) : Prop :=
  ∀ bs, p + n ≤ bs.length → Fine e bs.length (m.read bs p)

/-- The reader takes `k` bytes, and does so wherever there are that many. -/
def Takes (k : ℕ) (m : ByteReader ε α) : Prop :=
  ∀ bs p, p + k ≤ bs.length → ∃ a, m.read bs p = .ok (a, p + k)

section Rules

variable {e : ε} {p n k : ℕ} {m : ByteReader ε α} {f : α → ByteReader ε β}

/-- A safe reader accepts its input or rejects it. -/
theorem Fine.run {bs : List UInt8} (h : Fine e bs.length (m.read bs 0)) :
    (∃ a, m.run bs = .ok a) ∨ m.run bs = .error (.rejected e) := by
  rw [ByteReader.run]
  cases hm : m.read bs 0 with
  | ok r => exact .inl ⟨r.1, rfl⟩
  | error fault =>
    rw [hm] at h
    cases h
    exact .inr rfl

theorem SafeAt.run (h : SafeAt e 0 0 m) (bs : List UInt8) :
    (∃ a, m.run bs = .ok a) ∨ m.run bs = .error (.rejected e) :=
  (h bs (Nat.zero_le _)).run

theorem SafeAt.mono (h : SafeAt e p n m) (hn : n ≤ k) : SafeAt e p k m :=
  fun bs hbs => h bs (by omega)

theorem SafeAt.pure (a : α) : SafeAt e p n (pure a : ByteReader ε α) :=
  fun _ hbs => .ok a (by omega)

theorem SafeAt.reject : SafeAt e p n (reject e : ByteReader ε α) := fun _ _ => .rejected

/-- A step that may take any number of bytes. -/
theorem SafeAt.bind (h : SafeAt e p n m) (hf : ∀ q a, SafeAt e q 0 (f a)) :
    SafeAt e p n (m >>= f) := by
  intro bs hbs
  have hfine := h bs hbs
  cases hm : m.read bs p with
  | ok r =>
    rw [hm] at hfine
    cases hfine with
    | ok a hq =>
      rw [read_bind_ok hm]
      exact hf _ a bs hq
  | error fault =>
    rw [hm] at hfine
    cases hfine
    rw [read_bind_error hm]
    exact .rejected

theorem SafeAt.ite {c : Prop} [Decidable c] {m' : ByteReader ε α} (ht : c → SafeAt e p n m)
    (hf : ¬ c → SafeAt e p n m') : SafeAt e p n (if c then m else m') := by
  by_cases hc : c
  · rw [if_pos hc]
    exact ht hc
  · rw [if_neg hc]
    exact hf hc

theorem Takes.safe (h : Takes k m) (hk : k ≤ n) : SafeAt e p n m := by
  intro bs hbs
  obtain ⟨a, ha⟩ := h bs p (by omega)
  rw [ha]
  exact .ok a (by omega)

/-- A step that takes a known number of bytes. -/
theorem Takes.bind (h : Takes k m) (hf : ∀ a, SafeAt e (p + k) n (f a)) :
    SafeAt e p (k + n) (m >>= f) := by
  intro bs hbs
  obtain ⟨a, ha⟩ := h bs p (by omega)
  rw [read_bind_ok ha]
  exact hf a bs (by omega)

theorem Takes.comp {l : ℕ} (h : Takes k m) (hf : ∀ a, Takes l (f a)) :
    Takes (k + l) (m >>= f) := by
  intro bs p hbs
  obtain ⟨a, ha⟩ := h bs p (by omega)
  obtain ⟨b, hb⟩ := hf a bs (p + k) (by omega)
  exact ⟨b, by rw [read_bind_ok ha, hb, Nat.add_assoc]⟩

theorem Takes.pure (a : α) : Takes 0 (pure a : ByteReader ε α) := fun _ _ _ => ⟨a, rfl⟩

theorem Takes.byte : Takes 1 (byte : ByteReader ε UInt8) := fun _ _ hbs => ⟨_, read_byte hbs⟩

theorem Takes.slice (k : ℕ) : Takes k (slice k : ByteReader ε (List UInt8)) :=
  fun _ _ hbs => ⟨_, if_pos hbs⟩

theorem Takes.u16 : Takes 2 (u16 : ByteReader ε UInt16) :=
  .comp .byte fun _ => .comp .byte fun _ => .pure _

theorem Takes.u32 : Takes 4 (u32 : ByteReader ε UInt32) :=
  .comp .byte fun _ => .comp .byte fun _ => .comp .byte fun _ => .comp .byte fun _ => .pure _

/-- Reading `c` values of `k` bytes each. -/
theorem Takes.times (h : Takes k m) (c : ℕ) : Takes (c * k) (times c m) := by
  induction c with
  | zero =>
    rw [Nat.zero_mul]
    exact .pure []
  | succ c ih =>
    rw [Nat.succ_mul, Nat.add_comm]
    exact .comp h fun _ => .comp ih fun _ => .pure _

theorem Takes.vector (h : Takes k m) (c : ℕ) : Takes (c * k) (vector m c) := by
  induction c with
  | zero =>
    rw [Nat.zero_mul]
    exact .pure #v[]
  | succ c ih =>
    rw [Nat.succ_mul]
    exact .comp ih fun _ => .comp h fun _ => .pure _

/-- The same from a position of one byte string. -/
theorem Takes.fine {bs : List UInt8} (h : Takes k m) (hp : p + k ≤ bs.length)
    (hf : ∀ a, Fine e bs.length ((f a).read bs (p + k))) :
    Fine e bs.length ((m >>= f).read bs p) := by
  obtain ⟨a, ha⟩ := h bs p hp
  rw [read_bind_ok ha]
  exact hf a

theorem Fine.require {bs : List UInt8} {g : Unit → ByteReader ε β}
    (hg : p + k ≤ bs.length → Fine e bs.length ((g ()).read bs p)) :
    Fine e bs.length ((require k e >>= g).read bs p) := by
  by_cases hk : bs.length < p + k
  · rw [read_bind_error (read_require.trans (if_pos hk))]
    exact .rejected
  · rw [read_bind_ok (read_require.trans (if_neg hk))]
    exact hg (by omega)

theorem SafeAt.byte {g : UInt8 → ByteReader ε β} (hg : ∀ b, SafeAt e (p + 1) n (g b)) :
    SafeAt e p (n + 1) (byte >>= g) := by
  rw [Nat.add_comm]
  exact Takes.byte.bind hg

theorem SafeAt.u16 {g : UInt16 → ByteReader ε β} (hg : ∀ w, SafeAt e (p + 2) n (g w)) :
    SafeAt e p (n + 2) (u16 >>= g) := by
  rw [Nat.add_comm]
  exact Takes.u16.bind hg

theorem SafeAt.u32 {g : UInt32 → ByteReader ε β} (hg : ∀ w, SafeAt e (p + 4) n (g w)) :
    SafeAt e p (n + 4) (u32 >>= g) := by
  rw [Nat.add_comm]
  exact Takes.u32.bind hg

theorem SafeAt.slice {g : List UInt8 → ByteReader ε β} (hg : ∀ bs, SafeAt e (p + k) n (g bs)) :
    SafeAt e p (k + n) (slice k >>= g) :=
  (Takes.slice k).bind hg

theorem SafeAt.get {g : UInt8 → ByteReader ε β} (hg : ∀ b, SafeAt e (p + 1) 0 (g b)) :
    SafeAt e p n (get e >>= g) := by
  intro bs hbs
  by_cases hp : p < bs.length
  · rw [read_bind_ok (read_get hp)]
    exact hg _ bs hp
  · rw [read_bind_error (read_get_of_le (Nat.le_of_not_lt hp))]
    exact .rejected

theorem SafeAt.require {g : Unit → ByteReader ε β} (hg : SafeAt e p k (g ())) :
    SafeAt e p n (require k e >>= g) := by
  intro bs hbs
  by_cases hk : bs.length < p + k
  · rw [read_bind_error (read_require.trans (if_pos hk))]
    exact .rejected
  · rw [read_bind_ok (read_require.trans (if_neg hk))]
    exact hg bs (by omega)

/-- A check of the whole length, at a known position, says how many bytes are left. -/
theorem SafeAt.lengthIs {g : Unit → ByteReader ε β} {l : ℕ} (hl : l = p + k)
    (hg : SafeAt e p k (g ())) : SafeAt e p n (lengthIs l e >>= g) := by
  intro bs hbs
  by_cases hlen : bs.length ≠ l
  · rw [read_bind_error (read_lengthIs.trans (if_pos hlen))]
    exact .rejected
  · rw [read_bind_ok (read_lengthIs.trans (if_neg hlen))]
    exact hg bs (by omega)

theorem SafeAt.atEnd {g : Unit → ByteReader ε β} (hg : SafeAt e p n (g ())) :
    SafeAt e p n (atEnd e >>= g) := by
  intro bs hbs
  by_cases hend : p ≠ bs.length
  · rw [read_bind_error (read_atEnd.trans (if_pos hend))]
    exact .rejected
  · rw [read_bind_ok (read_atEnd.trans (if_neg hend))]
    exact hg bs hbs

theorem SafeAt.endsAfter {g : Bool → ByteReader ε β} (hg : ∀ b, SafeAt e p n (g b)) :
    SafeAt e p n (endsAfter k >>= g) := fun bs hbs => hg _ bs hbs

/-- A look at the whole length, at a known position: one way says how many bytes are left. -/
theorem SafeAt.hasLength {g : Bool → ByteReader ε β} {l : ℕ} (hl : l = p + k)
    (ht : SafeAt e p k (g true)) (hf : SafeAt e p n (g false)) :
    SafeAt e p n (hasLength l >>= g) := by
  intro bs hbs
  have hread : (ByteReader.hasLength (ε := ε) l).read bs p = .ok (bs.length == l, p) := rfl
  rw [read_bind_ok hread]
  by_cases hlen : bs.length = l
  · rw [beq_iff_eq.mpr hlen]
    exact ht bs (by omega)
  · rw [beq_eq_false_iff_ne.mpr hlen]
    exact hf bs hbs

theorem SafeAt.rest {g : List UInt8 → ByteReader ε β} (hg : ∀ q bs, SafeAt e q 0 (g bs)) :
    SafeAt e p n (rest >>= g) := by
  intro bs hbs
  have hp : p ≤ bs.length := by omega
  rw [read_bind_ok (if_pos hp)]
  exact hg _ _ bs (Nat.le_refl _)

theorem SafeAt.ofOption {o : Option α} (hf : ∀ a, SafeAt e p n (f a)) :
    SafeAt e p n (ofOption e o >>= f) := by
  cases o with
  | none => exact fun _ _ => .rejected
  | some a => exact hf a

theorem SafeAt.times (h : ∀ q, SafeAt e q 0 m) (c : ℕ) : SafeAt e p n (times c m) := by
  induction c generalizing p n with
  | zero => exact .pure []
  | succ c ih => exact ((h p).mono (Nat.zero_le n)).bind fun _ _ => ih.bind fun _ _ => .pure _

end Rules

/-! ### Reading back -/

/-- The reader reads the value `a` back from the bytes `bs`, when `rest` follows them, wherever they
stand. -/
def Reads (m : ByteReader ε α) (bs rest : List UInt8) (a : α) : Prop :=
  ∀ pre, m.read (pre ++ (bs ++ rest)) pre.length = .ok (a, pre.length + bs.length)

section Rules

variable {e : ε} {m : ByteReader ε α} {f : α → ByteReader ε β} {bs bs' rest : List UInt8} {a : α}
  {b : β}

/-- Reading a whole byte string back. -/
theorem Reads.run (h : Reads m bs [] a) : m.run bs = .ok a := by
  have hm := h []
  simp only [List.nil_append, List.append_nil, List.length_nil, Nat.zero_add] at hm
  rw [ByteReader.run, hm]

theorem Reads.of_append_nil (h : Reads m (bs ++ []) rest a) : Reads m bs rest a := by
  rwa [List.append_nil] at h

theorem Reads.pure {a' : α} (h : a' = a) : Reads (pure a' : ByteReader ε α) [] rest a := by
  subst h
  exact fun _ => rfl

/-- One reader after the other reads back one string after the other. -/
theorem Reads.bind (h : ∀ rest, Reads m bs rest a) (hf : Reads (f a) bs' rest b) :
    Reads (m >>= f) (bs ++ bs') rest b := by
  intro pre
  have hm := h (bs' ++ rest) pre
  have hfa := hf (pre ++ bs)
  simp only [List.append_assoc, List.length_append] at hm hfa ⊢
  rw [read_bind_ok hm, hfa, Nat.add_assoc]

theorem reads_byte (x : UInt8) : Reads (byte : ByteReader ε UInt8) [x] rest x := by
  intro pre
  rw [read_byte (by simp)]
  simp

theorem Reads.byte {x : UInt8} {g : UInt8 → ByteReader ε β} (h : Reads (g x) bs rest b) :
    Reads (byte >>= g) (x :: bs) rest b :=
  .bind (fun _ => reads_byte x) h

theorem reads_get (x : UInt8) : Reads (get e) [x] rest x := by
  intro pre
  rw [read_get (by simp)]
  simp

theorem Reads.get {x : UInt8} {g : UInt8 → ByteReader ε β} (h : Reads (g x) bs rest b) :
    Reads (get e >>= g) (x :: bs) rest b :=
  .bind (fun _ => reads_get x) h

theorem Reads.slice {data : List UInt8} {n : ℕ} {g : List UInt8 → ByteReader ε β}
    (hn : n = data.length) (h : Reads (g data) bs rest b) :
    Reads (slice n >>= g) (data ++ bs) rest b := by
  subst hn
  refine Reads.bind (fun rest pre => ?_) h
  have hle : pre.length + data.length ≤ (pre ++ (data ++ rest)).length := by simp
  refine (if_pos hle).trans ?_
  simp

theorem reads_u16 (w : UInt16) : Reads (u16 : ByteReader ε UInt16) (u16ToBe w) rest w := by
  obtain ⟨b₀, b₁, hb⟩ : ∃ b₀ b₁, u16ToBe w = [b₀, b₁] := ⟨_, _, rfl⟩
  rw [hb]
  exact .byte <| .byte <| .pure (by rw [← hb, u16OfBe_u16ToBe])

theorem reads_u32 (w : UInt32) : Reads (u32 : ByteReader ε UInt32) (u32ToBe w) rest w := by
  obtain ⟨b₀, b₁, b₂, b₃, hb⟩ : ∃ b₀ b₁ b₂ b₃, u32ToBe w = [b₀, b₁, b₂, b₃] := ⟨_, _, _, _, rfl⟩
  rw [hb]
  exact .byte <| .byte <| .byte <| .byte <| .pure (by rw [← hb, u32OfBe_u32ToBe])

theorem Reads.u16 {w : UInt16} {g : UInt16 → ByteReader ε β} (h : Reads (g w) bs rest b) :
    Reads (u16 >>= g) (u16ToBe w ++ bs) rest b :=
  .bind (fun _ => reads_u16 w) h

theorem Reads.u32 {w : UInt32} {g : UInt32 → ByteReader ε β} (h : Reads (g w) bs rest b) :
    Reads (u32 >>= g) (u32ToBe w ++ bs) rest b :=
  .bind (fun _ => reads_u32 w) h

/-- A check of the bytes left passes where what is read behind it is long enough. -/
theorem Reads.require {n : ℕ} {g : Unit → ByteReader ε β} (hn : n ≤ bs.length)
    (h : Reads (g ()) bs rest b) : Reads (require n e >>= g) bs rest b := by
  intro pre
  have hlen : ¬ (pre ++ (bs ++ rest)).length < pre.length + n := by
    simp only [List.length_append]
    omega
  rw [read_bind_ok (read_require.trans (if_neg hlen))]
  exact h pre

theorem Reads.ofOption {o : Option α} (ho : o = some a) (h : Reads (f a) bs rest b) :
    Reads (ofOption e o >>= f) bs rest b := by
  subst ho
  exact h

theorem reads_ofOption {o : Option α} (ho : o = some a) : Reads (ofOption e o) [] rest a := by
  subst ho
  exact .pure rfl

theorem Reads.atEnd {g : Unit → ByteReader ε β} (h : Reads (g ()) [] [] b) :
    Reads (atEnd e >>= g) [] [] b := by
  intro pre
  have hend : ¬ pre.length ≠ (pre ++ ([] ++ [])).length := by simp
  rw [read_bind_ok (read_atEnd.trans (if_neg hend))]
  exact h pre

/-- A look at the bytes left sees those that are read behind it. -/
theorem Reads.endsAfter {n : ℕ} {g : Bool → ByteReader ε β}
    (h : Reads (g (bs.length == n)) bs [] b) : Reads (endsAfter n >>= g) bs [] b := by
  intro pre
  have hread : (ByteReader.endsAfter (ε := ε) n).read (pre ++ (bs ++ [])) pre.length =
      .ok (bs.length == n, pre.length) := by
    simp [ByteReader.endsAfter]
  rw [read_bind_ok hread]
  exact h pre

/-- Reading a list of values back from one encoding after the other. -/
theorem Reads.times {γ : Type} {enc : γ → List UInt8} {dec : γ → α} {xs : List γ} {n : ℕ}
    (hn : n = xs.length) (h : ∀ x ∈ xs, ∀ rest, Reads m (enc x) rest (dec x)) :
    Reads (times n m) (xs.flatMap enc) rest (xs.map dec) := by
  subst hn
  induction xs generalizing rest with
  | nil => exact .pure rfl
  | cons x xs ih =>
    rw [List.flatMap_cons, List.map_cons, List.length_cons]
    exact .bind (fun rest => h x (by simp) rest) <| .of_append_nil <|
      .bind (fun rest => ih fun y hy => h y (by simp [hy])) <| .pure rfl

theorem Reads.vector {enc : α → List UInt8} (h : ∀ a rest, Reads m (enc a) rest a) {n : ℕ}
    (xs : Vector α n) : Reads (vector m n) (xs.toList.flatMap enc) rest xs := by
  induction n generalizing rest with
  | zero =>
    obtain rfl : xs = #v[] := Vector.eq_empty
    exact .pure rfl
  | succ n ih =>
    obtain ⟨init, last, rfl⟩ : ∃ init last, xs = Vector.push init last :=
      ⟨xs.pop, xs.back, (Vector.push_pop_back xs).symm⟩
    rw [Vector.toList_push, List.flatMap_append, List.flatMap_singleton]
    exact .bind (fun rest => ih init) <| .of_append_nil <| .bind (h last) <| .pure rfl

theorem Reads.times_self {enc : α → List UInt8} {xs : List α} {n : ℕ} (hn : n = xs.length)
    (h : ∀ x ∈ xs, ∀ rest, Reads m (enc x) rest x) :
    Reads (ByteReader.times n m) (xs.flatMap enc) rest xs := by
  have htimes : Reads (ByteReader.times n m) (xs.flatMap enc) rest (xs.map id) := .times hn h
  rwa [List.map_id] at htimes

end Rules

/-! ### Reading all that is left back -/

/-- The reader reads the value `a` back from all the bytes `bs` behind `pre`. -/
def ReadsBehind (pre : List UInt8) (m : ByteReader ε α) (bs : List UInt8) (a : α) : Prop :=
  m.read (pre ++ bs) pre.length = .ok (a, (pre ++ bs).length)

section Rules

variable {e : ε} {m : ByteReader ε α} {f : α → ByteReader ε β} {pre bs bs' : List UInt8} {a : α}
  {b : β} {n : ℕ}

theorem ReadsBehind.run (h : ReadsBehind [] m bs a) : m.run bs = .ok a := by
  have hread : m.read bs 0 = .ok (a, bs.length) := h
  rw [ByteReader.run, hread]

/-- What is read back wherever it stands is read back behind other bytes. -/
theorem Reads.behind (h : Reads m bs [] a) : ReadsBehind pre m bs a := by
  have hread := h pre
  rwa [List.append_nil, ← List.length_append] at hread

theorem ReadsBehind.bind (h : ∀ rest, Reads m bs rest a)
    (hf : ReadsBehind (pre ++ bs) (f a) bs' b) : ReadsBehind pre (m >>= f) (bs ++ bs') b := by
  have hread : (f a).read (pre ++ bs ++ bs') (pre ++ bs).length =
      .ok (b, (pre ++ bs ++ bs').length) := hf
  rw [List.append_assoc, List.length_append] at hread
  exact (read_bind_ok (h bs' pre)).trans hread

theorem ReadsBehind.byte {x : UInt8} {g : UInt8 → ByteReader ε β}
    (h : ReadsBehind (pre ++ [x]) (g x) bs b) : ReadsBehind pre (byte >>= g) (x :: bs) b :=
  .bind (fun _ => reads_byte x) h

theorem ReadsBehind.get {x : UInt8} {g : UInt8 → ByteReader ε β}
    (h : ReadsBehind (pre ++ [x]) (g x) bs b) : ReadsBehind pre (get e >>= g) (x :: bs) b :=
  .bind (fun _ => reads_get x) h

theorem ReadsBehind.require {g : Unit → ByteReader ε β} (hn : n ≤ bs.length)
    (h : ReadsBehind pre (g ()) bs b) : ReadsBehind pre (require n e >>= g) bs b := by
  have hlen : ¬ (pre ++ bs).length < pre.length + n := by
    rw [List.length_append]
    omega
  exact (read_bind_ok (read_require.trans (if_neg hlen))).trans h

/-- A check of the whole length sees what stands before as well. -/
theorem ReadsBehind.lengthIs {g : Unit → ByteReader ε β} (hn : (pre ++ bs).length = n)
    (h : ReadsBehind pre (g ()) bs b) : ReadsBehind pre (lengthIs n e >>= g) bs b :=
  (read_bind_ok (read_lengthIs.trans (if_neg (not_not_intro hn)))).trans h

theorem ReadsBehind.hasLength {g : Bool → ByteReader ε β} (hn : (pre ++ bs).length = n)
    (h : ReadsBehind pre (g true) bs b) : ReadsBehind pre (hasLength n >>= g) bs b := by
  have hread : (ByteReader.hasLength (ε := ε) n).read (pre ++ bs) pre.length =
      .ok (true, pre.length) := by
    subst hn
    simp [ByteReader.hasLength]
  exact (read_bind_ok hread).trans h

/-- The rest is all that is left. -/
theorem ReadsBehind.rest {g : List UInt8 → ByteReader ε β} (h : Reads (g bs) [] [] b) :
    ReadsBehind pre (rest >>= g) bs b := by
  have hread : (ByteReader.rest (ε := ε)).read (pre ++ bs) pre.length =
      .ok (bs, (pre ++ bs).length) := by
    simp [ByteReader.rest]
  have hg := h (pre ++ bs)
  rw [List.append_nil, List.append_nil, List.length_nil, Nat.add_zero] at hg
  exact (read_bind_ok hread).trans hg

end Rules

/-! ### Running past the end -/

/-- The reader indexes past the end of any `k` bytes with `bs` behind them. -/
def Overruns (m : ByteReader ε α) (k : ℕ) (bs : List UInt8) : Prop :=
  ∀ pre skipped, skipped.length = k →
    m.read (pre ++ (skipped ++ bs)) pre.length = .error .outOfBounds

section Rules

variable {e : ε} {m : ByteReader ε α} {f : α → ByteReader ε β} {bs bs' : List UInt8} {a : α}
  {j k : ℕ}

theorem Overruns.run (h : Overruns m 0 bs) : m.run bs = .error .outOfBounds := by
  have hm : m.read bs 0 = .error .outOfBounds := h [] [] rfl
  rw [ByteReader.run, hm]

theorem Overruns.skip (hlen : bs'.length = k) (h : Overruns m k bs) : Overruns m 0 (bs' ++ bs) := by
  intro pre skipped hskipped
  rw [List.eq_nil_of_length_eq_zero hskipped]
  exact h pre bs' hlen

theorem Reads.overruns (h : ∀ rest, Reads m bs rest a) (hf : Overruns (f a) 0 bs') :
    Overruns (m >>= f) 0 (bs ++ bs') := by
  intro pre skipped hskipped
  have hm := h bs' pre
  have hfa := hf (pre ++ bs) [] rfl
  rw [List.eq_nil_of_length_eq_zero hskipped]
  simp only [List.nil_append, List.append_assoc, List.length_append] at hm hfa ⊢
  rw [read_bind_ok hm, hfa]

theorem Takes.overruns (h : Takes j m) (hf : ∀ a, Overruns (f a) k bs) :
    Overruns (m >>= f) (j + k) bs := by
  intro pre skipped hskipped
  obtain ⟨a, ha⟩ := h (pre ++ (skipped ++ bs)) pre.length (by
    simp only [List.length_append]
    omega)
  have hjoin : pre ++ (skipped ++ bs) = (pre ++ skipped.take j) ++ (skipped.drop j ++ bs) := by
    simp only [List.append_assoc, ← List.append_assoc (skipped.take j), List.take_append_drop]
  have hlen : pre.length + j = (pre ++ skipped.take j).length := by
    rw [List.length_append, List.length_take]
    omega
  rw [read_bind_ok ha, hjoin, hlen]
  exact hf a _ _ (by rw [List.length_drop]; omega)

theorem Overruns.require {n : ℕ} {g : Unit → ByteReader ε β} (hn : n ≤ k + bs.length)
    (h : Overruns (g ()) k bs) : Overruns (require n e >>= g) k bs := by
  intro pre skipped hskipped
  have hlen : ¬ (pre ++ (skipped ++ bs)).length < pre.length + n := by
    simp only [List.length_append]
    omega
  rw [read_bind_ok (read_require.trans (if_neg hlen))]
  exact h pre skipped hskipped

theorem overruns_byte : Overruns (byte : ByteReader ε UInt8) 0 [] := by
  intro pre skipped hskipped
  rw [List.eq_nil_of_length_eq_zero hskipped]
  simp [byte]

theorem Overruns.bind (h : Overruns m k bs) : Overruns (m >>= f) k bs :=
  fun pre skipped hskipped => read_bind_error (h pre skipped hskipped)

/-- Of two bytes at least one is missing. -/
theorem Overruns.u16 {g : UInt16 → ByteReader ε β} (hk : k < 2) : Overruns (u16 >>= g) k [] := by
  have hu16 : Overruns (ByteReader.u16 : ByteReader ε UInt16) k [] := by
    obtain rfl | rfl : k = 0 ∨ k = 1 := by omega
    · exact overruns_byte.bind
    · exact Takes.byte.overruns (k := 0) fun _ => overruns_byte.bind
  exact hu16.bind

end Rules

end ByteReader
