import Mathlib.Order.Nat
import StEcu.Foundation.BigEndian

/-!
# Little-endian words in a byte string

The words at a position of a byte string, and the loops that overwrite an array, or an array of
arrays, by what is read from consecutive positions. A byte that is not there has no value.

## Main definitions

* `u16Le`, `u32Le`: the words at a position.
* `overwrite`: the loop that reads the entries of an array one after the other.

## Main results

* `exists_u16Le`, `exists_u32Le`: a word is there if its bytes are.
* `overwrite_eq`: the entries that the loop leaves, and the position behind the last one.
-/

/-- The word at a position, its low byte first. -/
def u16Le (bs : List UInt8) (pos : ℕ) : Option UInt16 := do
  let b₀ ← bs[pos]?
  let b₁ ← bs[pos + 1]?
  return u16OfBe [b₁, b₀]

/-- The word at a position, its lowest byte first. -/
def u32Le (bs : List UInt8) (pos : ℕ) : Option UInt32 := do
  let b₀ ← bs[pos]?
  let b₁ ← bs[pos + 1]?
  let b₂ ← bs[pos + 2]?
  let b₃ ← bs[pos + 3]?
  return u32OfBe [b₃, b₂, b₁, b₀]

theorem exists_u16Le {bs : List UInt8} {pos : ℕ} (h : pos + 2 ≤ bs.length) :
    ∃ word, u16Le bs pos = some word := by
  rw [u16Le, List.getElem?_eq_getElem (by omega : pos < bs.length),
    List.getElem?_eq_getElem (by omega : pos + 1 < bs.length)]
  exact ⟨_, rfl⟩

theorem exists_u32Le {bs : List UInt8} {pos : ℕ} (h : pos + 4 ≤ bs.length) :
    ∃ word, u32Le bs pos = some word := by
  rw [u32Le, List.getElem?_eq_getElem (by omega : pos < bs.length),
    List.getElem?_eq_getElem (by omega : pos + 1 < bs.length),
    List.getElem?_eq_getElem (by omega : pos + 2 < bs.length),
    List.getElem?_eq_getElem (by omega : pos + 3 < bs.length)]
  exact ⟨_, rfl⟩

section Overwrite

variable {α : Type*} {n : ℕ}

/-- One turn of `overwrite`. -/
def overwriteEntry (read : α → ℕ → Option (α × ℕ)) (s : Vector α n × ℕ) (i : ℕ) :
    Option (Vector α n × ℕ) := do
  let old ← s.1[i]?
  let (a, pos) ← read old s.2
  return (s.1.setIfInBounds i a, pos)

/-- The loop that overwrites the entries of an array in order, each by what is read at a position
that moves on; `read` is given the old entry. -/
def overwrite (read : α → ℕ → Option (α × ℕ)) (xs : Vector α n) (pos : ℕ) :
    Option (Vector α n × ℕ) :=
  (List.range n).foldlM (overwriteEntry read) (xs, pos)

variable {read : α → ℕ → Option (α × ℕ)} {pos size : ℕ} {value : Fin n → α}

/-- After some turns the first entries are those that were read, and the others are the old ones. -/
theorem foldlM_overwriteEntry_eq
    (hread : ∀ (old : α) (i : Fin n),
      read old (pos + size * i) = some (value i, pos + size * (i + 1)))
    (xs : Vector α n) {m : ℕ} (hm : m ≤ n) :
    (List.range m).foldlM (overwriteEntry read) (xs, pos) =
      some (Vector.ofFn fun i => if i < m then value i else xs.get i, pos + size * m) := by
  induction m with
  | zero => simp [Vector.get]
  | succ m ih =>
    have hlt : m < n := hm
    rw [List.range_succ, List.foldlM_append, ih hlt.le]
    simp only [List.foldlM_cons, List.foldlM_nil, Option.bind_eq_bind, Option.bind_some,
      overwriteEntry, Vector.getElem?_eq_getElem hlt, hread _ ⟨m, hlt⟩]
    refine congrArg some (Prod.ext (Vector.ext fun i hi => ?_) rfl)
    simp only [Vector.getElem_setIfInBounds, Vector.getElem_ofFn]
    by_cases hmi : m = i
    · subst hmi
      simp
    · have hiff : i < m + 1 ↔ i < m := by omega
      simp [hmi, hiff]

/-- The loop leaves the values that are read, if each of them takes the same number of bytes. -/
theorem overwrite_eq
    (hread : ∀ (old : α) (i : Fin n),
      read old (pos + size * i) = some (value i, pos + size * (i + 1)))
    (xs : Vector α n) :
    overwrite read xs pos = some (Vector.ofFn value, pos + size * n) := by
  rw [overwrite, foldlM_overwriteEntry_eq hread xs le_rfl]
  simp

end Overwrite
