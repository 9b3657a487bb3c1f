import Mathlib.Data.List.Forall2

/-!
# Lists addressed by a key, and arrays addressed by rows and columns

An element of a list is found by its key: the first one that has it. Replacing the element at the
place where a key is found, by another one with that key, changes what is found under this key and
nothing else. The cells of a rectangle are laid out row by row.

## Main definitions

* `rowMajor`: the place of a cell.

## Main results

* `List.find?_key_set_self`, `List.find?_key_set_of_ne`: what is found under each key after a
  replacement.
* `rowMajor_lt`, `rowMajor_inj`: the cells of a rectangle have distinct places inside it.
-/

namespace List

variable {α β κ : Type*} [BEq κ] [LawfulBEq κ] {key : α → κ} {l : List α} {i : ℕ} {k k' : κ}
  {a b : α}

/-- The place where a key is found holds the element found under it. -/
theorem getElem?_of_findIdx?_key (h : l.findIdx? (key · == k) = some i) :
    l[i]? = l.find? (key · == k) ∧ ∃ a, l[i]? = some a ∧ key a = k := by
  induction l generalizing i with
  | nil => cases h
  | cons b l ih =>
    rw [findIdx?_cons] at h
    by_cases hb : key b = k
    · rw [if_pos (by simpa using hb)] at h
      obtain rfl := Option.some.inj h
      exact ⟨(find?_cons_of_pos (by simpa using hb)).symm, b, rfl, hb⟩
    · rw [if_neg (by simpa using hb)] at h
      obtain ⟨j, hj, rfl⟩ := Option.map_eq_some_iff.mp h
      rw [find?_cons_of_neg (by simpa using hb), getElem?_cons_succ]
      exact ih hj

/-- Replacing the element found under a key, by one with the same key. -/
theorem find?_key_set_self (h : l.findIdx? (key · == k) = some i) (hb : key b = k) :
    (l.set i b).find? (key · == k) = some b := by
  induction l generalizing i with
  | nil => cases h
  | cons a l ih =>
    rw [findIdx?_cons] at h
    by_cases ha : key a = k
    · rw [if_pos (by simpa using ha)] at h
      obtain rfl := Option.some.inj h
      rw [set_cons_zero, find?_cons_of_pos (by simpa using hb)]
    · rw [if_neg (by simpa using ha)] at h
      obtain ⟨j, hj, rfl⟩ := Option.map_eq_some_iff.mp h
      rw [set_cons_succ, find?_cons_of_neg (by simpa using ha)]
      exact ih hj

/-- The replacement is not seen under any other key. -/
theorem find?_key_set_of_ne (h : l.findIdx? (key · == k) = some i) (hb : key b = k)
    (hk : k' ≠ k) : (l.set i b).find? (key · == k') = l.find? (key · == k') := by
  have hother {c : α} (hc : key c = k) : key c ≠ k' := hc ▸ hk.symm
  induction l generalizing i with
  | nil => cases h
  | cons a l ih =>
    rw [findIdx?_cons] at h
    by_cases ha : key a = k
    · rw [if_pos (by simpa using ha)] at h
      obtain rfl := Option.some.inj h
      rw [set_cons_zero, find?_cons_of_neg (by simpa using hother hb),
        find?_cons_of_neg (by simpa using hother ha)]
    · rw [if_neg (by simpa using ha)] at h
      obtain ⟨j, hj, rfl⟩ := Option.map_eq_some_iff.mp h
      rw [set_cons_succ, find?_cons, find?_cons, ih hj]

/-- A relation between two lists survives the replacement of an element by a related one. -/
theorem Forall₂.set {R : α → β → Prop} {l : List α} {l' : List β} (h : Forall₂ R l l') {i : ℕ}
    {a b : α} (ha : l[i]? = some a) (hR : ∀ e, R a e → R b e) : Forall₂ R (l.set i b) l' := by
  induction h generalizing i with
  | nil => cases ha
  | @cons a' e l l' hae hl ih =>
    cases i with
    | zero =>
      obtain rfl := Option.some.inj ha
      exact .cons (hR e hae) hl
    | succ i => exact .cons hae (ih ha)

theorem Forall₂.exists_of_mem {R : α → β → Prop} {l : List α} {l' : List β} (h : Forall₂ R l l')
    {a : α} (ha : a ∈ l) : ∃ b, R a b := by
  induction h with
  | nil => cases ha
  | cons hab _ ih =>
    rcases mem_cons.mp ha with rfl | ha
    · exact ⟨_, hab⟩
    · exact ih ha

end List

/-- The place of the cell in column `x` and row `y`, in rows of a given width. -/
def rowMajor (width x y : ℕ) : ℕ := y * width + x

theorem rowMajor_lt {width height x y : ℕ} (hx : x < width) (hy : y < height) :
    rowMajor width x y < width * height :=
  calc y * width + x < y * width + width := by omega
    _ = (y + 1) * width := (Nat.succ_mul y width).symm
    _ ≤ height * width := Nat.mul_le_mul_right width hy
    _ = width * height := Nat.mul_comm height width

/-- Distinct cells have distinct places. -/
theorem rowMajor_inj {width x y x' y' : ℕ} (hx : x < width) (hx' : x' < width)
    (h : rowMajor width x y = rowMajor width x' y') : x = x' ∧ y = y' := by
  have hmod (x y : ℕ) : rowMajor width x y % width = x % width := Nat.mul_add_mod' y width x
  have hdiv {x : ℕ} (y : ℕ) (hx : x < width) : rowMajor width x y / width = y := by
    rw [rowMajor, Nat.add_comm, Nat.add_mul_div_right x y (by omega), Nat.div_eq_of_lt hx,
      Nat.zero_add]
  constructor
  · rw [← Nat.mod_eq_of_lt hx, ← Nat.mod_eq_of_lt hx', ← hmod x y, ← hmod x' y', h]
  · rw [← hdiv y hx, ← hdiv y' hx', h]
