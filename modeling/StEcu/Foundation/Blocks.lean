import Mathlib.Algebra.Ring.Nat

/-!
# Streams cut into blocks

A stream that is written element by element is cut into blocks of a fixed size: elements collect in
a rest, which becomes a block when it is full. The pieces of the stream are the blocks and the rest,
if there is any. This file relates the number of pieces to the length of the stream, and says what
reading only some of them gives.

## Main definitions

* `Blocked`: full blocks and a rest that is shorter than a block.
* `pieces`: the blocks, and the rest unless it is empty.

## Main results

* `Blocked.push_full`, `Blocked.push`: one more element.
* `Blocked.length_pieces_le_iff`: how many pieces there are.
* `Blocked.flatten_take_eq_iff`: the first pieces are the whole stream only if they are all of them.
-/

/-- Blocks of `size` elements and a rest that is shorter. -/
structure Blocked {α : Type*} (size : ℕ) (blocks : List (List α)) (rest : List α) : Prop where
  full : ∀ b ∈ blocks, b.length = size
  short : rest.length < size

/-- The blocks, and the rest unless it is empty. -/
def pieces {α : Type*} (blocks : List (List α)) (rest : List α) : List (List α) :=
  if rest.isEmpty then blocks else blocks ++ [rest]

section Pieces

variable {α : Type*} {size : ℕ} {blocks : List (List α)} {rest : List α}

@[simp] theorem pieces_nil_right (blocks : List (List α)) : pieces blocks [] = blocks := rfl

theorem pieces_of_ne (blocks : List (List α)) (h : rest ≠ []) :
    pieces blocks rest = blocks ++ [rest] := by
  rw [pieces, if_neg (by simpa using h)]

theorem flatten_pieces (blocks : List (List α)) (rest : List α) :
    (pieces blocks rest).flatten = blocks.flatten ++ rest := by
  by_cases h : rest = []
  · rw [h, pieces_nil_right, List.append_nil]
  · rw [pieces_of_ne blocks h, List.flatten_append, List.flatten_singleton]

end Pieces

namespace Blocked

variable {α : Type*} {size : ℕ} {blocks : List (List α)} {rest : List α}

theorem nil (h : 0 < size) : Blocked size ([] : List (List α)) [] := ⟨fun _ hb => (nomatch hb), h⟩

/-- An element that fills the rest makes a block of it. -/
theorem push_full (h : Blocked size blocks rest) (x : α) (hfull : size ≤ (rest ++ [x]).length) :
    Blocked size (blocks ++ [rest ++ [x]]) [] where
  full b hb := by
    rcases List.mem_append.mp hb with hb | hb
    · exact h.full b hb
    · rw [List.mem_singleton.mp hb]
      refine le_antisymm ?_ hfull
      rw [List.length_append]
      exact h.short
  short := Nat.zero_lt_of_lt h.short

theorem push (h : Blocked size blocks rest) (x : α) (hfull : ¬ size ≤ (rest ++ [x]).length) :
    Blocked size blocks (rest ++ [x]) :=
  ⟨h.full, Nat.lt_of_not_le hfull⟩

theorem length_flatten (h : Blocked size blocks rest) :
    blocks.flatten.length = blocks.length * size := by
  have hfull := h.full
  clear h
  induction blocks with
  | nil => simp
  | cons b blocks ih =>
    rw [List.flatten_cons, List.length_append, hfull b List.mem_cons_self,
      ih fun b hb => hfull b (List.mem_cons_of_mem _ hb), List.length_cons, Nat.succ_mul,
      Nat.add_comm]

/-- There are at most `n` pieces where the stream fits into `n` blocks. -/
theorem length_pieces_le_iff (h : Blocked size blocks rest) (n : ℕ) :
    (pieces blocks rest).length ≤ n ↔ (blocks.flatten ++ rest).length ≤ n * size := by
  have hshort := h.short
  rw [List.length_append, h.length_flatten]
  by_cases hrest : rest = []
  · rw [hrest, pieces_nil_right, List.length_nil, Nat.add_zero]
    exact (Nat.mul_le_mul_right_iff (Nat.zero_lt_of_lt hshort)).symm
  · have hpos : 0 < rest.length := List.length_pos_iff.mpr hrest
    rw [pieces_of_ne blocks hrest, List.length_append, List.length_singleton]
    constructor
    · intro hle
      have := Nat.mul_le_mul_right size hle
      rw [Nat.add_mul, Nat.one_mul] at this
      omega
    · intro hle
      by_contra hlt
      have := Nat.mul_le_mul_right size (Nat.le_of_lt_succ (Nat.lt_of_not_le hlt))
      omega

/-- All pieces but the last are full. -/
theorem length_of_mem_dropLast (h : Blocked size blocks rest) {b : List α}
    (hb : b ∈ (pieces blocks rest).dropLast) : b.length = size := by
  by_cases hrest : rest = []
  · rw [hrest, pieces_nil_right] at hb
    exact h.full b (List.dropLast_subset _ hb)
  · rw [pieces_of_ne blocks hrest, List.dropLast_concat] at hb
    exact h.full b hb

/-- No piece is empty. -/
theorem ne_nil_of_mem (h : Blocked size blocks rest) {b : List α} (hb : b ∈ pieces blocks rest) :
    b ≠ [] := by
  have hblocks : ∀ b ∈ blocks, b ≠ [] := by
    intro b hb hnil
    have hlen := h.full b hb
    rw [hnil, List.length_nil] at hlen
    exact absurd h.short (by omega)
  by_cases hrest : rest = []
  · rw [hrest, pieces_nil_right] at hb
    exact hblocks b hb
  · rw [pieces_of_ne blocks hrest] at hb
    rcases List.mem_append.mp hb with hb | hb
    · exact hblocks b hb
    · rwa [List.mem_singleton.mp hb]

/-- The first pieces are the whole stream only if they are all pieces. -/
theorem flatten_take_eq_iff (h : Blocked size blocks rest) (n : ℕ) :
    ((pieces blocks rest).take n).flatten = blocks.flatten ++ rest ↔
      (pieces blocks rest).length ≤ n := by
  rw [← flatten_pieces]
  constructor
  · intro heq
    by_contra hlt
    have hdrop : ((pieces blocks rest).drop n).flatten = [] := by
      have hall := congrArg List.flatten (List.take_append_drop n (pieces blocks rest))
      rw [List.flatten_append, heq] at hall
      exact List.append_right_eq_self.mp hall
    have hne : (pieces blocks rest).drop n ≠ [] := by
      rw [ne_eq, List.drop_eq_nil_iff]
      exact hlt
    obtain ⟨b, hb⟩ := List.exists_mem_of_ne_nil _ hne
    exact h.ne_nil_of_mem (List.mem_of_mem_drop hb) (List.flatten_eq_nil_iff.mp hdrop b hb)
  · intro hle
    rw [List.take_of_length_le hle]

end Blocked
