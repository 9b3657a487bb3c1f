import Mathlib.Data.Fin.SuccPred
import StEcu.Foundation.FixedPoint

/-!
# Operations that may fail

Operations that stop a program where their operands are not as they must be: there is no result
then.
-/

/-- Division by anything but zero. -/
def checkedDiv (x y : ℚ) : Option ℚ := if y = 0 then none else some (x / y)

/-- Clamping between bounds that are in order. -/
def checkedClamp (x lo hi : ℚ) : Option ℚ := if lo ≤ hi then some (clampRat x lo hi) else none

/-- The difference of natural numbers. -/
def checkedSub (m n : ℕ) : Option ℕ := if n ≤ m then some (m - n) else none

/-- The elements between two positions. -/
def checkedSlice {α : Type*} (xs : List α) (lo hi : ℕ) : Option (List α) :=
  if lo ≤ hi ∧ hi ≤ xs.length then some (slice xs lo hi) else none

theorem checkedDiv_eq {x y : ℚ} (h : y ≠ 0) : checkedDiv x y = some (x / y) := if_neg h

theorem checkedClamp_eq {x lo hi : ℚ} (h : lo ≤ hi) :
    checkedClamp x lo hi = some (clampRat x lo hi) := if_pos h

theorem checkedSub_eq {m n : ℕ} (h : n ≤ m) : checkedSub m n = some (m - n) := if_pos h

theorem isSome_checkedSlice {α : Type*} {xs : List α} {lo hi : ℕ} :
    (checkedSlice xs lo hi).isSome ↔ lo ≤ hi ∧ hi ≤ xs.length := by
  rw [checkedSlice]
  split
  · next h => exact iff_of_true rfl h
  · next h => exact iff_of_false Bool.false_ne_true h

/-- A vector has a value if each of its entries has one, and only then. -/
theorem isSome_ofFnM {α : Type*} {n : ℕ} {f : Fin n → Option α} :
    (Vector.ofFnM f).isSome ↔ ∀ i, (f i).isSome := by
  induction n with
  | zero => simp
  | succ n ih =>
    rw [Vector.ofFnM_succ, Fin.forall_fin_succ', ← ih]
    cases Vector.ofFnM fun i => f i.castSucc with
    | none => simp
    | some entries => cases f (Fin.last n) <;> simp
