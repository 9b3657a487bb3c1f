import Mathlib.Data.List.Basic

/-!
# Writes that must be in bounds

Writes to a list that fail outside it, and the loops made of steps that may fail.

## Main results

* `exists_writeAt`, `exists_writeRange`: a write in bounds succeeds and keeps the length.
* `List.exists_foldlM`: a loop succeeds whose steps succeed and keep an invariant.
-/

variable {α β : Type*}

/-- An element replaced. -/
def writeAt (xs : List α) (i : ℕ) (a : α) : Option (List α) :=
  if i < xs.length then some (xs.set i a) else none

/-- The elements of a range replaced. -/
def writeRange (xs : List α) (start stop : ℕ) (a : α) : Option (List α) :=
  if start ≤ stop ∧ stop ≤ xs.length then
    some (xs.take start ++ List.replicate (stop - start) a ++ xs.drop stop)
  else none

theorem exists_writeAt {xs : List α} {i : ℕ} (h : i < xs.length) (a : α) :
    ∃ ys, writeAt xs i a = some ys ∧ ys.length = xs.length :=
  ⟨_, if_pos h, List.length_set⟩

theorem exists_writeRange {xs : List α} {start stop : ℕ} (hle : start ≤ stop)
    (h : stop ≤ xs.length) (a : α) :
    ∃ ys, writeRange xs start stop a = some ys ∧ ys.length = xs.length := by
  refine ⟨_, if_pos ⟨hle, h⟩, ?_⟩
  simp only [List.length_append, List.length_take, List.length_replicate, List.length_drop]
  omega

/-- A loop whose steps succeed and keep an invariant succeeds and keeps it. -/
theorem List.exists_foldlM {f : β → α → Option β} {p : β → Prop} {l : List α}
    (hstep : ∀ b, p b → ∀ a ∈ l, ∃ b', f b a = some b' ∧ p b') {b : β} (hb : p b) :
    ∃ b', l.foldlM f b = some b' ∧ p b' := by
  induction l generalizing b with
  | nil => exact ⟨b, rfl, hb⟩
  | cons a l ih =>
    obtain ⟨c, hc, hpc⟩ := hstep b hb a List.mem_cons_self
    obtain ⟨b', hb', hp⟩ := ih (fun b hb a ha => hstep b hb a (List.mem_cons_of_mem _ ha)) hpc
    refine ⟨b', ?_, hp⟩
    rw [List.foldlM_cons, hc]
    exact hb'
