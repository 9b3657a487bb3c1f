import Mathlib.Data.List.Nodup

/-!
# States made of cells

A state whose cells are read and written one at a time, and a loop that updates some cells one after
the other. An update reads its own cell only, so that the loop updates each cell as if it were
alone.

## Main definitions

* `Cells`, `Cells.updateAll`, `Vector.setFin`.

## Main results

* `Cells.get_updateAll`: what the loop does to one cell.
* `Cells.isSome_updateAll`: when the loop has a result.
* `Cells.observe_updateAll`: what no cell is part of stays the same.
* `Vector.get_setFin`, `Vector.setFin_get`: the entries of a vector as cells.
-/

namespace Vector

variable {α : Type} {n : ℕ} (xs : Vector α n) (i j : Fin n) (a : α)

/-- The entry of an index replaced. -/
def setFin : Vector α n := xs.set i a i.isLt

theorem get_setFin : (xs.setFin i a).get j = if i = j then a else xs.get j := by
  refine (Vector.getElem_set i.isLt j.isLt).trans ?_
  simp only [← Fin.ext_iff]
  rfl

theorem setFin_get : xs.setFin i (xs.get i) = xs := Vector.set_getElem_self i.isLt

theorem get_replicate_fin : (Vector.replicate n a).get i = a := Vector.getElem_replicate i.isLt

end Vector

/-- How the cells of a state are read and written. -/
structure Cells (σ ι α : Type) where
  get : σ → ι → α
  set : σ → ι → α → σ
  get_set_self : ∀ s i a, get (set s i a) i = a
  get_set_of_ne : ∀ s i j a, i ≠ j → get (set s i a) j = get s j

namespace Cells

variable {σ ι α β : Type} (cells : Cells σ ι α) (f : ι → α → Option α)

/-- Updates of some cells, one after the other. An update may have no result. -/
def updateAll (is : List ι) (s : σ) : Option σ :=
  is.foldlM (fun s i => (f i (cells.get s i)).map (cells.set s i)) s

variable {cells f} {is : List ι} {i : ι} {s s' : σ}

theorem updateAll_cons_eq_some : cells.updateAll f (i :: is) s = some s' ↔
    ∃ a, f i (cells.get s i) = some a ∧ cells.updateAll f is (cells.set s i a) = some s' := by
  rw [updateAll, List.foldlM_cons, Option.bind_eq_bind, Option.bind_eq_some_iff]
  constructor
  · rintro ⟨s₁, hs₁, h⟩
    obtain ⟨a, ha, rfl⟩ := Option.map_eq_some_iff.mp hs₁
    exact ⟨a, ha, h⟩
  · rintro ⟨a, ha, h⟩
    exact ⟨cells.set s i a, Option.map_eq_some_iff.mpr ⟨a, ha, rfl⟩, h⟩

/-- **The loop updates each of its cells as if it were alone**, and no other. -/
theorem get_updateAll (hnodup : is.Nodup) (h : cells.updateAll f is s = some s') (j : ι) :
    (j ∈ is → f j (cells.get s j) = some (cells.get s' j)) ∧
      (j ∉ is → cells.get s' j = cells.get s j) := by
  induction is generalizing s with
  | nil =>
    obtain rfl := Option.some.inj h
    exact ⟨fun hj => (nomatch hj), fun _ => rfl⟩
  | cons i is ih =>
    rw [List.nodup_cons] at hnodup
    obtain ⟨a, ha, h⟩ := updateAll_cons_eq_some.mp h
    obtain ⟨hin, hout⟩ := ih hnodup.2 h
    constructor
    · intro hj
      rcases List.mem_cons.mp hj with rfl | hj
      · rw [hout hnodup.1, cells.get_set_self, ha]
      · have hne : i ≠ j := fun heq => hnodup.1 (heq ▸ hj)
        rw [← hin hj, cells.get_set_of_ne s i j a hne]
    · intro hj
      rw [List.mem_cons, not_or] at hj
      rw [hout hj.2, cells.get_set_of_ne s i j a (Ne.symm hj.1)]

/-- **The loop has a result** where each of its updates has one. -/
theorem isSome_updateAll (hnodup : is.Nodup) (h : ∀ i ∈ is, (f i (cells.get s i)).isSome) :
    (cells.updateAll f is s).isSome := by
  induction is generalizing s with
  | nil => rfl
  | cons i is ih =>
    rw [List.nodup_cons] at hnodup
    rw [List.forall_mem_cons] at h
    obtain ⟨a, ha⟩ := Option.isSome_iff_exists.mp h.1
    have hrest : (cells.updateAll f is (cells.set s i a)).isSome := by
      refine ih hnodup.2 fun j hj => ?_
      rw [cells.get_set_of_ne s i j a fun heq => hnodup.1 (heq ▸ hj)]
      exact h.2 j hj
    obtain ⟨s', hs'⟩ := Option.isSome_iff_exists.mp hrest
    exact Option.isSome_iff_exists.mpr ⟨s', updateAll_cons_eq_some.mpr ⟨a, ha, hs'⟩⟩

/-- What no cell is part of stays the same. -/
theorem observe_updateAll (g : σ → β) (hset : ∀ s i a, g (cells.set s i a) = g s)
    (h : cells.updateAll f is s = some s') : g s' = g s := by
  induction is generalizing s with
  | nil =>
    obtain rfl := Option.some.inj h
    rfl
  | cons i is ih =>
    obtain ⟨a, -, h⟩ := updateAll_cons_eq_some.mp h
    rw [ih h, hset]

end Cells
