import Mathlib.Data.List.Induction
import Mathlib.Data.Set.Basic
import Mathlib.Logic.Function.Basic
import StEcu.Foundation.TransitionSystem

/-!
# Memories with a staged and a committed value in each cell

Every cell has a staged value, which is edited and read, and a committed one, which outlives the
edits. An edit stages a value; a commit copies the staged value over the committed one; a revert
goes the other way.

Cells do not interfere: what a history does to a cell is what its operations on that cell do. The
values at the end of a history are then read off it. The committed value is the one that was staged
at the last commit, and, without reverts, the staged value is the last one that was staged.

## Main definitions

* `StagedMemory`, `StagedMemory.Op`, `StagedMemory.run`.
* `StagedMemory.AgreeOn`: two memories have the same cells in a set.
* `StagedMemory.Op.stagedAt`: the value that an operation stages in a cell.

## Main results

* `StagedMemory.run_commits_congr`: it is enough to commit the cells whose values differ.
* `StagedMemory.run_congr`: histories with the same operations on each cell end alike.
* `StagedMemory.staged_run`, `StagedMemory.committed_run_of_commit`: the values, from the history.
* `TransitionSystem.Run.agreeOn`: a system each of whose steps follows some operations on a set of
  cells follows their history.
-/

/-- A memory whose cells have a staged and a committed value. -/
@[ext] structure StagedMemory (κ α : Type*) where
  staged : κ → α
  committed : κ → α

namespace StagedMemory

/-- The operations on a cell. -/
inductive Op (κ α : Type*)
  | stage (k : κ) (v : α)
  | commit (k : κ)
  | revert (k : κ)

variable {κ α : Type*}

/-- The cell of an operation. -/
def Op.cell : Op κ α → κ
  | stage k _ | commit k | revert k => k

/-- Two memories have the same cells in a set. -/
def AgreeOn (m m' : StagedMemory κ α) (S : Set κ) : Prop :=
  ∀ k ∈ S, m.staged k = m'.staged k ∧ m.committed k = m'.committed k

variable {m m' m'' : StagedMemory κ α} {S : Set κ}

theorem AgreeOn.refl (m : StagedMemory κ α) : m.AgreeOn m S := fun _ _ => ⟨rfl, rfl⟩

theorem AgreeOn.trans (h : m.AgreeOn m' S) (h' : m'.AgreeOn m'' S) : m.AgreeOn m'' S :=
  fun k hk => ⟨(h k hk).1.trans (h' k hk).1, (h k hk).2.trans (h' k hk).2⟩

variable [DecidableEq κ]

/-- What an operation does. -/
def apply (m : StagedMemory κ α) : Op κ α → StagedMemory κ α
  | .stage k v => { m with staged := Function.update m.staged k v }
  | .commit k => { m with committed := Function.update m.committed k (m.staged k) }
  | .revert k => { m with staged := Function.update m.staged k (m.committed k) }

/-- A history of operations, oldest first. -/
def run (m : StagedMemory κ α) (ops : List (Op κ α)) : StagedMemory κ α := ops.foldl apply m

variable {ops ops' : List (Op κ α)}

@[simp] theorem run_nil (m : StagedMemory κ α) : m.run [] = m := rfl

@[simp] theorem run_cons (m : StagedMemory κ α) (op : Op κ α) (ops : List (Op κ α)) :
    m.run (op :: ops) = (m.apply op).run ops := rfl

@[simp] theorem run_append (m : StagedMemory κ α) (ops ops' : List (Op κ α)) :
    m.run (ops ++ ops') = (m.run ops).run ops' := List.foldl_append

/-! ### Cells do not interfere -/

/-- An operation on another cell leaves a cell as it is. -/
theorem apply_of_ne {k : κ} {op : Op κ α} (h : op.cell ≠ k) :
    (m.apply op).staged k = m.staged k ∧ (m.apply op).committed k = m.committed k := by
  cases op with
  | stage | revert => exact ⟨Function.update_of_ne (Ne.symm h) _ _, rfl⟩
  | commit => exact ⟨rfl, Function.update_of_ne (Ne.symm h) _ _⟩

/-- What an operation does to a cell depends on that cell only. -/
theorem AgreeOn.apply (h : m.AgreeOn m' S) (op : Op κ α) :
    (m.apply op).AgreeOn (m'.apply op) S := by
  intro k hk
  obtain ⟨hstaged, hcommitted⟩ := h k hk
  by_cases hcell : op.cell = k
  · subst hcell
    cases op <;> simp_all [StagedMemory.apply, Op.cell]
  · rw [(apply_of_ne hcell).1, (apply_of_ne hcell).2, (apply_of_ne hcell).1,
      (apply_of_ne hcell).2]
    exact h k hk

theorem AgreeOn.run (h : m.AgreeOn m' S) (ops : List (Op κ α)) :
    (m.run ops).AgreeOn (m'.run ops) S := by
  induction ops generalizing m m' with
  | nil => exact h
  | cons op ops ih => exact ih (h.apply op)

/-- What a history does to a cell is what its operations on that cell do. -/
theorem run_filter_cell (k : κ) (ops : List (Op κ α)) :
    (m.run (ops.filter fun op => op.cell = k)).AgreeOn (m.run ops) {k} := by
  induction ops generalizing m with
  | nil => exact .refl m
  | cons op ops ih =>
    by_cases hcell : op.cell = k
    · rw [List.filter_cons_of_pos (by simpa using hcell)]
      exact ih
    · rw [List.filter_cons_of_neg (by simpa using hcell), run_cons]
      refine AgreeOn.trans (AgreeOn.run (fun k' hk' => ?_) _) ih
      obtain rfl : k' = k := hk'
      exact ⟨(apply_of_ne hcell).1.symm, (apply_of_ne hcell).2.symm⟩

/-- **Histories with the same operations on each cell end alike**, however the operations on
different cells are interleaved. -/
theorem run_congr
    (h : ∀ k, ops.filter (fun op => op.cell = k) = ops'.filter fun op => op.cell = k) :
    m.run ops = m.run ops' := by
  have hcell (k : κ) : (m.run ops).AgreeOn (m.run ops') {k} := fun k' hk' => by
    have h₁ := run_filter_cell (m := m) k ops k' hk'
    have h₂ := run_filter_cell (m := m) k ops' k' hk'
    rw [h k] at h₁
    exact ⟨h₁.1.symm.trans h₂.1, h₁.2.symm.trans h₂.2⟩
  exact StagedMemory.ext (funext fun k => (hcell k k rfl).1) (funext fun k => (hcell k k rfl).2)

/-! ### The values at the end of a history -/

/-- The value that an operation stages in a cell. -/
def Op.stagedAt (k : κ) : Op κ α → Option α
  | stage k' v => if k' = k then some v else none
  | commit _ | revert _ => none

/-- **The staged value is the last one that was staged**, where nothing was reverted. -/
theorem staged_run {k : κ} (h : ∀ op ∈ ops, op ≠ .revert k) :
    (m.run ops).staged k = ((ops.filterMap (Op.stagedAt k)).getLast?).getD (m.staged k) := by
  induction ops using List.reverseRecOn with
  | nil => rfl
  | append_singleton ops op ih =>
    have hop : op ≠ .revert k := h op (by simp)
    rw [run_append, List.filterMap_append, run_cons, run_nil]
    have hrest := ih fun op' hop' => h op' (List.mem_append_left _ hop')
    cases op with
    | stage k' v =>
      by_cases hk : k' = k
      · subst hk
        simp [apply, Op.stagedAt]
      · simpa [apply, Op.stagedAt, hk, Function.update_of_ne (Ne.symm hk)] using hrest
    | commit k' => simpa [apply, Op.stagedAt] using hrest
    | revert k' =>
      have hk : k ≠ k' := by
        rintro rfl
        exact hop rfl
      simpa [apply, Op.stagedAt, Function.update_of_ne hk] using hrest

/-- Without a commit, the committed value stays. -/
theorem committed_run {k : κ} (h : ∀ op ∈ ops, op ≠ .commit k) :
    (m.run ops).committed k = m.committed k := by
  induction ops using List.reverseRecOn with
  | nil => rfl
  | append_singleton ops op ih =>
    have hop : op ≠ .commit k := h op (by simp)
    rw [run_append, run_cons, run_nil, ← ih fun op' hop' => h op' (List.mem_append_left _ hop')]
    cases op with
    | stage | revert => rfl
    | commit k' =>
      have hk : k ≠ k' := by
        rintro rfl
        exact hop rfl
      exact Function.update_of_ne hk _ _

/-- **The committed value is the one that was staged at the last commit.** -/
theorem committed_run_of_commit {k : κ} (h : ∀ op ∈ ops', op ≠ .commit k) :
    (m.run (ops ++ .commit k :: ops')).committed k = (m.run ops).staged k := by
  rw [run_append, run_cons, committed_run h]
  exact Function.update_self k _ _

/-! ### Committing several cells -/

theorem staged_run_commits (m : StagedMemory κ α) (ks : List κ) :
    (m.run (ks.map Op.commit)).staged = m.staged := by
  induction ks generalizing m with
  | nil => rfl
  | cons k ks ih => exact ih (m.apply (.commit k))

theorem committed_run_commits (m : StagedMemory κ α) (ks : List κ) (k : κ) :
    (m.run (ks.map Op.commit)).committed k = if k ∈ ks then m.staged k else m.committed k := by
  induction ks generalizing m with
  | nil => rfl
  | cons k' ks ih =>
    rw [List.map_cons, run_cons, ih]
    by_cases hk : k = k'
    · subst hk
      simp [apply]
    · simp [apply, hk]

/-- Committing a cell whose values are the same changes nothing, so it is enough to commit those
whose values differ. -/
theorem run_commits_congr {ks ks' : List κ} (hsub : ∀ k ∈ ks, k ∈ ks')
    (hclean : ∀ k ∈ ks', k ∉ ks → m.staged k = m.committed k) :
    m.run (ks.map Op.commit) = m.run (ks'.map Op.commit) := by
  refine StagedMemory.ext ((staged_run_commits m ks).trans (staged_run_commits m ks').symm)
    (funext fun k => ?_)
  rw [committed_run_commits, committed_run_commits]
  by_cases hk : k ∈ ks
  · rw [if_pos hk, if_pos (hsub k hk)]
  · rw [if_neg hk]
    split_ifs with hk'
    · exact (hclean k hk' hk).symm
    · rfl

end StagedMemory

/-! ### Systems that follow a history of operations -/

/-- **A system each of whose steps follows some operations** on a set of cells follows the history
of all of them. -/
theorem TransitionSystem.Run.agreeOn {σ ε ω κ α : Type*} [DecidableEq κ]
    {T : TransitionSystem σ ε ω} {s₀ s : σ} {tr : List (Transition σ ε ω)} {S : Set κ}
    (memory : σ → StagedMemory κ α) (ops : Transition σ ε ω → List (StagedMemory.Op κ α))
    (hrun : T.Run s₀ tr s)
    (h : ∀ t ∈ tr, T.Step t → (memory t.dst).AgreeOn ((memory t.src).run (ops t)) S) :
    (memory s).AgreeOn ((memory s₀).run (tr.flatMap ops)) S := by
  induction hrun with
  | nil => exact .refl _
  | @snoc tr s e o s' _ hs ih =>
    rw [List.flatMap_append, StagedMemory.run_append]
    refine (h ⟨s, e, o, s'⟩ (by simp) hs).trans ?_
    simpa using (ih fun t ht => h t (List.mem_append_left _ ht)).run (ops ⟨s, e, o, s'⟩)
