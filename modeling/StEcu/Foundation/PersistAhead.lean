import Mathlib.Order.Nat
import StEcu.Foundation.TransitionSystem

/-!
# Counters that are persisted ahead

A device hands out the values of a counter, each of them once, although it may lose power at any
time. It keeps a record of the counter in persistent storage, but writes it only once in a while:
after a restart the counter goes on a whole stride after the record, and while the device runs the
record is renewed before the counter gets further ahead than a stride.

The record may also be overwritten from outside. Values stay distinct as long as every restart finds
a record that is at most a stride behind, and that is so as long as no overwriting takes the record
further back than the threshold at which it is renewed.

## Main definitions

* `PersistAhead`, `PersistAhead.Step`: the discipline, as a relation.
* `PersistAhead.Covered`, `PersistAhead.Ahead`: what a restart relies on, and what is kept.
* `PersistAhead.Exact`, `PersistAhead.Fresh`: the same without any slack.

## Main results

* `PersistAhead.issued_pairwise`: a system that follows the discipline hands out increasing values.
* `PersistAhead.ahead_of_run`: the record never falls behind by more than a stride.
* `PersistAhead.Step.fresh`: it falls behind by less, if it is renewed exactly a stride later.
-/

/-- The next value, the value at which the record is renewed, and the record. -/
@[ext] structure PersistAhead where
  counter : ℕ
  threshold : ℕ
  record : Option ℕ

namespace PersistAhead

/-- What may happen to a counter: nothing of its own, a use, an overwritten record, a restart. -/
inductive Event
  | idle
  | use
  | overwrite (record : Option ℕ)
  | restart

/-- The discipline: the steps that a counter with a given stride may take, with the value that each
of them hands out. Without a record, a restart starts anywhere. -/
inductive Step (stride : ℕ) : PersistAhead → Event → Option ℕ → PersistAhead → Prop
  | idle (s : PersistAhead) : Step stride s .idle none s
  | use (s : PersistAhead) (h : s.counter + 1 < s.threshold) :
      Step stride s .use (some s.counter) { s with counter := s.counter + 1 }
  | renew (s : PersistAhead) (threshold : ℕ) (hle : s.counter + 1 ≤ threshold)
      (hahead : threshold ≤ s.counter + 1 + stride) :
      Step stride s .use (some s.counter) ⟨s.counter + 1, threshold, some (s.counter + 1)⟩
  | overwrite (s : PersistAhead) (record : Option ℕ) :
      Step stride s (.overwrite record) none { s with record }
  | restart (s : PersistAhead) (counter threshold : ℕ) (h : ∀ c ∈ s.record, counter = c + stride)
      (hle : counter ≤ threshold) (hahead : threshold ≤ counter + stride) :
      Step stride s .restart none ⟨counter, threshold, some counter⟩

variable {stride : ℕ}

/-- The record is at most a stride behind the counter. -/
def Covered (stride : ℕ) (s : PersistAhead) : Prop :=
  ∃ c, s.record = some c ∧ s.counter ≤ c + stride

/-- The record is at most a stride behind the threshold at which it is renewed. -/
def Ahead (stride : ℕ) (s : PersistAhead) : Prop :=
  ∃ c, s.record = some c ∧ s.counter ≤ s.threshold ∧ s.threshold ≤ c + stride

theorem Ahead.covered {s : PersistAhead} (h : s.Ahead stride) : s.Covered stride := by
  obtain ⟨c, hc, hle, hahead⟩ := h
  exact ⟨c, hc, hle.trans hahead⟩

/-- The counter never goes back, if a restart finds a record that covers it. -/
theorem Step.counter_le {s s' : PersistAhead} {e : Event} {o : Option ℕ} (h : Step stride s e o s')
    (hrestart : e = .restart → s.Covered stride) :
    s.counter ≤ s'.counter ∧ ∀ v ∈ o, s.counter ≤ v ∧ v < s'.counter := by
  cases h with
  | idle => simp
  | use h => simp
  | renew threshold hle hahead => simp
  | overwrite record => simp
  | restart counter threshold h hle hahead =>
    obtain ⟨c, hc, hcovered⟩ := hrestart rfl
    exact ⟨hcovered.trans_eq (h c hc).symm, by simp⟩

/-- A value is handed out by a use of the counter. -/
theorem Step.counter_of_some {s s' : PersistAhead} {e : Event} {v : ℕ}
    (h : Step stride s e (some v) s') : v = s.counter ∧ s'.counter = s.counter + 1 := by
  cases h with
  | use h => exact ⟨rfl, rfl⟩
  | renew threshold hle hahead => exact ⟨rfl, rfl⟩

/-- The record stays ahead, if overwriting does not take it back too far. -/
theorem Step.ahead {s s' : PersistAhead} {e : Event} {o : Option ℕ} (h : Step stride s e o s')
    (hs : s.Ahead stride)
    (hoverwrite : ∀ record, e = .overwrite record → ∃ c, record = some c ∧
      s.threshold ≤ c + stride) : s'.Ahead stride := by
  obtain ⟨c, hc, hle, hahead⟩ := hs
  cases h with
  | idle => exact ⟨c, hc, hle, hahead⟩
  | use h => exact ⟨c, hc, h.le, hahead⟩
  | renew threshold hle' hahead' => exact ⟨_, rfl, hle', hahead'⟩
  | overwrite record =>
    obtain ⟨c', rfl, hahead'⟩ := hoverwrite record rfl
    exact ⟨c', rfl, hle, hahead'⟩
  | restart counter threshold h hle' hahead' => exact ⟨counter, rfl, hle', hahead'⟩

/-! ### Without slack -/

/-- The record is renewed exactly a stride after it was written. -/
def Exact (stride : ℕ) (s : PersistAhead) : Prop :=
  ∃ c, s.record = some c ∧ s.threshold = c + stride

/-- The record is less than a stride behind the counter, and not ahead of it. -/
def Fresh (stride : ℕ) (s : PersistAhead) : Prop :=
  ∃ c, s.record = some c ∧ c ≤ s.counter ∧ s.counter < c + stride

/-- A restart that finds a fresh record goes on after all values that were handed out. -/
theorem Step.counter_lt_of_restart {s s' : PersistAhead} {o : Option ℕ}
    (h : Step stride s .restart o s') (hs : s.Fresh stride) : s.counter < s'.counter := by
  obtain ⟨c, hc, -, hlt⟩ := hs
  cases h with
  | restart counter threshold h => exact hlt.trans_eq (h c hc).symm

/-- The record stays fresh where it is renewed in time, unless it is overwritten. -/
theorem Step.fresh {s s' : PersistAhead} {e : Event} {o : Option ℕ} (h : Step stride s e o s')
    (hstride : 0 < stride) (hs : s.Fresh stride) (hexact : s.Exact stride)
    (hoverwrite : ∀ record, e ≠ .overwrite record) : s'.Fresh stride := by
  obtain ⟨c, hc, hle, hlt⟩ := hs
  cases h with
  | idle => exact ⟨c, hc, hle, hlt⟩
  | use h =>
    obtain ⟨c', hc', hthreshold⟩ := hexact
    obtain rfl := Option.some.inj (hc.symm.trans hc')
    exact ⟨c, hc, hle.trans (Nat.le_succ _), h.trans_eq hthreshold⟩
  | renew threshold hle hahead => exact ⟨_, rfl, le_rfl, Nat.lt_add_of_pos_right hstride⟩
  | overwrite record => exact absurd rfl (hoverwrite record)
  | restart counter threshold h hle hahead =>
    exact ⟨_, rfl, le_rfl, Nat.lt_add_of_pos_right hstride⟩

/-! ### Systems that follow the discipline -/

section Run

variable {σ ε ω : Type*} {T : TransitionSystem σ ε ω} {s₀ s : σ} {tr : List (Transition σ ε ω)}
  (view : σ → PersistAhead) (issue : Transition σ ε ω → Option ℕ) (hrun : T.Run s₀ tr s)
include hrun

/-- **The values handed out increase**, if every restart finds a record that covers the counter. -/
theorem issued_pairwise
    (hstep : ∀ t ∈ tr, T.Step t → ∃ e, Step stride (view t.src) e (issue t) (view t.dst) ∧
      (e = .restart → (view t.src).Covered stride)) :
    (tr.filterMap issue).Pairwise (· < ·) := by
  refine (hrun.issued_pairwise (fun s => (view s).counter) issue fun t ht hs => ?_).1
  obtain ⟨e, he, hrestart⟩ := hstep t ht hs
  exact he.counter_le hrestart

/-- **The record stays ahead** over a run, if overwriting never takes it back too far. -/
theorem ahead_of_run (h₀ : (view s₀).Ahead stride)
    (hstep : ∀ t ∈ tr, T.Step t → ∃ e, Step stride (view t.src) e (issue t) (view t.dst) ∧
      ∀ record, e = .overwrite record → ∃ c, record = some c ∧
        (view t.src).threshold ≤ c + stride) :
    (view s).Ahead stride := by
  refine hrun.invariant_of_mem (I := fun s => (view s).Ahead stride) h₀ fun t ht hs hsrc => ?_
  obtain ⟨e, he, hoverwrite⟩ := hstep t ht hs
  exact he.ahead hsrc hoverwrite

end Run

end PersistAhead
