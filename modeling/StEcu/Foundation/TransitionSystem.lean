import Mathlib.Algebra.BigOperators.Group.List.Basic
import Mathlib.Algebra.Ring.Nat
import Mathlib.Data.List.DropRight
import Mathlib.Data.List.Induction

/-!
# Transition systems and their finite runs

A transition system says which transitions are possible: from a state, an event may produce an
output and a next state. A run is the list of the transitions taken from a start state, oldest
first. Everything a development says about histories is a statement about such a list: which
transitions occurred, in what order, and what held in between.

## Main definitions

* `Transition`, `TransitionSystem`, `TransitionSystem.ofFun`, `TransitionSystem.ofPartial`.
* `TransitionSystem.Run`: the finite runs from a state.
* `TransitionSystem.trace`, `TransitionSystem.after`: the run of a total step function.
* `TransitionSystem.partialTrace`: the run of a step function that may have no result.
* `Since`: something happened in a history, and something else held ever since.

## Main results

* `TransitionSystem.Run.append`, `TransitionSystem.Run.split`: runs compose and decompose.
* `TransitionSystem.Run.since_reset`: only what came after the last reset counts.
* `TransitionSystem.Run.invariant`: what every transition preserves holds in every state.
* `TransitionSystem.Run.observe_foldl`: what every transition folds a label into is the fold of all
  labels.
* `TransitionSystem.Run.observe_getLast`: what some transitions write holds what was written last.
* `TransitionSystem.Run.project`: where every transition is one of another system, or leaves its
  state alone, a run is a run of that.
* `TransitionSystem.Run.exists_onset`: a property that holds at the end of a run and not at its
  start was switched on by a transition after which it held without interruption.
* `TransitionSystem.Run.countP_balance`, `TransitionSystem.Run.sum_balance`: what enters equals what
  leaves plus what is still inside.
* `TransitionSystem.Run.issued_pairwise`: a counter that never goes back hands out distinct values.
-/

/-- One transition of a run: the state before, the event, the output, the state after. -/
structure Transition (σ ε ω : Type*) where
  src : σ
  event : ε
  output : ω
  dst : σ

/-- A transition system, given by the transitions it admits. -/
structure TransitionSystem (σ ε ω : Type*) where
  Step : Transition σ ε ω → Prop

/-- In a history, oldest event first, some event satisfies `φ` and all events after it satisfy
`ψ`. -/
def Since {α : Type*} (φ ψ : α → Prop) (history : List α) : Prop :=
  ∃ pre e post, history = pre ++ e :: post ∧ φ e ∧ ∀ e' ∈ post, ψ e'

section Since

variable {α : Type*} {φ ψ : α → Prop} {history : List α} {e : α}

theorem Since.now (h : φ e) : Since φ ψ (history ++ [e]) :=
  ⟨history, e, [], rfl, h, fun _ he => nomatch he⟩

theorem Since.later (h : Since φ ψ history) (he : ψ e) : Since φ ψ (history ++ [e]) := by
  obtain ⟨pre, e₀, post, rfl, h₀, hpost⟩ := h
  refine ⟨pre, e₀, post ++ [e], by simp, h₀, fun e' he' => ?_⟩
  rcases List.mem_append.mp he' with he' | he'
  · exact hpost e' he'
  · rwa [List.mem_singleton.mp he']

end Since

/-- The last element of a list is what is left when each one takes the place of the one before. -/
theorem List.getLast?_getD_eq_foldl {α : Type*} (l : List α) (a : α) :
    l.getLast?.getD a = l.foldl (fun _ b => b) a := by
  induction l using List.reverseRecOn with
  | nil => rfl
  | append_singleton l b _ => simp

namespace TransitionSystem

variable {σ ε ω : Type*}

/-- The transition system of a total step function. -/
def ofFun (f : σ → ε → σ × ω) : TransitionSystem σ ε ω where
  Step t := f t.src t.event = (t.dst, t.output)

/-- The transition system of a step function that may have no result. -/
def ofPartial (f : σ → ε → Option σ) : TransitionSystem σ ε Unit where
  Step t := f t.src t.event = some t.dst

/-- The runs of `T` from `s₀`, with the list of transitions taken and the state reached. -/
inductive Run (T : TransitionSystem σ ε ω) (s₀ : σ) : List (Transition σ ε ω) → σ → Prop
  | nil : Run T s₀ [] s₀
  | snoc {tr s e o s'} (h : Run T s₀ tr s) (hs : T.Step ⟨s, e, o, s'⟩) :
      Run T s₀ (tr ++ [⟨s, e, o, s'⟩]) s'

namespace Run

variable {T : TransitionSystem σ ε ω} {s₀ s s' : σ} {tr tr' : List (Transition σ ε ω)}

theorem single {t : Transition σ ε ω} (ht : T.Step t) : T.Run t.src [t] t.dst :=
  show T.Run t.src ([] ++ [t]) t.dst from snoc nil ht

theorem append (h : T.Run s₀ tr s) (h' : T.Run s tr' s') : T.Run s₀ (tr ++ tr') s' := by
  induction h' with
  | nil => simpa using h
  | snoc _ hs ih =>
    rw [← List.append_assoc]
    exact ih.snoc hs

theorem cons {t : Transition σ ε ω} (ht : T.Step t) (h : T.Run t.dst tr s) :
    T.Run t.src (t :: tr) s :=
  (single ht).append h

theorem eq_of_nil (h : T.Run s₀ [] s) : s = s₀ := by
  generalize htr : ([] : List (Transition σ ε ω)) = l at h
  cases h with
  | nil => rfl
  | snoc => simp at htr

/-- The last transition of a nonempty run ends where the run ends. -/
theorem of_concat {t : Transition σ ε ω} (h : T.Run s₀ (tr ++ [t]) s) :
    T.Run s₀ tr t.src ∧ T.Step t ∧ s = t.dst := by
  generalize htr : tr ++ [t] = l at h
  cases h with
  | nil => simp at htr
  | snoc h' hs =>
    obtain ⟨rfl, ht⟩ := List.append_inj' htr rfl
    obtain rfl := List.singleton_inj.mp ht
    exact ⟨h', hs, rfl⟩

theorem split (h : T.Run s₀ (tr ++ tr') s) : ∃ m, T.Run s₀ tr m ∧ T.Run m tr' s := by
  induction tr' using List.reverseRecOn generalizing s with
  | nil => exact ⟨s, by simpa using h, nil⟩
  | append_singleton l t ih =>
    rw [← List.append_assoc] at h
    obtain ⟨hl, ht, rfl⟩ := of_concat h
    obtain ⟨m, h₁, h₂⟩ := ih hl
    exact ⟨m, h₁, h₂.snoc ht⟩

theorem of_cons {t : Transition σ ε ω} (h : T.Run s₀ (t :: tr) s) :
    s₀ = t.src ∧ T.Step t ∧ T.Run t.dst tr s := by
  obtain ⟨m, h₁, h₂⟩ := split (show T.Run s₀ ([t] ++ tr) s from h)
  obtain ⟨h₀, ht, rfl⟩ := of_concat (show T.Run s₀ ([] ++ [t]) m from h₁)
  exact ⟨h₀.eq_of_nil.symm, ht, h₂⟩

/-- Any transition of a run sits between two runs. -/
theorem split_mem {t : Transition σ ε ω} {pre post : List (Transition σ ε ω)}
    (h : T.Run s₀ (pre ++ t :: post) s) :
    T.Run s₀ pre t.src ∧ T.Step t ∧ T.Run t.dst post s := by
  obtain ⟨m, h₁, h₂⟩ := h.split
  obtain ⟨rfl, ht, h₃⟩ := h₂.of_cons
  exact ⟨h₁, ht, h₃⟩

theorem step_of_mem {t : Transition σ ε ω} (h : T.Run s₀ tr s) (ht : t ∈ tr) : T.Step t := by
  obtain ⟨pre, post, rfl⟩ := List.append_of_mem ht
  exact h.split_mem.2.1

/-! ### Invariants -/

/-- What the transitions of a run preserve holds in the state it reaches. -/
theorem invariant_of_mem {I : σ → Prop} (h : T.Run s₀ tr s) (h₀ : I s₀)
    (hI : ∀ t ∈ tr, T.Step t → I t.src → I t.dst) : I s := by
  induction h with
  | nil => exact h₀
  | @snoc tr s e o s' _ hs ih =>
    exact hI ⟨s, e, o, s'⟩ (by simp) hs (ih fun t ht => hI t (List.mem_append_left _ ht))

theorem invariant {I : σ → Prop} (h : T.Run s₀ tr s) (h₀ : I s₀)
    (hI : ∀ t, T.Step t → I t.src → I t.dst) : I s :=
  h.invariant_of_mem h₀ fun t _ => hI t

/-- What the transitions of a run preserve holds before each of them. -/
theorem invariant_src {I : σ → Prop} (h : T.Run s₀ tr s) (h₀ : I s₀)
    (hI : ∀ t ∈ tr, T.Step t → I t.src → I t.dst) {t : Transition σ ε ω} (ht : t ∈ tr) :
    I t.src := by
  obtain ⟨pre, post, rfl⟩ := List.append_of_mem ht
  exact h.split_mem.1.invariant_of_mem h₀ fun u hu => hI u (List.mem_append_left _ hu)

/-- An observation that no transition of a run changes is the same at both ends. -/
theorem observe_eq {α : Type*} (f : σ → α) (h : T.Run s₀ tr s)
    (hf : ∀ t ∈ tr, T.Step t → f t.dst = f t.src) : f s = f s₀ :=
  h.invariant_of_mem (I := fun x => f x = f s₀) rfl fun t ht hs hsrc => (hf t ht hs).trans hsrc

/-- If `φ` holds at the end of a run and not at its start, then some transition switched it on
and it held in every state from there to the end. -/
theorem exists_onset {φ : σ → Prop} (h : T.Run s₀ tr s) (h₀ : ¬ φ s₀) (hφ : φ s) :
    ∃ pre t post, tr = pre ++ t :: post ∧ ¬ φ t.src ∧ φ t.dst ∧
      ∀ u ∈ post, φ u.src ∧ φ u.dst := by
  induction h with
  | nil => exact absurd hφ h₀
  | @snoc tr s e o s' _ _ ih =>
    by_cases hs : φ s
    · obtain ⟨pre, t, post, rfl, hsrc, hdst, hpost⟩ := ih hs
      refine ⟨pre, t, post ++ [⟨s, e, o, s'⟩], by simp, hsrc, hdst, fun u hu => ?_⟩
      rcases List.mem_append.mp hu with hu | hu
      · exact hpost u hu
      · obtain rfl := List.mem_singleton.mp hu
        exact ⟨hs, hφ⟩
    · exact ⟨tr, ⟨s, e, o, s'⟩, [], rfl, hs, hφ, by simp⟩

/-- An observation that every transition folds its label into, if it has one, is the fold of the
labels of a run. -/
theorem observe_foldl {α β : Type*} (f : σ → α) (op : α → β → α)
    (label : Transition σ ε ω → Option β) (h : T.Run s₀ tr s)
    (hf : ∀ t ∈ tr, T.Step t → f t.dst = (label t).elim (f t.src) (op (f t.src))) :
    f s = (tr.filterMap label).foldl op (f s₀) := by
  induction h with
  | nil => rfl
  | @snoc tr s e o s' _ hs ih =>
    have hlast := hf ⟨s, e, o, s'⟩ (by simp) hs
    rw [ih fun t ht => hf t (List.mem_append_left _ ht)] at hlast
    rw [List.filterMap_append, List.foldl_append]
    cases hlabel : label ⟨s, e, o, s'⟩ with
    | none =>
      rw [hlabel] at hlast
      simpa [hlabel] using hlast
    | some b =>
      rw [hlabel] at hlast
      simpa [hlabel] using hlast

/-- An observation that some transitions write, and the others keep, is what was written last. -/
theorem observe_getLast {α : Type*} (f : σ → α) (write : Transition σ ε ω → Option α)
    (h : T.Run s₀ tr s) (hf : ∀ t ∈ tr, T.Step t → f t.dst = (write t).getD (f t.src)) :
    f s = (tr.filterMap write).getLast?.getD (f s₀) := by
  rw [List.getLast?_getD_eq_foldl]
  refine h.observe_foldl f (fun _ a => a) write fun t ht hs => ?_
  rw [hf t ht hs]
  cases write t <;> rfl

/-- If every transition with a label is a transition of another system on that label, seen through
`f`, and `f` does not see the others, then a run is a run of the other system on its labels. -/
theorem project {τ δ ω' : Type*} {T' : TransitionSystem τ δ ω'} (f : σ → τ) (label : ε → Option δ)
    (h : T.Run s₀ tr s) (hf : ∀ t ∈ tr, T.Step t → (label t.event = none → f t.dst = f t.src) ∧
      ∀ d, label t.event = some d → ∃ o, T'.Step ⟨f t.src, d, o, f t.dst⟩) :
    ∃ tr', T'.Run (f s₀) tr' (f s) ∧
      tr'.map Transition.event = (tr.map Transition.event).filterMap label := by
  induction h with
  | nil => exact ⟨[], .nil, rfl⟩
  | @snoc tr s e o s' _ hs ih =>
    obtain ⟨hnone, hsome⟩ := hf ⟨s, e, o, s'⟩ (by simp) hs
    obtain ⟨tr', hrun, hevents⟩ := ih fun t ht => hf t (List.mem_append_left _ ht)
    rw [List.map_append, List.filterMap_append, ← hevents]
    cases hlabel : label e with
    | none => exact ⟨tr', by rwa [hnone hlabel], by simp [hlabel]⟩
    | some d =>
      obtain ⟨o', hstep⟩ := hsome d hlabel
      exact ⟨tr' ++ [⟨f s, d, o', f s'⟩], hrun.snoc hstep, by simp [hlabel]⟩

/-- Entries equal exits plus what is inside, where there are several kinds of exits: if every
transition keeps the balance of `inside` with the transitions counted by `enter` and by `leaves`,
so does a run. -/
theorem countP_balance (inside : σ → ℕ) (enter : Transition σ ε ω → Bool)
    (leaves : List (Transition σ ε ω → Bool)) (h : T.Run s₀ tr s)
    (hb : ∀ t ∈ tr, T.Step t →
      inside t.src + (enter t).toNat = (leaves.map fun leave => (leave t).toNat).sum +
        inside t.dst) :
    inside s₀ + tr.countP enter = (leaves.map fun leave => tr.countP leave).sum + inside s := by
  induction h with
  | nil => simp
  | @snoc tr s e o s' _ hs ih =>
    have hlast := hb ⟨s, e, o, s'⟩ (by simp) hs
    have hrest := ih fun t ht => hb t (List.mem_append_left _ ht)
    have hcount (p : Transition σ ε ω → Bool) :
        (tr ++ [Transition.mk s e o s']).countP p = tr.countP p + (p ⟨s, e, o, s'⟩).toNat := by
      rw [List.countP_append, List.countP_singleton]
      cases p ⟨s, e, o, s'⟩ <;> rfl
    dsimp only at hlast
    simp only [hcount, List.sum_map_add]
    omega

/-- If every transition keeps the balance of `inside` with what `enter` and `leave` say of it, so
does a run. -/
theorem sum_balance {M : Type*} [AddCommMonoid M] (inside : σ → M)
    (enter leave : Transition σ ε ω → M) (h : T.Run s₀ tr s)
    (hb : ∀ t ∈ tr, T.Step t → inside t.src + enter t = leave t + inside t.dst) :
    inside s₀ + (tr.map enter).sum = (tr.map leave).sum + inside s := by
  induction h with
  | nil => simp
  | @snoc tr s e o s' _ hs ih =>
    have hlast := hb ⟨s, e, o, s'⟩ (by simp) hs
    have hrest := ih fun t ht => hb t (List.mem_append_left _ ht)
    simp only [List.map_append, List.sum_append, List.map_cons, List.map_nil, List.sum_cons,
      List.sum_nil, add_zero]
    rw [← add_assoc, hrest, add_assoc, hlast, add_assoc]

/-- Values handed out in order: if the level of a state never falls, and a transition hands out only
values from the level before it up to the level after it, then a run hands out increasing values,
all below the level it reaches. -/
theorem issued_pairwise {α : Type*} [Preorder α] (level : σ → α)
    (issue : Transition σ ε ω → Option α) (h : T.Run s₀ tr s)
    (hb : ∀ t ∈ tr, T.Step t → level t.src ≤ level t.dst ∧
      ∀ v ∈ issue t, level t.src ≤ v ∧ v < level t.dst) :
    (tr.filterMap issue).Pairwise (· < ·) ∧ ∀ v ∈ tr.filterMap issue, v < level s := by
  induction h with
  | nil => simp
  | @snoc tr s e o s' _ hs ih =>
    obtain ⟨hmono, hissue⟩ := hb ⟨s, e, o, s'⟩ (by simp) hs
    obtain ⟨hpairwise, hbelow⟩ := ih fun t ht => hb t (List.mem_append_left _ ht)
    have hlast : ∀ v ∈ [Transition.mk s e o s'].filterMap issue, level s ≤ v ∧ v < level s' := by
      intro v hv
      obtain ⟨t, ht, hv⟩ := List.mem_filterMap.mp hv
      obtain rfl := List.mem_singleton.mp ht
      exact hissue v hv
    rw [List.filterMap_append, List.pairwise_append]
    refine ⟨⟨hpairwise, ?_, fun u hu v hv => (hbelow u hu).trans_le (hlast v hv).1⟩, fun v hv => ?_⟩
    · cases hv : issue ⟨s, e, o, s'⟩ <;> simp [hv]
    · rcases List.mem_append.mp hv with hv | hv
      · exact (hbelow v hv).trans_le hmono
      · exact (hlast v hv).2

end Run

/-! ### Total systems -/

/-- The transitions that a total step function takes on a sequence of events. -/
def trace (f : σ → ε → σ × ω) : σ → List ε → List (Transition σ ε ω)
  | _, [] => []
  | s, e :: es => ⟨s, e, (f s e).2, (f s e).1⟩ :: trace f (f s e).1 es

/-- The state that a total step function reaches on a sequence of events. -/
def after (f : σ → ε → σ × ω) (s : σ) (es : List ε) : σ := es.foldl (fun s e => (f s e).1) s

@[simp] theorem map_event_trace (f : σ → ε → σ × ω) (s : σ) (es : List ε) :
    (trace f s es).map Transition.event = es := by
  induction es generalizing s with
  | nil => rfl
  | cons e es ih => rw [trace, List.map_cons, ih]

/-- A total step function takes every sequence of events. -/
theorem run_trace (f : σ → ε → σ × ω) (s : σ) (es : List ε) :
    (ofFun f).Run s (trace f s es) (after f s es) := by
  induction es generalizing s with
  | nil => exact .nil
  | cons e es ih => exact Run.cons (t := ⟨s, e, (f s e).2, (f s e).1⟩) rfl (ih (f s e).1)

/-! ### Systems that may stop -/

/-- The transitions of a step function on a sequence of events, and the state it reaches. -/
def partialTrace (f : σ → ε → Option σ) : σ → List ε → Option (List (Transition σ ε Unit) × σ)
  | s, [] => some ([], s)
  | s, e :: es => (f s e).bind fun s' =>
    (partialTrace f s' es).map fun (tr, last) => (⟨s, e, (), s'⟩ :: tr, last)

theorem run_partialTrace {f : σ → ε → Option σ} {s last : σ} {es : List ε}
    {tr : List (Transition σ ε Unit)} (h : partialTrace f s es = some (tr, last)) :
    (ofPartial f).Run s tr last := by
  induction es generalizing s tr with
  | nil =>
    obtain ⟨rfl, rfl⟩ := Prod.mk.inj (Option.some.inj h)
    exact .nil
  | cons e es ih =>
    obtain ⟨s', hs, h⟩ := Option.bind_eq_some_iff.mp h
    obtain ⟨⟨tr', last'⟩, htr, h⟩ := Option.map_eq_some_iff.mp h
    obtain ⟨rfl, rfl⟩ := Prod.mk.inj h
    exact Run.cons (t := ⟨s, e, (), s'⟩) hs (ih htr)

/-- The events of a run decide where it ends. -/
theorem Run.eq_of_events {f : σ → ε → Option σ} {s₀ s s' : σ} {tr tr' : List (Transition σ ε Unit)}
    (h : (ofPartial f).Run s₀ tr s) (h' : (ofPartial f).Run s₀ tr' s')
    (hevents : tr.map Transition.event = tr'.map Transition.event) : s = s' := by
  induction h generalizing tr' s' with
  | nil =>
    obtain rfl : tr' = [] := List.map_eq_nil_iff.mp hevents.symm
    exact h'.eq_of_nil.symm
  | @snoc tr s e o next _ hs ih =>
    cases h' with
    | nil => simp at hevents
    | @snoc tr' t e' o' next' hinit hs' =>
      rw [List.map_append, List.map_append] at hevents
      obtain ⟨hprev, hlast⟩ := List.append_inj' hevents rfl
      obtain rfl := ih hinit hprev
      obtain rfl : e = e' := List.singleton_inj.mp hlast
      exact Option.some.inj (hs.symm.trans hs')

end TransitionSystem
