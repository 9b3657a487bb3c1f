import StEcu.Foundation.TransitionSystem

/-!
# Components that nothing else interferes with

A view of the state of a system is a component if the system has events of two kinds: those of the
component, whose outputs and effects on the view depend on the view and on the label of the event
only, and all others, which leave the view alone. What a component answers is then a function of its
own events: two runs with the same events of the component, each interleaved with whatever else,
give the same answers and end with the same view.

## Main definitions

* `Component`: the conditions on single steps.
* `Component.outputs`: the outputs of the events of a component in a run.

## Main results

* `Component.noninterference`.
-/

open TransitionSystem

variable {σ ε ω τ δ : Type*}

/-- A view is a component of a total step function on the states of an invariant: an event without
a label leaves the view alone, and what an event with a label does to the view, and its output,
depend on the view and the label only. -/
structure Component (f : σ → ε → σ × ω) (I : σ → Prop) (view : σ → τ) (label : ε → Option δ) :
    Prop where
  keeps : ∀ s e, I s → I (f s e).1
  leaves : ∀ s e, I s → label e = none → view (f s e).1 = view s
  follows : ∀ s s' e e' d, I s → I s' → label e = some d → label e' = some d → view s = view s' →
    (f s e).2 = (f s' e').2 ∧ view (f s e).1 = view (f s' e').1

namespace Component

/-- The outputs of the events with a label. -/
def outputs (label : ε → Option δ) (tr : List (Transition σ ε ω)) : List ω :=
  tr.filterMap fun t => (label t.event).map fun _ => t.output

variable {f : σ → ε → σ × ω} {I : σ → Prop} {view : σ → τ} {label : ε → Option δ}

theorem outputs_trace_of_none {s : σ} {e : ε} (h : label e = none) (es : List ε) :
    outputs label (trace f s (e :: es)) = outputs label (trace f (f s e).1 es) :=
  List.filterMap_cons_none (by rw [h]; rfl)

theorem outputs_trace_of_some {s : σ} {e : ε} {d : δ} (h : label e = some d) (es : List ε) :
    outputs label (trace f s (e :: es)) = (f s e).2 :: outputs label (trace f (f s e).1 es) :=
  List.filterMap_cons_some (by rw [h]; rfl)

/-- **Nothing else interferes with a component.** -/
theorem noninterference (h : Component f I view label) {s s' : σ} (hs : I s) (hs' : I s')
    (hview : view s = view s') {es es' : List ε} (hes : es.filterMap label = es'.filterMap label) :
    outputs label (trace f s es) = outputs label (trace f s' es') ∧
      view (after f s es) = view (after f s' es') := by
  induction es generalizing s s' es' with
  | nil =>
    induction es' generalizing s' with
    | nil => exact ⟨rfl, hview⟩
    | cons e' es' ih =>
      cases hlabel : label e' with
      | some d => simp [List.filterMap_cons_some hlabel] at hes
      | none =>
        rw [List.filterMap_cons_none hlabel] at hes
        rw [outputs_trace_of_none hlabel]
        exact ih (h.keeps s' e' hs') (hview.trans (h.leaves s' e' hs' hlabel).symm) hes
  | cons e es ih =>
    cases hlabel : label e with
    | none =>
      rw [List.filterMap_cons_none hlabel] at hes
      rw [outputs_trace_of_none hlabel]
      exact ih (h.keeps s e hs) hs' ((h.leaves s e hs hlabel).trans hview) hes
    | some d =>
      -- the events of the other run up to the one that matches
      induction es' generalizing s' with
      | nil => simp [List.filterMap_cons_some hlabel] at hes
      | cons e' es' ih' =>
        cases hlabel' : label e' with
        | none =>
          rw [List.filterMap_cons_none hlabel'] at hes
          rw [outputs_trace_of_none (s := s') hlabel']
          exact ih' (h.keeps s' e' hs') (hview.trans (h.leaves s' e' hs' hlabel').symm) hes
        | some d' =>
          rw [List.filterMap_cons_some hlabel, List.filterMap_cons_some hlabel'] at hes
          obtain ⟨rfl, hrest⟩ := List.cons_eq_cons.mp hes
          obtain ⟨houtput, hnext⟩ := h.follows s s' e e' d hs hs' hlabel hlabel' hview
          obtain ⟨houtputs, hend⟩ := ih (h.keeps s e hs) (h.keeps s' e' hs') hnext hrest
          rw [outputs_trace_of_some hlabel, outputs_trace_of_some hlabel', houtputs]
          exact ⟨congrArg (· :: _) houtput, hend⟩

end Component
