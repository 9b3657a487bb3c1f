import StEcu.Foundation.TransitionSystem
import StEcu.Fuel.WallWetting

/-!
# The balance of the film on the walls

What a call of the wall wetting injects reaches the cylinder or stays on the walls. The film is kept
from falling below zero, but what evaporates from it is not kept to what there is: a call that
covers more time than the film lasts for sends more to the cylinder than the walls held.

## Main definitions

* `WallCall`, `wallWetting`: the calls of the wall wetting, one after the other.
* `WallWettingState.cylinderFuel`: the fuel that reaches the cylinder in a call.
* `WallBounded`, `WallBalanced`: the bounds of what a call leaves behind, and its balance.
* `WallWettingState.Lasts`: the film lasts for a call.

## Main results

* `wall_step`: a call keeps the balance if and only if the film lasts.
* `wall_balance_iff`: over a run, no more reaches the cylinder than was injected and on the walls.
-/

namespace StEcu

/-- A call of the wall wetting. -/
structure WallCall where
  basePwMs : ℚ
  tauMs : ℚ
  x : ℚ
  dtMs : ℚ
  deriving DecidableEq, Repr

namespace WallWettingState

/-- The fuel that reaches the cylinder: what does not adhere, and what evaporates. -/
def cylinderFuel (state : WallWettingState) (call : WallCall) : ℚ :=
  clampRat call.x 0 1 * call.basePwMs + state.filmMassMg / max call.tauMs (1 / 4) * call.dtMs

/-- The film lasts for a call: at its rate, what evaporates in the time beyond the time constant is
made up for by the deposit. -/
def Lasts (state : WallWettingState) (call : WallCall) : Prop :=
  state.filmMassMg * (call.dtMs - max call.tauMs (1 / 4)) ≤
    max call.tauMs (1 / 4) * ((1 - clampRat call.x 0 1) * call.basePwMs)

instance (state : WallWettingState) (call : WallCall) : Decidable (state.Lasts call) :=
  inferInstanceAs (Decidable (_ ≤ _))

/-- A call in terms of the fuel that reaches the cylinder. -/
theorem update_eq (state : WallWettingState) (call : WallCall) :
    state.update call.basePwMs call.tauMs call.x call.dtMs =
      some (⟨max (state.filmMassMg + call.basePwMs - state.cylinderFuel call) 0⟩,
        if 1 / 1000 < call.basePwMs then
          clampRat (call.basePwMs * call.basePwMs /
              max (max (state.cylinderFuel call) (call.basePwMs * (1 / 100))) (1 / 1000))
            (call.basePwMs * (1 / 2)) (call.basePwMs * 3)
        else call.basePwMs) := by
  have htau : max call.tauMs (1 / 4) ≠ 0 := (lt_max_of_lt_right (by norm_num)).ne'
  have hdenom (y : ℚ) : max y (1 / 1000) ≠ 0 := (lt_max_of_lt_right (by norm_num)).ne'
  have hfilm : state.filmMassMg - state.filmMassMg / max call.tauMs (1 / 4) * call.dtMs +
      (1 - clampRat call.x 0 1) * call.basePwMs =
        state.filmMassMg + call.basePwMs - state.cylinderFuel call := by
    rw [cylinderFuel]
    ring
  rw [update]
  simp only [checkedDiv_eq htau, Option.bind_eq_bind, Option.bind_some, hfilm]
  rw [← cylinderFuel]
  split
  · next hbase =>
    rw [checkedDiv_eq (hdenom _), Option.bind_some, checkedClamp_eq (by linarith), Option.bind_some]
    rfl
  · rfl

/-- The film lasts for a call if no more reaches the cylinder than it and the walls hold. -/
theorem lasts_iff {state : WallWettingState} {call : WallCall} :
    state.Lasts call ↔ state.cylinderFuel call ≤ state.filmMassMg + call.basePwMs := by
  have htau : 0 < max call.tauMs (1 / 4) := lt_max_of_lt_right (by norm_num)
  rw [Lasts, cylinderFuel]
  generalize max call.tauMs (1 / 4) = tau at htau ⊢
  generalize clampRat call.x 0 1 = x
  have hevap : state.filmMassMg / tau * call.dtMs = state.filmMassMg * call.dtMs / tau := by ring
  rw [hevap, ← le_sub_iff_add_le', div_le_iff₀ htau]
  constructor <;> intro h <;> linarith

end WallWettingState

/-- The calls of the wall wetting, each with its output. -/
def wallWetting : TransitionSystem WallWettingState WallCall ℚ where
  Step t := t.src.update t.event.basePwMs t.event.tauMs t.event.x t.event.dtMs =
    some (t.dst, t.output)

instance : DecidablePred wallWetting.Step := fun _ => inferInstanceAs (Decidable (_ = _))

/-- The step of a call. -/
abbrev WallStep := Transition WallWettingState WallCall ℚ

/-- The bounds of what a call leaves behind. -/
structure WallBounded (t : WallStep) : Prop where
  film : 0 ≤ t.dst.filmMassMg
  pulse : 1 / 1000 < t.event.basePwMs →
    t.event.basePwMs * (1 / 2) ≤ t.output ∧ t.output ≤ t.event.basePwMs * 3

/-- The film after a call and the fuel that reached the cylinder are the film before it and the fuel
that was injected. -/
def WallBalanced (t : WallStep) : Prop :=
  t.src.cylinderFuel t.event + t.dst.filmMassMg = t.src.filmMassMg + t.event.basePwMs

section Runs

variable {start state : WallWettingState} {t : WallStep} {tr : List WallStep}

/-- **What one call does**: it stays within its bounds, and it keeps the balance if and only if the
film lasts. -/
theorem wall_step (ht : wallWetting.Step t) :
    WallBounded t ∧ (WallBalanced t ↔ t.src.Lasts t.event) := by
  have heq : some _ = some (t.dst, t.output) :=
    (WallWettingState.update_eq t.src t.event).symm.trans ht
  obtain ⟨hdst, houtput⟩ := Prod.mk.inj (Option.some.inj heq)
  have hfilm := (congrArg WallWettingState.filmMassMg hdst).symm
  constructor
  · refine ⟨hfilm ▸ le_max_right _ _, fun hbase => ?_⟩
    rw [← houtput, if_pos hbase]
    exact clampRat_mem (by linarith)
  · rw [WallBalanced, hfilm, WallWettingState.lasts_iff]
    generalize t.src.cylinderFuel t.event = fuel
    constructor
    · intro h
      have hle := le_max_right (t.src.filmMassMg + t.event.basePwMs - fuel) 0
      linarith
    · intro h
      rw [max_eq_left (by linarith)]
      ring

/-- **The balance over a run.** Every call keeps the balance, and no more reaches the cylinder than
was injected and on the walls at the start, if and only if the film lasts for every call. What a
call leaves behind is always within its bounds. -/
theorem wall_balance_iff (h : wallWetting.Run start tr state) (hstart : 0 ≤ start.filmMassMg) :
    ((∀ t ∈ tr, WallBalanced t ∧ WallBounded t) ∧
        (tr.map fun t => t.src.cylinderFuel t.event).sum ≤
          start.filmMassMg + (tr.map fun t => t.event.basePwMs).sum ↔
      ∀ t ∈ tr, t.src.Lasts t.event) ∧ ∀ t ∈ tr, WallBounded t := by
  have hstep (t) (ht : t ∈ tr) := wall_step (h.step_of_mem ht)
  refine ⟨⟨fun hsound t ht => (hstep t ht).2.mp (hsound.1 t ht).1, fun hlasts => ?_⟩,
    fun t ht => (hstep t ht).1⟩
  have hbalanced (t) (ht : t ∈ tr) : WallBalanced t := (hstep t ht).2.mpr (hlasts t ht)
  refine ⟨fun t ht => ⟨hbalanced t ht, (hstep t ht).1⟩, ?_⟩
  have hfilm : 0 ≤ state.filmMassMg :=
    h.invariant_of_mem (I := fun s => 0 ≤ s.filmMassMg) hstart fun t ht _ _ => (hstep t ht).1.film
  have hsum := h.sum_balance WallWettingState.filmMassMg (fun t => t.event.basePwMs)
    (fun t => t.src.cylinderFuel t.event) fun t ht _ => (hbalanced t ht).symm
  linarith

end Runs

/-- A call that covers `dtMs`, of an engine whose time constant is 40 ms. -/
def warmCall (dtMs : ℚ) : WallCall := ⟨10, 40, 3 / 10, dtMs⟩

/-- A call of 100 ms takes more from the film than there is: more reaches the cylinder than was ever
injected. -/
theorem film_overdrawn : ∃ tr state, wallWetting.Run {} tr state ∧
    tr.map Transition.event = [warmCall 10, warmCall 100] ∧
    (tr.map fun t => t.event.basePwMs).sum = 20 ∧
    (tr.map fun t => t.src.cylinderFuel t.event).sum = 47 / 2 ∧ ¬ ∀ t ∈ tr, WallBalanced t := by
  have h₁ : wallWetting.Step ⟨{}, warmCall 10, 30, ⟨7⟩⟩ := by decide +kernel
  have h₂ : wallWetting.Step ⟨⟨7⟩, warmCall 100, 5, ⟨0⟩⟩ := by decide +kernel
  refine ⟨_, _, .cons h₁ (.single h₂), rfl, by decide +kernel, by decide +kernel, fun h => ?_⟩
  have hlasts := (wall_step h₂).2.mp (h _ (.tail _ (.head _)))
  exact absurd hlasts (by decide +kernel)

/-- Two calls of 10 ms. -/
theorem wall_balance_warm : ∃ tr state, wallWetting.Run {} tr state ∧
    tr.map Transition.event = [warmCall 10, warmCall 10] ∧
    (∀ t ∈ tr, WallBalanced t ∧ WallBounded t) ∧
    (tr.map fun t => t.src.cylinderFuel t.event).sum ≤ 0 + 20 := by
  have h₁ : wallWetting.Step ⟨{}, warmCall 10, 30, ⟨7⟩⟩ := by decide +kernel
  have h₂ : wallWetting.Step ⟨⟨7⟩, warmCall 10, 400 / 19, ⟨49 / 4⟩⟩ := by decide +kernel
  have hrun : wallWetting.Run {} [_, _] ⟨49 / 4⟩ := .cons h₁ (.single h₂)
  have hlasts₁ : WallWettingState.Lasts {} (warmCall 10) := by decide +kernel
  have hlasts₂ : WallWettingState.Lasts ⟨7⟩ (warmCall 10) := by decide +kernel
  obtain ⟨hbalanced, hsum⟩ := (wall_balance_iff hrun le_rfl).1.mpr
    (by simp only [List.forall_mem_cons, hlasts₁, hlasts₂, List.not_mem_nil, false_imp_iff,
      implies_true, and_self])
  refine ⟨_, _, hrun, rfl, hbalanced, hsum.trans_eq ?_⟩
  decide +kernel

end StEcu
