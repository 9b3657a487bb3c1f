import Mathlib.Data.List.Chain
import Mathlib.Order.Basic
import Mathlib.Tactic.Ring

/-!
# Polled countdown timers

A countdown timer that moves only when it is polled: a poll takes off the whole units since the poll
before, and what is left of a unit is forgotten. Such a timer stands still under polls less than a
unit apart.

## Main definitions

* `wholeUnits`: the whole units between successive readings, added up.
* `PolledTimer`, `PolledTimer.poll`, `PolledTimer.polls`.

## Main results

* `PolledTimer.polls_eq_none_iff`: when a timer runs out.
* `wholeUnits_eq_zero`: readings between which no whole unit passes.
-/

variable {unit last : ℕ} {readings : List ℕ}

/-- The whole units between successive readings, added up. -/
def wholeUnits (unit : ℕ) : ℕ → List ℕ → ℕ
  | _, [] => 0
  | last, now :: readings => (now - last) / unit + wholeUnits unit now readings

/-- Readings less than a unit apart have no whole unit between them. -/
theorem wholeUnits_eq_zero (h : (last :: readings).IsChain fun before now => now - before < unit) :
    wholeUnits unit last readings = 0 := by
  induction readings generalizing last with
  | nil => rfl
  | cons now readings ih =>
    obtain ⟨hlt, hrest⟩ := List.isChain_cons_cons.mp h
    rw [wholeUnits, Nat.div_eq_of_lt hlt, ih hrest]

/-- A timer with the reading of its last poll and the units it still has to run. -/
structure PolledTimer where
  last : ℕ
  remaining : ℕ
  deriving DecidableEq, Repr

namespace PolledTimer

/-- A poll at a reading; a timer that has run out is gone. -/
def poll (unit : ℕ) (timer : PolledTimer) (now : ℕ) : Option PolledTimer :=
  if timer.remaining ≤ (now - timer.last) / unit then none
  else some ⟨now, timer.remaining - (now - timer.last) / unit⟩

/-- Polls at successive readings. -/
def polls (unit : ℕ) : PolledTimer → List ℕ → Option PolledTimer
  | timer, [] => some timer
  | timer, now :: readings => (timer.poll unit now).bind fun timer => timer.polls unit readings

theorem polls_append (timer : PolledTimer) (readings' : List ℕ) :
    timer.polls unit (readings ++ readings') =
      (timer.polls unit readings).bind fun timer => timer.polls unit readings' := by
  induction readings generalizing timer with
  | nil => rfl
  | cons now readings ih =>
    rw [List.cons_append, polls, polls, Option.bind_assoc]
    congr 1
    funext timer
    exact ih timer

theorem polls_concat (timer : PolledTimer) (now : ℕ) :
    timer.polls unit (readings ++ [now]) =
      (timer.polls unit readings).bind fun timer => timer.poll unit now := by
  rw [polls_append]
  congr 1
  funext timer
  rw [polls]
  cases timer.poll unit now <;> rfl

/-- **When a timer runs out**: once the whole units between its polls add up to what it had to
run. -/
theorem polls_eq_none_iff {timer : PolledTimer} (hpos : 0 < timer.remaining) :
    timer.polls unit readings = none ↔
      timer.remaining ≤ wholeUnits unit timer.last readings := by
  induction readings generalizing timer with
  | nil => simpa [polls, wholeUnits] using Nat.ne_of_gt hpos
  | cons now readings ih =>
    rw [polls, poll, wholeUnits]
    split
    next hout => exact iff_of_true rfl (by omega)
    next hleft =>
      rw [Option.bind_some, ih (by dsimp only; omega)]
      dsimp only
      omega

end PolledTimer
